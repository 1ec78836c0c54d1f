import StatusLookup.Proofs.Key.Clean

/-!
# The clean forms

A clean key is a single dot, or a slash and names, or double dots and names. Cleaning ends in one of
these forms and leaves them as they are, so they are exactly the keys that cleaning does not change.

That a form is left alone is read off its route: cutting the written form gives back the segments of
a route, and a route is the route of its segments.
-/

namespace StatusLookup.Key

/-- The keys that stand for themselves. A relative key has all its double dots in front, and a
rooted key has none. -/
inductive IsClean : String → Prop
  | dot : IsClean "."
  | rooted {names : List String} (isName : ∀ name ∈ names, IsName name) :
      IsClean ("/" ++ ofSegments names)
  | relative {climbs : Nat} {names : List String} (isName : ∀ name ∈ names, IsName name)
      (ne_nil : List.replicate climbs ".." ++ names ≠ []) :
      IsClean (ofSegments (List.replicate climbs ".." ++ names))

namespace Route

/-- Spelling segments and cutting them again keeps their route. -/
theorem ofKey_ofSegments {parts : List String} (clear : ∀ part ∈ parts, '/' ∉ part.toList) :
    ofKey (ofSegments parts) = ofList parts := by
  by_cases none : parts = []
  · subst none
    rfl
  · rw [ofKey, segments_ofSegments none clear]

/-- The key that a route spells leads that route. -/
theorem ofKey_ofSegments_segments (route : Route) : ofKey (ofSegments route.segments) = route := by
  rw [ofKey_ofSegments fun _ member => (filled_of_mem_segments member).2, ofList_segments]

/-- Double dots and names are the segments of a route. -/
theorem exists_segments_eq (climbs : Nat) {names : List String}
    (isName : ∀ name ∈ names, IsName name) :
    ∃ route : Route, route.segments = List.replicate climbs ".." ++ names := by
  refine ⟨⟨climbs, names.reverse, fun name member => isName name (List.mem_reverse.mp member)⟩, ?_⟩
  rw [Route.segments, List.reverse_reverse]

theorem isClean_ofSegments (route : Route) (some : route.segments ≠ []) :
    IsClean (ofSegments route.segments) :=
  .relative (fun name member => route.isName name (List.mem_reverse.mp member)) some

/-- The key that a route spells is left as it is. -/
theorem clean_ofSegments (route : Route) (some : route.segments ≠ []) :
    clean (ofSegments route.segments) = ofSegments route.segments := by
  have split : Key.segments (ofSegments route.segments) = route.segments :=
    segments_ofSegments some fun _ member => (filled_of_mem_segments member).2
  obtain ⟨first, rest, cut⟩ := List.exists_cons_of_ne_nil some
  have filled : first ≠ "" := (filled_of_mem_segments (cut ▸ List.mem_cons_self)).1
  rw [clean_of_relative (isRooted_eq_false (split.trans cut) filled), ofKey_ofSegments_segments,
    if_neg some]

end Route

theorem isClean_clean (key : String) : IsClean (clean key) := by
  cases rooted : isRooted key with
  | true =>
      rw [clean_of_rooted rooted]
      exact .rooted fun name member =>
        (Route.ofKey key).isName name (List.mem_reverse.mp member)
  | false =>
      rw [clean_of_relative rooted]
      split
      · exact .dot
      · rename_i some
        exact (Route.ofKey key).isClean_ofSegments some

theorem clean_rooted {names : List String} (isName : ∀ name ∈ names, IsName name) :
    clean ("/" ++ ofSegments names) = "/" ++ ofSegments names := by
  have outer : Route.ofKey ("/" ++ ofSegments names) = Route.ofList names := by
    have start : Route.ofKey "" = Route.still := rfl
    have split := Route.ofKey_append_slash "" (ofSegments names)
    rwa [start, Route.still_comp, String.empty_append,
      Route.ofKey_ofSegments fun name member => (isName name member).2.2.2] at split
  rw [clean_of_rooted (isRooted_eq_true_iff.mpr ⟨_, rfl⟩), outer,
    (Route.ofList_of_isName isName).2, List.reverse_reverse]

theorem IsClean.clean_eq {key : String} (isClean : IsClean key) : clean key = key := by
  cases isClean with
  | dot => rfl
  | rooted isName => exact clean_rooted isName
  | @relative climbs names isName ne_nil =>
      obtain ⟨route, spelled⟩ := Route.exists_segments_eq climbs isName
      rw [← spelled] at ne_nil ⊢
      exact route.clean_ofSegments ne_nil

/-- The clean forms are the image of cleaning: every key is cleaned to one of them, rooted if the
key is, and the keys that cleaning leaves as they are have these forms and no other. So a key is
clean once it has been cleaned. -/
theorem isClean_clean_and_eq_self_iff (key : String) :
    IsClean (clean key) ∧ isRooted (clean key) = isRooted key ∧
      (clean key = key ↔ IsClean key) ∧ clean (clean key) = clean key := by
  refine ⟨isClean_clean key, isRooted_clean key, ⟨?_, IsClean.clean_eq⟩, ?_⟩
  · intro same
    exact same ▸ isClean_clean key
  · exact (isClean_clean key).clean_eq

end StatusLookup.Key
