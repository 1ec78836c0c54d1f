import StatusLookup.Proofs.Key.Route

/-!
# Clean keys

Cleaning resolves a key on one stack of leftover double dots and names. The stack is a route
written down, with the names above the double dots, so every step of the loop composes the route so
far with the route of one segment. Of a rooted key the loop keeps no double dot, and its stack is
where the route leads from the root.

From this come the clean forms: a rooted key is cleaned to the names of its route, and a relative
key to all that is left of its route, with a single dot for nothing.
-/

namespace StatusLookup.Key

/-- A key is rooted when it is another key after a slash. -/
theorem isRooted_eq_true_iff {key : String} : isRooted key = true ↔ ∃ back, key = "/" ++ back := by
  have slash : "/".toList = ['/'] := rfl
  rw [isRooted, beq_iff_eq]
  constructor
  · intro head
    refine ⟨String.ofList key.toList.tail, String.toList_inj.mp ?_⟩
    obtain ⟨rest, split⟩ := List.head?_eq_some_iff.mp head
    simp [split, slash]
  · rintro ⟨back, rfl⟩
    simp [slash]

/-- A key that starts with a segment of some text is relative. -/
theorem isRooted_eq_false {key first : String} {rest : List String}
    (split : segments key = first :: rest) (filled : first ≠ "") : isRooted key = false := by
  cases rooted : isRooted key with
  | false => rfl
  | true =>
      obtain ⟨back, rfl⟩ := isRooted_eq_true_iff.mp rooted
      have outer : segments ("/" ++ back) = "" :: segments back := segments_append_slash "" back
      exact absurd (List.cons.inj (split.symm.trans outer)).1 filled

/-- What comes first in a text says whether it is rooted. -/
theorem isRooted_append {front : String} (filled : front ≠ "") (back : String) :
    isRooted (front ++ back) = isRooted front := by
  obtain ⟨first, rest, spelled⟩ :=
    List.exists_cons_of_ne_nil (mt String.toList_eq_nil_iff.mp filled)
  rw [isRooted, isRooted, String.toList_append, spelled, List.cons_append, List.head?_cons,
    List.head?_cons]

theorem isRooted_append_slash {front : String} (filled : front ≠ "") (back : String) :
    isRooted (front ++ "/" ++ back) = isRooted front := by
  rw [String.append_assoc, isRooted_append filled]

namespace Route

/-- The route of a key, read as a relative one. -/
def ofKey (key : String) : Route := ofList (Key.segments key)

/-- A slash between two keys puts one route after the other. -/
theorem ofKey_append_slash (front back : String) :
    ofKey (front ++ "/" ++ back) = (ofKey front).comp (ofKey back) := by
  rw [ofKey, segments_append_slash, ofList_append, ofKey, ofKey]

/-- A route written on a stack: the names entered, above the double dots. -/
def stack (route : Route) : List String :=
  route.names ++ List.replicate route.climbs ".."

theorem stack_reverse (route : Route) : route.stack.reverse = route.segments := by
  simp [stack, segments]

/-- One step of cleaning a relative key composes the route so far with one segment. -/
theorem resolveStep_stack (route : Route) {segment : String} (clear : '/' ∉ segment.toList) :
    resolveStep false route.stack segment = (route.comp (ofSegment segment)).stack := by
  rcases segment_cases clear with (rfl | rfl) | rfl | isName
  · simp [resolveStep]
  · simp [resolveStep]
  · obtain ⟨climbs, names, named⟩ := route
    cases names with
    | nil =>
        cases climbs with
        | zero => simp [resolveStep, stack]
        | succ climbs => simp [resolveStep, stack, List.replicate_succ]
    | cons name names =>
        have top : name ≠ ".." := (named name List.mem_cons_self).2.2.1
        simp [resolveStep, stack, top]
  · have entered := ofSegment_of_isName isName
    simp [resolveStep, stack, entered, isName.1, isName.2.1, isName.2.2.1]

theorem foldl_resolveStep_stack {segments : List String}
    (clear : ∀ segment ∈ segments, '/' ∉ segment.toList) (route : Route) :
    segments.foldl (resolveStep false) route.stack = (route.comp (ofList segments)).stack := by
  induction segments generalizing route with
  | nil => simp
  | cons segment segments ih =>
      rw [List.foldl_cons, resolveStep_stack route (clear segment List.mem_cons_self),
        ih (fun other member => clear other (List.mem_cons_of_mem _ member)), comp_assoc,
        ofList_cons]

/-- Resolving a relative key leaves the segments of its route. -/
theorem resolve_false (key : String) : resolve false (Key.segments key) = (ofKey key).segments := by
  have start : ([] : List String) = still.stack := rfl
  rw [resolve, start, foldl_resolveStep_stack fun _ => slash_notMem_of_mem_segments, still_comp,
    stack_reverse, ofKey]

/-- One step of cleaning a rooted key follows the route of one segment. -/
theorem resolveStep_rooted {stack : List String} (named : ∀ name ∈ stack, IsName name)
    {segment : String} (clear : '/' ∉ segment.toList) :
    resolveStep true stack segment = (ofSegment segment).apply stack := by
  rcases segment_cases clear with (rfl | rfl) | rfl | isName
  · simp [resolveStep]
  · simp [resolveStep]
  · cases stack with
    | nil => simp [resolveStep]
    | cons name stack =>
        have top : name ≠ ".." := (named name List.mem_cons_self).2.2.1
        simp [resolveStep, apply, top]
  · have entered := ofSegment_of_isName isName
    simp [resolveStep, apply, entered, isName.1, isName.2.1, isName.2.2.1]

/-- A route leads from a stack of names to a stack of names. -/
theorem isName_of_mem_apply {route : Route} {stack : List String}
    (named : ∀ name ∈ stack, IsName name) : ∀ name ∈ route.apply stack, IsName name := by
  intro name member
  rcases List.mem_append.mp member with entered | kept
  · exact route.isName name entered
  · exact named name (List.mem_of_mem_drop kept)

theorem foldl_resolveStep_rooted {segments : List String}
    (clear : ∀ segment ∈ segments, '/' ∉ segment.toList) {stack : List String}
    (named : ∀ name ∈ stack, IsName name) :
    segments.foldl (resolveStep true) stack = (ofList segments).apply stack := by
  induction segments generalizing stack with
  | nil => rfl
  | cons segment segments ih =>
      rw [List.foldl_cons, resolveStep_rooted named (clear segment List.mem_cons_self),
        ih (fun other member => clear other (List.mem_cons_of_mem _ member))
          (isName_of_mem_apply named), ofList_cons, comp_apply]

/-- Resolving a rooted key leaves the names of its route. -/
theorem resolve_true (key : String) :
    resolve true (Key.segments key) = (ofKey key).names.reverse := by
  have start : ∀ name ∈ ([] : List String), IsName name := by simp
  rw [resolve, foldl_resolveStep_rooted (fun _ => slash_notMem_of_mem_segments) start, ofKey,
    apply_nil]

theorem dot_notMem_segments {route : Route} : "." ∉ route.segments := by
  intro member
  rcases segment_of_mem_segments member with dots | isName
  · exact absurd dots (by decide)
  · exact absurd isName (by decide)

theorem filled_of_mem_segments {route : Route} {segment : String}
    (member : segment ∈ route.segments) : segment ≠ "" ∧ '/' ∉ segment.toList := by
  rcases segment_of_mem_segments member with rfl | isName
  · decide
  · exact ⟨isName.1, isName.2.2.2⟩

theorem filled_of_mem_names_reverse {route : Route} {name : String}
    (member : name ∈ route.names.reverse) : name ≠ "" ∧ '/' ∉ name.toList := by
  have isName := route.isName name (List.mem_reverse.mp member)
  exact ⟨isName.1, isName.2.2.2⟩

end Route

/-- The clean form of a rooted key holds the names of its route. -/
theorem clean_of_rooted {key : String} (rooted : isRooted key = true) :
    clean key = "/" ++ ofSegments (Route.ofKey key).names.reverse := by
  simp only [clean, rooted, if_true, Route.resolve_true]

/-- The clean form of a relative key holds all that is left of its route. -/
theorem clean_of_relative {key : String} (relative : isRooted key = false) :
    clean key = if (Route.ofKey key).segments = [] then "."
      else ofSegments (Route.ofKey key).segments := by
  have filled : ∀ segment ∈ (Route.ofKey key).segments, segment ≠ "" :=
    fun segment member => (Route.filled_of_mem_segments member).1
  have empty := ofSegments_eq_empty_iff filled
  simp only [clean, relative, Bool.false_eq_true, if_false, Route.resolve_false, empty]

theorem segments_clean_of_relative {key : String} (relative : isRooted key = false) :
    segments (clean key) = if (Route.ofKey key).segments = [] then ["."]
      else (Route.ofKey key).segments := by
  rw [clean_of_relative relative]
  split
  · rfl
  · rename_i left
    exact segments_ofSegments left fun segment member => (Route.filled_of_mem_segments member).2

/-- A relative key of which nothing is left is cleaned to a single dot, and no other is. -/
theorem clean_eq_dot_iff {key : String} (relative : isRooted key = false) :
    clean key = "." ↔ (Route.ofKey key).segments = [] := by
  constructor
  · intro dot
    by_contra left
    have split := segments_clean_of_relative relative
    rw [if_neg left, dot] at split
    have member : "." ∈ (Route.ofKey key).segments := split ▸ List.mem_singleton_self "."
    exact Route.dot_notMem_segments member
  · intro none
    rw [clean_of_relative relative, if_pos none]

@[simp] theorem isRooted_clean (key : String) : isRooted (clean key) = isRooted key := by
  cases rooted : isRooted key with
  | true =>
      rw [clean_of_rooted rooted]
      exact isRooted_eq_true_iff.mpr ⟨_, rfl⟩
  | false =>
      have split := segments_clean_of_relative rooted
      cases left : (Route.ofKey key).segments with
      | nil =>
          rw [if_pos left] at split
          exact isRooted_eq_false split (by decide)
      | cons first rest =>
          rw [if_neg (left ▸ List.cons_ne_nil first rest), left] at split
          have member : first ∈ (Route.ofKey key).segments := left ▸ List.mem_cons_self
          exact isRooted_eq_false split (Route.filled_of_mem_segments member).1

/-- Rooted keys have the same clean form when their routes enter the same names. -/
theorem clean_eq_clean_iff_of_rooted {a b : String} (rooted : isRooted a = true)
    (rooted' : isRooted b = true) :
    clean a = clean b ↔ (Route.ofKey a).names = (Route.ofKey b).names := by
  rw [clean_of_rooted rooted, clean_of_rooted rooted']
  constructor
  · intro same
    have bodies := String.toList_inj.mpr same
    rw [String.toList_append, String.toList_append, List.append_cancel_left_eq,
      String.toList_inj] at bodies
    exact List.reverse_inj.mp (ofSegments_injective
      (fun _ => Route.filled_of_mem_names_reverse) (fun _ => Route.filled_of_mem_names_reverse)
      bodies)
  · intro same
    rw [same]

/-- Relative keys have the same clean form when they have the same route. -/
theorem clean_eq_clean_iff_of_relative {a b : String} (relative : isRooted a = false)
    (relative' : isRooted b = false) : clean a = clean b ↔ Route.ofKey a = Route.ofKey b := by
  constructor
  · intro same
    apply Route.segments_injective
    by_cases none : (Route.ofKey a).segments = []
    · have dot := (clean_eq_dot_iff relative).mpr none
      rw [none, (clean_eq_dot_iff relative').mp (same ▸ dot)]
    · have some : (Route.ofKey b).segments ≠ [] := fun none' =>
        none ((clean_eq_dot_iff relative).mp (same.trans ((clean_eq_dot_iff relative').mpr none')))
      have split := segments_clean_of_relative relative
      rw [same, segments_clean_of_relative relative', if_neg some, if_neg none] at split
      exact split.symm
  · intro same
    rw [clean_of_relative relative, clean_of_relative relative', same]

end StatusLookup.Key
