import StatusLookup.Proofs.Key.Clean

/-!
# Walking a key

A walk reads a key as what it asks for: from a stack of names, a double dot goes back and a name
goes on. The clean form of a key decides where its walks end, and is decided by it. For the second
half two bases are enough, each of one name repeated, since the end of a walk shows how much of its
base is left.

Bases that are too shallow are left out: at an empty stack a double dot has nothing to take away,
and keys that climb differently would walk alike.
-/

namespace StatusLookup.Key

/-- One segment of a walk over a stack of names, the last name first. -/
def walkStep (stack : List String) (segment : String) : List String :=
  if segment = "" ∨ segment = "." then stack
  else if segment = ".." then stack.tail
  else segment :: stack

/-- Where a key leads from a stack of names. A rooted key starts over. -/
def walk (stack : List String) (key : String) : List String :=
  (segments key).foldl walkStep (if isRooted key then [] else stack)

theorem walkStep_of_isName (stack : List String) {name : String} (isName : IsName name) :
    walkStep stack name = name :: stack := by
  simp [walkStep, isName.1, isName.2.1, isName.2.2.1]

theorem walkStep_eq_apply (stack : List String) {segment : String}
    (clear : '/' ∉ segment.toList) :
    walkStep stack segment = (Route.ofSegment segment).apply stack := by
  rcases segment_cases clear with (rfl | rfl) | rfl | isName
  · simp [walkStep]
  · simp [walkStep]
  · simp [walkStep, Route.apply]
  · have entered := Route.ofSegment_of_isName isName
    simp [walkStep, Route.apply, entered, isName.1, isName.2.1, isName.2.2.1]

theorem foldl_walkStep {segments : List String}
    (clear : ∀ segment ∈ segments, '/' ∉ segment.toList) (stack : List String) :
    segments.foldl walkStep stack = (Route.ofList segments).apply stack := by
  induction segments generalizing stack with
  | nil => rfl
  | cons segment segments ih =>
      rw [List.foldl_cons, walkStep_eq_apply stack (clear segment List.mem_cons_self),
        ih (fun other member => clear other (List.mem_cons_of_mem _ member)), Route.ofList_cons,
        Route.comp_apply]

/-- The walk of a relative key follows its route. -/
theorem walk_of_relative {key : String} (relative : isRooted key = false) (stack : List String) :
    walk stack key = (Route.ofKey key).apply stack := by
  rw [walk, relative, foldl_walkStep fun _ => slash_notMem_of_mem_segments]
  rfl

/-- The walk of a rooted key ends at the names of its route. -/
theorem walk_of_rooted {key : String} (rooted : isRooted key = true) (stack : List String) :
    walk stack key = (Route.ofKey key).names := by
  rw [walk, rooted, foldl_walkStep fun _ => slash_notMem_of_mem_segments]
  exact Route.apply_nil _

theorem climbs_ofList_le_count (segments : List String) :
    (Route.ofList segments).climbs ≤ segments.count ".." := by
  induction segments with
  | nil => exact Nat.le_refl 0
  | cons segment segments ih =>
      rw [Route.ofList_cons, Route.comp_climbs, List.count_cons]
      by_cases isName : IsName segment
      · rw [Route.ofSegment_of_isName isName, Route.enter_climbs]
        omega
      · by_cases dots : segment = ".."
        · subst dots
          simp only [Route.ofSegment_dots, Route.up_climbs, beq_self_eq_true, if_true]
          omega
        · have still : Route.ofSegment segment = Route.still := by
            rw [Route.ofSegment, dif_neg isName, if_neg dots]
          rw [still, Route.still_climbs]
          omega

/-- Relative keys that walk alike from the bases of one name have the same route. -/
theorem ofKey_eq_of_walk_eq {a b : String} (relative : isRooted a = false)
    (relative' : isRooted b = false) {depth : Nat}
    (deep : (segments a).count ".." ≤ depth) (deep' : (segments b).count ".." ≤ depth)
    (alike : ∀ name, IsName name →
      walk (List.replicate depth name) a = walk (List.replicate depth name) b) :
    Route.ofKey a = Route.ofKey b := by
  simp only [walk_of_relative relative, walk_of_relative relative'] at alike
  exact Route.eq_of_apply_replicate_eq (a := "a") (b := "b") (by decide)
    (Nat.le_trans (climbs_ofList_le_count _) deep) (Nat.le_trans (climbs_ofList_le_count _) deep')
    (alike "a" (by decide)) (alike "b" (by decide))

/-- Two keys have the same clean form if and only if both are rooted or both are relative and they
walk alike: rooted keys from the root, relative keys from every stack of names that is deep enough
for their double dots. -/
theorem clean_eq_clean_iff_walk_eq_walk (a b : String) :
    clean a = clean b ↔
      (isRooted a = true ∧ isRooted b = true ∧ walk [] a = walk [] b) ∨
      (isRooted a = false ∧ isRooted b = false ∧
        ∀ stack : List String, (∀ name ∈ stack, IsName name) →
          (segments a).count ".." ≤ stack.length → (segments b).count ".." ≤ stack.length →
            walk stack a = walk stack b) := by
  constructor
  · intro same
    have kind : isRooted a = isRooted b := by rw [← isRooted_clean, same, isRooted_clean]
    cases rooted : isRooted a with
    | true =>
        rw [rooted] at kind
        have names := (clean_eq_clean_iff_of_rooted rooted kind.symm).mp same
        refine .inl ⟨rfl, kind.symm, ?_⟩
        rw [walk_of_rooted rooted, walk_of_rooted kind.symm, names]
    | false =>
        rw [rooted] at kind
        have route := (clean_eq_clean_iff_of_relative rooted kind.symm).mp same
        refine .inr ⟨rfl, kind.symm, ?_⟩
        intro stack _ _ _
        rw [walk_of_relative rooted, walk_of_relative kind.symm, route]
  · rintro (⟨rooted, rooted', alike⟩ | ⟨relative, relative', alike⟩)
    · rw [walk_of_rooted rooted, walk_of_rooted rooted'] at alike
      exact (clean_eq_clean_iff_of_rooted rooted rooted').mpr alike
    · refine (clean_eq_clean_iff_of_relative relative relative').mpr ?_
      apply ofKey_eq_of_walk_eq relative relative' (Nat.le_max_left _ _) (Nat.le_max_right _ _)
      intro name isName
      refine alike _ (fun other member => List.eq_of_mem_replicate member ▸ isName) ?_ ?_
      · rw [List.length_replicate]
        exact Nat.le_max_left _ _
      · rw [List.length_replicate]
        exact Nat.le_max_right _ _

end StatusLookup.Key
