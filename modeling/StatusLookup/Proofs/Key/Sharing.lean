import StatusLookup.Proofs.Key.Depth
import StatusLookup.Proofs.Key.StatusKey

/-!
# When two deployments share a record

Cleaning is lossy, so unlike ids can have the same status key. For ids that never climb the loss is
known exactly: what is left of a pair of a prefix and an id is the names of the prefix followed by
the names that survive in the id, and two pairs share a key when these lists are the same.

An id of a single name survives whole, at the end of the list, so such pairs share nothing. Nor do
prefixes that part at some name, whatever ids follow them.
-/

namespace StatusLookup

namespace Key

/-- No initial part of the key has more double dots than names. -/
def NeverClimbs (key : String) : Prop :=
  ∀ front, front <+: segments key → front.count ".." ≤ front.countP fun segment => IsName segment

/-- The depth counts the names and, against them, the double dots. -/
theorem depth_eq_countP_sub_count {segments : List String}
    (clear : ∀ segment ∈ segments, '/' ∉ segment.toList) :
    depth segments =
      (segments.countP fun segment => IsName segment) - (segments.count ".." : Int) := by
  induction segments with
  | nil => rfl
  | cons segment segments ih =>
      obtain ⟨first, others⟩ := List.forall_mem_cons.mp clear
      rw [depth_cons, ih others, List.countP_cons, List.count_cons]
      rcases segment_cases first with (rfl | rfl) | rfl | isName
      · simp [rise, IsName]
      · simp [rise, IsName]
      · simp [rise, IsName]
        omega
      · have named : rise segment = 1 := by simp [rise, isName.1, isName.2.1, isName.2.2.1]
        simp only [named, isName, isName.2.2.1, decide_true, if_true, beq_iff_eq, if_false]
        omega

/-- A key never climbs if and only if no double dot is left at the front of its clean form. -/
theorem neverClimbs_iff {key : String} : NeverClimbs key ↔ climbs key = 0 := by
  have clear : ∀ segment ∈ segments key, '/' ∉ segment.toList :=
    fun segment => slash_notMem_of_mem_segments
  have level (front : List String) (isFront : front <+: segments key) :=
    depth_eq_countP_sub_count fun segment member => clear segment (isFront.subset member)
  rw [climbs_eq, Route.ofKey, eq_comm, ← isFall_iff clear]
  constructor
  · intro never
    refine ⟨fun front isFront => ?_, [], List.nil_prefix, rfl⟩
    have bound := never front isFront
    rw [level front isFront]
    omega
  · intro fall front isFront
    have bound := fall.never_below front isFront
    rw [level front isFront] at bound
    omega

/-- A single name never climbs, and survives. -/
theorem climbs_and_surviving_of_isName {name : String} (isName : IsName name) :
    climbs name = 0 ∧ surviving name = [name] := by
  have route : Route.ofKey name = Route.enter name isName := by
    rw [Route.ofKey, segments_of_slash_notMem isName.2.2.2, Route.ofList_cons, Route.ofList_nil,
      Route.comp_still, Route.ofSegment_of_isName]
  rw [climbs_eq, surviving_eq, route]
  exact ⟨rfl, rfl⟩

theorem segments_inj {key other : String} : segments key = segments other ↔ key = other := by
  constructor
  · intro same
    rw [← ofSegments_segments key, same, ofSegments_segments]
  · rintro rfl
    rfl

end Key

namespace KeyPrefix

variable {p q : KeyPrefix} {i j : String}

theorem eq_of_names_eq (names : p.names = q.names) : p = q := by
  cases p
  cases q
  cases names
  rfl

/-- Below a prefix, an id that never climbs leads to its surviving names and the record there. -/
theorem segments_statusKey_of_level (level : Key.climbs i = 0) :
    Key.segments (p.statusKey i) = (p.names ++ Key.surviving i) ++ ["status"] := by
  rw [segments_statusKey_eq_ite, level, if_pos (Nat.zero_le _), Nat.sub_zero, List.take_length]

theorem statusKey_eq_iff_of_level (level : Key.climbs i = 0) (level' : Key.climbs j = 0) :
    p.statusKey i = q.statusKey j ↔ p.names ++ Key.surviving i = q.names ++ Key.surviving j := by
  rw [← Key.segments_inj, segments_statusKey_of_level level, segments_statusKey_of_level level',
    List.append_cancel_right_eq]

/-- Two pairs of a prefix and a single name share no key. -/
theorem eq_and_eq_of_statusKey_eq (isName : Key.IsName i) (isName' : Key.IsName j)
    (same : p.statusKey i = q.statusKey j) : p = q ∧ i = j := by
  obtain ⟨level, survives⟩ := Key.climbs_and_surviving_of_isName isName
  obtain ⟨level', survives'⟩ := Key.climbs_and_surviving_of_isName isName'
  rw [statusKey_eq_iff_of_level level level', survives, survives'] at same
  obtain ⟨names, last⟩ := List.append_inj' same rfl
  exact ⟨eq_of_names_eq names, List.singleton_inj.mp last⟩

/-- Prefixes that share a key lie one below the other. -/
theorem isPrefix_or_isPrefix_of_statusKey_eq (level : Key.climbs i = 0) (level' : Key.climbs j = 0)
    (same : p.statusKey i = q.statusKey j) : p.names <+: q.names ∨ q.names <+: p.names := by
  have names := (statusKey_eq_iff_of_level level level').mp same
  exact List.prefix_or_prefix_of_prefix ⟨_, names⟩ (List.prefix_append q.names _)

/-- Which deployments share a record. Ids that never climb share one when the names of the prefix
and the names that survive in the id make up the same list. So different pairs of a prefix and a
single name share none, and neither do ids below prefixes of which neither starts with the other. -/
theorem statusKey_eq_statusKey_iff (p q : KeyPrefix) :
    (∀ i j, Key.NeverClimbs i → Key.NeverClimbs j →
      (p.statusKey i = q.statusKey j ↔
        p.names ++ Key.surviving i = q.names ++ Key.surviving j)) ∧
    (∀ i j, Key.IsName i → Key.IsName j → p.statusKey i = q.statusKey j → p = q ∧ i = j) ∧
    (¬ p.names <+: q.names → ¬ q.names <+: p.names → ∀ i j, Key.NeverClimbs i →
      Key.NeverClimbs j → p.statusKey i ≠ q.statusKey j) := by
  simp only [Key.neverClimbs_iff]
  refine ⟨fun i j => statusKey_eq_iff_of_level, fun i j => eq_and_eq_of_statusKey_eq, ?_⟩
  intro apart apart' i j level level' same
  rcases isPrefix_or_isPrefix_of_statusKey_eq level level' same with below | below
  · exact apart below
  · exact apart' below

/-- A name may stand in the prefix or in the id. A prefix that starts with another one as a text
only shares nothing with it. -/
theorem statusKey_eq_statusKey_nested :
    let a : KeyPrefix := ⟨["a"], by decide, by decide⟩
    let ab : KeyPrefix := ⟨["ab"], by decide, by decide⟩
    let inner : KeyPrefix := ⟨["a", "b"], by decide, by decide⟩
    Key.NeverClimbs "b/c" ∧ Key.NeverClimbs "x/../c" ∧
      a.statusKey "b/c" = inner.statusKey "x/../c" ∧ a.statusKey "b/c" ≠ ab.statusKey "x/../c" := by
  intro a ab inner
  have level : Key.NeverClimbs "b/c" := Key.neverClimbs_iff.mpr (by decide +kernel)
  have level' : Key.NeverClimbs "x/../c" := Key.neverClimbs_iff.mpr (by decide +kernel)
  have shared := (statusKey_eq_statusKey_iff a inner).1 "b/c" "x/../c" level level'
  have apart := (statusKey_eq_statusKey_iff a ab).2.2 (by decide) (by decide)
  exact ⟨level, level', shared.mpr (by decide +kernel), apart _ _ level level'⟩

end KeyPrefix

end StatusLookup
