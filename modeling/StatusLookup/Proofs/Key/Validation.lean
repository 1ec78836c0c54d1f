import StatusLookup.Proofs.Key.Sharing

/-!
# Which texts are key prefixes

A prefix is checked after it has been resolved, by what is left of it. What is left says how the
running depth of the text went: double dots are left if and only if the depth was below zero at some
point, however far the text climbs back, and otherwise as many names are left as the depth comes to
in the end. So the verdict on a text can be read off its running depth.
-/

namespace StatusLookup

namespace Key

/-- The running depth of the segments is below zero at some point. -/
def Dips (segments : List String) : Prop :=
  ∃ front, front <+: segments ∧ depth front < 0

/-- The running depth of a key dips if and only if its route climbs. -/
theorem dips_iff {key : String} : Dips (segments key) ↔ (Route.ofKey key).climbs ≠ 0 := by
  have fall : IsFall (segments key) (Route.ofKey key).climbs :=
    isFall_climbs fun _ => slash_notMem_of_mem_segments
  constructor
  · rintro ⟨front, isFront, below⟩
    have bound := fall.never_below front isFront
    omega
  · intro climbing
    obtain ⟨front, isFront, lowest⟩ := fall.reached
    exact ⟨front, isFront, by omega⟩

/-- What is left begins with double dots if and only if the route climbs. -/
theorem Route.head?_segments_eq_dots_iff {route : Route} :
    route.segments.head? = some ".." ↔ route.climbs ≠ 0 := by
  constructor
  · intro head level
    have isName := Route.forall_isName_segments_iff.mpr level
    exact absurd (isName ".." (List.mem_of_head? head)) (by decide)
  · intro climbing
    obtain ⟨climbs, succ⟩ := Nat.exists_eq_succ_of_ne_zero climbing
    rw [Route.segments, succ, List.replicate_succ, List.cons_append, List.head?_cons]

/-- A clean relative key begins with double dots if and only if the route of the key climbs. A name
that begins with dots is not taken for them. -/
theorem dots_prefix_clean_iff {key : String} (relative : isRooted key = false) :
    (clean key = ".." ∨ "../".toList <+: (clean key).toList) ↔ (Route.ofKey key).climbs ≠ 0 := by
  have below : "../".toList <+: (clean key).toList ↔ ∃ back, clean key = ".." ++ "/" ++ back := by
    constructor
    · rintro ⟨back, spelled⟩
      refine ⟨String.ofList back, String.toList_inj.mp ?_⟩
      rw [← spelled, String.toList_append]
      exact congrArg ("../".toList ++ ·) String.toList_ofList.symm
    · rintro ⟨back, spelled⟩
      rw [spelled, String.toList_append]
      exact List.prefix_append _ _
  rw [below, ← head?_segments_eq_some_iff (by decide), segments_clean_of_relative relative,
    ← Route.head?_segments_eq_dots_iff]
  split
  · rename_i none
    rw [none]
    decide
  · rfl

/-- All that is left of a key are names if and only if its running depth never dips. -/
theorem forall_isName_segments_ofKey_iff {key : String} :
    (∀ segment ∈ (Route.ofKey key).segments, IsName segment) ↔ ¬ Dips (segments key) := by
  rw [Route.forall_isName_segments_iff, dips_iff, not_not]

/-- Unless it dips, the depth of a key comes to the number of names that are left of it. -/
theorem depth_segments_of_not_dips {key : String} (level : ¬ Dips (segments key)) :
    depth (segments key) = (Route.ofKey key).segments.length := by
  rw [dips_iff, not_not] at level
  have ends : depth (segments key) =
      (Route.ofKey key).names.length - ((Route.ofKey key).climbs : Int) :=
    depth_eq fun _ => slash_notMem_of_mem_segments
  rw [ends, level, Route.segments, level, List.replicate_zero, List.nil_append,
    List.length_reverse, Int.natCast_zero, Int.sub_zero]

/-- Nothing is left of a key whose depth never dips and ends at zero. -/
theorem segments_ofKey_eq_nil_iff {key : String} :
    (Route.ofKey key).segments = [] ↔ ¬ Dips (segments key) ∧ depth (segments key) = 0 := by
  constructor
  · intro none
    have level : ¬ Dips (segments key) := forall_isName_segments_ofKey_iff.mp (none ▸ nofun)
    rw [depth_segments_of_not_dips level, none]
    exact ⟨level, rfl⟩
  · rintro ⟨level, ends⟩
    rw [depth_segments_of_not_dips level] at ends
    exact List.length_eq_zero_iff.mp (Int.natCast_eq_zero.mp ends)

end Key

namespace KeyPrefix

variable {value : String}

/-- A relative text is judged by what its route leaves. -/
theorem ofString_of_relative (relative : Key.isRooted value = false) :
    ofString value =
      if none : (Key.Route.ofKey value).segments = [] then .error .empty
      else if level : (Key.Route.ofKey value).climbs = 0 then
        .ok ⟨_, none, Key.Route.forall_isName_segments_iff.mpr level⟩
      else .error (.climbs value) := by
  simp only [ofString, relative, Bool.false_eq_true, if_false, Key.Route.resolve_false,
    Key.Route.forall_isName_segments_iff]

theorem ofString_eq_absolute_iff :
    ofString value = .error (.absolute value) ↔ Key.isRooted value = true := by
  cases rooted : Key.isRooted value with
  | true => simp only [ofString, rooted, if_true]
  | false =>
      rw [ofString_of_relative rooted]
      split
      · simp
      · split <;> simp

theorem ofString_eq_climbs_iff :
    ofString value = .error (.climbs value) ↔
      Key.isRooted value = false ∧ Key.Dips (Key.segments value) := by
  rw [Key.dips_iff]
  cases rooted : Key.isRooted value with
  | true => simp [ofString_eq_absolute_iff.mpr rooted]
  | false =>
      rw [ofString_of_relative rooted]
      split
      · rename_i none
        have level : (Key.Route.ofKey value).climbs = 0 :=
          Key.Route.forall_isName_segments_iff.mp (by simp [none])
        simp [level]
      · split <;> simp_all

theorem ofString_eq_empty_iff :
    ofString value = .error .empty ↔
      Key.isRooted value = false ∧ (Key.Route.ofKey value).segments = [] := by
  cases rooted : Key.isRooted value with
  | true => simp [ofString_eq_absolute_iff.mpr rooted]
  | false =>
      rw [ofString_of_relative rooted]
      split
      · simp_all
      · split <;> simp_all

/-- A text is accepted as the prefix of all that is left of it, if that is names. -/
theorem ofString_eq_ok_iff {p : KeyPrefix} :
    ofString value = .ok p ↔
      Key.isRooted value = false ∧ (Key.Route.ofKey value).segments = p.names := by
  cases rooted : Key.isRooted value with
  | true => simp [ofString_eq_absolute_iff.mpr rooted]
  | false =>
      rw [ofString_of_relative rooted, eq_self, true_and]
      constructor
      · intro accepted
        split at accepted
        · contradiction
        · split at accepted
          · exact congrArg names (Except.ok.inj accepted)
          · contradiction
      · intro left
        have level : (Key.Route.ofKey value).climbs = 0 :=
          Key.Route.forall_isName_segments_iff.mp (left ▸ p.isName)
        rw [dif_neg (left ▸ p.names_ne_nil), dif_pos level]
        exact congrArg Except.ok (eq_of_names_eq left)

theorem exists_ofString_eq_ok_iff :
    (∃ p, ofString value = .ok p) ↔
      Key.isRooted value = false ∧ ¬ Key.Dips (Key.segments value) ∧
        Key.depth (Key.segments value) ≠ 0 := by
  simp only [ofString_eq_ok_iff, exists_and_left, and_congr_right_iff]
  intro _
  constructor
  · rintro ⟨p, left⟩
    have level : ¬ Key.Dips (Key.segments value) :=
      Key.forall_isName_segments_ofKey_iff.mp (left ▸ p.isName)
    refine ⟨level, fun ends => p.names_ne_nil ?_⟩
    rw [← left, Key.segments_ofKey_eq_nil_iff]
    exact ⟨level, ends⟩
  · rintro ⟨level, ends⟩
    have some : (Key.Route.ofKey value).segments ≠ [] :=
      fun none => ends (Key.segments_ofKey_eq_nil_iff.mp none).2
    exact ⟨⟨_, some, Key.forall_isName_segments_ofKey_iff.mpr level⟩, rfl⟩

theorem length_names_eq_depth {p : KeyPrefix} (accepted : ofString value = .ok p) :
    p.names.length = Key.depth (Key.segments value) := by
  obtain ⟨_, level, _⟩ := exists_ofString_eq_ok_iff.mp ⟨p, accepted⟩
  rw [Key.depth_segments_of_not_dips level, (ofString_eq_ok_iff.mp accepted).2]

/-- The prefix that a text is accepted as is spelled as the text is cleaned. -/
theorem text_eq_clean {p : KeyPrefix} (accepted : ofString value = .ok p) :
    p.text = Key.clean value := by
  obtain ⟨relative, left⟩ := ofString_eq_ok_iff.mp accepted
  rw [Key.clean_of_relative relative, if_neg (left ▸ p.names_ne_nil), left, text]

/-- A prefix is the prefix that its text is accepted as. -/
theorem ofString_text (p : KeyPrefix) : ofString p.text = .ok p := by
  obtain ⟨first, rest, names⟩ := List.exists_cons_of_ne_nil p.names_ne_nil
  have filled : first ≠ "" := (p.isName first (names ▸ List.mem_cons_self)).1
  obtain ⟨level, entered⟩ := Key.Route.ofList_of_isName p.isName
  refine ofString_eq_ok_iff.mpr ⟨Key.isRooted_eq_false (p.segments_text.trans names) filled, ?_⟩
  rw [Key.Route.ofKey, segments_text, Key.Route.segments, level, entered, List.replicate_zero,
    List.nil_append, List.reverse_reverse]

/-- The verdict on a text by the shape of its clean form, and the text of the prefix if there is
one. -/
theorem map_text_ofString (value : String) :
    (ofString value).map text =
      if Key.isRooted value then .error (.absolute value)
      else if Key.clean value = "." then .error .empty
      else if Key.clean value = ".." ∨ "../".toList <+: (Key.clean value).toList then
        .error (.climbs value)
      else .ok (Key.clean value) := by
  cases rooted : Key.isRooted value with
  | true =>
      rw [ofString_eq_absolute_iff.mpr rooted]
      rfl
  | false =>
      rw [ofString_of_relative rooted, if_neg Bool.false_ne_true]
      simp only [Key.clean_eq_dot_iff rooted, Key.dots_prefix_clean_iff rooted]
      by_cases none : (Key.Route.ofKey value).segments = []
      · rw [dif_pos none, if_pos none]
        rfl
      · rw [dif_neg none, if_neg none]
        by_cases level : (Key.Route.ofKey value).climbs = 0
        · rw [dif_pos level, if_neg (not_not.mpr level), Key.clean_of_relative rooted, if_neg none]
          rfl
        · rw [dif_neg level, if_pos level]
          rfl

/-- The verdict on a text by its running depth. A text that starts with a slash is absolute. A
relative text climbs if its depth is below zero at some point, and is empty if it never is and ends
at zero. Every other text is accepted: as the prefix that is spelled by its clean form, which is a
list of as many names as the depth comes to. The text of a prefix is accepted as that prefix. -/
theorem ofString_verdict_by_depth (value : String) :
    (ofString value = .error (.absolute value) ↔ Key.isRooted value = true) ∧
      (ofString value = .error (.climbs value) ↔
        Key.isRooted value = false ∧ Key.Dips (Key.segments value)) ∧
      (ofString value = .error .empty ↔
        Key.isRooted value = false ∧ ¬ Key.Dips (Key.segments value) ∧
          Key.depth (Key.segments value) = 0) ∧
      ((∃ p, ofString value = .ok p ∧ p.text = Key.clean value ∧ p.text ≠ "" ∧
          (∀ segment ∈ Key.segments p.text, Key.IsName segment) ∧
          (Key.segments p.text).length = Key.depth (Key.segments value)) ↔
        Key.isRooted value = false ∧ ¬ Key.Dips (Key.segments value) ∧
          Key.depth (Key.segments value) ≠ 0) ∧
      ∀ p : KeyPrefix, ofString p.text = .ok p := by
  refine ⟨ofString_eq_absolute_iff, ofString_eq_climbs_iff, ?_, ?_, ofString_text⟩
  · rw [ofString_eq_empty_iff, Key.segments_ofKey_eq_nil_iff]
  · rw [← exists_ofString_eq_ok_iff]
    constructor
    · rintro ⟨p, accepted, _⟩
      exact ⟨p, accepted⟩
    · rintro ⟨p, accepted⟩
      refine ⟨p, accepted, text_eq_clean accepted, p.text_ne_empty, ?_, ?_⟩
      · rw [segments_text]
        exact p.isName
      · rw [segments_text]
        exact length_names_eq_depth accepted

end KeyPrefix

end StatusLookup
