import StatusLookup.Proofs.Key.Route

/-!
# Running depth

Each name takes a walk one level down and each double dot one level up. How many levels the route of
a list of segments climbs is how far below zero this running depth ever falls, and the names it
enters lead from that lowest point to the end.
-/

namespace StatusLookup.Key

/-- What a segment adds to the depth. -/
def rise (segment : String) : Int :=
  if segment = "" ∨ segment = "." then 0
  else if segment = ".." then -1
  else 1

/-- The depth that segments lead to, counted from where they start. -/
def depth : List String → Int
  | [] => 0
  | segment :: rest => rise segment + depth rest

/-- The running depth of the segments falls so far below zero, and no further. -/
structure IsFall (segments : List String) (fall : Nat) : Prop where
  never_below : ∀ front, front <+: segments → -(fall : Int) ≤ depth front
  reached : ∃ front, front <+: segments ∧ depth front = -fall

@[simp] theorem depth_nil : depth [] = 0 := rfl

@[simp] theorem depth_cons (segment : String) (rest : List String) :
    depth (segment :: rest) = rise segment + depth rest := rfl

theorem rise_eq {segment : String} (clear : '/' ∉ segment.toList) :
    rise segment =
      (Route.ofSegment segment).names.length - ((Route.ofSegment segment).climbs : Int) := by
  rcases segment_cases clear with (rfl | rfl) | rfl | isName
  · rfl
  · rfl
  · rfl
  · have entered := Route.ofSegment_of_isName isName
    simp [rise, entered, isName.1, isName.2.1, isName.2.2.1]

/-- A route ends as many levels below its lowest point as it enters names. -/
theorem depth_eq {segments : List String} (clear : ∀ segment ∈ segments, '/' ∉ segment.toList) :
    depth segments =
      (Route.ofList segments).names.length - ((Route.ofList segments).climbs : Int) := by
  induction segments with
  | nil => rfl
  | cons segment segments ih =>
      have first := rise_eq (clear segment List.mem_cons_self)
      have rest := ih fun other member => clear other (List.mem_cons_of_mem _ member)
      rw [depth_cons, first, rest, Route.ofList_cons, Route.comp_climbs, Route.comp_names,
        List.length_append, List.length_drop]
      omega

/-- The lowest point of a list is at its start, or after its first segment, or below that where the
rest is lowest. -/
private theorem exists_front_depth_eq {segments : List String}
    (clear : ∀ segment ∈ segments, '/' ∉ segment.toList) :
    ∃ front, front <+: segments ∧ depth front = -((Route.ofList segments).climbs : Int) := by
  induction segments with
  | nil => exact ⟨[], List.prefix_rfl, rfl⟩
  | cons segment segments ih =>
      obtain ⟨front, isFront, lowest⟩ :=
        ih fun other member => clear other (List.mem_cons_of_mem _ member)
      have first := rise_eq (clear segment List.mem_cons_self)
      rw [Route.ofList_cons, Route.comp_climbs]
      by_cases deeper :
          (Route.ofSegment segment).names.length < (Route.ofList segments).climbs
      · refine ⟨segment :: front, List.cons_prefix_cons.mpr ⟨rfl, isFront⟩, ?_⟩
        rw [depth_cons, first, lowest]
        omega
      · by_cases level : (Route.ofSegment segment).climbs = 0
        · refine ⟨[], List.nil_prefix, ?_⟩
          rw [depth_nil, level]
          omega
        · have dots : segment = ".." := by
            rcases segment_cases (clear segment List.mem_cons_self) with
              (rfl | rfl) | dots | isName
            · simp at level
            · simp at level
            · exact dots
            · simp [Route.ofSegment_of_isName isName] at level
          subst dots
          refine ⟨[".."], List.cons_prefix_cons.mpr ⟨rfl, List.nil_prefix⟩, ?_⟩
          rw [Route.ofSegment_dots, Route.up_climbs, Route.up_names, List.length_nil] at *
          have none : (Route.ofList segments).climbs = 0 := by omega
          rw [none]
          rfl

/-- The route of a list climbs as far as the running depth of the list falls. -/
theorem isFall_climbs {segments : List String}
    (clear : ∀ segment ∈ segments, '/' ∉ segment.toList) :
    IsFall segments (Route.ofList segments).climbs where
  never_below := by
    rintro front ⟨back, rfl⟩
    have level := depth_eq fun segment member => clear segment (List.mem_append_left back member)
    rw [Route.ofList_append, Route.comp_climbs, level]
    omega
  reached := exists_front_depth_eq clear

theorem IsFall.le {segments : List String} {a b : Nat} (left : IsFall segments a)
    (right : IsFall segments b) : a ≤ b := by
  obtain ⟨front, isFront, lowest⟩ := left.reached
  have bound := right.never_below front isFront
  omega

/-- No other number is the fall of a list. -/
theorem isFall_iff {segments : List String} (clear : ∀ segment ∈ segments, '/' ∉ segment.toList)
    {fall : Nat} : IsFall segments fall ↔ fall = (Route.ofList segments).climbs := by
  constructor
  · intro isFall
    exact Nat.le_antisymm (isFall.le (isFall_climbs clear)) ((isFall_climbs clear).le isFall)
  · rintro rfl
    exact isFall_climbs clear

end StatusLookup.Key
