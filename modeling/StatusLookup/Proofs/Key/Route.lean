import Mathlib.Tactic.ByContra
import StatusLookup.Proofs.Key.Segments

/-!
# Routes

A relative list of segments leads some levels up and then down through some names. This pair is its
route. Routes compose: what the second one climbs is first taken from the names of the first one.
Composition is associative, so the route of a list is put together from its parts in any grouping.

A route acts on a stack of names by leaving as many of them as it climbs and entering its own.
Nothing here depends on how a key is cleaned.
-/

namespace StatusLookup.Key

/-- A segment is silent, a double dot, or a name. -/
theorem segment_cases {segment : String} (clear : '/' ∉ segment.toList) :
    (segment = "" ∨ segment = ".") ∨ segment = ".." ∨ IsName segment := by
  by_cases silent : segment = "" ∨ segment = "."
  · exact .inl silent
  · by_cases dots : segment = ".."
    · exact .inr (.inl dots)
    · rw [not_or] at silent
      exact .inr (.inr ⟨silent.1, silent.2, dots, clear⟩)

/-- A way through a tree: so many levels up, then into directories of these names, the last one
first. -/
@[ext] structure Route where
  climbs : Nat
  names : List String
  isName : ∀ name ∈ names, IsName name

namespace Route

/-- Staying in place. -/
def still : Route := ⟨0, [], by simp⟩

/-- One level up. -/
def up : Route := ⟨1, [], by simp⟩

/-- Into one directory. -/
def enter (name : String) (isName : IsName name) : Route := ⟨0, [name], by simpa using isName⟩

def comp (first second : Route) : Route where
  climbs := first.climbs + (second.climbs - first.names.length)
  names := second.names ++ first.names.drop second.climbs
  isName := by
    intro name member
    rcases List.mem_append.mp member with late | early
    · exact second.isName name late
    · exact first.isName name (List.mem_of_mem_drop early)

@[simp] theorem comp_climbs (first second : Route) :
    (first.comp second).climbs = first.climbs + (second.climbs - first.names.length) := rfl

@[simp] theorem comp_names (first second : Route) :
    (first.comp second).names = second.names ++ first.names.drop second.climbs := rfl

@[simp] theorem still_climbs : still.climbs = 0 := rfl
@[simp] theorem still_names : still.names = [] := rfl
@[simp] theorem up_climbs : up.climbs = 1 := rfl
@[simp] theorem up_names : up.names = [] := rfl

@[simp] theorem enter_climbs {name : String} (isName : IsName name) :
    (enter name isName).climbs = 0 := rfl

@[simp] theorem enter_names {name : String} (isName : IsName name) :
    (enter name isName).names = [name] := rfl

@[simp] theorem still_comp (route : Route) : still.comp route = route := by
  ext1 <;> simp

@[simp] theorem comp_still (route : Route) : route.comp still = route := by
  ext1 <;> simp

theorem comp_assoc (first second third : Route) :
    (first.comp second).comp third = first.comp (second.comp third) := by
  ext1
  · simp only [comp_climbs, comp_names, List.length_append, List.length_drop]
    omega
  · simp only [comp_climbs, comp_names, List.drop_append, List.drop_drop, List.append_assoc]

def ofSegment (segment : String) : Route :=
  if isName : IsName segment then enter segment isName
  else if segment = ".." then up
  else still

@[simp] theorem ofSegment_empty : ofSegment "" = still := rfl
@[simp] theorem ofSegment_dot : ofSegment "." = still := rfl
@[simp] theorem ofSegment_dots : ofSegment ".." = up := rfl

theorem ofSegment_of_isName {segment : String} (isName : IsName segment) :
    ofSegment segment = enter segment isName := by
  simp [ofSegment, isName]

def ofList : List String → Route
  | [] => still
  | segment :: rest => (ofSegment segment).comp (ofList rest)

@[simp] theorem ofList_nil : ofList [] = still := rfl

@[simp] theorem ofList_cons (segment : String) (rest : List String) :
    ofList (segment :: rest) = (ofSegment segment).comp (ofList rest) := rfl

theorem ofList_append (front back : List String) :
    ofList (front ++ back) = (ofList front).comp (ofList back) := by
  induction front with
  | nil => simp
  | cons segment front ih => rw [List.cons_append, ofList_cons, ih, ofList_cons, comp_assoc]

/-- Names are entered one after another. -/
theorem ofList_of_isName {names : List String} (isName : ∀ name ∈ names, IsName name) :
    (ofList names).climbs = 0 ∧ (ofList names).names = names.reverse := by
  induction names with
  | nil => exact ⟨rfl, rfl⟩
  | cons name names ih =>
      obtain ⟨climbs, entered⟩ :=
        ih fun other member => isName other (List.mem_cons_of_mem _ member)
      rw [ofList_cons, ofSegment_of_isName (isName name List.mem_cons_self)]
      constructor
      · simp [climbs]
      · simp [climbs, entered]

/-- Double dots climb one after another. -/
theorem ofList_replicate_dots (n : Nat) :
    (ofList (List.replicate n "..")).climbs = n ∧ (ofList (List.replicate n "..")).names = [] := by
  induction n with
  | zero => exact ⟨rfl, rfl⟩
  | succ n ih =>
      obtain ⟨climbs, entered⟩ := ih
      rw [List.replicate_succ, ofList_cons, ofSegment_dots]
      constructor
      · simp [climbs, Nat.add_comm]
      · simp [entered]

/-- The stack of names that a route leads to from a stack, the last name first. -/
def apply (route : Route) (stack : List String) : List String :=
  route.names ++ stack.drop route.climbs

@[simp] theorem apply_nil (route : Route) : route.apply [] = route.names := by
  simp [apply]

@[simp] theorem still_apply (stack : List String) : still.apply stack = stack := rfl

theorem comp_apply (first second : Route) (stack : List String) :
    (first.comp second).apply stack = second.apply (first.apply stack) := by
  simp only [apply, comp_names, comp_climbs, List.drop_append, List.drop_drop, List.append_assoc]

/-- What is left of the segments of a route: the double dots, then the names. -/
def segments (route : Route) : List String :=
  List.replicate route.climbs ".." ++ route.names.reverse

theorem segment_of_mem_segments {route : Route} {segment : String}
    (member : segment ∈ route.segments) : segment = ".." ∨ IsName segment := by
  rcases List.mem_append.mp member with dots | name
  · exact .inl (List.eq_of_mem_replicate dots)
  · exact .inr (route.isName segment (List.mem_reverse.mp name))

/-- All that is left are names if and only if the route does not climb. -/
theorem forall_isName_segments_iff {route : Route} :
    (∀ segment ∈ route.segments, IsName segment) ↔ route.climbs = 0 := by
  constructor
  · intro isName
    by_contra climbing
    have dots : ".." ∈ route.segments :=
      List.mem_append_left _ (List.mem_replicate.mpr ⟨climbing, rfl⟩)
    exact absurd (isName _ dots) (by decide)
  · intro level segment member
    rw [segments, level, List.replicate_zero, List.nil_append, List.mem_reverse] at member
    exact route.isName segment member

@[simp] theorem ofList_segments (route : Route) : ofList route.segments = route := by
  obtain ⟨climbs, entered⟩ := ofList_replicate_dots route.climbs
  obtain ⟨level, names⟩ := ofList_of_isName fun name member =>
    route.isName name (List.mem_reverse.mp member)
  rw [segments, ofList_append]
  ext1
  · simp [climbs, level]
  · simp [entered, names]

theorem segments_injective {route other : Route} (same : route.segments = other.segments) :
    route = other := by
  rw [← ofList_segments route, same, ofList_segments]

private theorem length_le_of_append_replicate_eq {front front' : List String} {a b : String}
    {n n' : Nat} (ne : a ≠ b)
    (same_a : front ++ List.replicate n a = front' ++ List.replicate n' a)
    (same_b : front ++ List.replicate n b = front' ++ List.replicate n' b) :
    front'.length ≤ front.length := by
  by_contra longer
  rw [Nat.not_le] at longer
  have length := congrArg List.length same_a
  simp only [List.length_append, List.length_replicate] at length
  have inside : 0 < n := by omega
  -- Where the shorter front ends, the longer one has one name, and both bases claim it.
  have at_a : front'[front.length]? = some a := by
    rw [← List.getElem?_append_left longer, ← same_a, List.getElem?_append_right (Nat.le_refl _)]
    simp [inside]
  have at_b : front'[front.length]? = some b := by
    rw [← List.getElem?_append_left longer, ← same_b, List.getElem?_append_right (Nat.le_refl _)]
    simp [inside]
  exact ne (Option.some.inj (at_a.symm.trans at_b))

/-- Two routes that lead to the same stacks from two bases of unlike names, both deep enough, are
the same route. One base would not do: its own names could be taken for names that are entered. -/
theorem eq_of_apply_replicate_eq {route other : Route} {a b : String} {depth : Nat} (ne : a ≠ b)
    (deep : route.climbs ≤ depth) (deep' : other.climbs ≤ depth)
    (same_a : route.apply (List.replicate depth a) = other.apply (List.replicate depth a))
    (same_b : route.apply (List.replicate depth b) = other.apply (List.replicate depth b)) :
    route = other := by
  simp only [apply, List.drop_replicate] at same_a same_b
  have length : route.names.length = other.names.length := Nat.le_antisymm
    (length_le_of_append_replicate_eq ne same_a.symm same_b.symm)
    (length_le_of_append_replicate_eq ne same_a same_b)
  obtain ⟨names, base⟩ := List.append_inj same_a length
  have height : depth - route.climbs = depth - other.climbs := by
    simpa using congrArg List.length base
  ext1
  · omega
  · exact names

end Route

end StatusLookup.Key
