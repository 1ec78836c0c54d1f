import StatusLookup.Proofs.FileSystem.Parent

/-!
# What stands in the way of a path

A walk takes the components of a path one by one. From a directory a component stays, goes up or
enters the entry it names; from a file nothing goes on. The first component that cannot be taken
ends the walk, and what bars it is all there is to say about the path: the components after it are
not looked at.

The way of a walk and what bars it are relations of their own. Every walk reaches its end or is
barred, so a function that agrees with both relations where they hold is described by them.
-/

namespace StatusLookup.Place

/-- One component further. Only a directory can be left. -/
inductive Next : Place → String → Place → Prop where
  | stay {entries : List (String × Tree)} {above : List Tree} {component : String} :
      Path.IsSilent component →
      Next ⟨.directory entries, above⟩ component ⟨.directory entries, above⟩
  | top {entries : List (String × Tree)} :
      Next ⟨.directory entries, []⟩ ".." ⟨.directory entries, []⟩
  | up {entries : List (String × Tree)} {parent : Tree} {above : List Tree} :
      Next ⟨.directory entries, parent :: above⟩ ".." ⟨parent, above⟩
  | enter {entries : List (String × Tree)} {above : List Tree} {name : String} {node : Tree} :
      Key.IsName name → name.utf8ByteSize ≤ maxNameBytes → entries.lookup name = some node →
      Next ⟨.directory entries, above⟩ name ⟨node, .directory entries :: above⟩

/-- A component cannot be taken from a place, and why. -/
inductive Bars : Place → String → IoError → Prop where
  | file {content : Bytes} {above : List Tree} {component : String} :
      Bars ⟨.file content, above⟩ component .notADirectory
  | long {entries : List (String × Tree)} {above : List Tree} {name : String} :
      maxNameBytes < name.utf8ByteSize → Bars ⟨.directory entries, above⟩ name .nameTooLong
  | missing {entries : List (String × Tree)} {above : List Tree} {name : String} :
      Key.IsName name → name.utf8ByteSize ≤ maxNameBytes → entries.lookup name = none →
      Bars ⟨.directory entries, above⟩ name .notFound

inductive Reaches : Place → List String → Place → Prop where
  | here (place : Place) : Reaches place [] place
  | next {place stop found : Place} {component : String} {rest : List String} :
      Next place component stop → Reaches stop rest found → Reaches place (component :: rest) found

/-- On the way of a list of components there is a place from which this one is to be taken. -/
def Meets (place : Place) (components : List String) (stop : Place) (component : String) : Prop :=
  ∃ front rest, components = front ++ component :: rest ∧ Reaches place front stop

variable {place stop found : Place} {component : String} {components : List String} {e : IoError}

/-! ## One component -/

/-- Components with a meaning of their own are short. -/
theorem isName_of_long (clear : '/' ∉ component.toList)
    (long : maxNameBytes < component.utf8ByteSize) : Key.IsName component := by
  rcases Key.segment_cases clear with (rfl | rfl) | rfl | isName
  · exact absurd long (by decide)
  · exact absurd long (by decide)
  · exact absurd long (by decide)
  · exact isName

theorem Next.step_eq (next : Next place component found) : place.step component = .ok found := by
  cases next with
  | stay silent => exact if_pos silent
  | top => rfl
  | up => rfl
  | enter isName fits listed => rw [step_of_isName isName, if_neg (Nat.not_lt.mpr fits), listed]

theorem Bars.step_eq (bars : Bars place component e) (clear : '/' ∉ component.toList) :
    place.step component = .error e := by
  cases bars with
  | file => rfl
  | long long => rw [step_of_isName (isName_of_long clear long), if_pos long]
  | missing isName fits listed =>
      rw [step_of_isName isName, if_neg (Nat.not_lt.mpr fits), listed]

/-- A component can be taken unless something bars it. -/
theorem exists_next_or_bars (place : Place) (clear : '/' ∉ component.toList) :
    (∃ found, Next place component found) ∨ ∃ e, Bars place component e := by
  obtain ⟨here, above⟩ := place
  cases here with
  | file content => exact .inr ⟨_, .file⟩
  | directory entries =>
      rcases Key.segment_cases clear with silent | rfl | isName
      · exact .inl ⟨_, .stay silent⟩
      · cases above with
        | nil => exact .inl ⟨_, .top⟩
        | cons parent above => exact .inl ⟨_, .up⟩
      · by_cases long : maxNameBytes < component.utf8ByteSize
        · exact .inr ⟨_, .long long⟩
        · cases listed : entries.lookup component with
          | none => exact .inr ⟨_, .missing isName (Nat.not_lt.mp long) listed⟩
          | some node => exact .inl ⟨_, .enter isName (Nat.not_lt.mp long) listed⟩

/-! ## A list of components -/

theorem Reaches.walk_eq (reaches : Reaches place components found) :
    place.walk components = .ok found := by
  induction reaches with
  | here place => rfl
  | next next _ ih => exact walk_cons_eq_ok_iff.mpr ⟨_, next.step_eq, ih⟩

/-- A walk fails where a component is barred, and for that reason. -/
theorem Meets.walk_eq (meets : Meets place components stop component)
    (clear : ∀ component ∈ components, '/' ∉ component.toList) (bars : Bars stop component e) :
    place.walk components = .error e := by
  obtain ⟨front, rest, rfl, reaches⟩ := meets
  have single : '/' ∉ component.toList :=
    clear component (List.mem_append_right front List.mem_cons_self)
  rw [walk_append, reaches.walk_eq]
  show stop.walk (component :: rest) = .error e
  rw [walk, List.foldlM_cons, bars.step_eq single]
  rfl

theorem Meets.cons (next : Next place component stop) {last : Place} {barred : String}
    (meets : Meets stop components last barred) :
    Meets place (component :: components) last barred := by
  obtain ⟨front, rest, rfl, reaches⟩ := meets
  exact ⟨component :: front, rest, rfl, .next next reaches⟩

/-- A walk reaches its end unless a component is barred. -/
theorem exists_reaches_or_meets (place : Place)
    (clear : ∀ component ∈ components, '/' ∉ component.toList) :
    (∃ found, Reaches place components found) ∨
      ∃ stop component e, Meets place components stop component ∧ Bars stop component e := by
  induction components generalizing place with
  | nil => exact .inl ⟨place, .here place⟩
  | cons component components ih =>
      obtain ⟨single, others⟩ := List.forall_mem_cons.mp clear
      rcases exists_next_or_bars place single with ⟨stop, next⟩ | ⟨e, bars⟩
      · rcases ih stop others with ⟨found, reaches⟩ | ⟨last, barred, e, meets, bars⟩
        · exact .inl ⟨found, .next next reaches⟩
        · exact .inr ⟨last, barred, e, meets.cons next, bars⟩
      · exact .inr ⟨place, component, e, ⟨[], components, rfl, .here place⟩, bars⟩

/-! ## A path -/

def IsWalkable (path : String) : Prop :=
  '\x00' ∉ path.toList ∧ path.utf8ByteSize < maxPathBytes

def startOf (place : Place) (path : String) : Place :=
  if Key.isRooted path then place.root else place

def LeadsTo (place : Place) (path : String) (found : Place) : Prop :=
  IsWalkable path ∧ Reaches (place.startOf path) (Key.segments path) found

/-- On the way of a path there is a place from which this component is to be taken. -/
def StopsAt (place : Place) (path : String) (stop : Place) (component : String) : Prop :=
  IsWalkable path ∧ Meets (place.startOf path) (Key.segments path) stop component

variable {path : String}

theorem find_of_isWalkable (place : Place) (filled : path ≠ "") (walkable : IsWalkable path) :
    place.find path = (place.startOf path).walk (Key.segments path) := by
  rw [find_eq place filled, checkPath_eq_ok_iff.mpr walkable]
  rfl

theorem LeadsTo.find_eq (leads : place.LeadsTo path found) (filled : path ≠ "") :
    place.find path = .ok found := by
  rw [find_of_isWalkable place filled leads.1, leads.2.walk_eq]

theorem StopsAt.find_eq (stops : place.StopsAt path stop component) (filled : path ≠ "")
    (bars : Bars stop component e) : place.find path = .error e := by
  rw [find_of_isWalkable place filled stops.1]
  exact stops.2.walk_eq (fun _ => Key.slash_notMem_of_mem_segments) bars

/-- A path that can be looked up leads somewhere unless a component is barred. -/
theorem exists_leadsTo_or_stopsAt (place : Place) (walkable : IsWalkable path) :
    (∃ found, place.LeadsTo path found) ∨
      ∃ stop component e, place.StopsAt path stop component ∧ Bars stop component e := by
  rcases exists_reaches_or_meets (place.startOf path)
    (fun _ (member : _ ∈ Key.segments path) => Key.slash_notMem_of_mem_segments member) with
    ⟨found, reaches⟩ | ⟨stop, component, e, meets, bars⟩
  · exact .inl ⟨found, walkable, reaches⟩
  · exact .inr ⟨stop, component, e, ⟨walkable, meets⟩, bars⟩

theorem find_eq_ok_iff_leadsTo (filled : path ≠ "") :
    place.find path = .ok found ↔ place.LeadsTo path found := by
  constructor
  · intro finds
    have walkable : IsWalkable path := checkPath_eq_ok_iff.mp (find_eq_ok_iff.mp finds).2.1
    rcases exists_leadsTo_or_stopsAt place walkable with
      ⟨found', leads⟩ | ⟨stop, component, e, stops, bars⟩
    · obtain rfl : found' = found := Except.ok.inj ((leads.find_eq filled).symm.trans finds)
      exact leads
    · have fails := stops.find_eq filled bars
      rw [finds] at fails
      contradiction
  · intro leads
    exact leads.find_eq filled

theorem pathExists_eq_true_iff (filled : path ≠ "") :
    place.pathExists path = true ↔ ∃ found, place.LeadsTo path found := by
  simp only [← find_eq_ok_iff_leadsTo filled, pathExists]
  cases place.find path with
  | error e => simp [Except.isOk, Except.toBool]
  | ok found => simp [Except.isOk, Except.toBool]

/-- What is read depends on the node that a path leads to, and on nothing else. -/
theorem LeadsTo.readFile_eq (leads : place.LeadsTo path found) (filled : path ≠ "") :
    place.readFile path = found.content := by
  rw [Place.readFile_eq, leads.find_eq filled]
  rfl

end StatusLookup.Place
