import StatusLookup.Proofs.Config.Load
import StatusLookup.Proofs.FileSystem.Obstacle
import StatusLookup.Proofs.Store.Confinement

/-!
# The configuration of a directory

A directory has three candidates for its configuration. The first one that leads anywhere decides,
be it a file that can be read or not: the candidates before it lead nowhere, and those after it are
not even asked for. So the outcome depends on nothing but the node that the first candidate leads
to, and a configuration that cannot be loaded does not uncover the next one.
-/

namespace StatusLookup

namespace Place

/-- The path is the first of some paths to lead anywhere, and this is where it leads. -/
inductive FirstLeadsTo (place : Place) : List String → String → Place → Prop where
  | here {path : String} {paths : List String} {found : Place} :
      place.LeadsTo path found → FirstLeadsTo place (path :: paths) path found
  | later {nowhere path : String} {paths : List String} {found : Place} :
      (∀ stop, ¬ place.LeadsTo nowhere stop) → FirstLeadsTo place paths path found →
      FirstLeadsTo place (nowhere :: paths) path found

variable {place found : Place} {path : String} {paths : List String}

theorem FirstLeadsTo.leadsTo (first : place.FirstLeadsTo paths path found) :
    place.LeadsTo path found := by
  induction first with
  | here leads => exact leads
  | later _ _ ih => exact ih

theorem FirstLeadsTo.mem (first : place.FirstLeadsTo paths path found) : path ∈ paths := by
  induction first with
  | here => exact List.mem_cons_self
  | later _ _ ih => exact List.mem_cons_of_mem _ ih

/-- Unless none of some paths leads anywhere, one of them is the first to do so. -/
theorem exists_firstLeadsTo_iff :
    (∃ path found, place.FirstLeadsTo paths path found) ↔
      ∃ path ∈ paths, ∃ found, place.LeadsTo path found := by
  constructor
  · rintro ⟨path, found, first⟩
    exact ⟨path, first.mem, found, first.leadsTo⟩
  · rintro ⟨path, member, found, leads⟩
    induction paths with
    | nil => contradiction
    | cons head paths ih =>
        by_cases ahead : ∃ stop, place.LeadsTo head stop
        · obtain ⟨stop, leads⟩ := ahead
          exact ⟨head, stop, .here leads⟩
        · have nowhere : ∀ stop, ¬ place.LeadsTo head stop := not_exists.mp ahead
          have behind : path ∈ paths := by
            rcases List.mem_cons.mp member with rfl | behind
            · exact absurd leads (nowhere found)
            · exact behind
          obtain ⟨path', found', first⟩ := ih behind
          exact ⟨path', found', .later nowhere first⟩

end Place

namespace Trace

/-- The trace with more questions to the file system at its end. -/
def addAccesses (t : Trace) (accesses : List FileAccess) : Trace :=
  { t with accesses := t.accesses ++ accesses }

theorem addAccesses_addAccess (t : Trace) (access : FileAccess) (accesses : List FileAccess) :
    (t.addAccess access).addAccesses accesses = t.addAccesses (access :: accesses) := by
  simp [addAccess, addAccesses]

end Trace

namespace Config

/-- The paths at which a directory may have its configuration, the first one first. -/
def candidates (directory : String) : List String :=
  [Path.join directory "depstat.yml", Path.join directory "depstat.yaml",
    Path.join directory ".depstat/config.yml"]

theorem ne_empty_of_mem_candidates {directory path : String}
    (member : path ∈ candidates directory) : path ≠ "" := by
  have filled (name : String) (relative : Path.isAbsolute name = false) (filled : name ≠ "") :
      Path.join directory name ≠ "" := by
    intro empty
    obtain ⟨slash, joined⟩ := Path.exists_join_eq_append directory
    rw [joined name relative, String.append_eq_empty_iff] at empty
    exact filled empty.2
  simp only [candidates, List.mem_cons, List.not_mem_nil, or_false] at member
  rcases member with rfl | rfl | rfl
  · exact filled "depstat.yml" rfl nofun
  · exact filled "depstat.yaml" rfl nofun
  · exact filled ".depstat/config.yml" rfl nofun

/-- What is asked for in order to find that a path is the first of some paths to lead anywhere: all
paths up to this one, and none behind it. -/
def askedUpTo (path : String) (paths : List String) : List FileAccess :=
  (paths.takeWhile (· ≠ path) ++ [path]).map .existence

variable {directory path : String} {paths : List String} {w w' : World} {found found' : Place}

theorem firstExisting_run_of_firstLeadsTo (first : w.directory.FirstLeadsTo paths path found)
    (filled : ∀ path ∈ paths, path ≠ "") (t : Trace) :
    ((firstExisting paths : Observed _).run w).run t =
      (some path, t.addAccesses (askedUpTo path paths)) := by
  induction first generalizing t with
  | @here path paths found leads =>
      have present : w.directory.pathExists path = true :=
        (Place.pathExists_eq_true_iff (filled path List.mem_cons_self)).mpr ⟨found, leads⟩
      rw [firstExisting, Observed.run_bind_of_run (Observed.pathExists_run path w t), present,
        askedUpTo, List.takeWhile_cons_of_neg (by simp)]
      rfl
  | @later nowhere path paths found fails first ih =>
      have absent : w.directory.pathExists nowhere = false := by
        rw [Bool.eq_false_iff]
        intro present
        obtain ⟨stop, leads⟩ :=
          (Place.pathExists_eq_true_iff (filled nowhere List.mem_cons_self)).mp present
        exact fails stop leads
      have other : nowhere ≠ path := by
        rintro rfl
        exact fails found first.leadsTo
      have asked : askedUpTo path (nowhere :: paths) =
          .existence nowhere :: askedUpTo path paths := by
        rw [askedUpTo, List.takeWhile_cons_of_pos (by simpa using other)]
        rfl
      rw [firstExisting, Observed.run_bind_of_run (Observed.pathExists_run nowhere w t), absent,
        asked, ← Trace.addAccesses_addAccess]
      exact ih (fun path member => filled path (List.mem_cons_of_mem _ member)) _

theorem discover_result_of_nowhere
    (nowhere : ∀ path ∈ candidates directory, ∀ found, ¬ w.directory.LeadsTo path found) :
    (discover directory : Observed _).result w = .error (.configNotFound directory) := by
  have missing : (fileNames.map (Path.join directory)).find? w.directory.pathExists = none := by
    refine List.find?_eq_none.mpr fun path member present => ?_
    obtain ⟨found, leads⟩ :=
      (Place.pathExists_eq_true_iff (ne_empty_of_mem_candidates member)).mp present
    exact nowhere path member found leads
  rw [(discover_yields directory w).result_eq, ofDirectory, missing]

/-- The configuration of a directory is loaded from its first candidate that leads anywhere. Nothing
is asked for but the candidates up to this one, and then its content. -/
theorem discover_run_of_firstLeadsTo
    (first : w.directory.FirstLeadsTo (candidates directory) path found) (t : Trace) :
    ((discover directory : Observed _).run w).run t =
      ((load path : Observed _).run w).run
        (t.addAccesses (askedUpTo path (candidates directory))) :=
  Observed.run_bind_of_run
    (firstExisting_run_of_firstLeadsTo first (fun _ => ne_empty_of_mem_candidates) t)

/-- From places that hold alike nodes the same is loaded, in the same way. -/
theorem load_run_eq_of_alike (leads : w.directory.LeadsTo path found)
    (leads' : w'.directory.LeadsTo path found') (alike : found.here.Alike found'.here)
    (filled : path ≠ "") (t : Trace) :
    ((load path : Observed _).run w).run t = ((load path : Observed _).run w').run t := by
  have content (place : Place) : place.content = place.here.read [] :=
    Place.walk_content place (List.forall_mem_nil _)
  have same : w.directory.readFile path = w'.directory.readFile path := by
    rw [leads.readFile_eq filled, leads'.readFile_eq filled, content, content, alike.read_eq]
  rw [load_run, load_run, same]

theorem discover_result_of_firstLeadsTo
    (first : w.directory.FirstLeadsTo (candidates directory) path found) :
    (discover directory : Observed _).result w = (load path : Observed _).result w := by
  rw [(load_yields path w).result_eq]
  exact congrArg Prod.fst ((discover_run_of_firstLeadsTo first Trace.empty).trans (load_run _ _ _))

/-- The first candidate that leads anywhere decides. Without one there is no configuration;
otherwise the outcome is that of loading it, good or bad, and two file systems with alike nodes
there cannot be told apart, by the result, by what is asked for or by what is logged. -/
theorem discover_first_candidate (directory : String) (w : World) :
    ((discover directory : Observed _).result w = .error (.configNotFound directory) ↔
        ∀ path ∈ candidates directory, ∀ found, ¬ w.directory.LeadsTo path found) ∧
      ((∃ path ∈ candidates directory, ∃ found, w.directory.LeadsTo path found) →
        ∃ path found, w.directory.FirstLeadsTo (candidates directory) path found) ∧
      ∀ path found, w.directory.FirstLeadsTo (candidates directory) path found →
        (discover directory : Observed _).result w = (load path : Observed _).result w ∧
        ∀ w' found', w'.directory.FirstLeadsTo (candidates directory) path found' →
          found.here.Alike found'.here →
          (discover directory : Observed _).observe w =
            (discover directory : Observed _).observe w' := by
  refine ⟨⟨?_, discover_result_of_nowhere⟩, Place.exists_firstLeadsTo_iff.mpr, ?_⟩
  · intro missing path member found leads
    obtain ⟨path', found', first⟩ := Place.exists_firstLeadsTo_iff.mpr ⟨path, member, found, leads⟩
    rw [discover_result_of_firstLeadsTo first, (load_yields path' w).result_eq] at missing
    rcases ofContent_failure missing with ⟨_, other⟩ | ⟨_, other⟩ <;> contradiction
  · intro path found first
    refine ⟨discover_result_of_firstLeadsTo first, ?_⟩
    intro w' found' first' alike
    rw [Observed.observe_eq_run, Observed.observe_eq_run, discover_run_of_firstLeadsTo first,
      discover_run_of_firstLeadsTo first']
    exact load_run_eq_of_alike first.leadsTo first'.leadsTo alike
      (ne_empty_of_mem_candidates first.mem) _

/-- A directory with a `depstat.yaml` that is no configuration, and with other entries. -/
def withMalformed (others : List (String × Tree)) : World :=
  ⟨⟨.directory (("depstat.yaml", .file (Utf8.encode "store:\n")) :: others), []⟩, .ok "/", []⟩

theorem firstLeadsTo_withMalformed (others : List (String × Tree))
    (missing : (withMalformed others).directory.find "depstat.yml" = .error .notFound) :
    ∃ above, (withMalformed others).directory.FirstLeadsTo (candidates "") "depstat.yaml"
      ⟨.file (Utf8.encode "store:\n"), above⟩ := by
  have finds : (withMalformed others).directory.find "depstat.yaml" =
      .ok ⟨.file (Utf8.encode "store:\n"), [(withMalformed others).directory.here]⟩ := rfl
  refine ⟨_, .later ?_ (.here ((Place.find_eq_ok_iff_leadsTo (by decide)).mp finds))⟩
  intro stop leads
  have finds' := leads.find_eq (by decide)
  exact absurd (missing.symm.trans finds') nofun

/-- A candidate that is no configuration hides one that is. -/
theorem discover_first_candidate_malformed :
    let hidden := Tree.directory [("config.yml", .file (Utf8.encode "store:\n  root: kv\n"))]
    let w := withMalformed [(".depstat", hidden)]
    let w' := withMalformed []
    ∃ found found', w.directory.FirstLeadsTo (candidates "") "depstat.yaml" found ∧
      w'.directory.FirstLeadsTo (candidates "") "depstat.yaml" found' ∧
      found.here.Alike found'.here ∧
      (discover "" : Observed _).result w = (load "depstat.yaml" : Observed _).result w ∧
      (discover "" : Observed _).observe w = (discover "" : Observed _).observe w' := by
  intro hidden w w'
  obtain ⟨above, first⟩ := firstLeadsTo_withMalformed [(".depstat", hidden)] rfl
  obtain ⟨above', first'⟩ := firstLeadsTo_withMalformed [] rfl
  have alike := Tree.Alike.refl (.file (Utf8.encode "store:\n"))
  obtain ⟨-, -, decides⟩ := discover_first_candidate "" w
  obtain ⟨loads, hides⟩ := decides "depstat.yaml" _ first
  exact ⟨_, _, first, first', alike, loads, hides w' _ first' alike⟩

/-- So does a directory. -/
example : (discover "" : Observed _).result
      ⟨⟨.directory [("depstat.yml", .directory []),
        ("depstat.yaml", .file (Utf8.encode "store:\n  root: kv\n"))], []⟩, .ok "/", []⟩ =
    .error (.io .isADirectory) := rfl

end Config

end StatusLookup
