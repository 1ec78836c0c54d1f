import StatusLookup.Config.Load
import StatusLookup.Proofs.FileSystem.Parent
import StatusLookup.Proofs.Observed
import StatusLookup.Proofs.Store.Run
import StatusLookup.Proofs.Text.Utf8

/-!
# Configurations that are read from a file

To load a configuration is to read one file. What the file says is taken over as it is, but for a
relative root of the store: that is joined to the parent of the path of the file. The path may be
written in many ways, and so may the root, and the text that comes out depends on both. Where it
leads does not. The parent leads to the directory that holds the file, and the root is walked from
there, so the records are those that someone in the directory of the file would find at the root.
-/

namespace StatusLookup

namespace FileStore

/-- The path of a key, if there is one, is within the limits of paths. -/
def IsWithinLimits (store : FileStore) (key : String) : Prop :=
  ∀ path, store.pathFor key = .ok path →
    '\x00' ∉ path.toList ∧ path.utf8ByteSize < Place.maxPathBytes

variable {base root : String} {w : World} {container : Place}

/-- To read below a root that is joined to a base is to read below the root where the base leads. -/
theorem result_get_join (leads : w.directory.follow base = .ok container)
    (relative : Path.isAbsolute root = false) {key : String}
    (within : IsWithinLimits ⟨Path.join base root⟩ key) :
    (get ⟨Path.join base root⟩ key : Observed _).result w =
      (get ⟨root⟩ key : Observed _).result { w with directory := container } := by
  rw [(get_yields _ _ _).result_eq, (get_yields _ _ _).result_eq, answer, answer]
  by_cases names : ∀ segment ∈ Key.segments key, Key.IsName segment
  · have accepted (root : String) := pathFor_eq_ok ⟨root⟩ names
    have same := Place.readFile_foldl_join_join leads relative (Key.segments_ne_nil key) names
      (Place.checkPath_eq_ok_iff.mpr (within _ (accepted _)))
    rw [accepted, accepted]
    exact congrArg (ofContent key) same
  · have refused (root : String) : pathFor ⟨root⟩ key = .error (.invalidKey key) :=
      pathFor_eq_error_iff.mpr ⟨rfl, names⟩
    rw [refused, refused]

end FileStore

namespace Config

/-- What is made of the content of the file at a path. -/
def ofContent (path : String) : Except IoError Bytes → Except Failure Config
  | .error e => .error (.io e)
  | .ok bytes =>
    match Utf8.decode? bytes with
    | none => .error (.io .invalidUtf8)
    | some text =>
      match ofYaml text with
      | .error e => .error (.yaml e)
      | .ok written => .ok (written.rebase path)

/-- What fails in a file that is there is to read it or to understand it. -/
theorem ofContent_failure {path : String} {answer : Except IoError Bytes} {failure : Failure}
    (failed : ofContent path answer = .error failure) :
    (∃ e, failure = .io e) ∨ ∃ e, failure = .yaml e := by
  cases answer with
  | error e => exact .inl ⟨e, (Except.error.inj failed).symm⟩
  | ok bytes =>
      rw [ofContent] at failed
      split at failed
      · exact .inl ⟨_, (Except.error.inj failed).symm⟩
      · split at failed
        · exact .inr ⟨_, (Except.error.inj failed).symm⟩
        · contradiction

/-- No lookup fails while a configuration is loaded. -/
theorem ofContent_ne_lookup (path : String) (answer : Except IoError Bytes) (e : LookupError) :
    ofContent path answer ≠ .error (.lookup e) := by
  intro failed
  rcases ofContent_failure failed with ⟨_, other⟩ | ⟨_, other⟩ <;> contradiction

/-- The line about a configuration that has been loaded. -/
def announcement (path : String) : Except Failure Config → List LogLine
  | .ok _ => [⟨.debug, "Loaded configuration from " ++ path⟩]
  | .error _ => []

theorem load_run (path : String) (w : World) (t : Trace) :
    ((load path : Observed _).run w).run t =
      (ofContent path (w.directory.readFile path), (t.addAccess (.content path)).addLines
        (announcement path (ofContent path (w.directory.readFile path)))) := by
  rw [load, Observed.run_bind_of_run (Observed.readFile_run path w t)]
  cases w.directory.readFile path with
  | error e => exact congrArg (Prod.mk _) (Trace.addLines_nil _).symm
  | ok bytes =>
      simp only [ofContent]
      cases Utf8.decode? bytes with
      | none => exact congrArg (Prod.mk _) (Trace.addLines_nil _).symm
      | some text =>
          dsimp only
          cases ofYaml text with
          | error e => exact congrArg (Prod.mk _) (Trace.addLines_nil _).symm
          | ok written => rfl

theorem load_yields (path : String) (w : World) :
    (load path : Observed _).Yields w (ofContent path (w.directory.readFile path)) :=
  fun t => ⟨_, load_run path w t⟩

/-- The candidates are tried in order, up to the first one that leads to something. -/
theorem firstExisting_yields (paths : List String) (w : World) :
    (firstExisting paths : Observed _).Yields w (paths.find? w.directory.pathExists) := by
  induction paths with
  | nil => exact Observed.yields_pure w none
  | cons path paths ih =>
      intro t
      obtain ⟨after, run⟩ := ih (t.addAccess (.existence path))
      rw [firstExisting, Observed.run_bind_of_run (Observed.pathExists_run path w t)]
      cases found : w.directory.pathExists path with
      | true => exact ⟨_, by rw [List.find?_cons_of_pos found]; rfl⟩
      | false => exact ⟨after, by rw [List.find?_cons_of_neg (by simp [found])]; exact run⟩

/-- What is read in a directory: the first candidate that leads to something, be it readable or
not. -/
def ofDirectory (directory : String) (w : World) : Except Failure Config :=
  match (fileNames.map (Path.join directory)).find? w.directory.pathExists with
  | some path => ofContent path (w.directory.readFile path)
  | none => .error (.configNotFound directory)

theorem ofDirectory_ne_lookup (directory : String) (w : World) (e : LookupError) :
    ofDirectory directory w ≠ .error (.lookup e) := by
  rw [ofDirectory]
  split
  · exact ofContent_ne_lookup _ _ e
  · nofun

theorem discover_yields (directory : String) (w : World) :
    (discover directory : Observed _).Yields w (ofDirectory directory w) := by
  refine (firstExisting_yields (fileNames.map (Path.join directory)) w).bind ?_
  rw [ofDirectory]
  cases (fileNames.map (Path.join directory)).find? w.directory.pathExists with
  | some path => exact load_yields path w
  | none => exact Observed.yields_pure w _

theorem ofContent_eq_ok_iff {path : String} {answer : Except IoError Bytes} {config : Config} :
    ofContent path answer = .ok config ↔
      ∃ text written, answer = .ok (Utf8.encode text) ∧ ofYaml text = .ok written ∧
        config = written.rebase path := by
  constructor
  · intro loaded
    cases answer with
    | error e => contradiction
    | ok bytes =>
        rw [ofContent] at loaded
        split at loaded
        · contradiction
        · rename_i text decoded
          split at loaded
          · contradiction
          · rename_i written read
            refine ⟨text, written, ?_, read, (Except.ok.inj loaded).symm⟩
            rw [Utf8.decode?_eq_some_iff.mp decoded]
  · rintro ⟨text, written, rfl, read, rfl⟩
    rw [ofContent, Utf8.decode?_eq_some_iff.mpr rfl]
    simp only [read]

/-- How a configuration comes from the file that a path leads to. -/
structure IsReadFrom (config : Config) (path : String) (w : World) (text : String)
    (written : Config) (container : Place) : Prop where
  /-- The path leads to a file with the text, which has a name in the directory. -/
  file : ∃ found name, w.directory.find path = .ok found ∧ found.here = .file (Utf8.encode text) ∧
    Key.IsName name ∧ container.step name = .ok found
  /-- The text is that of the configuration as it is written. -/
  reads : ofYaml text = .ok written
  /-- Nothing but the store is changed. -/
  others : config = { written with store := config.store }
  /-- The store stays where it is when its root is absolute. -/
  absolute : Path.isAbsolute written.store.root = true → config.store = written.store
  /-- Otherwise its records are those at the root as it is written, seen from the directory. -/
  relative : Path.isAbsolute written.store.root = false → ∀ key,
    config.store.openStore.IsWithinLimits key →
      (config.store.openStore.get key : Observed _).result w =
        (written.store.openStore.get key : Observed _).result { w with directory := container }

/-- Two paths to one file lead to the same records. -/
theorem IsReadFrom.result_get_eq {config config' written written' : Config}
    {path path' text text' key : String} {w : World} {container container' : Place}
    (one : config.IsReadFrom path w text written container)
    (other : config'.IsReadFrom path' w text' written' container')
    (same : w.directory.find path = w.directory.find path')
    (within : config.store.openStore.IsWithinLimits key)
    (within' : config'.store.openStore.IsWithinLimits key) :
    (config.store.openStore.get key : Observed _).result w =
      (config'.store.openStore.get key : Observed _).result w := by
  obtain ⟨found, name, leads, isFile, isName, entry⟩ := one.file
  obtain ⟨found', name', leads', isFile', isName', entry'⟩ := other.file
  obtain rfl : found = found' := Except.ok.inj (leads.symm.trans (same.trans leads'))
  obtain rfl : container = container' := by
    have above := (Place.above_of_step isName entry).symm.trans (Place.above_of_step isName' entry')
    obtain ⟨here, rest⟩ := List.cons.inj above
    exact congrArg₂ Place.mk here rest
  obtain rfl : written = written' := by
    have bytes := Tree.file.inj (isFile.symm.trans isFile')
    have texts : text = text' := Option.some.inj ((Utf8.decode?_eq_some_iff.mpr rfl).symm.trans
      (Utf8.decode?_eq_some_iff.mpr bytes.symm))
    exact Except.ok.inj (one.reads.symm.trans (texts ▸ other.reads))
  cases absolute : Path.isAbsolute written.store.root with
  | true => rw [one.absolute absolute, other.absolute absolute]
  | false => rw [one.relative absolute key within, other.relative absolute key within']

/-- A loaded configuration is the one that is written in the file its path leads to, and a relative
root means the same as in the directory of the file, in whatever way the path and the root are
written. -/
theorem exists_isReadFrom_of_load {path : String} {w : World} {config : Config}
    (sound : w.directory.IsSound) (loaded : (load path : Observed _).result w = .ok config) :
    ∃ text written container, config.IsReadFrom path w text written container := by
  have content : ofContent path (w.directory.readFile path) = .ok config :=
    (load_yields path w).result_eq.symm.trans loaded
  obtain ⟨text, written, read, reads, rebased⟩ := ofContent_eq_ok_iff.mp content
  obtain ⟨found, leads, isFile⟩ := Place.readFile_eq_ok_iff.mp read
  obtain ⟨front, name, container, split, isName, walked, isDirectory, entry⟩ :=
    Place.exists_container sound leads isFile
  obtain ⟨base, parent, reached⟩ := Place.exists_parent split isName walked isDirectory
  have placed : config = { written with store := written.store.rebase base } := by
    rw [rebased, rebase, parent]
  refine ⟨text, written, container, ⟨found, name, leads, isFile, isName, entry⟩, reads, ?_, ?_, ?_⟩
  · rw [placed]
  · intro absolute
    rw [placed, StoreConfig.rebase, if_pos absolute]
  · intro relative key within
    have joined : config.store.root = Path.join base written.store.root := by
      rw [placed, StoreConfig.rebase, relative, if_neg Bool.false_ne_true]
    -- Of the base it only counts where it leads, so no more is known of its text.
    rw [StoreConfig.openStore, joined] at within ⊢
    exact FileStore.result_get_join reached relative within

/-- A directory of records beside that of a configuration file with the given text. -/
def besideRecords (text : String) : World :=
  ⟨⟨.directory [("conf", .directory [("depstat.yml", .file (Utf8.encode text))]),
      ("kv", .directory [("a", .file (Utf8.encode "DEPLOYED"))])], []⟩, .ok "/", []⟩

/-- Dots and slashes in the path and in the root do not show. -/
theorem exists_isReadFrom_besideRecords :
    let w := besideRecords "store:\n  root: ..//kv/\n"
    let config : Config := ⟨standardPrefix, ⟨"./conf/..//conf/..//kv/"⟩⟩
    w.directory.IsSound ∧
      (load "./conf/..//conf/./depstat.yml" : Observed _).result w = .ok config ∧
      (config.store.openStore.get "a" : Observed _).result w =
        .ok (some ⟨"a", Utf8.encode "DEPLOYED"⟩) ∧
      ∃ text written container,
        config.IsReadFrom "./conf/..//conf/./depstat.yml" w text written container :=
  ⟨nofun, rfl, rfl, exists_isReadFrom_of_load nofun rfl⟩

end Config

end StatusLookup
