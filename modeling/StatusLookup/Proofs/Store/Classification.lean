import StatusLookup.Proofs.FileSystem.Obstacle
import StatusLookup.Proofs.Store.Paths

/-!
# Records, absent records and failed reads

A store of files tells a record that is absent from a read that failed, and its users treat the two
in opposite ways. Which of them a key is answered with is decided by the first thing that stands in
the way of its path. A path that cannot be looked up, or a name that is too long for the directory
it is looked up in, makes the read fail. Everything else makes the record absent, and a name that
comes later is not looked at: behind a directory that is missing it may be as long as it likes.
-/

namespace StatusLookup

namespace Place

/-- A path that cannot be looked up to its end, and why. -/
inductive Refuses (place : Place) (path : String) : IoError → Prop where
  | nul : '\x00' ∈ path.toList → Refuses place path .nulInName
  | longPath : '\x00' ∉ path.toList → maxPathBytes ≤ path.utf8ByteSize →
      Refuses place path .nameTooLong
  | longName {entries : List (String × Tree)} {above : List Tree} {name : String} :
      place.StopsAt path ⟨.directory entries, above⟩ name → maxNameBytes < name.utf8ByteSize →
      Refuses place path .nameTooLong

/-- A path at which there is no file: an entry is missing on the way, a file stands before the last
component, or there is a directory at the end. -/
inductive Lacks (place : Place) (path : String) : Prop where
  | missing {entries : List (String × Tree)} {above : List Tree} {name : String} :
      place.StopsAt path ⟨.directory entries, above⟩ name → Key.IsName name →
      name.utf8ByteSize ≤ maxNameBytes → entries.lookup name = none → Lacks place path
  | belowFile {content : Bytes} {above : List Tree} {component : String} :
      place.StopsAt path ⟨.file content, above⟩ component → Lacks place path
  | directory {entries : List (String × Tree)} {above : List Tree} :
      place.LeadsTo path ⟨.directory entries, above⟩ → Lacks place path

variable {place : Place} {path : String} {cause : IoError}

theorem Refuses.readFile_eq (refuses : place.Refuses path cause) (filled : path ≠ "") :
    place.readFile path = .error cause ∧ FileStore.isAbsent cause = false := by
  rw [Place.readFile_eq]
  cases refuses with
  | nul nul =>
      rw [find, if_pos nul]
      exact ⟨rfl, rfl⟩
  | longPath clear long =>
      rw [find, if_neg clear, if_pos long]
      exact ⟨rfl, rfl⟩
  | longName stops long =>
      rw [stops.find_eq filled (.long long)]
      exact ⟨rfl, rfl⟩

theorem Lacks.readFile_eq (lacks : place.Lacks path) (filled : path ≠ "") :
    ∃ cause, place.readFile path = .error cause ∧ FileStore.isAbsent cause = true := by
  rw [Place.readFile_eq]
  cases lacks with
  | missing stops isName fits listed =>
      rw [stops.find_eq filled (.missing isName fits listed)]
      exact ⟨.notFound, rfl, rfl⟩
  | belowFile stops =>
      rw [stops.find_eq filled .file]
      exact ⟨.notADirectory, rfl, rfl⟩
  | directory leads =>
      rw [leads.find_eq filled]
      exact ⟨.isADirectory, rfl, rfl⟩

/-- Every path leads to a file, is refused, or lacks a file. -/
theorem exists_file_or_refuses_or_lacks (place : Place) (path : String) :
    (∃ content above, place.LeadsTo path ⟨.file content, above⟩) ∨
      (∃ cause, place.Refuses path cause) ∨ place.Lacks path := by
  by_cases nul : '\x00' ∈ path.toList
  · exact .inr (.inl ⟨_, .nul nul⟩)
  · by_cases long : maxPathBytes ≤ path.utf8ByteSize
    · exact .inr (.inl ⟨_, .longPath nul long⟩)
    · rcases exists_leadsTo_or_stopsAt place ⟨nul, Nat.lt_of_not_le long⟩ with
        ⟨⟨here, above⟩, leads⟩ | ⟨stop, component, e, stops, bars⟩
      · cases here with
        | file content => exact .inl ⟨content, above, leads⟩
        | directory entries => exact .inr (.inr (.directory leads))
      · cases bars with
        | file => exact .inr (.inr (.belowFile stops))
        | long long => exact .inr (.inl ⟨_, .longName stops long⟩)
        | missing isName fits listed => exact .inr (.inr (.missing stops isName fits listed))

/-- What is lacking is what is left when there is neither a file nor a refusal. -/
theorem lacks_iff (place : Place) (filled : path ≠ "") :
    place.Lacks path ↔
      (¬ ∃ content above, place.LeadsTo path ⟨.file content, above⟩) ∧
        ¬ ∃ cause, place.Refuses path cause := by
  constructor
  · intro lacks
    obtain ⟨cause, failed, absent⟩ := lacks.readFile_eq filled
    constructor
    · rintro ⟨content, above, leads⟩
      exact absurd (failed.symm.trans (leads.readFile_eq filled)) nofun
    · rintro ⟨cause', refuses⟩
      obtain ⟨failed', present⟩ := refuses.readFile_eq filled
      obtain rfl := Except.error.inj (failed.symm.trans failed')
      exact absurd (absent.symm.trans present) nofun
  · rintro ⟨noFile, accessible⟩
    rcases exists_file_or_refuses_or_lacks place path with file | refused | lacks
    · exact absurd file noFile
    · exact absurd refused accessible
    · exact lacks

end Place

namespace FileStore

variable {store : FileStore} {key path : String} {w : World}

theorem path_ne_empty (accepted : store.pathFor key = .ok path) : path ≠ "" := by
  obtain ⟨isName, rfl⟩ := pathFor_eq_ok_iff.mp accepted
  rw [← Path.foldl_join_segments store.root isName]
  exact Path.foldl_join_ne_empty store.root (Key.segments_ne_nil key) isName

/-- A key that has a path is answered with what is found at the path. -/
theorem result_get_of_accepted (accepted : store.pathFor key = .ok path) (w : World) :
    (store.get key : Observed _).result w = ofContent key (w.directory.readFile path) := by
  rw [(get_yields store w key).result_eq, answer, accepted]

theorem result_get_of_leadsTo (accepted : store.pathFor key = .ok path) {content : Bytes}
    {above : List Tree} (leads : w.directory.LeadsTo path ⟨.file content, above⟩) :
    (store.get key : Observed _).result w = .ok (some ⟨key, content⟩) := by
  rw [result_get_of_accepted accepted w, leads.readFile_eq (path_ne_empty accepted)]
  rfl

theorem result_get_of_refuses (accepted : store.pathFor key = .ok path) {cause : IoError}
    (refuses : w.directory.Refuses path cause) :
    (store.get key : Observed _).result w = .error (.io cause) := by
  obtain ⟨failed, present⟩ := refuses.readFile_eq (path_ne_empty accepted)
  rw [result_get_of_accepted accepted w, failed, ofContent, present, if_neg Bool.false_ne_true]

theorem result_get_of_lacks (accepted : store.pathFor key = .ok path)
    (lacks : w.directory.Lacks path) : (store.get key : Observed _).result w = .ok none := by
  obtain ⟨cause, failed, absent⟩ := lacks.readFile_eq (path_ne_empty accepted)
  rw [result_get_of_accepted accepted w, failed, ofContent, absent, if_pos rfl]

theorem result_get_eq_some_iff (accepted : store.pathFor key = .ok path) {record : Record} :
    (store.get key : Observed _).result w = .ok (some record) ↔
      record.key = key ∧ ∃ above, w.directory.LeadsTo path ⟨.file record.value, above⟩ := by
  constructor
  · intro answered
    rcases w.directory.exists_file_or_refuses_or_lacks path with
      ⟨content, above, leads⟩ | ⟨cause, refuses⟩ | lacks
    · rw [result_get_of_leadsTo accepted leads] at answered
      obtain rfl := Option.some.inj (Except.ok.inj answered)
      exact ⟨rfl, above, leads⟩
    · rw [result_get_of_refuses accepted refuses] at answered
      contradiction
    · rw [result_get_of_lacks accepted lacks] at answered
      exact absurd (Except.ok.inj answered) nofun
  · rintro ⟨rfl, above, leads⟩
    exact result_get_of_leadsTo accepted leads

theorem result_get_eq_error_iff (accepted : store.pathFor key = .ok path) {e : StoreError} :
    (store.get key : Observed _).result w = .error e ↔
      ∃ cause, e = .io cause ∧ w.directory.Refuses path cause := by
  constructor
  · intro answered
    rcases w.directory.exists_file_or_refuses_or_lacks path with
      ⟨content, above, leads⟩ | ⟨cause, refuses⟩ | lacks
    · rw [result_get_of_leadsTo accepted leads] at answered
      contradiction
    · rw [result_get_of_refuses accepted refuses] at answered
      exact ⟨cause, (Except.error.inj answered).symm, refuses⟩
    · rw [result_get_of_lacks accepted lacks] at answered
      contradiction
  · rintro ⟨cause, rfl, refuses⟩
    exact result_get_of_refuses accepted refuses

theorem result_get_eq_none_iff (accepted : store.pathFor key = .ok path) :
    (store.get key : Observed _).result w = .ok none ↔ w.directory.Lacks path := by
  constructor
  · intro answered
    rcases w.directory.exists_file_or_refuses_or_lacks path with
      ⟨content, above, leads⟩ | ⟨cause, refuses⟩ | lacks
    · rw [result_get_of_leadsTo accepted leads] at answered
      exact absurd (Except.ok.inj answered) nofun
    · rw [result_get_of_refuses accepted refuses] at answered
      contradiction
    · exact lacks
  · exact result_get_of_lacks accepted

/-- What a key with a path is answered. There is a record, with the key and the whole content, if
and only if the path leads to a file; the read fails if and only if the path is refused; and in all
other cases there is no record: an entry is missing, a file stands on the way, or a directory at the
end. So a record that exists is never called absent. -/
theorem get_classified_by_path (accepted : store.pathFor key = .ok path) (w : World) :
    (∀ record, (store.get key : Observed _).result w = .ok (some record) ↔
        record.key = key ∧ ∃ above, w.directory.LeadsTo path ⟨.file record.value, above⟩) ∧
      (∀ e, (store.get key : Observed _).result w = .error e ↔
        ∃ cause, e = .io cause ∧ w.directory.Refuses path cause) ∧
      ((store.get key : Observed _).result w = .ok none ↔ w.directory.Lacks path) ∧
      ((store.get key : Observed _).result w = .ok none ↔
        (¬ ∃ content above, w.directory.LeadsTo path ⟨.file content, above⟩) ∧
          ¬ ∃ cause, w.directory.Refuses path cause) := by
  refine ⟨fun record => result_get_eq_some_iff accepted, fun e => result_get_eq_error_iff accepted,
    result_get_eq_none_iff accepted, ?_⟩
  rw [result_get_eq_none_iff accepted, w.directory.lacks_iff (path_ne_empty accepted)]

/-- A directory with the record of one deployment, the directory above it, and a world with this
directory below the current one. -/
def web : Tree := .directory [("status", .file (Utf8.encode "DEPLOYED"))]

def kv : Tree := .directory [("web", web)]

def work : Tree := .directory [("kv", kv)]

def aboveWeb : World := ⟨⟨work, []⟩, .ok "/work", []⟩

/-- A record is found, nothing is below it, and behind a directory that is missing no name is looked
at. A NUL makes the read fail. -/
theorem get_classified_aboveWeb :
    pathFor ⟨"kv"⟩ "web/status" = .ok "kv/web/status" ∧
      ((FileStore.mk "kv").get "web/status" : Observed _).result aboveWeb =
        .ok (some ⟨"web/status", Utf8.encode "DEPLOYED"⟩) ∧
      pathFor ⟨"kv"⟩ "web/status/x" = .ok "kv/web/status/x" ∧
      ((FileStore.mk "kv").get "web/status/x" : Observed _).result aboveWeb = .ok none ∧
      pathFor ⟨"kv"⟩ "gone/x" = .ok "kv/gone/x" ∧
      ((FileStore.mk "kv").get "gone/x" : Observed _).result aboveWeb = .ok none ∧
      pathFor ⟨"kv"⟩ "web\x00" = .ok "kv/web\x00" ∧
      ((FileStore.mk "kv").get "web\x00" : Observed _).result aboveWeb =
        .error (.io .nulInName) := by
  have leads : aboveWeb.directory.LeadsTo "kv/web/status"
      ⟨.file (Utf8.encode "DEPLOYED"), [web, kv, work]⟩ :=
    ⟨⟨by decide +kernel, by decide +kernel⟩, .next (.enter (by decide) (by decide) rfl)
      (.next (.enter (by decide) (by decide) rfl)
        (.next (.enter (by decide) (by decide) rfl) (.here _)))⟩
  have below : aboveWeb.directory.StopsAt "kv/web/status/x"
      ⟨.file (Utf8.encode "DEPLOYED"), [web, kv, work]⟩ "x" :=
    ⟨⟨by decide +kernel, by decide +kernel⟩, ["kv", "web", "status"], [], rfl, leads.2⟩
  have missing : aboveWeb.directory.StopsAt "kv/gone/x" ⟨kv, [work]⟩ "gone" :=
    ⟨⟨by decide +kernel, by decide +kernel⟩, ["kv"], ["x"], rfl,
      .next (.enter (by decide) (by decide) rfl) (.here _)⟩
  refine ⟨rfl, ?_, rfl, ?_, rfl, ?_, rfl, ?_⟩
  · exact ((get_classified_by_path rfl aboveWeb).1 _).mpr ⟨rfl, _, leads⟩
  · exact (get_classified_by_path rfl aboveWeb).2.2.1.mpr (.belowFile below)
  · exact (get_classified_by_path rfl aboveWeb).2.2.1.mpr
      (.missing missing (by decide) (by decide) rfl)
  · exact ((get_classified_by_path rfl aboveWeb).2.1 _).mpr
      ⟨.nulInName, rfl, .nul (by decide +kernel)⟩

end FileStore

end StatusLookup
