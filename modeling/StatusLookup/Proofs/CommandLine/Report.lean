import StatusLookup.Proofs.CommandLine.Outcome
import StatusLookup.Proofs.Status.Spelling
import StatusLookup.Status.FromJson

/-!
# What a report tells

A report is printed for programs. It is one line of JSON, an object with the deployment that was
asked for and its status, and both are read back as they were whatever characters the deployment is
made of. So no two answers look the same.
-/

namespace StatusLookup.CommandLine

/-- A JSON text that tells a deployment and its status, in this order, and nothing else. -/
def TellsStatus (text deployment : String) (s : Status) : Prop :=
  ∃ value, Json.Reads text
      (.object [("deployment_id", .string deployment), ("status", value)]) ∧
    Status.ofJson value = .ok s

variable (deployment : String) (s : Status)

theorem tellsStatus_report {text : String} {blanks : List Char}
    (spelled : text.toList = (report deployment s).toList ++ blanks)
    (blank : ∀ c ∈ blanks, Json.isSpace c = true) : TellsStatus text deployment s := by
  refine ⟨.string s.name, ?_, ?_⟩
  · have reads := Json.reads_writeObject (reported deployment s) blank
    rwa [← toList_report, ← spelled, String.ofList_toList] at reads
  · rw [Status.ofJson, s.parse_name false]

/-- What is printed as the report of a status is one line and tells the deployment and the status to
any reader of JSON. Two reports are the same text only when they tell the same. -/
theorem report_tells_status :
    (∀ (notices : Notices) (w : World) (args : List String) (options : Options),
        ofArguments args = .ok (options, .status deployment true) →
        Library.status w options.config deployment = .ok s →
        (run notices args : Observed _).result w = ⟨0, line (report deployment s), ""⟩) ∧
      (∀ c ∈ (report deployment s).toList, 0x20 ≤ c.toNat) ∧
      TellsStatus (report deployment s) deployment s ∧
      TellsStatus (line (report deployment s)) deployment s ∧
      ∀ deployment' s', report deployment s = report deployment' s' ↔
        deployment = deployment' ∧ s = s' := by
  refine ⟨?_, ?_, ?_, ?_, ?_⟩
  · intro notices w args options accepted found
    have yields := output_status_yields options w deployment true
    rw [found] at yields
    exact (run_yields notices accepted yields).result_eq
  · rw [toList_report]
    exact Json.isVisible_writeObject _
  · exact tellsStatus_report deployment s (List.append_nil _).symm (List.forall_mem_nil _)
  · refine tellsStatus_report deployment s (String.toList_append (t := "\n")) ?_
    exact List.all_eq_true.mp (by decide)
  · intro deployment' s'
    constructor
    · exact report_injective
    · rintro ⟨rfl, rfl⟩
      rfl

/-- A deployment whose name has quotes, controls and characters of several bytes in it. -/
theorem report_tells_status_escaped :
    let id := "a\"\\\n\x01é😀"
    let records := Tree.directory [(id, .directory [("status", .file (Utf8.encode "deployed"))])]
    let w : World := ⟨⟨.directory [("depstat.yml", .file (Utf8.encode "store:\n  root: kv\n")),
      ("kv", .directory [("_deployments", records)])], []⟩, .ok "/", []⟩
    ofArguments ["status", id, "--json"] = .ok (⟨none, false⟩, .status id true) ∧
      Library.status w none id = .ok .deployed ∧
      (run .silent ["status", id, "--json"] : Observed _).result w =
        ⟨0, line (report id .deployed), ""⟩ ∧
      report id .deployed =
        "\x7b\"deployment_id\":\"a\\\"\\\\\\n\\u0001é😀\",\"status\":\"DEPLOYED\"\x7d" ∧
      TellsStatus (line (report id .deployed)) id .deployed := by
  refine ⟨by decide +kernel, rfl, ?_, by decide +kernel, ?_⟩
  · exact (report_tells_status _ _).1 _ _ _ ⟨none, false⟩ (by decide +kernel) rfl
  · exact (report_tells_status _ _).2.2.2.1

end StatusLookup.CommandLine
