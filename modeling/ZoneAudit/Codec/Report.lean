import ZoneAudit.Report
import ZoneAudit.Json.Shape

/-!
Findings and reports as JSON.
-/

namespace ZoneAudit
open Json

namespace Severity

def name : Severity → String
  | error => "error"
  | warning => "warning"
  | info => "info"

def names : List (String × Severity) := [("error", error), ("warning", warning), ("info", info)]

def toJson (s : Severity) : Json := .str s.name

def ofDocument? : Document → Option Severity := Document.choice? names

end Severity

namespace Diagnostic

def toJson (d : Diagnostic) : Json :=
  let metadata := match d.metadata with
    | some members => [("metadata", Json.obj members)]
    | none => []
  let index := match d.recordIndex with
    | some n => [("recordIndex", Json.int n)]
    | none => []
  .obj ([("code", .str d.code), ("message", .str d.message), ("severity", d.severity.toJson)] ++
    metadata ++ index)

/-- Details by name, of which the last of several with one name counts. -/
def members? (room : Nat) : Document → Option (List (String × Json))
  | .object members => (Document.settings? room members).map ofSettings
  | _ => none

/-- `room` is how deep containers may nest from the finding on. -/
def ofDocument? (room : Nat) (d : Document) : Option Diagnostic := do
  let field ← d.fields? ["code", "message", "severity", "metadata", "recordIndex"]
  return {
    code := ← (field "code").required Document.text?
    message := ← (field "message").required Document.text?
    severity := ← (field "severity").required Severity.ofDocument?
    metadata := ← (field "metadata").withDefault none (Document.orNull (members? (room - 2)))
    recordIndex := ← (field "recordIndex").withDefault none
      (Document.orNull (Document.natural? (UInt64.size - 1))) }

end Diagnostic

namespace Report

def toJson (r : Report) : Json :=
  .obj [("isValid", .bool r.isValid), ("warnings", .arr (r.warnings.map Diagnostic.toJson)),
    ("errors", .arr (r.errors.map Diagnostic.toJson))]

def ofDocument? (room : Nat) (d : Document) : Option Report := do
  let field ← d.fields? ["isValid", "warnings", "errors"]
  let findings := Document.list? (Diagnostic.ofDocument? (room - 2))
  return {
    isValid := ← (field "isValid").required Document.bool?
    warnings := ← (field "warnings").required findings
    errors := ← (field "errors").required findings }

end Report
end ZoneAudit
