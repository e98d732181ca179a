import ZoneAudit.InputError
import ZoneAudit.Json.Shape

/-!
The switches of an audit.
-/

namespace ZoneAudit
open Json

structure Options where
  /-- Raise every warning to an error. -/
  strict : Bool := false
  /-- Also check times to live and the form of serial numbers. -/
  checkBestPractices : Bool := false
  deriving DecidableEq, Repr

namespace Options

def toJson (o : Options) : Json :=
  .obj [("strict", .bool o.strict), ("checkBestPractices", .bool o.checkBestPractices)]

/-- Switches that are not given are off. -/
def ofDocument? (d : Document) : Option Options := do
  let field ← d.fields? ["strict", "checkBestPractices"]
  return {
    strict := ← (field "strict").withDefault false Document.bool?
    checkBestPractices := ← (field "checkBestPractices").withDefault false Document.bool? }

def ofJson (text : String) : Except InputError Options :=
  match (Document.parse? text).bind ofDocument? with
  | some o => .ok o
  | none => .error .invalidOptions

end Options
end ZoneAudit
