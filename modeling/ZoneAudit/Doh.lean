import ZoneAudit.Record
import ZoneAudit.Text.Quoted
import ZoneAudit.Json.Shape

/-!
Answers of resolvers that speak JSON over HTTPS, and the records in them.
-/

namespace ZoneAudit.Doh
open Json

/-- An answer as it is sent, its type still a number and its data still quoted. -/
structure Answer where
  name : String
  type : UInt16
  ttl : UInt32
  data : String
  deriving DecidableEq, Repr

namespace Answer

def toJson (a : Answer) : Json :=
  .obj [("name", .str a.name), ("type", .int a.type.toNat), ("TTL", .int a.ttl.toNat),
    ("data", .str a.data)]

def ofDocument? (d : Document) : Option Answer := do
  let field ← d.fields? ["name", "type", "TTL", "data"]
  return {
    name := ← (field "name").required Document.text?
    type := ← (field "type").required Document.uint16?
    ttl := ← (field "TTL").required Document.uint32?
    data := ← (field "data").required Document.text? }

/-- The record that an answer of a known type holds; only TXT data is unquoted. -/
def toRecord (a : Answer) : Except InputError Record :=
  (RecordType.ofCode a.type).map fun t =>
    { type := t, name := a.name, ttl := a.ttl
      data := if t = .txt then String.ofList (Text.Quoted.unquote a.data.toList) else a.data }

end Answer

/-- A response: a status code, zero for success, and the answers. -/
structure Response where
  status : UInt32
  answers : List Answer := []
  deriving DecidableEq, Repr

namespace Response

def toJson (r : Response) : Json :=
  .obj [("Status", .int r.status.toNat), ("Answer", .arr (r.answers.map Answer.toJson))]

def ofDocument? (d : Document) : Option Response := do
  let field ← d.fields? ["Status", "Answer"]
  return {
    status := ← (field "Status").required Document.uint32?
    answers := ← (field "Answer").withDefault [] (Document.list? Answer.ofDocument?) }

def ofJson (text : String) : Except InputError Response :=
  match (Document.parse? text).bind ofDocument? with
  | some r => .ok r
  | none => .error .invalidAnswer

/-- The records of a response in order; answers of unknown types are left out. -/
def records (r : Response) : List Record := r.answers.filterMap fun a => a.toRecord.toOption

end Response
end ZoneAudit.Doh
