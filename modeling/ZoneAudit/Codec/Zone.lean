import ZoneAudit.Record
import ZoneAudit.Json.Shape

/-!
Records and zones as JSON.
-/

namespace ZoneAudit
open Json

def RecordType.mnemonics : List (String × RecordType) := RecordType.all.map fun t => (t.mnemonic, t)

def RecordType.toJson (t : RecordType) : Json := .str t.mnemonic

def RecordType.ofDocument? : Document → Option RecordType := Document.choice? RecordType.mnemonics

namespace Record

def toJson (r : Record) : Json :=
  .obj [("type", r.type.toJson), ("name", .str r.name), ("ttl", .int r.ttl.toNat),
    ("data", .str r.data)]

def ofDocument? (d : Document) : Option Record := do
  let field ← d.fields? ["type", "name", "ttl", "data"]
  return {
    type := ← (field "type").required RecordType.ofDocument?
    name := ← (field "name").required Document.text?
    ttl := ← (field "ttl").required Document.uint32?
    data := ← (field "data").required Document.text? }

end Record

namespace Zone

def toJson (z : Zone) : Json :=
  let known := match z.allRecords with
    | some rs => [("allRecords", Json.arr (rs.map Record.toJson))]
    | none => []
  .obj ([("domain", .str z.domain), ("records", .arr (z.records.map Record.toJson))] ++ known)

def ofDocument? (d : Document) : Option Zone := do
  let field ← d.fields? ["domain", "records", "allRecords"]
  let records := Document.list? Record.ofDocument?
  return {
    domain := ← (field "domain").required Document.text?
    records := ← (field "records").required records
    allRecords := ← (field "allRecords").withDefault none (Document.orNull records) }

end Zone
end ZoneAudit
