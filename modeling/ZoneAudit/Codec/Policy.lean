import ZoneAudit.Spf.Policy
import ZoneAudit.Dmarc.Policy
import ZoneAudit.Json.Shape

/-!
Sender and domain policies as JSON.
-/

namespace ZoneAudit
open Json

namespace Spf

namespace Qualifier

def name : Qualifier → String
  | pass => "pass"
  | fail => "fail"
  | softFail => "softfail"
  | neutral => "neutral"

def names : List (String × Qualifier) :=
  [("pass", pass), ("fail", fail), ("softfail", softFail), ("neutral", neutral)]

def toJson (q : Qualifier) : Json := .str q.name

end Qualifier

def Method.names : List (String × Method) := Method.list.map fun m => (m.name, m)

namespace Mechanism

def toJson (m : Mechanism) : Json :=
  let value := match m.value with
    | some s => [("value", Json.str s)]
    | none => []
  .obj ([("qualifier", m.qualifier.toJson), ("type", .str m.method.name)] ++ value)

def ofDocument? (d : Document) : Option Mechanism := do
  let field ← d.fields? ["qualifier", "type", "value"]
  return {
    qualifier := ← (field "qualifier").required (Document.choice? Qualifier.names)
    method := ← (field "type").required (Document.choice? Method.names)
    value := ← (field "value").optional Document.text? }

end Mechanism

namespace Policy

def toJson (p : Policy) : Json :=
  .obj [("version", .str p.version), ("mechanisms", .arr (p.mechanisms.map Mechanism.toJson))]

def ofDocument? (d : Document) : Option Policy := do
  let field ← d.fields? ["version", "mechanisms"]
  return {
    version := ← (field "version").required Document.text?
    mechanisms := ← (field "mechanisms").required (Document.list? Mechanism.ofDocument?) }

end Policy
end Spf

namespace Dmarc

def Disposition.toJson (d : Disposition) : Json := .str d.name

def Disposition.ofDocument? : Document → Option Disposition := Document.choice? Disposition.names

def Alignment.toJson (a : Alignment) : Json := .str a.name

def Alignment.ofDocument? : Document → Option Alignment := Document.choice? Alignment.names

namespace Policy

/-- A number, or null where there is none. -/
def numberJson : Option Int64 → Json
  | some n => .int n.toInt
  | none => .null

def listJson : Option (List String) → Json
  | some texts => .ofTexts texts
  | none => .null

def toJson (p : Policy) : Json :=
  .obj [("version", .str p.version), ("policy", .ofText? p.policy),
    ("subdomainPolicy", .ofText? p.subdomainPolicy), ("pct", numberJson p.pct),
    ("rua", listJson p.rua), ("ruf", listJson p.ruf), ("fo", listJson p.fo),
    ("aspf", .ofText? p.aspf), ("adkim", .ofText? p.adkim), ("ri", numberJson p.ri),
    ("rf", listJson p.rf)]

def fieldNames : List String :=
  ["version", "policy", "subdomainPolicy", "pct", "rua", "ruf", "fo", "aspf", "adkim", "ri", "rf"]

def ofDocument? (d : Document) : Option Policy := do
  let field ← d.fields? fieldNames
  let texts := Document.list? Document.text?
  return {
    version := ← (field "version").required Document.text?
    policy := ← (field "policy").optional Document.text?
    subdomainPolicy := ← (field "subdomainPolicy").optional Document.text?
    pct := ← (field "pct").optional Document.int64?
    rua := ← (field "rua").optional texts
    ruf := ← (field "ruf").optional texts
    fo := ← (field "fo").optional texts
    aspf := ← (field "aspf").optional Document.text?
    adkim := ← (field "adkim").optional Document.text?
    ri := ← (field "ri").optional Document.int64?
    rf := ← (field "rf").optional texts }

end Policy
end Dmarc
end ZoneAudit
