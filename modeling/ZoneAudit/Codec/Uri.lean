import ZoneAudit.Uri.Parser
import ZoneAudit.Json.Shape

/-!
The parts of a URI as JSON.
-/

namespace ZoneAudit.Uri
open Json

def toJson (u : Uri) : Json :=
  .obj [("scheme", .str u.scheme), ("userinfo", .ofText? u.userinfo), ("host", .str u.host),
    ("port", .ofText? u.port), ("path", .ofText? u.path), ("query", .ofText? u.query),
    ("fragment", .ofText? u.fragment)]

def ofDocument? (d : Document) : Option Uri := do
  let field ← d.fields? ["scheme", "userinfo", "host", "port", "path", "query", "fragment"]
  return {
    scheme := ← (field "scheme").required Document.text?
    userinfo := ← (field "userinfo").optional Document.text?
    host := ← (field "host").required Document.text?
    port := ← (field "port").optional Document.text?
    path := ← (field "path").optional Document.text?
    query := ← (field "query").optional Document.text?
    fragment := ← (field "fragment").optional Document.text? }

end ZoneAudit.Uri
