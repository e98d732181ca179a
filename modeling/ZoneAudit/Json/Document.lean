import ZoneAudit.Json.Token

/-!
JSON documents: what a text says before it is read as something. A document keeps repeated members,
the spelling of numbers and texts that cannot be represented, so that a reader may refuse them where
they matter and skip them where they do not.
-/

namespace ZoneAudit.Json

inductive Document
  | null
  | bool (b : Bool)
  | number (n : Numeral)
  | text (s : Option String)
  | array (items : List Document)
  | object (members : List (Option String × Document))
  deriving Repr, Inhabited

namespace Document

/-- A container that is still open, with what it holds so far, last first. -/
inductive Frame
  | array (done : List Document)
  | object (done : List (Option String × Document)) (name : Option String)

mutual
/-- Reads a value that starts with the first token, inside the given open containers. -/
def value (frames : List Frame) : List Token → Option Document
  | .null :: r => next frames .null r
  | .bool b :: r => next frames (.bool b) r
  | .number n :: r => next frames (.number n) r
  | .text s :: r => next frames (.text s) r
  | .beginArray :: .endArray :: r => next frames (.array []) r
  | .beginArray :: r => value (.array [] :: frames) r
  | .beginObject :: .endObject :: r => next frames (.object []) r
  | .beginObject :: .text k :: .colon :: r => value (.object [] k :: frames) r
  | _ => none

/-- Goes on after a complete value. -/
def next : List Frame → Document → List Token → Option Document
  | [], d, [] => some d
  | .array done :: frames, d, .comma :: r => value (.array (d :: done) :: frames) r
  | .array done :: frames, d, .endArray :: r => next frames (.array (d :: done).reverse) r
  | .object done k :: frames, d, .comma :: .text l :: .colon :: r =>
    value (.object ((k, d) :: done) l :: frames) r
  | .object done k :: frames, d, .endObject :: r =>
    next frames (.object ((k, d) :: done).reverse) r
  | _, _, _ => none
end

def ofTokens? (tokens : List Token) : Option Document := value [] tokens

def parse? (s : String) : Option Document := (tokens? s).bind ofTokens?

end Document
end ZoneAudit.Json
