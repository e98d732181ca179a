import ZoneAudit.Address

/-!
Percent encoding: bytes of UTF-8 written as a percent sign and two hexadecimal digits. Each part of
a URI has its own set of characters that must be written so.
-/

namespace ZoneAudit.Uri.Percent

def hexDigit (n : Nat) : Char := Char.ofNat (if n < 10 then 0x30 + n else 0x37 + n)

def byte (b : UInt8) : List Char := ['%', hexDigit (b.toNat / 16), hexDigit (b.toNat % 16)]

/-- Writes the characters of a set in encoded form and leaves the others. -/
def encode (set : Char → Bool) (s : List Char) : List Char :=
  s.flatMap fun c => if set c then (String.utf8EncodeChar c).flatMap byte else [c]

/-- Control characters and everything beyond ASCII. -/
def controls (c : Char) : Bool := c.toNat < 0x20 || 0x7F ≤ c.toNat

def fragment (c : Char) : Bool := controls c || " \"<>`".toList.contains c

def path (c : Char) : Bool := fragment c || "#?\x7b\x7d".toList.contains c

def userinfo (c : Char) : Bool := path c || "/:;=@[\\]^|".toList.contains c

def query (c : Char) : Bool := controls c || " \"#<>".toList.contains c

def specialQuery (c : Char) : Bool := query c || c = '\x27'

/-- The bytes of a text, with each encoded byte replaced by itself. -/
def bytes : List Char → List UInt8
  | [] => []
  | '%' :: a :: b :: r =>
    match Address.hexDigit? a, Address.hexDigit? b with
    | some m, some n => UInt8.ofNat (m * 16 + n) :: bytes r
    | _, _ => '%'.toUInt8 :: bytes (a :: b :: r)
  | c :: r => String.utf8EncodeChar c ++ bytes r

/-- The text that the bytes spell; `none` if they are no UTF-8. -/
def decode? (s : List Char) : Option (List Char) :=
  if s.contains '%' then (String.fromUTF8? ⟨(bytes s).toArray⟩).map String.toList else some s

end ZoneAudit.Uri.Percent
