import ZoneAudit.Json.Value
import ZoneAudit.Text.Numeral

/-!
The text of a JSON value, without blanks. Quotation marks, backslashes and control characters are
escaped, all other characters stand for themselves.
-/

namespace ZoneAudit.Json
open Text

def hexDigit (n : Nat) : Char := Char.ofNat (if n < 10 then 0x30 + n else 0x57 + n)

/-- A character as it stands between quotation marks. -/
def escape (c : Char) : List Char :=
  if c = '"' then ['\\', '"']
  else if c = '\\' then ['\\', '\\']
  else if c = '\x08' then ['\\', 'b']
  else if c = '\x0c' then ['\\', 'f']
  else if c = '\n' then ['\\', 'n']
  else if c = '\r' then ['\\', 'r']
  else if c = '\t' then ['\\', 't']
  else if c.toNat < 0x20 then
    ['\\', 'u', '0', '0', hexDigit (c.toNat / 16), hexDigit (c.toNat % 16)]
  else [c]

def printText (s : String) : List Char := '"' :: s.toList.flatMap escape ++ ['"']

mutual
def print : Json → List Char
  | .null => "null".toList
  | .bool true => "true".toList
  | .bool false => "false".toList
  | .int n => signedDecimal n
  | .decimal negative digits power =>
    (if negative then ['-'] else []) ++ Text.decimal digits ++ 'e' :: signedDecimal power
  | .str s => printText s
  | .arr items => '[' :: [','].intercalate (printItems items) ++ [']']
  | .obj members => '\x7b' :: [','].intercalate (printMembers members) ++ ['\x7d']

def printItems : List Json → List (List Char)
  | [] => []
  | j :: r => print j :: printItems r

def printMembers : List (String × Json) → List (List Char)
  | [] => []
  | (k, j) :: r => (printText k ++ ':' :: print j) :: printMembers r
end

def render (j : Json) : String := String.ofList (print j)

end ZoneAudit.Json
