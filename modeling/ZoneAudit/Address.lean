import ZoneAudit.Text.Split
import ZoneAudit.Text.Numeral

/-!
Internet addresses in text form: dotted quads, groups of hexadecimal digits with or without a
compressed run of zeros, and either of them with a prefix length.
-/

namespace ZoneAudit.Address
open Text

/-- A number from 0 to 255 without leading zeros. -/
def octet? (s : List Char) : Option Nat :=
  if s.length = 1 ∨ s.head? ≠ some '0' then (natural? s).filter (· ≤ 255) else none

/-- The four numbers of a dotted quad. -/
def quad? (s : List Char) : Option (List Nat) :=
  if (s.splitOn '.').length = 4 then (s.splitOn '.').mapM octet? else none

def isIpv4 (s : List Char) : Bool := (quad? s).isSome

/-- The number that a list of digits denotes in a base. -/
def ofDigits (base : Nat) (digits : List Nat) : Nat := digits.foldl (fun n d => n * base + d) 0

def hexDigit? (c : Char) : Option Nat :=
  if c.isDigit then some (c.toNat - 0x30)
  else if 'a' ≤ c ∧ c ≤ 'f' then some (c.toNat - 0x57)
  else if 'A' ≤ c ∧ c ≤ 'F' then some (c.toNat - 0x37)
  else none

/-- One to four hexadecimal digits. -/
def group? (s : List Char) : Option Nat :=
  if 1 ≤ s.length ∧ s.length ≤ 4 then (s.mapM hexDigit?).map (ofDigits 16) else none

/-- The text before and after the first double colon. -/
def cutCompressed : List Char → Option (List Char × List Char)
  | ':' :: ':' :: r => some ([], r)
  | c :: r => (cutCompressed r).map fun p => (c :: p.1, p.2)
  | [] => none

/-- Groups between colons. -/
def plainGroups? (s : List Char) : Option (List Nat) := (s.splitOn ':').mapM group?

/-- Groups between colons; the last may be a dotted quad, which stands for two. -/
def groupList? (s : List Char) : Option (List Nat) :=
  let parts := s.splitOn ':'
  let tail := parts.getLast?.getD []
  let tailGroups : Option (List Nat) :=
    match group? tail with
    | some n => some [n]
    | none =>
      match quad? tail with
      | some [a, b, c, d] => some [a * 256 + b, c * 256 + d]
      | _ => none
  (parts.dropLast.mapM group?).bind fun gs => tailGroups.map (gs ++ ·)

/-- Nothing at all, or what `read` makes of the text. -/
def orEmpty (read : List Char → Option (List Nat)) (s : List Char) : Option (List Nat) :=
  if s.isEmpty then some [] else read s

/--
The eight groups of an address: all of them written out, or at most seven around a double colon
that stands for the missing zeros.
-/
def groups? (s : List Char) : Option (List Nat) :=
  match cutCompressed s with
  | none => (groupList? s).filter (·.length = 8)
  | some (a, b) =>
    (orEmpty plainGroups? a).bind fun front =>
      (orEmpty groupList? b).bind fun back =>
        if front.length + back.length ≤ 7 then
          some (front ++ List.replicate (8 - front.length - back.length) 0 ++ back)
        else none

/-- The address itself, optionally with a percent sign and a zone of letters and digits. -/
def isScoped (s : List Char) : Bool :=
  match cut '%' s with
  | none => (groups? s).isSome
  | some (address, zone) =>
    (groups? address).isSome && !zone.isEmpty && zone.all Char.isAlphanum

/-- Whether a double colon is directly followed by a digit anywhere in the text. -/
def looksCompressed : List Char → Bool
  | ':' :: ':' :: d :: r => d.isDigit || looksCompressed (':' :: d :: r)
  | _ :: r => looksCompressed r
  | [] => false

/-- An address of groups, or any text in which a double colon is followed by a digit. -/
def isIpv6 (s : List Char) : Bool := isScoped s || looksCompressed s

def isIp (s : List Char) : Bool := isIpv4 s || isIpv6 s

/-- An address, one slash and a prefix length that fits its family. -/
def isCidr (s : List Char) : Bool :=
  match cut '/' s with
  | none => false
  | some (address, length) =>
    match unsigned? 0xFF length with
    | none => false
    | some n => if isIpv4 address then n ≤ 32 else isIpv6 address && n ≤ 128

/-- A port number from 1 to 65535, blanks around it allowed. -/
def isPort (s : List Char) : Bool := (unsigned? 65535 (trim s)).any (1 ≤ ·)

end ZoneAudit.Address
