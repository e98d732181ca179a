import ZoneAudit.Uri.Percent
import ZoneAudit.Uri.InternationalName

/-!
Hosts. In a special URI a host is an IPv6 address in brackets, an IPv4 address in any of its numeric
spellings, or a name in its ASCII form; in any other URI it is an opaque text.
-/

namespace ZoneAudit.Uri
open Text

inductive Host
  | name (s : List Char)
  | ipv4 (address : Nat)
  | ipv6 (groups : List Nat)
  deriving DecidableEq, Repr

namespace Host

/-- The start and length of the longest run of zeros, of equals the first; one zero is no run. -/
def longestZeros (groups : List Nat) : Option (Nat × Nat) :=
  (List.range groups.length).foldl (fun best start =>
    let length := ((groups.drop start).takeWhile (· = 0)).length
    if (best.map (·.2)).getD 1 < length then some (start, length) else best) none

def hexText (n : Nat) : List Char := Nat.toDigits 16 n

/-- Groups between colons, the longest run of zeros as a double colon. -/
def groupsText (groups : List Nat) : List Char :=
  let text (gs : List Nat) : List Char := [':'].intercalate (gs.map hexText)
  match longestZeros groups with
  | none => text groups
  | some (start, length) =>
    text (groups.take start) ++ [':', ':'] ++ text (groups.drop (start + length))

def quadText (address : Nat) : List Char :=
  ['.'].intercalate
    ([address / 0x1000000, address / 0x10000 % 0x100, address / 0x100 % 0x100,
      address % 0x100].map decimal)

def text : Host → List Char
  | name s => s
  | ipv4 n => quadText n
  | ipv6 gs => '[' :: groupsText gs ++ [']']

/-- A number in decimal, in octal after a zero, or in hexadecimal after `0x`. -/
def number? : List Char → Option Nat
  | [] => none
  | ['0'] => some 0
  | '0' :: c :: r =>
    if c = 'x' ∨ c = 'X' then (r.mapM Address.hexDigit?).map (Address.ofDigits 16)
    else if (c :: r).all fun d => '0' ≤ d && d ≤ '7' then
      some (Address.ofDigits 8 ((c :: r).map fun d => d.toNat - 0x30))
    else none
  | s => natural? s

/-- The parts between dots, without an empty one at the end. -/
def numericParts (s : List Char) : List (List Char) :=
  let parts := s.splitOn '.'
  if parts.getLast? = some [] then parts.dropLast else parts

/-- Whether the last part is a number, so that the host has to be an address. -/
def endsInNumber (s : List Char) : Bool :=
  match (numericParts s).getLast? with
  | none => false
  | some last => (!last.isEmpty && last.all Char.isDigit) || (number? last).isSome

/-- Up to four numbers; all but the last are single bytes and the last fills the bytes left. -/
def addressOf? (numbers : List Nat) : Option Nat :=
  let front := numbers.dropLast
  let last := numbers.getLast?.getD 0
  if numbers.length ≤ 4 ∧ front.all (· ≤ 255) ∧ last < Nat.pow 256 (5 - numbers.length) then
    some (Address.ofDigits 256 (front ++ List.replicate (4 - front.length) 0) + last)
  else none

def ipv4? (s : List Char) : Option Nat := ((numericParts s).mapM number?).bind addressOf?

/-- A host that starts with a bracket. -/
def bracketed? (s : List Char) : Option Host :=
  if s.getLast? = some ']' then (Address.groups? s.tail.dropLast).map ipv6 else none

/-- The host of a special URI. -/
def parse? (s : List Char) : Option Host :=
  if s.head? = some '[' then bracketed? s
  else
    ((Percent.decode? s).bind InternationalName.toAscii?).bind fun ascii =>
      if ascii.isEmpty then none
      else if endsInNumber ascii then (ipv4? ascii).map ipv4
      else some (name ascii)

/-- The characters that no opaque host contains. -/
def isForbidden (c : Char) : Bool := "\x00\t\n\r #/:<>?@[\\]^|".toList.contains c

/-- The host of any other URI. -/
def unresolved? (s : List Char) : Option Host :=
  if s.head? = some '[' then bracketed? s
  else if s.any isForbidden then none
  else some (name (Percent.encode Percent.controls s))

end Host
end ZoneAudit.Uri
