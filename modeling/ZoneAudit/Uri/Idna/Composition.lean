import ZoneAudit.Uri.Idna.CompositionTable

/-!
The canonical composed form of a text: marks after a character in the order of their classes, and
joined with the character where a composed one exists.
-/

namespace ZoneAudit.Uri.Idna
open Text

/-! Syllables of Hangul are composed by calculation. -/

def hangulBase : Nat := 0xAC00

def isSyllable (n : Nat) : Bool := hangulBase ≤ n && n < hangulBase + 11172

/-- A composed character in two parts. -/
def parts? (n : Nat) : Option (Nat × Nat) :=
  if isSyllable n then
    let s := n - hangulBase
    if s % 28 = 0 then some (0x1100 + s / 588, 0x1161 + s % 588 / 28)
    else some (n - s % 28, 0x11A7 + s % 28)
  else match image? pairs n with
    | some [a, b] => some (a, b)
    | _ => none

/-- The composed character of two parts. -/
def compose? (a b : Nat) : Option Nat :=
  if 0x1100 ≤ a ∧ a < 0x1113 ∧ 0x1161 ≤ b ∧ b < 0x1176 then
    some (hangulBase + (a - 0x1100) * 588 + (b - 0x1161) * 28)
  else if isSyllable a ∧ (a - hangulBase) % 28 = 0 ∧ 0x11A8 ≤ b ∧ b < 0x11C3 then
    some (a + (b - 0x11A7))
  else
    ((pairs.flatMap Images.toList).find? (·.2 = [a, b])).map (·.1)

def combiningClass (n : Nat) : Nat :=
  ((class? classes n).bind fun s => natural? s.toList).getD 0

/-- Takes each composed character apart, one step. -/
def expand (s : List Nat) : List Nat :=
  s.flatMap fun n => match parts? n with
    | some (a, b) => [a, b]
    | none => [n]

/-- No character is composed in more than four steps. -/
def decompose (s : List Nat) : List Nat := expand (expand (expand (expand s)))

/-- Puts a mark behind a text, given last character first, before all marks of higher classes. -/
def settle (n : Nat) : List Nat → List Nat
  | [] => [n]
  | m :: r =>
    if 0 < combiningClass n ∧ combiningClass n < combiningClass m then m :: settle n r
    else n :: m :: r

def orderMarks (s : List Nat) : List Nat := (s.foldl (fun done n => settle n done) []).reverse

/-- Joins the marks in `rest` with the character `base`, which the marks in `kept` follow. -/
def join (base : Nat) (kept : List Nat) : List Nat → List Nat
  | [] => base :: kept
  | n :: rest =>
    let blocked := kept.getLast?.any fun m => combiningClass n ≤ combiningClass m
    match if blocked then none else compose? base n with
    | some c => join c kept rest
    | none =>
      if combiningClass n = 0 then base :: kept ++ join n [] rest
      else join base (kept ++ [n]) rest

def joinMarks : List Nat → List Nat
  | [] => []
  | n :: rest => if combiningClass n = 0 then join n [] rest else n :: joinMarks rest

/-- The canonical composed form. -/
def normal (s : List Char) : List Char :=
  if s.all (·.toNat < 0x80) then s
  else (joinMarks (orderMarks (decompose (s.map Char.toNat)))).map Char.ofNat

end ZoneAudit.Uri.Idna
