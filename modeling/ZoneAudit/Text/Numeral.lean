import ZoneAudit.Text.Blank

/-!
Whole numbers written in decimal. The strict readers take the whole text and refuse a number
outside their range; `leadingInt?` takes what a text begins with and ignores the rest.
-/

namespace ZoneAudit.Text

/-- One or more decimal digits, as a number of any size. -/
def natural? (s : List Char) : Option Nat :=
  if !s.isEmpty && s.all Char.isDigit then some (Nat.ofDigitChars 10 s 0) else none

/-- Digits after an optional plus sign, up to `max`. -/
def unsigned? (max : Nat) : List Char → Option Nat
  | '+' :: r => (natural? r).filter (· ≤ max)
  | s => (natural? s).filter (· ≤ max)

def uint8? (s : List Char) : Option UInt8 := (unsigned? 0xFF s).map UInt8.ofNat

def uint16? (s : List Char) : Option UInt16 := (unsigned? 0xFFFF s).map UInt16.ofNat

/-- Digits after an optional sign. -/
def integer? : List Char → Option Int
  | '-' :: r => (natural? r).map fun n => -(n : Int)
  | '+' :: r => (natural? r).map Int.ofNat
  | s => (natural? s).map Int.ofNat

/-- Whether a number fits a signed word of 64 bits. -/
def fitsInt64 (n : Int) : Bool := decide (Int64.minValue.toInt ≤ n ∧ n ≤ Int64.maxValue.toInt)

def int64? (s : List Char) : Option Int64 := ((integer? s).filter fitsInt64).map Int64.ofInt

/-- The number at the start of a text: blanks, an optional sign and the longest run of digits, if
there are any and they fit the type. -/
def leadingInt? (s : List Char) : Option Int64 :=
  let magnitude (r : List Char) : Option Nat :=
    (natural? (r.takeWhile Char.isDigit)).filter (fitsInt64 ·)
  match trimStart s with
  | '-' :: r => (magnitude r).map fun n => Int64.ofInt (-(n : Int))
  | '+' :: r => (magnitude r).map Int64.ofNat
  | r => (magnitude r).map Int64.ofNat

/-- A number in plain decimal digits. -/
def decimal (n : Nat) : List Char := Nat.toDigits 10 n

/-- A number in decimal digits with a minus sign where it is negative. -/
def signedDecimal : Int → List Char
  | .ofNat n => decimal n
  | .negSucc n => '-' :: decimal (n + 1)

@[simp] theorem natural?_nil : natural? [] = none := rfl

end ZoneAudit.Text
