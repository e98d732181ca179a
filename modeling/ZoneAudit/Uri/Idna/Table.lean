import ZoneAudit.Address

/-!
Packed tables of characters. A table is a list of lines with entries between spaces; code points are
written in hexadecimal, and a range as its first and last code point around a hyphen.
-/

namespace ZoneAudit.Uri.Idna
open Text

def code (s : List Char) : Nat := Address.ofDigits 16 (s.filterMap Address.hexDigit?)

def entries (lines : List String) : List (List Char) := lines.flatMap fun l => l.toList.splitOn ' '

/-- The two ends of a range; a single code point is both. -/
def readRange (s : List Char) : Nat × Nat :=
  match cut '-' s with
  | some (a, b) => (code a, code b)
  | none => (code s, code s)

def readRanges (lines : List String) : List (Nat × Nat) := (entries lines).map readRange

/-- Ranges with a word after an equals sign. -/
def readClasses (lines : List String) : List (Nat × Nat × String) :=
  (entries lines).filterMap fun e =>
    (cut '=' e).map fun p => ((readRange p.1).1, (readRange p.1).2, String.ofList p.2)

/-- The images of some code points in a row. -/
inductive Images
  /-- Every `step`-th code point from `first` to `last`, with images as far apart as they are. -/
  | run (first last step image : Nat)
  | list (first : Nat) (images : List (List Nat))
  deriving DecidableEq, Repr

namespace Images

/-- An entry `first-last=image`, `first~last=image` in steps of two, or `first=image,image,…`. -/
def read (key value : List Char) : Images :=
  match cut '-' key, cut '~' key with
  | some (a, b), _ => run (code a) (code b) 1 (code value)
  | none, some (a, b) => run (code a) (code b) 2 (code value)
  | none, none => list (code key) ((value.splitOn ',').map fun i => (i.splitOn '.').map code)

def image? (n : Nat) : Images → Option (List Nat)
  | run first last step image =>
    if first ≤ n ∧ n ≤ last ∧ (n - first) % step = 0 then some [n - first + image] else none
  | list first images => if first ≤ n then images[n - first]? else none

/-- The code points in the entry with their images. -/
def toList : Images → List (Nat × List Nat)
  | run first last step image =>
    (List.range ((last - first) / step + 1)).map fun i => (first + i * step, [image + i * step])
  | list first images => images.zipIdx.map fun p => (first + p.2, p.1)

end Images

def readImages (lines : List String) : List Images :=
  (entries lines).filterMap fun e => (cut '=' e).map fun p => Images.read p.1 p.2

def image? (table : List Images) (n : Nat) : Option (List Nat) := table.findSome? (·.image? n)

def within (ranges : List (Nat × Nat)) (n : Nat) : Bool := ranges.any fun r => r.1 ≤ n && n ≤ r.2

def class? (classes : List (Nat × Nat × String)) (n : Nat) : Option String :=
  (classes.find? fun r => r.1 ≤ n && n ≤ r.2.1).map (·.2.2)

end ZoneAudit.Uri.Idna
