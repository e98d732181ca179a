/-!
Punycode: a text beyond ASCII written with letters, digits and hyphens. The ASCII characters come
first; after the last hyphen follow, as numbers of variable length, the places of all others.
-/

namespace ZoneAudit.Uri.Punycode

def digit (n : Nat) : Char := Char.ofNat (if n < 26 then 0x61 + n else 0x30 + (n - 26))

def digit? (c : Char) : Option Nat :=
  if c.isDigit then some (c.toNat - 0x30 + 26)
  else if c.isAlpha then some (c.toLower.toNat - 0x61)
  else none

/-- A digit below the threshold of its place ends a number. -/
def threshold (place bias : Nat) : Nat :=
  if place ≤ bias then 1 else if bias + 26 ≤ place then 26 else place - bias

theorem threshold_pos (place bias : Nat) : 1 ≤ threshold place bias := by
  unfold threshold
  split
  · omega
  · split <;> omega

/-- Divides by 35 down to 455, adding 36 to a count each time. -/
def shrink (delta count : Nat) : Nat × Nat :=
  if 455 < delta then shrink (delta / 35) (count + 36) else (delta, count)
termination_by delta
decreasing_by omega

/-- The bias for the next number, from the last one and the characters placed so far. -/
def adapt (delta placed : Nat) (first : Bool) : Nat :=
  let delta := if first then delta / 700 else delta / 2
  let (delta, count) := shrink (delta + delta / placed) 0
  count + 36 * delta / (delta + 38)

/-- A number as digits from the given place on. -/
def number (bias place n : Nat) : List Char :=
  let t := threshold place bias
  if n < t then [digit n]
  else digit (t + (n - t) % (36 - t)) :: number bias (place + 36) ((n - t) / (36 - t))
termination_by n
decreasing_by
  have h := threshold_pos place bias
  have := Nat.div_le_self (n - threshold place bias) (36 - threshold place bias)
  omega

/-- The state of the encoder: distance since the last placed character, and how many are placed. -/
structure Encoder where
  text : List Char := []
  delta : Nat := 0
  bias : Nat := 72
  placed : Nat

/-- Passes a character while those equal to `n` are placed. -/
def Encoder.pass (basic n : Nat) (e : Encoder) (c : Char) : Encoder :=
  if c.toNat < n then { e with delta := e.delta + 1 }
  else if c.toNat = n then
    { text := e.text ++ number e.bias 36 e.delta, delta := 0,
      bias := adapt e.delta (e.placed + 1) (e.placed = basic), placed := e.placed + 1 }
  else e

/-- Places all characters whose codes are listed, in increasing order from `n` on. -/
def Encoder.run (s : List Char) (basic n : Nat) (e : Encoder) : List Nat → Encoder
  | [] => e
  | m :: ms =>
    let e := { e with delta := e.delta + (m - n) * (e.placed + 1) }
    let e := s.foldl (Encoder.pass basic m) e
    Encoder.run s basic (m + 1) { e with delta := e.delta + 1 } ms

def encode (s : List Char) : List Char :=
  let basic := s.filter (·.toNat < 0x80)
  let others := ((s.map Char.toNat).filter (0x80 ≤ ·)).eraseDups.mergeSort
  let e := Encoder.run s basic.length 0x80 { placed := basic.length } others
  basic ++ (if basic.isEmpty then [] else ['-']) ++ e.text

/-- The state of the decoder: the number that is being read and the place that it will lead to. -/
structure Decoder where
  text : List Char
  code : Nat := 0x80
  bias : Nat := 72
  /-- Where the last number led to, and the position with the digits read since. -/
  start : Nat := 0
  position : Nat := 0
  weight : Nat := 1
  place : Nat := 36

/--
Reads a digit; the last one of a number puts a character into the text. The weight of a digit fits a
word of 32 bits.
-/
def Decoder.read (d : Decoder) (n : Nat) : Option Decoder :=
  let position := d.position + n * d.weight
  let t := threshold d.place d.bias
  if n < t then
    let size := d.text.length + 1
    let code := d.code + position / size
    if code.isValidChar then
      some { text := d.text.insertIdx (position % size) (Char.ofNat code), code
             bias := adapt (position - d.start) size (d.start = 0)
             start := position % size + 1, position := position % size + 1 }
    else none
  else if UInt32.size ≤ d.weight * (36 - t) then none
  else some { d with position, weight := d.weight * (36 - t), place := d.place + 36 }

def Decoder.run (d : Decoder) : List Char → Option (List Char)
  | [] => if d.place = 36 then some d.text else none
  | c :: r => (digit? c).bind fun n => (d.read n).bind fun d => d.run r

/--
The text before the last hyphen and the text after it. All of it is after if there is no hyphen or
nothing before it.
-/
def cutBasic (s : List Char) : List Char × List Char :=
  let after := (s.reverse.takeWhile (· ≠ '-')).reverse
  let basic := (s.take (s.length - after.length)).dropLast
  if basic.isEmpty then ([], s) else (basic, after)

def decode? (s : List Char) : Option (List Char) :=
  Decoder.run { text := (cutBasic s).1 } (cutBasic s).2

end ZoneAudit.Uri.Punycode
