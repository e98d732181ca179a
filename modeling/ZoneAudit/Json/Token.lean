import ZoneAudit.Json.Value

/-!
The tokens of JSON text. The lexer is a machine that reads one character at a time; a numeral ends
where the next character does not continue it.
-/

namespace ZoneAudit.Json

/-- A numeral: all its digits as one number, of which the last `places` follow the point. -/
structure Numeral where
  negative : Bool
  digits : Nat
  places : Nat := 0
  power : Option Int := none
  deriving DecidableEq, Repr

/-- A text is `none` if its escapes name half of a surrogate pair, which no text can hold. -/
inductive Token
  | beginArray
  | endArray
  | beginObject
  | endObject
  | comma
  | colon
  | null
  | bool (b : Bool)
  | number (n : Numeral)
  | text (s : Option String)
  deriving DecidableEq, Repr

namespace Lexer

/-- What a text is made of: characters, and code units that were escaped. -/
inductive Piece
  | char (c : Char)
  | unit (n : Nat)
  deriving DecidableEq, Repr

/-- Where in a numeral the machine stands. -/
inductive Place
  | minus
  | zero
  | whole
  | point
  | fraction
  | power
  | powerSign (negative : Bool)
  | powerDigits (negative : Bool)
  deriving DecidableEq, Repr

inductive Mode
  | between
  /-- Inside one of the three words, with what is left of it. -/
  | word (token : Token) (left : List Char)
  | number (place : Place) (n : Numeral)
  /-- Inside a text; the pieces read so far, last first. -/
  | text (done : List Piece)
  | escape (done : List Piece)
  /-- After `\u`, with the hexadecimal digits read so far. -/
  | unit (done : List Piece) (digits : List Nat)
  deriving DecidableEq, Repr

/-- The text that pieces spell: a high and a low unit in a row are one character. -/
def spell : List Piece → Option (List Char)
  | [] => some []
  | .char c :: r => (spell r).map (c :: ·)
  | .unit n :: r =>
    if n < 0xD800 || 0xE000 ≤ n then (spell r).map (Char.ofNat n :: ·)
    else match r with
      | .unit m :: r' =>
        if n < 0xDC00 && 0xDC00 ≤ m && m < 0xE000 then
          (spell r').map (Char.ofNat (0x10000 + (n - 0xD800) * 0x400 + (m - 0xDC00)) :: ·)
        else none
      | _ => none

def hexValue? (c : Char) : Option Nat :=
  if c.isDigit then some (c.toNat - 0x30)
  else if 'a' ≤ c && c ≤ 'f' then some (c.toNat - 0x57)
  else if 'A' ≤ c && c ≤ 'F' then some (c.toNat - 0x37)
  else none

/-- The character that a single letter after a backslash stands for. -/
def escaped? (c : Char) : Option Char :=
  [('"', '"'), ('\\', '\\'), ('/', '/'), ('b', '\x08'), ('f', '\x0c'), ('n', '\n'), ('r', '\r'),
    ('t', '\t')].lookup c

/-- The first character of a token. -/
def start (c : Char) : Option (List Token × Mode) :=
  if c = ' ' || c = '\t' || c = '\n' || c = '\r' then some ([], .between)
  else if c = '[' then some ([.beginArray], .between)
  else if c = ']' then some ([.endArray], .between)
  else if c = '\x7b' then some ([.beginObject], .between)
  else if c = '\x7d' then some ([.endObject], .between)
  else if c = ',' then some ([.comma], .between)
  else if c = ':' then some ([.colon], .between)
  else if c = '"' then some ([], .text [])
  else if c = 'n' then some ([], .word .null "ull".toList)
  else if c = 't' then some ([], .word (.bool true) "rue".toList)
  else if c = 'f' then some ([], .word (.bool false) "alse".toList)
  else if c = '-' then some ([], .number .minus ⟨true, 0, 0, none⟩)
  else if c = '0' then some ([], .number .zero ⟨false, 0, 0, none⟩)
  else if c.isDigit then some ([], .number .whole ⟨false, c.toNat - 0x30, 0, none⟩)
  else none

/-- The numeral with one more digit. -/
def addDigit (n : Numeral) (c : Char) : Numeral :=
  { n with digits := 10 * n.digits + (c.toNat - 0x30) }

def addPlace (n : Numeral) (c : Char) : Numeral :=
  { n with digits := 10 * n.digits + (c.toNat - 0x30), places := n.places + 1 }

def addPower (negative : Bool) (n : Numeral) (c : Char) : Numeral :=
  let digit : Int := c.toNat - 0x30
  { n with power := some (10 * n.power.getD 0 + if negative then -digit else digit) }

/-- How a character continues a numeral; `none` if it does not. -/
def continue? (place : Place) (n : Numeral) (c : Char) : Option Mode :=
  match place with
  | .minus =>
    if c = '0' then some (.number .zero n)
    else if c.isDigit then some (.number .whole (addDigit n c))
    else none
  | .zero =>
    if c = '.' then some (.number .point n)
    else if c = 'e' || c = 'E' then some (.number .power n)
    else none
  | .whole =>
    if c.isDigit then some (.number .whole (addDigit n c))
    else if c = '.' then some (.number .point n)
    else if c = 'e' || c = 'E' then some (.number .power n)
    else none
  | .point => if c.isDigit then some (.number .fraction (addPlace n c)) else none
  | .fraction =>
    if c.isDigit then some (.number .fraction (addPlace n c))
    else if c = 'e' || c = 'E' then some (.number .power n)
    else none
  | .power =>
    if c = '-' then some (.number (.powerSign true) n)
    else if c = '+' then some (.number (.powerSign false) n)
    else if c.isDigit then some (.number (.powerDigits false) (addPower false n c))
    else none
  | .powerSign b => if c.isDigit then some (.number (.powerDigits b) (addPower b n c)) else none
  | .powerDigits b => if c.isDigit then some (.number (.powerDigits b) (addPower b n c)) else none

/-- Whether a numeral may end here. -/
def Place.complete : Place → Bool
  | .zero | .whole | .fraction | .powerDigits _ => true
  | .minus | .point | .power | .powerSign _ => false

def textToken (done : List Piece) : Token := .text ((spell done.reverse).map String.ofList)

/-- One character: the tokens that it completes and the mode that it leads to. -/
def step : Mode → Char → Option (List Token × Mode)
  | .between, c => start c
  | .word _ [], _ => none
  | .word t [d], c => if c = d then some ([t], .between) else none
  | .word t (d :: r), c => if c = d then some ([], .word t r) else none
  | .number place n, c =>
    match continue? place n c with
    | some mode => some ([], mode)
    | none =>
      if place.complete then (start c).map fun p => (.number n :: p.1, p.2) else none
  | .text done, c =>
    if c = '"' then some ([textToken done], .between)
    else if c = '\\' then some ([], .escape done)
    else if c.toNat < 0x20 then none
    else some ([], .text (.char c :: done))
  | .escape done, c =>
    if c = 'u' then some ([], .unit done [])
    else (escaped? c).map fun d => ([], .text (.char d :: done))
  | .unit done digits, c =>
    match hexValue? c, digits with
    | none, _ => none
    | some d, [x, y, z] => some ([], .text (.unit (((x * 16 + y) * 16 + z) * 16 + d) :: done))
    | some d, _ => some ([], .unit done (digits ++ [d]))

/-- What the end of the input completes. -/
def finish : Mode → Option (List Token)
  | .between => some []
  | .number place n => if place.complete then some [.number n] else none
  | _ => none

def run (mode : Mode) : List Char → Option (List Token)
  | [] => finish mode
  | c :: r => (step mode c).bind fun p => (run p.2 r).map (p.1 ++ ·)

end Lexer

def tokens? (s : String) : Option (List Token) := Lexer.run .between s.toList

end ZoneAudit.Json
