import ZoneAudit.Json.Document
import ZoneAudit.Text.Numeral

/-!
Reading documents as values of a known shape. A record with named fields is read from an object, in
which unknown members are skipped and no known one may be repeated, or from an array that lists the
fields in order.
-/

namespace ZoneAudit.Json

/-- What a document says about a field. -/
inductive Slot
  | given (d : Document)
  /-- An object without such a member. -/
  | omitted
  /-- An array that ends before the field. -/
  | cutOff
  deriving Repr, Inhabited

namespace Slot

def required {α : Type} (read : Document → Option α) : Slot → Option α
  | .given d => read d
  | _ => none

/-- A field that an object may leave out, and null stands for nothing. -/
def optional {α : Type} (read : Document → Option α) : Slot → Option (Option α)
  | .given .null => some none
  | .given d => (read d).map some
  | .omitted => some none
  | .cutOff => none

/-- A field that objects and arrays may leave out. -/
def withDefault {α : Type} (fallback : α) (read : Document → Option α) : Slot → Option α
  | .given d => read d
  | _ => some fallback

end Slot

namespace Document

/-- A reader that takes null for nothing. -/
def orNull {α : Type} (read : Document → Option α) : Document → Option (Option α)
  | .null => some none
  | d => (read d).map some

/-- How often a member of that name is given. -/
def occurrences (name : String) (members : List (Option String × Document)) : Nat :=
  members.countP fun m => m.1 == some name

/-- The fields of a record: what the document says about each of the given names. -/
def fields? (names : List String) : Document → Option (String → Slot)
  | .object members =>
    if members.all (·.1.isSome) && names.all (occurrences · members ≤ 1) then
      some fun name => match members.lookup (some name) with
        | some d => .given d
        | none => .omitted
    else none
  | .array items =>
    if items.length ≤ names.length then
      some fun name => match items[names.idxOf name]? with
        | some d => .given d
        | none => .cutOff
    else none
  | _ => none

def bool? : Document → Option Bool
  | .bool b => some b
  | _ => none

def text? : Document → Option String
  | .text s => s
  | _ => none

def list? {α : Type} (read : Document → Option α) : Document → Option (List α)
  | .array items => items.mapM read
  | _ => none

/-- A word of a fixed vocabulary, alone or as the name of an object's only member, then null. -/
def choice? {α : Type} (table : List (String × α)) : Document → Option α
  | .text (some s) => table.lookup s
  | .object [(some k, .null)] => table.lookup k
  | _ => none

end Document

/-- The integer that a numeral without point and power denotes; minus zero is none. -/
def Numeral.integer? (n : Numeral) : Option Int :=
  if n.places = 0 ∧ n.power = none then
    if n.negative then (if n.digits = 0 then none else some (-(n.digits : Int)))
    else some n.digits
  else none

namespace Document

def integer? : Document → Option Int
  | .number n => n.integer?
  | _ => none

/-- An integer from 0 to `max`. -/
def natural? (max : Nat) (d : Document) : Option Nat :=
  d.integer?.bind fun n => if 0 ≤ n ∧ n ≤ max then some n.toNat else none

def uint16? (d : Document) : Option UInt16 := (d.natural? 0xFFFF).map UInt16.ofNat

def uint32? (d : Document) : Option UInt32 := (d.natural? 0xFFFFFFFF).map UInt32.ofNat

def int64? (d : Document) : Option Int64 := (d.integer?.filter Text.fitsInt64).map Int64.ofInt

end Document

/-- The least number that rounds to a power of two beyond all doubles. -/
def doubleLimit : Nat := Nat.pow 2 1024 - Nat.pow 2 970

/-- Whether a number is in the range of a double. Most often the count of its digits tells. -/
def fitsDouble (digits : Nat) (power : Int) : Bool :=
  let size := (Text.decimal digits).length + power
  digits = 0 || size < 309 ||
    (size = 309 && digits * Nat.pow 10 power.toNat < doubleLimit * Nat.pow 10 (-power).toNat)

/--
The value of a numeral: exact as an integer of 64 bits, signed or not, else a decimal in the range
of a double.
-/
def Numeral.json? (n : Numeral) : Option Json :=
  match n.integer?.filter fun i => Int64.minValue.toInt ≤ i ∧ i < UInt64.size with
  | some i => some (.int i)
  | none =>
    let power := n.power.getD 0 - n.places
    if fitsDouble n.digits power then some (.decimal n.negative n.digits power) else none

namespace Document

mutual
/-- The value of a document with at most `room` containers inside one another. -/
def json? (room : Nat) : Document → Option Json
  | .null => some .null
  | .bool b => some (.bool b)
  | .number n => n.json?
  | .text s => s.map .str
  | .array items =>
    match room with
    | 0 => none
    | room + 1 => (jsons? room items).map .arr
  | .object members =>
    match room with
    | 0 => none
    | room + 1 => (settings? room members).map fun s => .obj (ofSettings s)

def jsons? (room : Nat) : List Document → Option (List Json)
  | [] => some []
  | d :: r => (json? room d).bind fun j => (jsons? room r).map (j :: ·)

def settings? (room : Nat) : List (Option String × Document) → Option (List (String × Json))
  | [] => some []
  | (none, _) :: _ => none
  | (some k, d) :: r => (json? room d).bind fun j => (settings? room r).map ((k, j) :: ·)
end

/-- The deepest nesting of containers in a text of which everything is kept. -/
def depthLimit : Nat := 127

end Document
end ZoneAudit.Json
