import ZoneAudit.Uri.Idna.ImageTable
import ZoneAudit.Uri.Idna.ContextTable
import ZoneAudit.Uri.Idna.Composition

/-!
Which texts may stand as labels of international host names.
-/

namespace ZoneAudit.Uri.Idna
open Text

def isAscii (s : List Char) : Bool := s.all (·.toNat < 0x80)

/-- What stands for a character in a host name; `none` for one that is refused. -/
def map? (c : Char) : Option (List Char) :=
  if c.toNat < 0x80 then some [c.toLower]
  else match image? images c.toNat with
    | some ns => some (ns.map Char.ofNat)
    | none =>
      if within dropped c.toNat then some []
      else if within refused c.toNat then none
      else some [c]

/-- A character that stands for itself. -/
def isStable (c : Char) : Bool := map? c = some [c]

/-- Whether a joiner may follow a text, given last character first: after a virama. -/
def followsVirama : List Char → Bool
  | c :: _ => combiningClass c.toNat = 9
  | [] => false

/-- The first character that joining does not look through is in one of the ranges. -/
def meetsJoining (ranges : List (Nat × Nat)) : List Char → Bool
  | [] => false
  | c :: r =>
    if within transparent c.toNat then meetsJoining ranges r else within ranges c.toNat

/-- Every joiner stands after a virama; a non-joiner may also break a joining of two letters. -/
def joinersFit (before : List Char) : List Char → Bool
  | [] => true
  | c :: r =>
    (if c = '\u200d' then followsVirama before
      else if c = '\u200c' then
        followsVirama before || (meetsJoining joinsNext before && meetsJoining joinsPrevious r)
      else true) && joinersFit (c :: before) r

/-- A text that can stand as a label: no mark comes first and all joiners are in their place. -/
def isLabel (s : List Char) : Bool :=
  isAscii s || (!(s.head?.any fun c => within marks c.toNat) && joinersFit [] s)

/-! Labels in a name with letters that are written from right to left. -/

def direction (c : Char) : String := (class? directions c.toNat).getD "L"

def isRightToLeft (s : List Char) : Bool :=
  s.any fun c => ["R", "AL", "AN"].contains (direction c)

/-- The classes in a label, and the last of them that is no mark. -/
def directionFits (s : List Char) : Bool :=
  let ds := s.map direction
  let final := ds.reverse.find? (· ≠ "NSM")
  match ds with
  | [] => true
  | "L" :: _ =>
    ds.all (["L", "EN", "ES", "CS", "ET", "ON", "BN", "NSM"].contains ·) &&
      final.any (["L", "EN"].contains ·)
  | d :: _ =>
    (d = "R" || d = "AL") &&
      ds.all (["R", "AL", "AN", "EN", "ES", "CS", "ET", "ON", "BN", "NSM"].contains ·) &&
      final.any (["R", "AL", "EN", "AN"].contains ·) &&
      !(ds.contains "EN" && ds.contains "AN")

/-- If one label is written from right to left, the directions in all of them must be clear. -/
def directionsFit (labels : List (List Char)) : Bool :=
  labels.all isAscii || !labels.any isRightToLeft || labels.all directionFits

end ZoneAudit.Uri.Idna
