import ZoneAudit.Text.Split
import ZoneAudit.Text.Case

/-!
Domain names as written in zone data: labels between dots, compared without regard to case and to a
final root dot.
-/

namespace ZoneAudit.DomainName
open Text

def labels (name : List Char) : List (List Char) := name.splitOn '.'

/-- Letters, digits and inner hyphens, at most 63 of them. -/
def isLabel (label : List Char) : Bool :=
  label.length ≤ 63 && label.all (fun c => c.isAlphanum || c = '-') &&
    label.head?.any Char.isAlphanum && label.getLast?.any Char.isAlphanum

/-- A top label has two or more letters and nothing else. -/
def isTopLabel (label : List Char) : Bool := 2 ≤ label.length && label.all Char.isAlpha

/-- Two labels or more, the last of them a top label; no root dot. -/
def isValid (name : List Char) : Bool :=
  2 ≤ (labels name).length && (labels name).dropLast.all isLabel &&
    (labels name).getLast?.any isTopLabel

/-- Lower case without the root dot: the form in which names are compared. -/
def normal (name : List Char) : List Char := lower (dropFinal '.' name)

def isWildcard (name : List Char) : Bool := startsWith "*." name

/-- Whether two names are the same up to case and root dot. -/
def same (a b : String) : Bool := normal a.toList = normal b.toList

/-- The normal form of a name, as it is shown in findings. -/
def shown (name : String) : String := String.ofList (normal name.toList)

end ZoneAudit.DomainName
