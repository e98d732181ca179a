import ZoneAudit.Text.Blank
import ZoneAudit.Text.Case

/-!
Slugs: the lower case of a text with each run of blanks replaced by one underscore.
-/

namespace ZoneAudit.Text

/-- Replaces each run of blanks by one underscore, at the place where the run ends. -/
def joinBlanks : List Char → List Char
  | [] => []
  | [c] => [if isBlank c then '_' else c]
  | c :: d :: r =>
    if isBlank c then if isBlank d then joinBlanks (d :: r) else '_' :: joinBlanks (d :: r)
    else c :: joinBlanks (d :: r)

def slug (message : String) : String := String.ofList (joinBlanks (lower message.toList))

end ZoneAudit.Text
