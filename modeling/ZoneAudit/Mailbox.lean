import ZoneAudit.DomainName

/-!
Mailboxes: the form `local@domain`, and the form of zone data in which the first dot that is not
escaped stands for the at sign.
-/

namespace ZoneAudit.Mailbox
open Text

/-- The characters of a local part. -/
def isLocal (c : Char) : Bool :=
  c.isAlphanum || ".!#$%&*+/=?^_|~-".toList.contains c || c = '\x27' || c = '\x60' ||
    c = '\x7b' || c = '\x7d'

def isValid (s : List Char) : Bool :=
  match cut '@' s with
  | none => false
  | some (user, domain) =>
    !user.isEmpty && user.all isLocal && (DomainName.labels domain).all DomainName.isLabel

/-- The text on both sides of the first dot without a backslash before it that escapes it. -/
def cutUnescaped (escaped : Bool) : List Char → Option (List Char × List Char)
  | [] => none
  | c :: r =>
    if c = '.' && !escaped then some ([], r)
    else (cutUnescaped (c = '\\' && !escaped) r).map fun p => (c :: p.1, p.2)

/-- Drops the backslash directly before each dot. -/
def unescapeDots : List Char → List Char
  | '\\' :: '.' :: r => '.' :: unescapeDots r
  | c :: r => c :: unescapeDots r
  | [] => []

/-- The mailbox that a zone file's responsible name stands for; `none` without a dot to split at. -/
def ofRname? (rname : String) : Option String :=
  (cutUnescaped false (dropFinal '.' rname.toList)).map fun p =>
    String.ofList (unescapeDots p.1 ++ '@' :: p.2)

end ZoneAudit.Mailbox
