import ZoneAudit.Record
import ZoneAudit.TagList
import ZoneAudit.Text.Numeral

/-!
Domain policies: what receivers do with mail that fails authentication, and where they report it.
-/

namespace ZoneAudit.Dmarc
open Text

/-- What becomes of failing mail. -/
inductive Disposition
  | none
  | quarantine
  | reject
  deriving DecidableEq, Repr

namespace Disposition

def names : List (String × Disposition) :=
  [("none", none), ("quarantine", quarantine), ("reject", reject)]

def ofName? (s : String) : Option Disposition := names.lookup s

def name : Disposition → String
  | none => "none"
  | quarantine => "quarantine"
  | reject => "reject"

end Disposition

/-- How closely an authenticated name has to agree with the sender's. -/
inductive Alignment
  | relaxed
  | strict
  deriving DecidableEq, Repr

namespace Alignment

def names : List (String × Alignment) := [("r", relaxed), ("s", strict)]

def ofName? (s : String) : Option Alignment := names.lookup s

def name : Alignment → String
  | relaxed => "r"
  | strict => "s"

end Alignment

/-- The tags of a policy as written, so that rules can report bad ones. -/
structure Policy where
  version : String
  policy : Option String := none
  subdomainPolicy : Option String := none
  pct : Option Int64 := none
  rua : Option (List String) := none
  ruf : Option (List String) := none
  fo : Option (List String) := none
  aspf : Option String := none
  adkim : Option String := none
  ri : Option Int64 := none
  rf : Option (List String) := none
  deriving DecidableEq, Repr

/-- The trimmed items between separators. -/
def items (separator : Char) (s : String) : List String :=
  (s.toList.splitOn separator).map fun item => String.ofList (trim item)

/-- The policy that a look-up of tag values describes, if its version is right. -/
def ofTags? (value? : String → Option String) : Option Policy :=
  if value? "v" = some "DMARC1" then
    some {
      version := "DMARC1"
      policy := value? "p"
      subdomainPolicy := value? "sp"
      pct := (value? "pct").bind fun s => leadingInt? s.toList
      rua := (value? "rua").map (items ',')
      ruf := (value? "ruf").map (items ',')
      fo := (value? "fo").map (items ':')
      aspf := value? "aspf"
      adkim := value? "adkim"
      ri := (value? "ri").bind fun s => leadingInt? s.toList
      rf := (value? "rf").map (items ':') }
  else none

def parse? (data : String) : Option Policy := ofTags? (TagList.value? (TagList.entries data))

namespace Policy

def disposition (p : Policy) : Option Disposition := p.policy.bind Disposition.ofName?

def subdomainDisposition (p : Policy) : Option Disposition :=
  p.subdomainPolicy.bind Disposition.ofName?

def spfAlignment (p : Policy) : Option Alignment := p.aspf.bind Alignment.ofName?

def dkimAlignment (p : Policy) : Option Alignment := p.adkim.bind Alignment.ofName?

end Policy

/-- Whether a record is the policy of the domain itself: a TXT record at the name below it. -/
def isDomainPolicy (r : Record) (domain : String) : Bool :=
  r.type = .txt &&
    DomainName.normal r.name.toList = "_dmarc.".toList ++ DomainName.normal domain.toList

/-- Whether a record is a policy, by its name or by the version that it starts with. -/
def isPolicy (r : Record) (domain : String) : Bool :=
  isDomainPolicy r domain ||
    (r.type = .txt && startsWith "v=DMARC1" (trimStart r.data.toList))

end ZoneAudit.Dmarc
