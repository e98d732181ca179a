import ZoneAudit.Mx
import ZoneAudit.Spf.Policy
import ZoneAudit.Json.Shape

/-!
Mail providers, recognised by the terms of sender policies and by the targets of mail exchanges.
-/

namespace ZoneAudit
open Json Text

inductive Provider
  | googleWorkspace
  | microsoft365
  | awsSes
  | zoho
  deriving DecidableEq, Repr

namespace Provider

def all : List Provider := [googleWorkspace, microsoft365, awsSes, zoho]

def displayName : Provider → String
  | googleWorkspace => "Google Workspace"
  | microsoft365 => "Microsoft 365"
  | awsSes => "Amazon SES"
  | zoho => "Zoho Mail"

def id : Provider → String
  | googleWorkspace => "googleWorkspace"
  | microsoft365 => "microsoft365"
  | awsSes => "awsSes"
  | zoho => "zoho"

def toJson (p : Provider) : Json := .str p.id

def ofDocument? : Document → Option Provider := Document.choice? (all.map fun p => (p.id, p))

/-- The domain that customers include in their sender policy. -/
def senderDomain : Provider → String
  | googleWorkspace => "_spf.google.com"
  | microsoft365 => "spf.protection.outlook.com"
  | awsSes => "amazonses.com"
  | zoho => "zoho.com"

/-- The term that includes it. -/
def senderTerm (p : Provider) : List Char := "include:".toList ++ p.senderDomain.toList

/-- A part of the names of the provider's mail exchanges, if it runs any. -/
def exchangeFragment? : Provider → Option String
  | googleWorkspace => some "aspmx.l.google.com"
  | microsoft365 => some ".mail.protection.outlook.com"
  | awsSes => none
  | zoho => some "mx.zoho.com"

/-- A term without any signs at its start. -/
def withoutSigns (term : List Char) : List Char :=
  term.dropWhile fun c => (Spf.Qualifier.ofChar? c).isSome

/-- The terms of all sender policies among the records, in lower case. -/
def policyTerms (rs : List Record) : List (List Char) :=
  (rs.filter Spf.isPolicy).flatMap fun r => (words r.data.toList).map lower

/-- The names of all mail exchanges among the records. -/
def exchangeNames (rs : List Record) : List (List Char) :=
  ((rs.filter Mx.isMx).filterMap fun r => Mx.parse? r.data).map fun mx =>
    DomainName.normal mx.target.toList

/-- Whether one of the terms is the provider's. -/
def sends (p : Provider) (terms : List (List Char)) : Bool :=
  terms.any (withoutSigns · = p.senderTerm)

/-- Whether one of the names is that of an exchange of the provider. -/
def receives (p : Provider) (names : List (List Char)) : Bool :=
  p.exchangeFragment?.any fun fragment => names.any (contains fragment)

/-- The providers that the records refer to, in a fixed order. -/
def detect (rs : List Record) : List Provider :=
  all.filter fun p => p.sends (policyTerms rs) || p.receives (exchangeNames rs)

end Provider
end ZoneAudit
