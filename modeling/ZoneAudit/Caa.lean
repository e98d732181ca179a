import ZoneAudit.Rule
import ZoneAudit.Uri.Parser

/-!
Authorizations of certificate authorities: a flag byte, a property tag and its value.
-/

namespace ZoneAudit.Caa
open Text

/-- The tag is in lower case, the value without the quotation marks around it. -/
structure Body where
  flags : UInt8
  tag : String
  value : String
  deriving DecidableEq, Repr

/-- A text without the quotation marks at both of its ends. -/
def unquote (s : List Char) : List Char :=
  match s with
  | '"' :: r => if r.getLast? = some '"' then r.dropLast else s
  | _ => s

/-- The text up to the first blank and, if there is one, the text after it. -/
def cutBlank (s : List Char) : List Char × Option (List Char) :=
  (s.takeWhile (!isBlank ·), (s.dropWhile (!isBlank ·)).tail?)

/-- Two fields and a value, each of which ends at a single blank. -/
def parse? (data : String) : Option Body := do
  let (flags, rest) := cutBlank (trim data.toList)
  let flags ← uint8? flags
  let (tag, rest) := cutBlank (← rest)
  return ⟨flags, String.ofList (lower tag), String.ofList (unquote (trim (rest.getD [])))⟩

def tags : List String := ["issue", "issuewild", "iodef", "contactemail", "contactphone"]

/-- The domains of authorities that are in wide use. -/
def knownIssuers : List String := [
  "letsencrypt.org", "pki.goog", "digicert.com", "sectigo.com", "comodoca.com", "globalsign.com",
  "amazon.com", "amazontrust.com", "awstrust.com", "amazonaws.com", "zerossl.com", "buypass.com",
  "ssl.com", "entrust.net", "godaddy.com", "starfieldtech.com", "identrust.com", "certum.pl",
  "harica.gr", "microsoft.com"]

/-- The schemes that incidents can be reported to. -/
def reportSchemes : List String := ["mailto", "http", "https"]

inductive Fault
  | malformed
  | unknownTag (tag : String)
  | unknownIssuer (issuer : String)
  | reportTarget (value : String)
  | incompleteCoverage
  deriving DecidableEq, Repr

def Fault.diagnostic : Fault → Diagnostic
  | .malformed => .error "Invalid CAA tag format"
  | .unknownTag s => (Diagnostic.error "Invalid CAA tag format").note "tag" (.str s)
  | .unknownIssuer s =>
    (Diagnostic.info "Unknown Certificate Authority specified").note "issuer" (.str s)
  | .reportTarget s =>
    (Diagnostic.error "Invalid IODEF reporting configuration").note "value" (.str s)
  | .incompleteCoverage => .info "Incomplete CA coverage"

def tag : Rule := fun r _ =>
  match parse? r.data with
  | none => some Fault.malformed.diagnostic
  | some body =>
    if tags.contains body.tag then none else some (Fault.unknownTag body.tag).diagnostic

/-- A rule on the parsed body, silent on a body that does not parse. -/
def onBody (check : Body → Option Fault) : Rule := fun r _ =>
  (parse? r.data).bind fun body => (check body).map Fault.diagnostic

/-- The authority that a value names before its parameters. -/
def issuerOf (value : String) : String :=
  String.ofList (lower (trim (before ';' value.toList)))

def issuer : Rule := onBody fun body =>
  if body.tag ≠ "issue" ∧ body.tag ≠ "issuewild" then none
  else if issuerOf body.value = "" ∨ knownIssuers.contains (issuerOf body.value) then none
  else some (.unknownIssuer (issuerOf body.value))

def iodef : Rule := onBody fun body =>
  if body.tag ≠ "iodef" then none
  else if (Uri.parse? body.value).any (reportSchemes.contains ·.scheme) then none
  else some (.reportTarget body.value)

def rules : List Rule := [tag, issuer, iodef]

def report (r : Record) (z : Zone) : Report := .ofList (Rule.run rules r z)

def reportAll : List Record → Zone → Report := Rule.reportEach report

def isWildcard (r : Record) : Bool := DomainName.isWildcard r.name.toList

/-- Whether a record is an authorization with the given tag. -/
def hasTag (tag : String) (r : Record) : Bool := r.type = .caa && (parse? r.data).any (·.tag = tag)

/-- A zone with wildcard names that restricts issuance should say so for wildcards too. -/
def coverage (z : Zone) : Option Diagnostic :=
  if z.whole.any isWildcard && z.whole.any (hasTag "issue") &&
      !z.whole.any (hasTag "issuewild") then
    some Fault.incompleteCoverage.diagnostic
  else none

end ZoneAudit.Caa
