import ZoneAudit.Rule
import ZoneAudit.Dmarc.Policy
import ZoneAudit.Spf.Policy
import ZoneAudit.Uri.Parser

/-!
The rules on domain policies, and the checks that a zone has exactly one.
-/

namespace ZoneAudit.Dmarc
open Text

/-- More addresses for aggregate reports than this are remarked on. -/
def maxAggregateUris : Nat := 2

/-- The seconds between aggregate reports: from an hour to a day. -/
def intervalBounds : Int × Int := (3600, 86400)

inductive Fault
  | missingBody
  | malformed
  | missingPolicy
  | policy (written : String)
  | spfAlignment
  | dkimAlignment
  | strictAlignment
  | tooManyAggregateUris (count : Nat)
  | aggregateUri (uri : String)
  | forensicUri (uri : String)
  | reportingOff
  | percentage (pct : Int64)
  | partialFiltering (pct : Int64)
  | subdomainPolicy
  | interval (ri : Int64)
  | lenient
  | multiple (count : Nat)
  | missingRecord
  deriving DecidableEq, Repr

def Fault.diagnostic : Fault → Diagnostic
  | .missingBody => .error "No DMARC record found at _dmarc subdomain"
  | .malformed => .error "Invalid DMARC record format"
  | .missingPolicy => .error "Missing required policy (p) tag"
  | .policy s =>
    (Diagnostic.error
      "Invalid policy value - must be 'none', 'quarantine', or 'reject'").note "policy" (.str s)
  | .spfAlignment =>
    .error "Invalid SPF alignment mode - must be 'r' (relaxed) or 's' (strict)"
  | .dkimAlignment =>
    .error "Invalid DKIM alignment mode - must be 'r' (relaxed) or 's' (strict)"
  | .strictAlignment => .warning "Strict alignment mode may cause legitimate emails to fail"
  | .tooManyAggregateUris n =>
    (Diagnostic.warning "Too many aggregate report URIs (maximum 2 recommended)").note "count"
      (.int n)
  | .aggregateUri s =>
    (Diagnostic.error ("Invalid aggregate report URI format: " ++ s)).note "uri" (.str s)
  | .forensicUri s =>
    (Diagnostic.error ("Forensic report URI must use mailto scheme: " ++ s)).note "uri" (.str s)
  | .reportingOff => .info "Consider enabling both aggregate (rua) and forensic (ruf) reporting"
  | .percentage n =>
    (Diagnostic.error "Invalid percentage - must be between 0 and 100").note "pct" (.int n.toInt)
  | .partialFiltering n =>
    (Diagnostic.warning ("Only " ++ String.ofList (signedDecimal n.toInt) ++
      "% of messages are subject to filtering")).note "pct" (.int n.toInt)
  | .subdomainPolicy =>
    .error "Invalid subdomain policy - must be 'none', 'quarantine', or 'reject'"
  | .interval n =>
    (Diagnostic.warning "Report interval should be between 1 hour and 24 hours").note "ri"
      (.int n.toInt)
  | .lenient =>
    .info ("Consider moving to a stricter policy ('quarantine' or 'reject') " ++
      "once email authentication is stable")
  | .multiple n => (Diagnostic.error "Multiple DMARC records found").note "count" (.int n)
  | .missingRecord => .warning "No DMARC record found at _dmarc subdomain"

/-- A rule on the parsed policy, silent on a body that does not parse. -/
def onPolicy (check : Policy → Option Fault) : Rule := fun r _ =>
  (parse? r.data).bind fun p => (check p).map Fault.diagnostic

def body : Rule := fun r _ =>
  if trim r.data.toList = [] then some Fault.missingBody.diagnostic else none

def structureFault? (p : Policy) : Option Fault :=
  match p.policy with
  | none => some .missingPolicy
  | some s => if (Disposition.ofName? s).isSome then none else some (.policy s)

def form : Rule := fun r _ =>
  match parse? r.data with
  | none => some Fault.malformed.diagnostic
  | some p => (structureFault? p).map Fault.diagnostic

def alignment : Rule := onPolicy fun p =>
  if p.aspf.isSome ∧ p.spfAlignment = none then some .spfAlignment
  else if p.adkim.isSome ∧ p.dkimAlignment = none then some .dkimAlignment
  else if p.spfAlignment = some .strict ∨ p.dkimAlignment = some .strict then
    some .strictAlignment
  else none

/-- Whether a text is a URI with one of the given schemes. -/
def hasScheme (schemes : List String) (s : String) : Bool :=
  (Uri.parse? s).any (schemes.contains ·.scheme)

def aggregateFault? (rua : List String) : Option Fault :=
  if maxAggregateUris < rua.length then some (.tooManyAggregateUris rua.length)
  else (rua.find? (!hasScheme ["mailto", "https"] ·)).map .aggregateUri

def forensicFault? (ruf : List String) : Option Fault :=
  (ruf.find? (!hasScheme ["mailto"] ·)).map .forensicUri

/-- The first problem with the addresses for reports. -/
def reporting : Rule := onPolicy fun p =>
  (p.rua.bind aggregateFault?) <|> (p.ruf.bind forensicFault?) <|>
    if p.rua = none ∨ p.ruf = none then some .reportingOff else none

def percentageFault? (pct : Int64) : Option Fault :=
  if pct.toInt < 0 ∨ 100 < pct.toInt then some (.percentage pct)
  else if pct.toInt < 100 then some (.partialFiltering pct)
  else none

def intervalFault? (ri : Int64) : Option Fault :=
  if ri.toInt < intervalBounds.1 ∨ intervalBounds.2 < ri.toInt then some (.interval ri) else none

/-- The first problem with the reach of the policy. -/
def settings : Rule := onPolicy fun p =>
  (p.pct.bind percentageFault?) <|>
    (if p.subdomainPolicy.isSome ∧ p.subdomainDisposition = none then some .subdomainPolicy
    else none) <|>
    (p.ri.bind intervalFault?) <|>
    if p.disposition = some .none then some .lenient else none

def rules : List Rule := [body, form, alignment, reporting, settings]

def report (r : Record) (z : Zone) : Report := .ofList (Rule.run rules r z)

def multiple (count : Nat) : Option Diagnostic :=
  if 1 < count then some (Fault.multiple count).diagnostic else none

/-- The reports of all records, then an error if there is more than one record. -/
def reportAll (rs : List Record) (z : Zone) : Report :=
  (multiple rs.length).toList.foldl Report.push (Rule.reportEach report rs z)

/-- Whether a record shows that the zone sends or receives mail. -/
def isMailRecord (r : Record) : Bool := r.type = .mx || Spf.isPolicy r

/-- A zone with mail among the records under audit should have a policy. -/
def missing (z : Zone) : Option Diagnostic :=
  if z.records.any isMailRecord && !z.whole.any (isDomainPolicy · z.domain) then
    some Fault.missingRecord.diagnostic
  else none

end ZoneAudit.Dmarc
