import ZoneAudit.Rule
import ZoneAudit.Spf.Policy
import ZoneAudit.Address

/-!
The rules on sender policies, and the senders that are common enough to be known by name.
-/

namespace ZoneAudit.Spf
open Text

/-- A policy may cause at most this many look-ups. -/
def maxLookups : Nat := 10

/-- Parts of the names that large senders ask their customers to include. -/
def commonIncludes : List String := [
  "spf.protection.outlook.com", "_spf.google.com", "amazonses.com", "spf.mailjet.com",
  "sendgrid.net", "msgapp.com", "_spf.salesforce.com", "servers.mcsv.net", "spf.mandrillapp.com",
  "mail.zendesk.com", "postmarkapp.com", "sparkpostmail.com", "mailgun.org", "customeriomail.com",
  "exacttarget.com", "sendpulse.net", "sendinblue.com", "freshdesk.com", "helpscout.net",
  "intercom.io", "zoho.in", "outbound.sendowl.com", "spf.constant.contact.com",
  "spf.hubspotemail.net", "spf.smtp2go.com", "spf.messagingengine.com", "spf.moosend.com",
  "sp.frontapp.com", "spf.activecampaign.com", "mailsender.kayako.com", "spf.shopify.com",
  "spf.drift.com", "spf.convertkit.com", "spf.klaviyo.com", "spf.drip.com", "spf.returnpath.net",
  "_spf.protonmail.ch", "spf.socketlabs.com", "spf.mailerlite.com", "spf.uservoice.com"]

inductive Family
  | v4
  | v6
  deriving DecidableEq, Repr

namespace Family

def name : Family → String
  | v4 => "IPv4"
  | v6 => "IPv6"

def isAddress : Family → List Char → Bool
  | v4 => Address.isIpv4
  | v6 => Address.isIpv6

/-- An address of the family, alone or with a prefix length. -/
def accepts (f : Family) (value : List Char) : Bool :=
  if value.contains '/' then f.isAddress (before '/' value) && Address.isCidr value
  else f.isAddress value

end Family

/-- The family that the values of a method belong to. -/
def Method.family? : Method → Option Family
  | .ip4 => some .v4
  | .ip6 => some .v6
  | _ => none

inductive Fault
  | malformed
  | version (written : String)
  | missingAll
  | multiple (count : Nat)
  | address (family : Family) (method : Method) (value : String)
  | noProvider
  | pointer
  | lookups (count : Nat)
  deriving DecidableEq, Repr

def Fault.diagnostic : Fault → Diagnostic
  | .malformed => .error "Invalid SPF record format"
  | .version s => (Diagnostic.error "SPF version must be 'v=spf1'").note "version" (.str s)
  | .missingAll => .warning "SPF record should end with an 'all' mechanism"
  | .multiple n =>
    (Diagnostic.error
      "Multiple SPF records found - this may cause issues with email delivery").note "count"
      (.int n)
  | .address f m s =>
    ((Diagnostic.error
      ("Invalid " ++ f.name ++ " address or CIDR in SPF record: " ++ s)).note "mechanism"
      (.str m.name)).note "value" (.str s)
  | .noProvider => .info "No common email provider includes found in SPF record"
  | .pointer => .warning "PTR mechanism is deprecated and not recommended for use in SPF records"
  | .lookups n =>
    (Diagnostic.error ("SPF record exceeds " ++ toString maxLookups ++
      " DNS lookup limit (found " ++ toString n ++ ")")).note "lookups" (.int n)

/-- A rule on the parsed policy, silent on a body that does not parse. -/
def onPolicy (check : Policy → Option Fault) : Rule := fun r _ =>
  (parse? r.data).bind fun p => (check p).map Fault.diagnostic

theorem onPolicy_eq {r : Record} {p : Policy} (check : Policy → Option Fault)
    (h : parse? r.data = some p) (z : Zone) :
    onPolicy check r z = (check p).map Fault.diagnostic := by
  rw [onPolicy, h, Option.bind_some]

def form : Rule := fun r _ =>
  match parse? r.data with
  | none => some Fault.malformed.diagnostic
  | some p =>
    if p.version ≠ "v=spf1" then some (Fault.version p.version).diagnostic
    else if p.mechanisms.getLast?.any (·.method = .all) then none
    else some Fault.missingAll.diagnostic

/-- A zone publishes one sender policy. -/
def multiple : Rule := fun _ z =>
  if 1 < z.whole.countP isPolicy then some (Fault.multiple (z.whole.countP isPolicy)).diagnostic
  else none

/-- The fault of a mechanism whose value is no address of its family. -/
def addressFault? (m : Mechanism) : Option Fault :=
  match m.method.family?, m.value with
  | some f, some s => if f.accepts s.toList then none else some (.address f m.method s)
  | _, _ => none

def addresses : Rule := onPolicy fun p => p.mechanisms.findSome? addressFault?

def includesCommon (p : Policy) : Bool :=
  p.includes.any fun s => commonIncludes.any (contains · s.toList)

def senders : Rule := onPolicy fun p => if includesCommon p then none else some .noProvider

def pointers : Rule := onPolicy fun p =>
  if p.mechanisms.any (·.method = .ptr) then some .pointer else none

def lookupLimit : Rule := onPolicy fun p =>
  if maxLookups < p.lookups then some (.lookups p.lookups) else none

def rules : List Rule := [form, multiple, addresses, senders, pointers, lookupLimit]

def report (r : Record) (z : Zone) : Report := .ofList (Rule.run rules r z)

def reportAll : List Record → Zone → Report := Rule.reportEach report

end ZoneAudit.Spf
