import ZoneAudit.Rule
import ZoneAudit.Text.Blank

/-!
Aliases. An alias points to another name, stands below the apex and shares its own name with nothing
but the signatures of the zone.
-/

namespace ZoneAudit.Cname

/-- The target in lower case, without the root dot. -/
structure Body where
  target : String
  deriving DecidableEq, Repr

def parse? (data : String) : Option Body :=
  let target := DomainName.normal (Text.trim data.toList)
  if DomainName.isValid target then some ⟨String.ofList target⟩ else none

/-- The types that may share their owner with an alias. -/
def coexisting : List RecordType := [.rrsig, .nsec, .nsec3, .dnskey]

/-- All types by the order of their mnemonics. -/
def alphabetical : List RecordType :=
  [.a, .aaaa, .caa, .cname, .dnskey, .mx, .ns, .nsec, .nsec3, .rrsig, .soa, .srv, .txt]

inductive Fault
  | malformed
  | selfTarget (target : String)
  | apex
  | coexistence (types : List RecordType)
  deriving DecidableEq, Repr

def Fault.diagnostic : Fault → Diagnostic
  | .malformed => .error "Invalid CNAME record format - target must be a valid domain name"
  | .selfTarget t =>
    (Diagnostic.error "CNAME target cannot point to itself").note "target" (.str t)
  | .apex =>
    .error "CNAME record not allowed at apex/root domain - use A/AAAA records instead"
  | .coexistence ts =>
    (Diagnostic.error "CNAME record cannot coexist with other record types for the same name").note
      "conflictingTypes" (.ofTexts (ts.map RecordType.mnemonic))

def format : Rule := fun r _ =>
  match parse? r.data with
  | none => some Fault.malformed.diagnostic
  | some body =>
    if body.target = DomainName.shown r.name then some (Fault.selfTarget body.target).diagnostic
    else none

def apex : Rule := fun r z =>
  if DomainName.same r.name z.domain then some Fault.apex.diagnostic else none

/-- The types besides aliases and signatures that the full zone has at a name. -/
def conflicts (name : String) (z : Zone) : List RecordType :=
  alphabetical.filter fun t =>
    t ≠ .cname && !coexisting.contains t &&
      (z.fullOfType t).any fun r => DomainName.same r.name name

def coexistence : Rule := fun r z =>
  match conflicts r.name z with
  | [] => none
  | ts => some (Fault.coexistence ts).diagnostic

def rules : List Rule := [format, apex, coexistence]

def report (r : Record) (z : Zone) : Report := .ofList (Rule.run rules r z)

def reportAll : List Record → Zone → Report := Rule.reportEach report

end ZoneAudit.Cname
