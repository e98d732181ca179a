import ZoneAudit.Options
import ZoneAudit.Cname
import ZoneAudit.Mx
import ZoneAudit.Soa
import ZoneAudit.Spf.Rules
import ZoneAudit.Dmarc.Rules
import ZoneAudit.Srv
import ZoneAudit.Caa
import ZoneAudit.Ttl

/-!
The audit of a zone: every record is checked by the rules of its kind, then the zone as a whole.
Mail exchanges share one tracker over the whole walk.
-/

namespace ZoneAudit

/-- The kinds of records that have rules. -/
inductive Kind
  | cname
  | mx
  | soa
  | spf
  | dmarc
  | srv
  | caa
  deriving DecidableEq, Repr

namespace Kind

/-- The kind of a record; a TXT record may be a domain policy or else a sender policy. -/
def of? (domain : String) (r : Record) : Option Kind :=
  match r.type with
  | .cname => some cname
  | .mx => some mx
  | .soa => some soa
  | .txt =>
    if Dmarc.isPolicy r domain then some dmarc else if Spf.isPolicy r then some spf else none
  | .srv => some srv
  | .caa => some caa
  | _ => none

/-- The rules of a kind; those of mail exchanges come after a look at the tracker. -/
def rules : Kind → List Rule
  | cname => Cname.rules
  | mx => Mx.rules
  | soa => Soa.rules
  | spf => Spf.rules
  | dmarc => Dmarc.rules
  | srv => Srv.rules
  | caa => Caa.rules

/-- The report of one record by the rules of a kind, whatever the type of the record. -/
def report : Kind → Record → Zone → Report
  | cname => Cname.report
  | mx => Mx.report
  | soa => Soa.report
  | spf => Spf.report
  | dmarc => Dmarc.report
  | srv => Srv.report
  | caa => Caa.report

/-- The report of a set of records of one kind. -/
def reportAll : Kind → List Record → Zone → Report
  | cname => Cname.reportAll
  | mx => Mx.reportAll
  | soa => Soa.reportAll
  | spf => Spf.reportAll
  | dmarc => Dmarc.reportAll
  | srv => Srv.reportAll
  | caa => Caa.reportAll

end Kind

/-- The switches of an audit and the rules that its user adds for records of a type. -/
structure Audit where
  options : Options := {}
  customRules : List (RecordType × Rule) := []

namespace Audit

/-- The findings of the built-in rules for a record. -/
def builtin (z : Zone) (t : Mx.Tracker) (r : Record) : List Diagnostic :=
  match Kind.of? z.domain r with
  | some .mx => Mx.findings t r z
  | some k => Rule.run k.rules r z
  | none => []

/-- The tracker for the records after a record. -/
def trackerAfter (z : Zone) (t : Mx.Tracker) (r : Record) : Mx.Tracker :=
  if r.type = .mx then (t.check r z).2 else t

/-- The findings that best practices add for a record. -/
def advisories (a : Audit) (z : Zone) (r : Record) : List Diagnostic :=
  if a.options.checkBestPractices then
    (if r.type = .soa then (Soa.serialFormat r z).toList else []) ++ Rule.run Ttl.rules r z
  else []

/-- The findings of the added rules for the type of a record. -/
def custom (a : Audit) (z : Zone) (r : Record) : List Diagnostic :=
  Rule.run ((a.customRules.filter (·.1 = r.type)).map (·.2)) r z

/-- All findings on a record, in order. -/
def onRecord (a : Audit) (z : Zone) (t : Mx.Tracker) (r : Record) : List Diagnostic :=
  builtin z t r ++ a.advisories z r ++ a.custom z r

/-- The findings on a run of records that starts at a position, each with its position. -/
def walk (a : Audit) (z : Zone) (index : Nat) (t : Mx.Tracker) : List Record → List Diagnostic
  | [] => []
  | r :: rs =>
    (a.onRecord z t r).map (·.atRecord index) ++
      a.walk z (index + 1) (trackerAfter z t r) rs

/-- The findings on the zone as a whole. -/
def onZone (a : Audit) (z : Zone) : List Diagnostic :=
  [Soa.multiple (z.records.countP (·.type = .soa)),
    Dmarc.multiple (z.records.countP (Dmarc.isDomainPolicy · z.domain)),
    Dmarc.missing z, Caa.coverage z].filterMap id ++
    if a.options.checkBestPractices then Ttl.inconsistencies z.records else []

/-- All findings, those on records first. -/
def findings (a : Audit) (z : Zone) : List Diagnostic := a.walk z 0 {} z.records ++ a.onZone z

def report (a : Audit) (z : Zone) : Report :=
  .ofList (if a.options.strict then (a.findings z).map Diagnostic.promote else a.findings z)

end Audit
end ZoneAudit
