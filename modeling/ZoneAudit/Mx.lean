import ZoneAudit.Rule
import ZoneAudit.Address

/-!
Mail exchanges. Priority 0 is for the null exchange, whose target is the root; other targets are
public host names, and no two exchanges of a zone have the same priority.
-/

namespace ZoneAudit.Mx
open Text

/-- The target is in lower case and keeps its root dot. -/
structure Body where
  priority : UInt16
  target : String
  deriving DecidableEq, Repr

def parse? (data : String) : Option Body :=
  match words data.toList with
  | [priority, target] => (uint16? priority).map fun p => ⟨p, String.ofList (lower target)⟩
  | _ => none

def Body.fields (b : Body) : List (List Char) := [decimal b.priority.toNat, b.target.toList]

def Body.render (b : Body) : String := String.ofList ([' '].intercalate b.fields)

/-- Endings of names that are not routed in public. -/
def internalSuffixes : List String := [".local", ".internal", ".lan"]

inductive Fault
  | malformed
  | duplicatePriority (priority : UInt16)
  | reservedPriority (target : String)
  | addressTarget (target : String)
  | internalTarget (target : String)
  | selfTarget
  deriving DecidableEq, Repr

def Fault.diagnostic : Fault → Diagnostic
  | .malformed => .error "Invalid null MX format (RFC 7505)"
  | .duplicatePriority p =>
    (Diagnostic.warning "Duplicate MX priority found").note "priority" (.int p.toNat)
  | .reservedPriority t =>
    (Diagnostic.error "Invalid null MX format (RFC 7505)").note "target" (.str t)
  | .addressTarget t =>
    (Diagnostic.error "MX target should be a hostname, not an IP address").note "target" (.str t)
  | .internalTarget t =>
    (Diagnostic.warning "MX target appears to be an internal hostname").note "target" (.str t)
  | .selfTarget => .error "MX target should not point to itself"

/-- The priorities met so far on a walk through records. -/
structure Tracker where
  seen : List UInt16 := []
  deriving DecidableEq, Repr

def isMx (r : Record) : Bool := r.type = .mx

/-- Whether a zone has enough exchanges for their priorities to matter. -/
def tracked (z : Zone) : Bool := 1 < z.whole.countP isMx

/-- Reports a priority that was met before, and remembers the priority of this record. -/
def Tracker.check (t : Tracker) (r : Record) (z : Zone) : Option Diagnostic × Tracker :=
  if !tracked z then (none, t)
  else match parse? r.data with
    | none => (some Fault.malformed.diagnostic, t)
    | some body =>
      if t.seen.contains body.priority then
        (some (Fault.duplicatePriority body.priority).diagnostic, t)
      else (none, ⟨body.priority :: t.seen⟩)

def nullExchange : Rule := fun r _ =>
  match parse? r.data with
  | none => some Fault.malformed.diagnostic
  | some body =>
    if body.priority = 0 ∧ body.target ≠ "." then
      some (Fault.reservedPriority body.target).diagnostic
    else none

/-- A host name that only resolves inside a network. -/
def isInternal (target : List Char) : Bool :=
  target = "localhost".toList || internalSuffixes.any (endsWith · target)

def target : Rule := fun r _ =>
  match parse? r.data with
  | none => some Fault.malformed.diagnostic
  | some body =>
    let host := DomainName.normal body.target.toList
    if Address.isIp host then some (Fault.addressTarget (String.ofList host)).diagnostic
    else if isInternal host then some (Fault.internalTarget (String.ofList host)).diagnostic
    else if host = DomainName.normal r.name.toList then some Fault.selfTarget.diagnostic
    else none

/-- The rules that follow the look at the tracker. -/
def rules : List Rule := [nullExchange, target]

/-- The findings on a record, after the records that the tracker has seen. -/
def findings (t : Tracker) (r : Record) (z : Zone) : List Diagnostic :=
  (t.check r z).1.toList ++ Rule.run rules r z

/-- The report of one record on its own, which never repeats a priority. -/
def report (r : Record) (z : Zone) : Report := .ofList (findings {} r z)

/-- The reports of a run of records that share a tracker. -/
def reportsFrom (t : Tracker) (z : Zone) : List Record → List Report
  | [] => []
  | r :: rs => .ofList (findings t r z) :: reportsFrom (t.check r z).2 z rs

def reportAll (rs : List Record) (z : Zone) : Report := .combine (reportsFrom {} z rs)

end ZoneAudit.Mx
