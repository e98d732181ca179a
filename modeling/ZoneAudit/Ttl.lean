import ZoneAudit.Rule

/-!
Times to live: bounds for a single record, and agreement within a record set, which is all records
with the same owner and type.
-/

namespace ZoneAudit.Ttl

/-- Outside the tolerated bounds a time is an error, outside the recommended ones a warning. -/
structure Bounds where
  tolerated : Nat × Nat
  recommended : Nat × Nat

def bounds : Bounds := ⟨(60, 604800), (300, 86400)⟩

def units : List (Nat × String) := [(86400, "day"), (3600, "hour"), (60, "minute"), (1, "second")]

/-- A time in the largest unit that it reaches, rounded down. -/
def describe (seconds : Nat) : String :=
  match units.find? (·.1 ≤ seconds) with
  | some (size, unit) =>
    toString (seconds / size) ++ " " ++ unit ++ (if seconds / size = 1 then "" else "s")
  | none => toString seconds ++ " seconds"

inductive Fault
  | misconfigured (type : RecordType)
  | tooLow
  | tooHigh
  deriving DecidableEq, Repr

def Fault.diagnostic : Fault → Diagnostic
  | .misconfigured t =>
    (Diagnostic.error "Misconfigured TTL for record type").note "recordType" (.str t.mnemonic)
  | .tooLow =>
    (Diagnostic.warning "TTL value below recommended minimum").note "recommended"
      (.str (describe bounds.recommended.1))
  | .tooHigh =>
    (Diagnostic.warning "TTL value exceeds recommended maximum").note "recommended"
      (.str (describe bounds.recommended.2))

def fault? (t : RecordType) (seconds : Nat) : Option Fault :=
  if seconds < bounds.tolerated.1 ∨ bounds.tolerated.2 < seconds then some (.misconfigured t)
  else if seconds < bounds.recommended.1 then some .tooLow
  else if bounds.recommended.2 < seconds then some .tooHigh
  else none

def range : Rule := fun r _ =>
  (fault? r.type r.ttl.toNat).map fun f =>
    (f.diagnostic.note "ttl" (.int r.ttl.toNat)).note "formatted" (.str (describe r.ttl.toNat))

def rules : List Rule := [range]

def report (r : Record) (z : Zone) : Report := .ofList (Rule.run rules r z)

/-- What the records of one set have in common: the owner in normal form and the type. -/
abbrev Key := String × RecordType

def key (r : Record) : Key := (DomainName.shown r.name, r.type)

def inconsistent (k : Key) (ttls : List UInt32) : Diagnostic :=
  (((Diagnostic.warning "Inconsistent TTL values across record set").note "name" (.str k.1)).note
    "recordType" (.str k.2.mnemonic)).note "ttls" (.arr (ttls.map fun t => .int t.toNat))

/-- The times of a set, in the order of its records. -/
def ttlsOf (k : Key) (keyed : List (Key × UInt32)) : List UInt32 :=
  (keyed.filter (·.1 = k)).map (·.2)

/-- One warning for each record set with different times, by first appearance of the set. -/
def inconsistencies (rs : List Record) : List Diagnostic :=
  let keyed := rs.map fun r => (key r, r.ttl)
  (keyed.map (·.1)).eraseDups.filterMap fun k =>
    let ttls := ttlsOf k keyed
    if ttls.all (some · = ttls.head?) then none else some (inconsistent k ttls)

def reportAll (rs : List Record) (z : Zone) : Report :=
  (inconsistencies rs).foldl Report.push (Rule.reportEach report rs z)

end ZoneAudit.Ttl
