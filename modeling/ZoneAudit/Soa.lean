import ZoneAudit.Rule
import ZoneAudit.Mailbox
import ZoneAudit.Text.Numeral

/-!
The start of authority of a zone: a responsible mailbox, a serial number, the primary server and the
time for which missing names are cached.
-/

namespace ZoneAudit.Soa
open Text

/-- `mname` is the primary server, `rname` the mailbox in the form of zone data. -/
structure Body where
  mname : String
  rname : String
  serial : Int64
  refresh : Int64
  retry : Int64
  expire : Int64
  minimum : Int64
  deriving DecidableEq, Repr

def parse? (data : String) : Option Body :=
  match words data.toList with
  | [mname, rname, serial, refresh, retry, expire, minimum] => do
    let serial ← int64? serial
    let refresh ← int64? refresh
    let retry ← int64? retry
    let expire ← int64? expire
    let minimum ← int64? minimum
    return ⟨String.ofList mname, String.ofList rname, serial, refresh, retry, expire, minimum⟩
  | _ => none

def Body.fields (b : Body) : List (List Char) :=
  [b.mname.toList, b.rname.toList] ++
    [b.serial, b.refresh, b.retry, b.expire, b.minimum].map (signedDecimal ·.toInt)

def Body.render (b : Body) : String := String.ofList ([' '].intercalate b.fields)

/-- The least and greatest caching time that is not remarked on. -/
def minimumBounds : Int × Int := (900, 86400)

inductive Fault
  | malformed
  | rnameWithoutDomain
  | rnameInvalid (rname : String)
  | serialOutOfRange (serial : Int64)
  | noNameServers
  | primaryUnlisted (mname : String)
  | minimumTooLow (minimum : Int64)
  | minimumTooHigh (minimum : Int64)
  | serialNotDated (serial : Int64)
  | serialNoDate (serial : Int64)
  | multiple (count : Nat)
  deriving DecidableEq, Repr

def Fault.diagnostic : Fault → Diagnostic
  | .malformed => .error "Invalid SOA record format"
  | .rnameWithoutDomain => .error "Invalid RNAME format: missing domain part"
  | .rnameInvalid s =>
    (Diagnostic.error "Invalid RNAME format: not a valid email address").note "rname" (.str s)
  | .serialOutOfRange n =>
    (Diagnostic.error "SOA serial number must be between 0 and 4294967295").note "serial"
      (.int n.toInt)
  | .noNameServers => .error "No NS records found to validate against SOA MNAME"
  | .primaryUnlisted s =>
    (Diagnostic.error "SOA MNAME must match one of the NS records").note "mname" (.str s)
  | .minimumTooLow n =>
    (Diagnostic.warning "SOA minimum TTL is less than recommended 15 minutes").note "minimum"
      (.int n.toInt)
  | .minimumTooHigh n =>
    (Diagnostic.warning "SOA minimum TTL exceeds recommended 24 hours").note "minimum"
      (.int n.toInt)
  | .serialNotDated n =>
    (Diagnostic.info "SOA serial number: recommended format is YYYYMMDDnn").note "serial"
      (.int n.toInt)
  | .serialNoDate n =>
    (Diagnostic.warning "SOA serial number: invalid date in YYYYMMDDnn format").note "serial"
      (.int n.toInt)
  | .multiple n =>
    (Diagnostic.error "Multiple SOA records found (only one allowed per zone)").note "count"
      (.int n)

/-- A rule on the parsed body, for which a body that does not parse is itself an error. -/
def onBody (check : Body → Zone → Option Fault) : Rule := fun r z =>
  match parse? r.data with
  | none => some Fault.malformed.diagnostic
  | some body => (check body z).map Fault.diagnostic

def rname : Rule := onBody fun body _ =>
  match Mailbox.ofRname? body.rname with
  | none => some .rnameWithoutDomain
  | some address =>
    if Mailbox.isValid address.toList then none else some (.rnameInvalid body.rname)

def serial : Rule := onBody fun body _ =>
  if 0 ≤ body.serial.toInt ∧ body.serial.toInt ≤ 4294967295 then none
  else some (.serialOutOfRange body.serial)

/-- The name servers of the full zone, in normal form. -/
def nameServers (z : Zone) : List (List Char) :=
  (z.fullOfType .ns).map fun r => DomainName.normal (trim r.data.toList)

def primary : Rule := onBody fun body z =>
  let mname := DomainName.normal body.mname.toList
  if nameServers z = [] then some .noNameServers
  else if (nameServers z).contains mname then none
  else some (.primaryUnlisted (String.ofList mname))

def minimum : Rule := onBody fun body _ =>
  if body.minimum.toInt < minimumBounds.1 then some (.minimumTooLow body.minimum)
  else if minimumBounds.2 < body.minimum.toInt then some (.minimumTooHigh body.minimum)
  else none

def isLeapYear (year : Int) : Bool := (year % 4 = 0 && year % 100 ≠ 0) || year % 400 = 0

def daysInMonth (year month : Int) : Int :=
  if month = 2 then if isLeapYear year then 29 else 28
  else if month = 4 ∨ month = 6 ∨ month = 9 ∨ month = 11 then 30
  else 31

/-- A day of the Gregorian calendar. -/
def isDate (year month day : Int) : Bool :=
  1 ≤ month && month ≤ 12 && 1 ≤ day && day ≤ daysInMonth year month

/-- A serial should read as year, month, day and two more digits. -/
def serialFault? (serial : Int64) : Option Fault :=
  let n := serial.toInt
  if n < 1000000000 ∨ 10000000000 ≤ n then some (.serialNotDated serial)
  else if isDate (n / 1000000) (n / 10000 % 100) (n / 100 % 100) then none
  else some (.serialNoDate serial)

/-- An advisory rule, silent on a body that does not parse. -/
def serialFormat : Rule := fun r _ =>
  (parse? r.data).bind fun body => (serialFault? body.serial).map Fault.diagnostic

def rules : List Rule := [rname, serial, primary, minimum]

def multiple (count : Nat) : Option Diagnostic :=
  if 1 < count then some (Fault.multiple count).diagnostic else none

def report (r : Record) (z : Zone) : Report := .ofList (Rule.run rules r z)

/-- The reports of all records, then an error if there is more than one record. -/
def reportAll (rs : List Record) (z : Zone) : Report :=
  (multiple rs.length).toList.foldl Report.push (Rule.reportEach report rs z)

end ZoneAudit.Soa
