import ZoneAudit.Rule
import ZoneAudit.Address

/-!
Service locations, owned by a name that starts with a service and a protocol label.
-/

namespace ZoneAudit.Srv
open Text

/-- The four fields as written; the rules check their ranges. -/
structure Body where
  priority : String
  weight : String
  port : String
  target : String
  deriving DecidableEq, Repr

def parse? (data : String) : Option Body :=
  match words data.toList with
  | [priority, weight, port, target] =>
    some ⟨String.ofList priority, String.ofList weight, String.ofList port, String.ofList target⟩
  | _ => none

def Body.fields (b : Body) : List (List Char) :=
  [b.priority, b.weight, b.port, b.target].map String.toList

def Body.render (b : Body) : String := String.ofList ([' '].intercalate b.fields)

/-- The labels of the transports. -/
def protocols : List String := ["_tcp", "_udp", "_tls", "_sctp"]

inductive Fault
  | malformed
  | priority (written : String)
  | weight (written : String)
  | port (written : String)
  | service (name : String)
  deriving DecidableEq, Repr

def Fault.diagnostic : Fault → Diagnostic
  | .malformed => .error "Invalid SRV record format"
  | .priority s => (Diagnostic.error "Invalid priority value").note "priority" (.str s)
  | .weight s => (Diagnostic.error "Invalid weight value").note "weight" (.str s)
  | .port s => (Diagnostic.error "Invalid port number").note "port" (.str s)
  | .service s =>
    (Diagnostic.warning "Invalid service/protocol combination").note "name" (.str s)

/-- A rule on the parsed body, for which a body that does not parse is itself an error. -/
def onBody (check : Body → Record → Option Fault) : Rule := fun r _ =>
  match parse? r.data with
  | none => some Fault.malformed.diagnostic
  | some body => (check body r).map Fault.diagnostic

def format : Rule := onBody fun _ _ => none

def priority : Rule := onBody fun body _ =>
  if (uint16? body.priority.toList).isSome then none else some (.priority body.priority)

def weight : Rule := onBody fun body _ =>
  if (uint16? body.weight.toList).isSome then none else some (.weight body.weight)

def port : Rule := onBody fun body _ =>
  if Address.isPort body.port.toList then none else some (.port body.port)

/-- An underscore and at least one more character. -/
def isServiceLabel (label : List Char) : Bool := label.head? = some '_' && 2 ≤ label.length

def isProtocolLabel (label : List Char) : Bool :=
  protocols.any fun p => p.toList = lower label

def isServiceName (name : List Char) : Bool :=
  let labels := DomainName.labels name
  labels.head?.any isServiceLabel && labels[1]?.any isProtocolLabel

def service : Rule := onBody fun _ r =>
  if isServiceName r.name.toList then none else some (.service r.name)

def rules : List Rule := [format, priority, weight, port, service]

def report (r : Record) (z : Zone) : Report := .ofList (Rule.run rules r z)

def reportAll : List Record → Zone → Report := Rule.reportEach report

end ZoneAudit.Srv
