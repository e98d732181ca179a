import ZoneAudit.Json.Value
import ZoneAudit.Text.Slug

/-!
Findings. The code of a finding is the slug of its message.
-/

namespace ZoneAudit

inductive Severity
  | error
  | warning
  | info
  deriving DecidableEq, Repr

structure Diagnostic where
  code : String
  message : String
  severity : Severity
  metadata : Option (List (String × Json)) := none
  recordIndex : Option Nat := none
  deriving DecidableEq, Repr

namespace Diagnostic

def of (severity : Severity) (message : String) : Diagnostic :=
  { code := Text.slug message, message, severity }

def error (message : String) : Diagnostic := of .error message

def warning (message : String) : Diagnostic := of .warning message

def info (message : String) : Diagnostic := of .info message

/-- Adds a detail; a second one of the same name replaces the first. -/
def note (d : Diagnostic) (name : String) (value : Json) : Diagnostic :=
  { d with metadata := some (Json.setMember name value (d.metadata.getD [])) }

/-- Attributes the finding to the record at a position. -/
def atRecord (d : Diagnostic) (index : Nat) : Diagnostic := { d with recordIndex := some index }

def isError (d : Diagnostic) : Bool := d.severity = .error

/-- The same finding with a warning raised to an error. -/
def promote (d : Diagnostic) : Diagnostic :=
  if d.severity = .warning then { d with severity := .error } else d

end Diagnostic
end ZoneAudit
