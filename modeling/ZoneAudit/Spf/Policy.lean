import ZoneAudit.Record
import ZoneAudit.Text.Blank

/-!
Sender policies: a version and mechanisms, each of which names senders and the verdict on them.
-/

namespace ZoneAudit.Spf
open Text

/-- The verdict on a sender that a mechanism matches. -/
inductive Qualifier
  | pass
  | fail
  | softFail
  | neutral
  deriving DecidableEq, Repr

namespace Qualifier

def ofChar? : Char → Option Qualifier
  | '+' => some pass
  | '-' => some fail
  | '~' => some softFail
  | '?' => some neutral
  | _ => none

def symbol : Qualifier → Char
  | pass => '+'
  | fail => '-'
  | softFail => '~'
  | neutral => '?'

@[simp] theorem ofChar?_symbol (q : Qualifier) : ofChar? q.symbol = some q := by cases q <;> rfl

end Qualifier

/-- What a mechanism compares a sender with. -/
inductive Method
  | all
  | ip4
  | ip6
  | a
  | mx
  | ptr
  | existing
  | included
  deriving DecidableEq, Repr

namespace Method

def name : Method → String
  | all => "all"
  | ip4 => "ip4"
  | ip6 => "ip6"
  | a => "a"
  | mx => "mx"
  | ptr => "ptr"
  | existing => "exists"
  | included => "include"

def list : List Method := [all, ip4, ip6, a, mx, ptr, existing, included]

/-- Names are written in lower case only. -/
def ofName? (s : List Char) : Option Method := list.find? fun m => m.name.toList = s

/-- The look-ups that a mechanism counts for. -/
def cost : Method → Nat
  | a | mx | included | existing => 1
  | ptr => 2
  | all | ip4 | ip6 => 0

@[simp] theorem ofName?_name (m : Method) : ofName? m.name.toList = some m := by
  cases m <;> decide

end Method

structure Mechanism where
  qualifier : Qualifier
  method : Method
  value : Option String
  deriving DecidableEq, Repr

/-- A version, which is the first word, and the known mechanisms in their order. -/
structure Policy where
  version : String
  mechanisms : List Mechanism
  deriving DecidableEq, Repr

/-- Splits an optional qualifier off a term. -/
def qualified : List Char → Qualifier × List Char
  | [] => (.pass, [])
  | c :: r =>
    match Qualifier.ofChar? c with
    | some q => (q, r)
    | none => (.pass, c :: r)

/-- Reads a term as a mechanism; modifiers and unknown names are none. -/
def mechanism? (term : List Char) : Option Mechanism :=
  let (qualifier, rest) := qualified term
  match cut ':' rest with
  | some (name, value) =>
    (Method.ofName? name).map fun m => ⟨qualifier, m, some (String.ofList value)⟩
  | none => (Method.ofName? rest).map fun m => ⟨qualifier, m, none⟩

def parse? (data : String) : Option Policy :=
  match words data.toList with
  | version :: terms =>
    if startsWith "v=spf" version then
      some ⟨String.ofList version, terms.filterMap mechanism?⟩
    else none
  | [] => none

namespace Policy

/-- The values of the include mechanisms. -/
def includes (p : Policy) : List String :=
  (p.mechanisms.filter (·.method = .included)).filterMap (·.value)

def lookups (p : Policy) : Nat := (p.mechanisms.map (·.method.cost)).foldr (· + ·) 0

end Policy

/-- Whether a record holds a sender policy: a TXT record that starts with the version. -/
def isPolicy (r : Record) : Bool := r.type = .txt && startsWith "v=spf1" (trimStart r.data.toList)

end ZoneAudit.Spf
