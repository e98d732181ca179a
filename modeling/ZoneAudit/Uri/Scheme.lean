import ZoneAudit.Text.Split
import ZoneAudit.Uri.Fold

/-!
URI schemes. The special ones name hosts that can be reached by a known protocol.
-/

namespace ZoneAudit.Uri
open Text

inductive Scheme
  | file
  /-- A special scheme, with the port that it uses unless another one is given. -/
  | special (name : String) (port : Nat)
  | other (name : String)
  deriving DecidableEq, Repr

namespace Scheme

def specials : List (String × Nat) :=
  [("ftp", 21), ("http", 80), ("https", 443), ("ws", 80), ("wss", 443)]

def ofName (name : String) : Scheme :=
  if name = "file" then file
  else match specials.lookup name with
    | some port => special name port
    | none => other name

def name : Scheme → String
  | file => "file"
  | special s _ => s
  | other s => s

def isSpecial : Scheme → Bool
  | other _ => false
  | _ => true

def port? : Scheme → Option Nat
  | special _ n => some n
  | _ => none

@[simp] theorem name_ofName (s : String) : (ofName s).name = s := by
  unfold ofName
  split
  · next h => simp [name, h]
  · split <;> rfl

end Scheme

def isSchemeChar (c : Char) : Bool := c.isAlphanum || c = '+' || c = '-' || c = '.'

/-- The lower-case name before the first colon, which starts with a letter, and the rest. -/
def cutScheme (s : List Char) : Option (String × List Char) :=
  (cut ':' s).bind fun p =>
    let name := unfold p.1
    if name.head?.any Char.isAlpha && name.all isSchemeChar then
      some (String.ofList (name.map Char.toLower), p.2)
    else none

end ZoneAudit.Uri
