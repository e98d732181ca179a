/-!
JSON values. Members of an object keep the order in which they were set, one for each name.
-/

namespace ZoneAudit

inductive Json
  | null
  | bool (b : Bool)
  | int (n : Int)
  /-- The number `digits * 10 ^ power`, for numerals that no word of 64 bits holds exactly. -/
  | decimal (negative : Bool) (digits : Nat) (power : Int)
  | str (s : String)
  | arr (items : List Json)
  | obj (members : List (String × Json))
  deriving Repr, Inhabited

namespace Json

mutual
def decEq : (a b : Json) → Decidable (a = b)
  | .null, b => by cases b <;> first | exact isTrue rfl | exact isFalse (by simp)
  | .bool x, b => by
    cases b
    case bool y => exact decidable_of_iff (x = y) (by simp)
    all_goals exact isFalse (by simp)
  | .int x, b => by
    cases b
    case int y => exact decidable_of_iff (x = y) (by simp)
    all_goals exact isFalse (by simp)
  | .decimal x y z, b => by
    cases b
    case decimal x' y' z' => exact decidable_of_iff (x = x' ∧ y = y' ∧ z = z') (by simp)
    all_goals exact isFalse (by simp)
  | .str x, b => by
    cases b
    case str y => exact decidable_of_iff (x = y) (by simp)
    all_goals exact isFalse (by simp)
  | .arr x, b => by
    cases b
    case arr y =>
      have := decEqItems x y
      exact decidable_of_iff (x = y) (by simp)
    all_goals exact isFalse (by simp)
  | .obj x, b => by
    cases b
    case obj y =>
      have := decEqMembers x y
      exact decidable_of_iff (x = y) (by simp)
    all_goals exact isFalse (by simp)

def decEqItems : (a b : List Json) → Decidable (a = b)
  | [], [] => isTrue rfl
  | [], _ :: _ => isFalse (by simp)
  | _ :: _, [] => isFalse (by simp)
  | a :: r, b :: s =>
    have := decEq a b
    have := decEqItems r s
    decidable_of_iff (a = b ∧ r = s) (by simp)

def decEqMembers : (a b : List (String × Json)) → Decidable (a = b)
  | [], [] => isTrue rfl
  | [], _ :: _ => isFalse (by simp)
  | _ :: _, [] => isFalse (by simp)
  | (k, a) :: r, (l, b) :: s =>
    have := decEq a b
    have := decEqMembers r s
    decidable_of_iff (k = l ∧ a = b ∧ r = s) (by simp [and_assoc])
end

instance : DecidableEq Json := decEq

/-- Gives a member its value: in its place if the name is taken, at the end otherwise. -/
def setMember (name : String) (value : Json) : List (String × Json) → List (String × Json)
  | [] => [(name, value)]
  | (k, v) :: r => if k = name then (k, value) :: r else (k, v) :: setMember name value r

/-- The members that a list of settings leaves, the last setting of a name in force. -/
def ofSettings (settings : List (String × Json)) : List (String × Json) :=
  settings.foldl (fun members s => setMember s.1 s.2 members) []

/-- The text, or null where there is none. -/
def ofText? : Option String → Json
  | some s => .str s
  | none => .null

def ofTexts (texts : List String) : Json := .arr (texts.map .str)

end Json
end ZoneAudit
