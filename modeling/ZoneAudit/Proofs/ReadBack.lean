import Mathlib.Data.List.Basic
import Mathlib.Data.List.Nodup
import ZoneAudit.Json.Shape
import ZoneAudit.Proofs.PrintedText

/-!
Values read back from their documents. Each reader of a shape finds in the document of a value what
the value was made of: an integer in its range, the items of a list, a word of a vocabulary, the
fields of a record. A value that is kept as it is comes back unchanged if it is exact.
-/

namespace ZoneAudit.Json

theorem itemDocuments_eq (items : List Json) : itemDocuments items = items.map document := by
  induction items with
  | nil => rfl
  | cons j items ih => rw [itemDocuments, ih, List.map_cons]

theorem memberDocuments_eq (members : List (String × Json)) :
    memberDocuments members = members.map fun m => (some m.1, m.2.document) := by
  induction members with
  | nil => rfl
  | cons m members ih => rw [memberDocuments, ih, List.map_cons]

namespace Document

section

variable {α : Type}

/-- Items that are read back one by one are read back as a list. -/
theorem list?_document {read : Document → Option α} {f : α → Json} {xs : List α}
    (h : ∀ x ∈ xs, read (f x).document = some x) :
    list? read (Json.arr (xs.map f)).document = some xs := by
  rw [document, itemDocuments_eq, list?, List.map_map]
  induction xs with
  | nil => rfl
  | cons x xs ih =>
    have hx := h x (by simp)
    have hxs := ih fun y hy => h y (by simp [hy])
    simp [hx, hxs]

@[simp] theorem text?_document (s : String) : text? (Json.str s).document = some s := rfl

@[simp] theorem bool?_document (b : Bool) : bool? (Json.bool b).document = some b := rfl

@[simp] theorem texts?_document (ts : List String) :
    list? text? (Json.ofTexts ts).document = some ts :=
  list?_document fun s _ => text?_document s

@[simp] theorem choice?_document (table : List (String × α)) (s : String) :
    choice? table (Json.str s).document = table.lookup s := rfl

end

theorem integer?_ofInt (n : Int) : (Numeral.ofInt n).integer? = some n := by
  by_cases hn : n < 0
  · have hzero : n.natAbs ≠ 0 := by omega
    have habs : -(n.natAbs : Int) = n := by omega
    simp only [Numeral.ofInt, Numeral.integer?, hn, hzero, habs, decide_true, and_self, if_true,
      if_false]
  · have habs : (n.natAbs : Int) = n := by omega
    simp only [Numeral.ofInt, Numeral.integer?, hn, habs, decide_false, and_self, if_true,
      Bool.false_eq_true, if_false]

@[simp] theorem integer?_document (n : Int) : integer? (Json.int n).document = some n :=
  integer?_ofInt n

theorem natural?_document {max n : Nat} (h : n ≤ max) :
    natural? max (Json.int n).document = some n := by
  have hmax : (n : Int) ≤ max := by omega
  simp [natural?, hmax]

@[simp] theorem uint16?_document (n : UInt16) : uint16? (Json.int n.toNat).document = some n := by
  have hn : n.toNat ≤ 0xFFFF := by
    have := n.toNat_lt
    omega
  simp [uint16?, natural?_document hn]

@[simp] theorem uint32?_document (n : UInt32) : uint32? (Json.int n.toNat).document = some n := by
  have hn : n.toNat ≤ 0xFFFFFFFF := by
    have := n.toNat_lt
    omega
  simp [uint32?, natural?_document hn]

@[simp] theorem int64?_document (n : Int64) : int64? (Json.int n.toInt).document = some n := by
  have hn : Text.fitsInt64 n.toInt = true := by
    simp only [Text.fitsInt64, decide_eq_true_eq]
    exact ⟨Int64.minValue_le_toInt n, Int64.toInt_le n⟩
  simp [int64?, hn]

/-! Records. -/

/-- What the members of an object say about a field. -/
def slot (members : List (String × Json)) (name : String) : Slot :=
  match members.lookup name with
  | some j => .given j.document
  | none => .omitted

@[simp] theorem slot_nil (name : String) : slot [] name = .omitted := rfl

@[simp] theorem slot_cons_self (name : String) (j : Json) (members : List (String × Json)) :
    slot ((name, j) :: members) name = .given j.document := by simp [slot]

@[simp] theorem slot_cons_of_ne {name k : String} (h : name ≠ k) (j : Json)
    (members : List (String × Json)) : slot ((k, j) :: members) name = slot members name := by
  have hne : (name == k) = false := by simp [h]
  simp [slot, List.lookup_cons, hne]

theorem occurrences_document (name : String) (members : List (String × Json)) :
    occurrences name (memberDocuments members) = (members.map (·.1)).count name := by
  rw [occurrences, memberDocuments_eq, List.countP_map, List.count, List.countP_map]
  apply List.countP_congr
  intro m _
  simp

theorem lookup_document (name : String) (members : List (String × Json)) :
    (memberDocuments members).lookup (some name) = (members.lookup name).map document := by
  induction members with
  | nil => rfl
  | cons m members ih =>
    obtain ⟨k, j⟩ := m
    rw [memberDocuments, List.lookup_cons, List.lookup_cons, ih]
    by_cases hk : name = k
    · simp [hk]
    · have hne : (name == k) = false := by simp [hk]
      simp [hne]

/-- The fields of a record are what the members of its object say, each of them once. -/
theorem fields?_document (names : List String) {members : List (String × Json)}
    (h : (members.map (·.1)).Nodup) :
    fields? names (Json.obj members).document = some (slot members) := by
  have hnames : (memberDocuments members).all (·.1.isSome) = true := by
    rw [memberDocuments_eq]
    simp
  have honce : names.all (occurrences · (memberDocuments members) ≤ 1) = true := by
    simp only [occurrences_document, List.all_eq_true, decide_eq_true_eq]
    exact fun name _ => List.nodup_iff_count_le_one.1 h name
  rw [document, fields?, hnames, honce]
  simp only [Bool.and_self, if_true, Option.some.injEq]
  funext name
  rw [lookup_document, slot]
  cases members.lookup name <;> rfl

theorem document_ne_null {j : Json} (h : j ≠ .null) : j.document ≠ .null := by
  cases j <;> simp_all [document]

section

variable {α : Type} {read : Document → Option α} {j : Json} {x : α}

theorem orNull_document (hj : j ≠ .null) (h : read j.document = some x) :
    orNull read j.document = some (some x) := by
  rw [orNull, h, Option.map_some]
  exact document_ne_null hj

theorem optional_document (hj : j ≠ .null) (h : read j.document = some x) :
    (Slot.given j.document).optional read = some (some x) := by
  rw [Slot.optional, h, Option.map_some]
  exact document_ne_null hj

end

@[simp] theorem optional_null {α : Type} (read : Document → Option α) :
    (Slot.given Json.null.document).optional read = some none := rfl

@[simp] theorem optional_text (s? : Option String) :
    (Slot.given (Json.ofText? s?).document).optional text? = some s? := by
  cases s? <;> rfl

end Document

/-! Values that are kept as they are. -/

/-- What is read back as it was written: numbers are integers of 64 bits, the members of an object
differ in name, and containers nest at most so deep. -/
inductive Exact : Nat → Json → Prop
  | null {room : Nat} : Exact room .null
  | bool {room : Nat} (b : Bool) : Exact room (.bool b)
  | int {room : Nat} {n : Int} : Int64.minValue.toInt ≤ n → n < UInt64.size → Exact room (.int n)
  | str {room : Nat} (s : String) : Exact room (.str s)
  | arr {room : Nat} {items : List Json} : (∀ j ∈ items, Exact room j) →
    Exact (room + 1) (.arr items)
  | obj {room : Nat} {members : List (String × Json)} : (members.map (·.1)).Nodup →
    (∀ m ∈ members, Exact room m.2) → Exact (room + 1) (.obj members)

theorem Exact.mono {room room' : Nat} {j : Json} (h : Exact room j) (hroom : room ≤ room') :
    Exact room' j := by
  induction h generalizing room' with
  | null => exact .null
  | bool b => exact .bool b
  | int hmin hmax => exact .int hmin hmax
  | str s => exact .str s
  | arr _ ih =>
    obtain ⟨r, rfl⟩ : ∃ r, room' = r + 1 := ⟨room' - 1, by omega⟩
    exact .arr fun j hj => ih j hj (by omega)
  | obj hnames _ ih =>
    obtain ⟨r, rfl⟩ : ∃ r, room' = r + 1 := ⟨room' - 1, by omega⟩
    exact .obj hnames fun m hm => ih m hm (by omega)

theorem setMember_of_not_mem {name : String} (value : Json) {members : List (String × Json)}
    (h : name ∉ members.map (·.1)) : setMember name value members = members ++ [(name, value)] := by
  induction members with
  | nil => rfl
  | cons m members ih =>
    have hm : m.1 ≠ name := fun hm => h (by simp [hm])
    have hrest : name ∉ members.map (·.1) := fun hr => h (by simp [hr])
    rw [setMember, if_neg hm, ih hrest, List.cons_append]

/-- Settings of different names are all in force, in their order. -/
theorem ofSettings_of_nodup {settings : List (String × Json)}
    (h : (settings.map (·.1)).Nodup) : ofSettings settings = settings := by
  have hfold (members : List (String × Json)) (hall : ((members ++ settings).map (·.1)).Nodup) :
      settings.foldl (fun ms s => setMember s.1 s.2 ms) members = members ++ settings := by
    induction settings generalizing members with
    | nil => simp
    | cons s settings ih =>
      have hs : s.1 ∉ members.map (·.1) := by
        rw [List.map_append, List.nodup_append] at hall
        exact fun hmem => hall.2.2 s.1 hmem s.1 (by simp) rfl
      have hnext : ((members ++ [s] ++ settings).map (·.1)).Nodup := by simpa using hall
      have hrest : (settings.map (·.1)).Nodup := (List.nodup_cons.1 h).2
      rw [List.foldl_cons, setMember_of_not_mem s.2 hs, ih hrest _ hnext, List.append_assoc]
      rfl
  exact hfold [] h

namespace Document

theorem jsons?_documents {room : Nat} {items : List Json}
    (h : ∀ j ∈ items, json? room j.document = some j) :
    jsons? room (itemDocuments items) = some items := by
  induction items with
  | nil => rfl
  | cons j items ih =>
    have hj := h j (by simp)
    have hitems := ih fun i hi => h i (by simp [hi])
    simp [itemDocuments, jsons?, hj, hitems]

theorem settings?_documents {room : Nat} {members : List (String × Json)}
    (h : ∀ m ∈ members, json? room m.2.document = some m.2) :
    settings? room (memberDocuments members) = some members := by
  induction members with
  | nil => rfl
  | cons m members ih =>
    have hm := h m (by simp)
    have hmembers := ih fun i hi => h i (by simp [hi])
    simp [memberDocuments, settings?, hm, hmembers]

/-- An exact value is read back from its document. -/
theorem json?_document {room : Nat} {j : Json} (h : j.Exact room) :
    json? room j.document = some j := by
  induction h with
  | null => rfl
  | bool b => rfl
  | @int room n hmin hmax =>
    have hn : (Numeral.ofInt n).json? = some (.int n) := by
      have hrange : Int64.minValue.toInt ≤ n ∧ n < UInt64.size := ⟨hmin, hmax⟩
      simp only [Numeral.json?, integer?_ofInt, Option.filter_some, hrange, and_self, decide_true,
        if_true]
    rw [document, json?, hn]
  | str s => rfl
  | arr _ ih => rw [document, json?, jsons?_documents ih, Option.map_some]
  | obj hnames _ ih =>
    rw [document, json?, settings?_documents ih, Option.map_some, ofSettings_of_nodup hnames]

end Document
end ZoneAudit.Json
