import Mathlib.Data.List.Basic
import Mathlib.Data.List.TakeWhile
import ZoneAudit.Proofs.Numerals

/-!
The number that a text begins with. There is one way to cut a text into blanks, a sign that may be
missing, digits and a rest, each taken as far as it goes. The lenient reader answers the number that
the sign and the digits denote, and nothing if there are no digits or they alone denote 2^63 or
more. It may as well read by bytes, where each cut has to fall between characters and the product of
sign and number has to fit a word: such a reading is never broken off and gives the same answer.
-/

namespace ZoneAudit.Text

/-- A sign in front of digits. -/
inductive Sign
  | plus
  | minus
  deriving DecidableEq, Repr

namespace Sign

def mark : Sign → Char
  | plus => '+'
  | minus => '-'

def ofChar? (c : Char) : Option Sign :=
  if c = '+' then some plus else if c = '-' then some minus else none

def ofByte? (b : UInt8) : Option Sign :=
  if b = 0x2B then some plus else if b = 0x2D then some minus else none

/-- What the number behind a sign is multiplied by. -/
def factor : Option Sign → Int64
  | some minus => -1
  | some plus | none => 1

theorem ofChar?_eq_some_iff {c : Char} {sign : Sign} : ofChar? c = some sign ↔ c = sign.mark := by
  cases sign <;> simp only [ofChar?, mark] <;> grind

theorem ofChar?_eq_none_iff {c : Char} : ofChar? c = none ↔ c ≠ '+' ∧ c ≠ '-' := by
  simp only [ofChar?]
  grind

/-- A sign is one byte, and no other character begins with that byte. -/
theorem ofByte?_head?_utf8EncodeChar (c : Char) :
    (String.utf8EncodeChar c).head?.bind ofByte? = ofChar? c := by
  have hplus : c = '+' ↔ c.toNat = 43 := by rw [← Char.toNat_inj]; rfl
  have hminus : c = '-' ↔ c.toNat = 45 := by rw [← Char.toNat_inj]; rfl
  have hbyte {n : Nat} (hn : n < 256) : ofByte? (UInt8.ofNat n) =
      if n = 43 then some plus else if n = 45 then some minus else none := by
    simp only [ofByte?, ← UInt8.toNat_inj, UInt8.toNat_ofNat_of_lt' (show n < UInt8.size from hn)]
    rfl
  have hval : c.val.toNat = c.toNat := rfl
  simp only [ofChar?, hplus, hminus, String.utf8EncodeChar, hval]
  split
  · rw [List.head?_cons, Option.bind_some, hbyte (by omega)]
  split
  · rw [List.head?_cons, Option.bind_some, hbyte (by omega)]
    grind
  split
  · rw [List.head?_cons, Option.bind_some, hbyte (by omega)]
    grind
  · rw [List.head?_cons, Option.bind_some, hbyte (by omega)]
    grind

theorem toInt_factor (sign : Option Sign) :
    (factor sign).toInt = 1 ∨ (factor sign).toInt = -1 := by
  rcases sign with _ | _ | _ <;> decide

end Sign

/-- The parts that a text may begin with, and what is left of it. -/
structure Lead where
  blanks : List Char
  sign : Option Sign
  digits : List Char
  rest : List Char
  deriving DecidableEq, Repr

namespace Lead

def mark (l : Lead) : List Char := (l.sign.map Sign.mark).toList

/-- The number that the digits denote, zero if there are none. -/
def magnitude (l : Lead) : Nat := Nat.ofDigitChars 10 l.digits 0

def value (l : Lead) : Int := (Sign.factor l.sign).toInt * l.magnitude

/-- The parts make up the text, and none of them could be longer. -/
structure Cuts (l : Lead) (s : List Char) : Prop where
  text : s = l.blanks ++ (l.mark ++ (l.digits ++ l.rest))
  blank : ∀ c ∈ l.blanks, isBlank c
  blanks_end : ∀ c ∈ (l.mark ++ (l.digits ++ l.rest)).head?, isBlank c = false
  sign_missing : l.sign = none → ∀ c ∈ (l.digits ++ l.rest).head?, c ≠ '+' ∧ c ≠ '-'
  isDigit : ∀ c ∈ l.digits, c.isDigit
  digits_end : ∀ c ∈ l.rest.head?, c.isDigit = false

/-- The parts of a text, taken one after the other. -/
def ofText (s : List Char) : Lead :=
  let sign := (trimStart s).head?.bind Sign.ofChar?
  let unsigned := (trimStart s).drop sign.toList.length
  ⟨s.takeWhile isBlank, sign, unsigned.takeWhile Char.isDigit, unsigned.dropWhile Char.isDigit⟩

end Lead

variable {s digits rest : List Char} {l : Lead} {n : Int64}

/-! The one cut of a text. -/

theorem head?_dropWhile {α : Type} {p : α → Bool} {xs : List α} :
    ∀ x ∈ (xs.dropWhile p).head?, p x = false := by
  intro x hx
  have h := List.head?_dropWhile_not p xs
  rwa [Option.mem_def.1 hx] at h

namespace Lead

theorem Cuts.trimStart_eq (h : l.Cuts s) : trimStart s = l.mark ++ (l.digits ++ l.rest) := by
  rw [trimStart, h.text]
  exact (span_append h.blank h.blanks_end).2

theorem Cuts.sign_eq (h : l.Cuts s) : (trimStart s).head?.bind Sign.ofChar? = l.sign := by
  rw [h.trimStart_eq, mark]
  cases hs : l.sign with
  | none =>
    simp only [Option.map_none, Option.toList_none, List.nil_append, Option.bind_eq_none_iff,
      Sign.ofChar?_eq_none_iff]
    exact h.sign_missing hs
  | some sign => exact Sign.ofChar?_eq_some_iff.2 rfl

theorem Cuts.eq_ofText (h : l.Cuts s) : l = ofText s := by
  have hblanks : s.takeWhile isBlank = l.blanks := by
    rw [h.text]
    exact (span_append h.blank h.blanks_end).1
  have hunsigned : (trimStart s).drop l.sign.toList.length = l.digits ++ l.rest := by
    rw [h.trimStart_eq, mark]
    cases l.sign <;> rfl
  obtain ⟨hdigits, hrest⟩ := span_append h.isDigit h.digits_end
  simp only [ofText, hblanks, h.sign_eq, hunsigned, hdigits, hrest]

theorem cuts_ofText (s : List Char) : (ofText s).Cuts s := by
  have hunsigned : (ofText s).digits ++ (ofText s).rest =
      (trimStart s).drop (ofText s).sign.toList.length := List.takeWhile_append_dropWhile
  have hsigned : (ofText s).mark ++ ((ofText s).digits ++ (ofText s).rest) = trimStart s := by
    rw [hunsigned, mark]
    cases hs : (ofText s).sign with
    | none => rfl
    | some sign =>
      obtain ⟨c, hc, hsign⟩ := Option.bind_eq_some_iff.1 hs
      obtain ⟨r, hr⟩ := List.head?_eq_some_iff.1 hc
      rw [hr, Sign.ofChar?_eq_some_iff.1 hsign]
      rfl
  constructor
  case text => rw [hsigned]; exact List.takeWhile_append_dropWhile.symm
  case blank => exact fun _ => List.mem_takeWhile_imp
  case blanks_end => rw [hsigned]; exact head?_dropWhile
  case sign_missing =>
    intro hs c hc
    rw [hunsigned, hs] at hc
    exact Sign.ofChar?_eq_none_iff.1 (Option.bind_eq_none_iff.1 hs c hc)
  case isDigit => exact fun _ => List.mem_takeWhile_imp
  case digits_end => exact head?_dropWhile

theorem cuts_iff : l.Cuts s ↔ l = ofText s :=
  ⟨Cuts.eq_ofText, fun h => h ▸ cuts_ofText s⟩

end Lead

/-! The number of a cut. -/

theorem int64?_of_isDigit (h : ∀ c ∈ digits, c.isDigit) :
    int64? digits = ((natural? digits).filter fun n : Nat => fitsInt64 n).map Int64.ofNat := by
  have hinteger : integer? digits = (natural? digits).map Int.ofNat := by
    unfold integer?
    split
    · exact absurd (h '-' (by simp)) (by decide)
    · exact absurd (h '+' (by simp)) (by decide)
    · rfl
  rw [int64?, hinteger]
  cases natural? digits with
  | none => rfl
  | some n =>
    simp only [Option.map_some, Option.filter_some, Int.ofNat_eq_natCast]
    split <;> rfl

namespace Lead

theorem Cuts.int64?_digits (h : l.Cuts s) :
    int64? l.digits =
      if l.digits = [] ∨ 9223372036854775807 < l.magnitude then none
      else some (Int64.ofNat l.magnitude) := by
  rw [int64?_of_isDigit h.isDigit]
  by_cases hnil : l.digits = []
  · simp [hnil]
  · have hread : natural? l.digits = some l.magnitude :=
      natural?_eq_some_iff.2 ⟨hnil, h.isDigit, rfl⟩
    have hfits : fitsInt64 l.magnitude ↔ ¬9223372036854775807 < l.magnitude :=
      fitsInt64_natCast.trans Nat.not_lt.symm
    simp only [hread, Option.filter_some, hfits, hnil, false_or, ite_not]
    split <;> rfl

theorem Cuts.toInt_eq_magnitude (h : l.Cuts s) (hn : int64? l.digits = some n) :
    n.toInt = l.magnitude := by
  rw [h.int64?_digits] at hn
  split at hn
  case isTrue => cases hn
  case isFalse hmax =>
    obtain rfl := Option.some.inj hn
    exact Int64.toInt_ofNat_of_lt (by omega)

/-- The lenient reader multiplies what the strict one makes of the digits. -/
theorem Cuts.leadingInt?_eq (h : l.Cuts s) :
    leadingInt? s = (int64? l.digits).map (Sign.factor l.sign * ·) := by
  have hdigits := takeWhile_isDigit h.isDigit h.digits_end
  rw [leadingInt?, h.trimStart_eq, mark, int64?_of_isDigit h.isDigit]
  cases hs : l.sign with
  | none =>
    have hmissing := h.sign_missing hs
    simp only [Option.map_none, Option.toList_none, List.nil_append]
    split
    case h_1 heq => exact absurd rfl (hmissing '-' (by rw [heq]; rfl)).2
    case h_2 heq => exact absurd rfl (hmissing '+' (by rw [heq]; rfl)).1
    case h_3 =>
      rw [hdigits, Option.map_map]
      exact Option.map_congr fun n _ => (Int64.one_mul _).symm
  | some sign =>
    cases sign with
    | plus =>
      simp only [Option.map_some, Option.toList_some, Sign.mark, List.singleton_append, hdigits,
        Option.map_map]
      exact Option.map_congr fun n _ => (Int64.one_mul _).symm
    | minus =>
      simp only [Option.map_some, Option.toList_some, Sign.mark, List.singleton_append, hdigits]
      cases (natural? l.digits).filter fun n : Nat => fitsInt64 n with
      | none => rfl
      | some n =>
        have hneg : Int64.ofInt (-(n : Int)) = -1 * Int64.ofNat n := by
          rw [Int64.ofInt_neg, Int64.ofInt_eq_ofNat, Int64.neg_eq_neg_one_mul]
        exact congrArg some hneg

end Lead

/-- A number that is not negative may change its sign within the word. -/
theorem toInt_factor_mul (sign : Option Sign) (hn : 0 ≤ n.toInt) :
    (Sign.factor sign * n).toInt = (Sign.factor sign).toInt * n.toInt := by
  have hmax := n.toInt_lt
  rw [Int64.toInt_mul]
  rcases Sign.toInt_factor sign with h | h
  · rw [h]
    exact Int.bmod_eq_of_le (by omega) (by omega)
  · rw [h]
    exact Int.bmod_eq_of_le (by omega) (by omega)

theorem Lead.Cuts.toInt_leadingInt? (h : l.Cuts s) :
    (leadingInt? s).map Int64.toInt =
      if l.digits = [] ∨ 9223372036854775807 < l.magnitude then none else some l.value := by
  rw [h.leadingInt?_eq]
  by_cases hnone : l.digits = [] ∨ 9223372036854775807 < l.magnitude
  · rw [h.int64?_digits, if_pos hnone, if_pos hnone]
    rfl
  · have hread : int64? l.digits = some (Int64.ofNat l.magnitude) := by
      rw [h.int64?_digits, if_neg hnone]
    have hn := h.toInt_eq_magnitude hread
    have hvalue : (Sign.factor l.sign * Int64.ofNat l.magnitude).toInt = l.value := by
      rw [toInt_factor_mul l.sign (by omega), hn, Lead.value]
    rw [hread, if_neg hnone, Option.map_some, Option.map_some, hvalue]

/-! The bytes. -/

/-- What breaks off a reading by bytes. -/
inductive Abort
  | insideCharacter
  | overflow
  deriving DecidableEq, Repr

/-- The text from a byte on. -/
def cutFrom (s : String) (p : String.Pos.Raw) : Except Abort String :=
  if h : p.IsValid s then .ok (s.sliceFrom (s.pos p h)).copy else .error .insideCharacter

/-- The text before a byte. -/
def cutTo (s : String) (p : String.Pos.Raw) : Except Abort String :=
  if h : p.IsValid s then .ok (s.sliceTo (s.pos p h)).copy else .error .insideCharacter

def product (a b : Int64) : Except Abort Int64 :=
  if fitsInt64 (a.toInt * b.toInt) then .ok (a * b) else .error .overflow

/-- The sign that the first byte of a text is. -/
def firstSign? (s : String) : Option Sign := s.toByteArray.data[0]?.bind Sign.ofByte?

def behindSign (s : String) : Except Abort String :=
  if (firstSign? s).isSome then cutFrom s ⟨1⟩ else .ok s

/-- The byte where the digits at the start of a text end. -/
def digitsEnd (s : String) : String.Pos.Raw :=
  match s.find? fun c : Char => !c.isDigit with
  | some p => p.offset
  | none => s.rawEndPos

/-- The number at the start of a text, read by bytes. -/
def leadingIntByBytes (s : String) : Except Abort (Option Int64) := do
  let t := String.ofList (trimStart s.toList)
  let unsigned ← behindSign t
  let digits ← cutTo unsigned (digitsEnd unsigned)
  match int64? digits.toList with
  | some n => some <$> product (Sign.factor (firstSign? t)) n
  | none => pure none

theorem isValid_rawEndPos_append (s t : String) : s.rawEndPos.IsValid (s ++ t) :=
  String.Pos.Raw.isValid_iff_exists_append.2 ⟨s, t, rfl, rfl⟩

theorem cutFrom_append (s t : String) : cutFrom (s ++ t) s.rawEndPos = .ok t := by
  rw [cutFrom, dif_pos (isValid_rawEndPos_append s t),
    String.Pos.splits_append_rawEndPos.copy_sliceFrom_eq]

theorem cutTo_append (s t : String) : cutTo (s ++ t) s.rawEndPos = .ok s := by
  rw [cutTo, dif_pos (isValid_rawEndPos_append s t),
    String.Pos.splits_append_rawEndPos.copy_sliceTo_eq]

theorem product_factor (sign : Option Sign) (hn : 0 ≤ n.toInt) :
    product (Sign.factor sign) n = .ok (Sign.factor sign * n) := by
  rw [product, ← toInt_factor_mul sign hn, if_pos (fitsInt64_toInt _)]

theorem firstSign?_ofList (s : List Char) :
    firstSign? (String.ofList s) = s.head?.bind Sign.ofChar? := by
  rw [firstSign?, String.toByteArray_ofList]
  cases s with
  | nil => rfl
  | cons c s =>
    rw [List.utf8Encode, List.flatMap_cons, List.head?_cons, Option.bind_some,
      ← Sign.ofByte?_head?_utf8EncodeChar, List.data_toByteArray, List.getElem?_toArray,
      ← List.head?_eq_getElem?, List.head?_append_of_ne_nil _ String.utf8EncodeChar_ne_nil]

theorem digitsEnd_append (hdigits : ∀ c ∈ digits, c.isDigit)
    (hrest : ∀ c ∈ rest.head?, c.isDigit = false) :
    digitsEnd (String.ofList digits ++ String.ofList rest) = (String.ofList digits).rawEndPos := by
  have hbefore : ∀ c ∈ (String.ofList digits).toList, (!c.isDigit) = false := by
    intro c hc
    rw [String.toList_ofList] at hc
    rw [hdigits c hc, Bool.not_true]
  cases rest with
  | nil =>
    have hnone : (String.ofList digits ++ "").find? (fun c : Char => !c.isDigit) = none := by
      refine Option.eq_none_iff_forall_ne_some.2 fun p hp => ?_
      obtain ⟨t, c, u, hsplits, hc, -⟩ := String.find?_bool_eq_some_iff_splits.1 hp
      have htext := hsplits.eq_append
      rw [String.append_empty] at htext
      have hmem : c ∈ (String.ofList digits).toList := by simp [htext]
      simp [hbefore c hmem] at hc
    rw [String.ofList_nil, digitsEnd, hnone, String.append_empty]
  | cons c r =>
    have hc : (!c.isDigit) = true := by rw [hrest c rfl, Bool.not_false]
    rw [String.ofList_cons, digitsEnd, String.find?_bool_eq_some_iff_splits.2
      ⟨_, c, _, String.Pos.splits_append_rawEndPos, hc, hbefore⟩]
    rfl

namespace Lead

theorem Cuts.firstSign?_eq (h : l.Cuts s) :
    firstSign? (String.ofList (trimStart s)) = l.sign := by
  rw [firstSign?_ofList, h.sign_eq]

/-- A sign is one byte long, so a character begins behind it or the text ends there. -/
theorem Cuts.behindSign_eq (h : l.Cuts s) :
    behindSign (String.ofList (trimStart s)) =
      .ok (String.ofList l.digits ++ String.ofList l.rest) := by
  rw [behindSign, h.firstSign?_eq, h.trimStart_eq, mark, String.ofList_append, String.ofList_append]
  cases l.sign with
  | none => rfl
  | some sign =>
    have hlength : (String.ofList [sign.mark]).rawEndPos = ⟨1⟩ := by cases sign <;> rfl
    exact hlength ▸ cutFrom_append _ _

theorem Cuts.leadingIntByBytes_eq {s : String} (h : l.Cuts s.toList) :
    leadingIntByBytes s = .ok (leadingInt? s.toList) := by
  have hdigits : cutTo (String.ofList l.digits ++ String.ofList l.rest)
      (digitsEnd (String.ofList l.digits ++ String.ofList l.rest)) =
        .ok (String.ofList l.digits) := by
    rw [digitsEnd_append h.isDigit h.digits_end, cutTo_append]
  simp only [leadingIntByBytes, h.firstSign?_eq, h.behindSign_eq, bind, Except.bind, hdigits,
    String.toList_ofList, h.leadingInt?_eq]
  cases hn : int64? l.digits with
  | none => rfl
  | some n =>
    have hpositive : 0 ≤ n.toInt := h.toInt_eq_magnitude hn ▸ Int.natCast_nonneg _
    simp only [product_factor l.sign hpositive]
    rfl

end Lead

/-- The lenient reading of a text is the number of its one cut, if that fits a signed word; the
reading by bytes is the same and never faults. -/
theorem leadingInt?_exact (s : String) :
    ∃ l : Lead, (∀ l' : Lead, l'.Cuts s.toList ↔ l' = l) ∧
      (leadingInt? s.toList).map Int64.toInt =
        (if l.digits = [] ∨ 9223372036854775807 < l.magnitude then none else some l.value) ∧
      leadingIntByBytes s = .ok (leadingInt? s.toList) :=
  have h := Lead.cuts_ofText s.toList
  ⟨.ofText s.toList, fun _ => Lead.cuts_iff, h.toInt_leadingInt?, h.leadingIntByBytes_eq⟩

/-- The least signed word is not read: its digits alone denote more than the greatest one. -/
example : leadingInt? "-9223372036854775808".toList = none := by decide

end ZoneAudit.Text
