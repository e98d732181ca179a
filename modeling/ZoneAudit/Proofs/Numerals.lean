import ZoneAudit.Address

/-!
Whole numbers as they may be written, and what the strict readers make of a text: a number if and
only if the text writes it and it is in range. The lenient reader finds the number that a text
begins with, if its digits are in range.
-/

namespace ZoneAudit.Text

/-- One or more decimal digits that denote a number; zeros may lead. -/
structure WritesDigits (s : List Char) (n : Nat) : Prop where
  ne_nil : s ≠ []
  isDigit : ∀ c ∈ s, c.isDigit
  value : Nat.ofDigitChars 10 s 0 = n

/-- Digits after an optional plus sign. -/
inductive WritesUnsigned : List Char → Nat → Prop
  | plain {s : List Char} {n : Nat} (h : WritesDigits s n) : WritesUnsigned s n
  | plus {s : List Char} {n : Nat} (h : WritesDigits s n) : WritesUnsigned ('+' :: s) n

/-- Digits after an optional sign. -/
inductive WritesSigned : List Char → Int → Prop
  | plain {s : List Char} {n : Nat} (h : WritesDigits s n) : WritesSigned s n
  | plus {s : List Char} {n : Nat} (h : WritesDigits s n) : WritesSigned ('+' :: s) n
  | minus {s : List Char} {n : Nat} (h : WritesDigits s n) : WritesSigned ('-' :: s) (-n)

variable {s : List Char}

theorem natural?_eq_some_iff {n : Nat} : natural? s = some n ↔ WritesDigits s n := by
  constructor
  · intro h
    by_cases hs : (!s.isEmpty && s.all Char.isDigit) = true
    · rw [natural?, if_pos hs] at h
      simp only [Bool.and_eq_true, Bool.not_eq_true', List.isEmpty_eq_false_iff,
        List.all_eq_true] at hs
      exact ⟨hs.1, hs.2, Option.some.inj h⟩
    · simp [natural?, hs] at h
  · rintro ⟨hne, hdigit, rfl⟩
    have hs : (!s.isEmpty && s.all Char.isDigit) = true := by simpa [hne] using hdigit
    rw [natural?, if_pos hs]

/-- A sign is no digit. -/
theorem not_writesDigits_cons {c : Char} (hc : c.isDigit = false) (n : Nat) :
    ¬WritesDigits (c :: s) n := by
  intro h
  simp [h.isDigit c (by simp)] at hc

/-- Only digits and a plus sign write a number. -/
theorem WritesUnsigned.notMem {n : Nat} (h : WritesUnsigned s n) {c : Char}
    (hdigit : c.isDigit = false) (hplus : c ≠ '+') : c ∉ s := by
  have hnot {digits : List Char} (hd : WritesDigits digits n) : c ∉ digits := fun hc => by
    simp [hd.isDigit c hc] at hdigit
  cases h with
  | plain hd => exact hnot hd
  | plus hd => exact fun hc => (List.mem_cons.1 hc).elim hplus (hnot hd)

theorem unsigned?_eq_some_iff {max n : Nat} :
    unsigned? max s = some n ↔ WritesUnsigned s n ∧ n ≤ max := by
  unfold unsigned?
  split
  case h_1 r =>
    rw [Option.filter_eq_some_iff, natural?_eq_some_iff, decide_eq_true_eq]
    refine and_congr_left fun _ => ⟨.plus, fun h => ?_⟩
    cases h with
    | plain h => exact absurd h (not_writesDigits_cons rfl n)
    | plus h => exact h
  case h_2 hplus =>
    rw [Option.filter_eq_some_iff, natural?_eq_some_iff, decide_eq_true_eq]
    refine and_congr_left fun _ => ⟨.plain, fun h => ?_⟩
    cases h with
    | plain h => exact h
    | plus h => exact absurd rfl (hplus _)

theorem integer?_eq_some_iff {n : Int} : integer? s = some n ↔ WritesSigned s n := by
  unfold integer?
  split
  case h_1 r =>
    simp only [Option.map_eq_some_iff, Option.bind_eq_bind, Option.bind_eq_some_iff,
      Option.pure_def, Option.some.injEq, natural?_eq_some_iff]
    constructor
    · rintro ⟨i, ⟨m, hm, rfl⟩, rfl⟩
      exact .minus hm
    · intro h
      cases h with
      | plain h => exact absurd h (not_writesDigits_cons rfl _)
      | minus h => exact ⟨_, ⟨_, h, rfl⟩, rfl⟩
  case h_2 r =>
    simp only [Option.map_eq_some_iff, natural?_eq_some_iff]
    constructor
    · rintro ⟨m, hm, rfl⟩
      exact .plus hm
    · intro h
      cases h with
      | plain h => exact absurd h (not_writesDigits_cons rfl _)
      | plus h => exact ⟨_, h, rfl⟩
  case h_3 hminus hplus =>
    simp only [Option.map_eq_some_iff, natural?_eq_some_iff]
    constructor
    · rintro ⟨m, hm, rfl⟩
      exact .plain hm
    · intro h
      cases h with
      | plain h => exact ⟨_, h, rfl⟩
      | plus h => exact absurd rfl (hplus _)
      | minus h => exact absurd rfl (hminus _)

/-- A text writes at most one number. -/
theorem WritesSigned.unique {m n : Int} (hm : WritesSigned s m) (hn : WritesSigned s n) : m = n :=
  Option.some.inj ((integer?_eq_some_iff.2 hm).symm.trans (integer?_eq_some_iff.2 hn))

theorem uint16?_eq_some_iff {n : UInt16} : uint16? s = some n ↔ WritesUnsigned s n.toNat := by
  rw [uint16?, Option.map_eq_some_iff]
  simp only [unsigned?_eq_some_iff]
  constructor
  · rintro ⟨m, ⟨hm, hmax⟩, rfl⟩
    rwa [UInt16.toNat_ofNat_of_lt' (by simp [UInt16.size]; omega)]
  · intro h
    exact ⟨n.toNat, ⟨h, by have := n.toNat_lt; omega⟩, UInt16.ofNat_toNat⟩

theorem isSome_uint16?_iff : (uint16? s).isSome ↔ ∃ n, WritesUnsigned s n ∧ n ≤ 65535 := by
  rw [uint16?, Option.isSome_map, Option.isSome_iff_exists]
  simp only [unsigned?_eq_some_iff]

theorem fitsInt64_iff {n : Int} :
    fitsInt64 n ↔ -9223372036854775808 ≤ n ∧ n ≤ 9223372036854775807 := by
  have hmin : Int64.minValue.toInt = -9223372036854775808 := rfl
  have hmax : Int64.maxValue.toInt = 9223372036854775807 := rfl
  rw [fitsInt64, decide_eq_true_eq, hmin, hmax]

theorem toInt_ofInt_of_fits {n : Int} (h : fitsInt64 n) : (Int64.ofInt n).toInt = n := by
  have hrange := fitsInt64_iff.1 h
  exact Int64.toInt_ofInt_of_le (by omega) (by omega)

theorem fitsInt64_toInt (n : Int64) : fitsInt64 n.toInt := by
  have hlo := n.le_toInt
  have hhi := n.toInt_lt
  exact fitsInt64_iff.2 ⟨by omega, by omega⟩

/-- A signed word is read from the texts that write its number. -/
theorem int64?_eq_some_iff {n : Int64} : int64? s = some n ↔ WritesSigned s n.toInt := by
  rw [int64?, Option.map_eq_some_iff]
  simp only [Option.filter_eq_some_iff, integer?_eq_some_iff]
  constructor
  · rintro ⟨i, ⟨hi, hfits⟩, rfl⟩
    rwa [toInt_ofInt_of_fits hfits]
  · intro h
    exact ⟨n.toInt, ⟨h, fitsInt64_toInt n⟩, Int64.ofInt_toInt n⟩

theorem isSome_int64?_iff :
    (int64? s).isSome ↔
      ∃ n : Int, WritesSigned s n ∧ -9223372036854775808 ≤ n ∧ n ≤ 9223372036854775807 := by
  simp only [Option.isSome_iff_exists, int64?_eq_some_iff, ← fitsInt64_iff]
  constructor
  · rintro ⟨n, h⟩
    exact ⟨n.toInt, h, fitsInt64_toInt n⟩
  · rintro ⟨n, h, hfits⟩
    exact ⟨Int64.ofInt n, by rwa [toInt_ofInt_of_fits hfits]⟩

/-- A text begins with a number: digits after an optional sign, taken as far as they go. -/
def BeginsSigned (s : List Char) (n : Int) : Prop :=
  ∃ written rest, s = written ++ rest ∧ WritesSigned written n ∧
    ∀ c ∈ rest.head?, c.isDigit = false

/-- A list is cut where a property ends that all its first elements have. -/
theorem span_append {α : Type} {p : α → Bool} {xs ys : List α} (hxs : ∀ x ∈ xs, p x)
    (hys : ∀ y ∈ ys.head?, p y = false) :
    (xs ++ ys).takeWhile p = xs ∧ (xs ++ ys).dropWhile p = ys := by
  rw [List.takeWhile_append_of_pos hxs, List.dropWhile_append_of_pos hxs]
  cases ys with
  | nil => simp
  | cons y ys => simp [hys y rfl]

theorem takeWhile_isDigit {digits rest : List Char} (hdigits : ∀ c ∈ digits, c.isDigit)
    (hrest : ∀ c ∈ rest.head?, c.isDigit = false) :
    (digits ++ rest).takeWhile Char.isDigit = digits :=
  (span_append hdigits hrest).1

theorem isBlank_of_isDigit {c : Char} (h : c.isDigit) : isBlank c = false := by
  have hrange : 48 ≤ c.toNat ∧ c.toNat ≤ 57 := by
    simpa [Char.isDigit, UInt32.le_iff_toNat_le] using h
  simp only [isBlank]
  grind

theorem fitsInt64_natCast {n : Nat} : fitsInt64 n ↔ n ≤ 9223372036854775807 := by
  rw [fitsInt64_iff]
  omega

/-- The number that a text begins with is read unless its digits alone are out of range, which those
of the least signed word are. -/
theorem leadingInt?_of_begins {n : Int} (h : BeginsSigned s n) :
    leadingInt? s = if n.natAbs ≤ 9223372036854775807 then some (Int64.ofInt n) else none := by
  obtain ⟨written, rest, rfl, hw, hrest⟩ := h
  have hread {digits : List Char} {m : Nat} (hd : WritesDigits digits m) :
      (natural? ((digits ++ rest).takeWhile Char.isDigit)).filter (fun k : Nat => fitsInt64 k) =
        if m ≤ 9223372036854775807 then some m else none := by
    rw [takeWhile_isDigit hd.isDigit hrest, natural?_eq_some_iff.2 hd]
    simp only [Option.filter, fitsInt64_natCast]
  cases hw with
  | minus hd =>
    rw [List.cons_append, leadingInt?, trimStart_of_not_blank rfl]
    simp only [hread hd, Int.natAbs_neg, Int.natAbs_natCast]
    split <;> rfl
  | plus hd =>
    rw [List.cons_append, leadingInt?, trimStart_of_not_blank rfl]
    simp only [hread hd, Int.natAbs_natCast]
    split <;> simp [Int64.ofInt_eq_ofNat]
  | plain hd =>
    obtain ⟨c, digits, rfl⟩ := List.exists_cons_of_ne_nil hd.ne_nil
    have hc : c.isDigit := hd.isDigit c (by simp)
    have hread := hread hd
    rw [List.cons_append] at hread ⊢
    rw [leadingInt?, trimStart_of_not_blank (isBlank_of_isDigit hc)]
    split
    case h_1 heq =>
      obtain ⟨rfl, -⟩ := List.cons.inj heq
      exact absurd hc (by decide)
    case h_2 heq =>
      obtain ⟨rfl, -⟩ := List.cons.inj heq
      exact absurd hc (by decide)
    case h_3 =>
      simp only [hread, Int.natAbs_natCast]
      split <;> simp [Int64.ofInt_eq_ofNat]

theorem trimStart_of_no_blank (h : ∀ c ∈ s, isBlank c = false) : trimStart s = s := by
  cases s with
  | nil => rfl
  | cons c r => exact trimStart_of_not_blank (h c (by simp))

theorem trim_of_no_blank (h : ∀ c ∈ s, isBlank c = false) : trim s = s := by
  have hend : trimStart s.reverse = s.reverse :=
    trimStart_of_no_blank fun c hc => h c (List.mem_reverse.1 hc)
  rw [trim, trimStart_of_no_blank h, trimEnd]
  exact (congrArg List.reverse hend).trans s.reverse_reverse

/-- The pieces between the separators of a list have no separators. -/
theorem not_of_mem_splitOnP {α : Type} {p : α → Bool} {xs w : List α} (hw : w ∈ xs.splitOnP p) :
    ∀ x ∈ w, p x = false := by
  induction xs generalizing w with
  | nil =>
    obtain rfl : w = [] := by simpa using hw
    simp
  | cons y ys ih =>
    rw [List.splitOnP_cons_eq_if_modifyHead] at hw
    by_cases hy : p y
    · rw [if_pos hy, List.mem_cons] at hw
      rcases hw with rfl | hw
      · simp
      · exact ih hw
    · rw [if_neg hy] at hw
      cases hys : ys.splitOnP p with
      | nil => simp [hys] at hw
      | cons v vs =>
        rw [hys, List.modifyHead_cons, List.mem_cons] at hw
        rcases hw with rfl | hw
        · have hv : ∀ x ∈ v, p x = false := ih (by simp [hys])
          simpa [hy] using hv
        · exact ih (by simp [hys, hw])

/-- What a split does not cut away stands in one of its pieces. -/
theorem exists_mem_splitOnP {α : Type} {p : α → Bool} {xs : List α} {x : α} (hx : x ∈ xs)
    (hp : p x = false) : ∃ w ∈ xs.splitOnP p, x ∈ w := by
  induction xs with
  | nil => cases hx
  | cons y ys ih =>
    rw [List.splitOnP_cons_eq_if_modifyHead]
    by_cases hy : p y
    · have hxy : x ≠ y := by
        rintro rfl
        simp [hp] at hy
      obtain ⟨w, hw, hxw⟩ := ih ((List.mem_cons.1 hx).resolve_left hxy)
      exact ⟨w, by simp [hy, hw], hxw⟩
    · obtain ⟨v, vs, hys⟩ := List.exists_cons_of_ne_nil (List.splitOnP_ne_nil p ys)
      rw [if_neg hy, hys, List.modifyHead_cons]
      rcases List.mem_cons.1 hx with rfl | hx
      · exact ⟨x :: v, by simp, by simp⟩
      · obtain ⟨w, hw, hxw⟩ := ih hx
        rw [hys, List.mem_cons] at hw
        rcases hw with rfl | hw
        · exact ⟨y :: w, by simp, by simp [hxw]⟩
        · exact ⟨w, by simp [hw], hxw⟩

theorem not_isBlank_of_mem_words {w : List Char} (hw : w ∈ words s) :
    ∀ c ∈ w, isBlank c = false :=
  not_of_mem_splitOnP (List.mem_filter.1 hw).1

/-- A word is a port if and only if it writes a number from 1 to 65535. -/
theorem isPort_iff (h : ∀ c ∈ s, isBlank c = false) :
    Address.isPort s ↔ ∃ n, WritesUnsigned s n ∧ 1 ≤ n ∧ n ≤ 65535 := by
  simp only [Address.isPort, trim_of_no_blank h, Option.any_eq_true, unsigned?_eq_some_iff,
    decide_eq_true_eq]
  constructor
  · rintro ⟨n, ⟨hn, hmax⟩, hmin⟩
    exact ⟨n, hn, hmin, hmax⟩
  · rintro ⟨n, hn, hmin, hmax⟩
    exact ⟨n, ⟨hn, hmax⟩, hmin⟩

end ZoneAudit.Text
