import Mathlib.Data.List.Induction
import ZoneAudit.Proofs.Words

/-!
Plain numerals. A number has one numeral that does not start with a superfluous zero, and it is the
one that is printed. It is a word, and all readers of numbers in whose range the number is read it
back.
-/

namespace ZoneAudit.Text

theorem decimal_append {n d : Nat} (hn : 0 < n) (hd : d < 10) :
    decimal (10 * n + d) = decimal n ++ [d.digitChar] := by
  rw [decimal, ← Nat.toDigits_append_toDigits (by decide) hn hd, Nat.toDigits_of_lt_base hd]
  rfl

theorem decimal_digit {d : Nat} (hd : d < 10) : decimal d = [d.digitChar] :=
  Nat.toDigits_of_lt_base hd

theorem writesDigits_decimal (n : Nat) : WritesDigits (decimal n) n :=
  ⟨Nat.toDigits_ne_nil, fun _ hc => Nat.isDigit_of_mem_toDigits (by decide) (by decide) hc,
    Nat.ofDigitChars_ten_toDigits⟩

/-- No number but zero starts with a zero. -/
theorem head?_decimal {n : Nat} (hn : 0 < n) : (decimal n).head? ≠ some '0' := by
  induction n using Nat.strongRecOn with
  | ind n ih =>
    by_cases hsmall : n < 10
    · rw [decimal_digit hsmall]
      simp only [List.head?_cons, ne_eq, Option.some.injEq, Nat.digitChar_eq_zero]
      omega
    · have hsplit : 10 * (n / 10) + n % 10 = n := by omega
      have hfront := ih (n / 10) (by omega) (by omega)
      have hne : decimal (n / 10) ≠ [] := Nat.toDigits_ne_nil
      rw [← hsplit, decimal_append (by omega) (by omega), List.head?_append_of_ne_nil _ hne]
      exact hfront

theorem isDigit_iff {c : Char} : c.isDigit ↔ ∃ d < 10, c = d.digitChar := by
  constructor
  · intro h
    have hrange : 48 ≤ c.toNat ∧ c.toNat ≤ 57 := by
      simpa [Char.isDigit, UInt32.le_iff_toNat_le] using h
    refine ⟨c.toNat - 48, by omega, ?_⟩
    rw [← Char.toNat_inj, Nat.toNat_digitChar_of_lt_ten (by omega)]
    omega
  · rintro ⟨d, hd, rfl⟩
    rw [Nat.isDigit_digitChar]
    exact decide_eq_true hd

variable {s : List Char} {n : Nat}

/-- Digits without a superfluous zero in front are the plain numeral of their number. -/
theorem WritesDigits.eq_decimal (h : WritesDigits s n)
    (hs : s.length = 1 ∨ s.head? ≠ some '0') : s = decimal n := by
  induction s using List.reverseRecOn generalizing n with
  | nil => exact absurd rfl h.ne_nil
  | append_singleton r c ih =>
    obtain ⟨-, hdigit, rfl⟩ := h
    obtain ⟨d, hd, rfl⟩ := isDigit_iff.1 (hdigit c (by simp))
    rw [Nat.ofDigitChars_append, Nat.ofDigitChars_cons_digitChar_of_lt_ten hd,
      Nat.ofDigitChars_nil]
    by_cases hr : r = []
    · rw [hr, List.nil_append, Nat.ofDigitChars_nil, Nat.mul_zero, Nat.zero_add,
        decimal_digit hd]
    · have hhead : r.head? ≠ some '0' := by
        rw [List.head?_append_of_ne_nil _ hr] at hs
        refine hs.resolve_left fun hlength => hr ?_
        simpa using hlength
      have hfront := ih ⟨hr, fun c hc => hdigit c (by simp [hc]), rfl⟩ (.inr hhead)
      have hpos : 0 < Nat.ofDigitChars 10 r 0 := by
        refine Nat.pos_of_ne_zero fun hzero => hhead ?_
        rw [hfront, hzero]
        rfl
      rw [decimal_append hpos hd, ← hfront]

/-! Printed numbers are words and are read back. -/

theorem isWord_decimal (n : Nat) : IsWord (decimal n) :=
  ⟨(writesDigits_decimal n).ne_nil, fun c hc => isBlank_of_isDigit ((writesDigits_decimal n).isDigit c hc)⟩

theorem isWord_signedDecimal (n : Int) : IsWord (signedDecimal n) := by
  cases n with
  | ofNat n => exact isWord_decimal n
  | negSucc n =>
    exact ⟨List.cons_ne_nil _ _, List.forall_mem_cons.2 ⟨by decide, (isWord_decimal (n + 1)).not_blank⟩⟩

theorem writesSigned_signedDecimal (n : Int) : WritesSigned (signedDecimal n) n := by
  cases n with
  | ofNat n => exact .plain (writesDigits_decimal n)
  | negSucc n => exact .minus (writesDigits_decimal (n + 1))

theorem uint8?_decimal (n : UInt8) : uint8? (decimal n.toNat) = some n := by
  have hmax : n.toNat ≤ 0xFF := Nat.le_of_lt_succ n.toNat_lt
  have hread : unsigned? 0xFF (decimal n.toNat) = some n.toNat :=
    unsigned?_eq_some_iff.2 ⟨.plain (writesDigits_decimal _), hmax⟩
  rw [uint8?, hread, Option.map_some, UInt8.ofNat_toNat]

theorem int64?_signedDecimal (n : Int64) : int64? (signedDecimal n.toInt) = some n :=
  int64?_eq_some_iff.2 (writesSigned_signedDecimal _)

end ZoneAudit.Text
