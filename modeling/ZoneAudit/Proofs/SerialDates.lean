import Mathlib.Tactic.IntervalCases
import Mathlib.Tactic.Positivity
import Std.Time.Date.PlainDate
import ZoneAudit.Proofs.DottedQuads
import ZoneAudit.Soa

/-!
Serials that start with a date. Printed in decimal, such a serial has ten digits: four of a year,
two of a month, two of a day and two more. A serial of another length is remarked on for its form,
and one of ten digits for its date if the calendar has no such day. The sign of a serial is no
digit, and zeros that its body may start with are not printed.
-/

namespace ZoneAudit

namespace Text

variable {s : List Char}

/-- Digits denote a number of no more digits. -/
theorem ofDigitChars_lt (h : ∀ c ∈ s, c.isDigit) : Nat.ofDigitChars 10 s 0 < 10 ^ s.length := by
  induction s with
  | nil => decide
  | cons c s ih =>
    rw [List.forall_mem_cons] at h
    obtain ⟨d, hd, rfl⟩ := isDigit_iff.1 h.1
    rw [Nat.ofDigitChars_cons_digitChar_of_lt_ten hd, Nat.ofDigitChars_eq_ofDigitChars_zero,
      List.length_cons, pow_succ]
    have hs := ih h.2
    have hd' : 10 ^ s.length * (10 * 0 + d) ≤ 10 ^ s.length * 9 := Nat.mul_le_mul_left _ (by omega)
    omega

end Text

namespace Soa
open Text Std.Time

/-- The number in some places of a text, counted from zero. -/
def field? (text : List Char) (start count : Nat) : Option Nat :=
  unsigned? 4294967295 ((text.drop start).take count)

/-- What there is to remark on a serial as it is printed, when `calendar` says which years, months
and days are dates. -/
def printedFault? (calendar : Nat → Nat → Nat → Bool) (serial : Int64) : Option Fault :=
  let text := signedDecimal serial.toInt
  if text.length ≠ 10 ∨ ¬text.all Char.isDigit then some (.serialNotDated serial)
  else
    match field? text 0 4, field? text 4 2, field? text 6 2 with
    | some year, some month, some day =>
      if calendar year month day then none else some (.serialNoDate serial)
    | _, _, _ => some (.serialNoDate serial)

/-- A day of the Gregorian calendar, which is taken to hold for all years. -/
def IsDay (year month day : Int) : Prop :=
  ∃ date : PlainDate, date.year.toInt = year ∧ date.month.val = month ∧ date.day.val = day

/-- No more is asked of a calendar than the years that four digits with a nonzero head denote. -/
def Gregorian (calendar : Nat → Nat → Nat → Bool) : Prop :=
  ∀ year month day, 1000 ≤ year → year ≤ 9999 → (calendar year month day ↔ IsDay year month day)

variable {text : List Char} {n : Nat}

/-- In a text of digits, the places before a field and behind it are multiples and remainders of
powers of ten. -/
theorem field?_eq (start count rest : Nat) (h : WritesDigits text n) (hcount : 0 < count)
    (hsmall : count ≤ 9) (hlength : text.length = start + count + rest) :
    field? text start count = some (n / 10 ^ rest % 10 ^ count) := by
  obtain ⟨front, field, back, rfl, rfl, rfl, rfl⟩ : ∃ front field back,
      text = front ++ field ++ back ∧ front.length = start ∧ field.length = count ∧
        back.length = rest := by
    refine ⟨text.take start, (text.drop start).take count, text.drop (start + count), ?_, ?_, ?_, ?_⟩
    · rw [List.append_assoc, ← List.drop_drop, List.take_append_drop, List.take_append_drop]
    · simp
      omega
    · simp
      omega
    · simp
      omega
  have hfield : ((front ++ field ++ back).drop front.length).take field.length = field := by simp
  have hdigit : (∀ c ∈ field, c.isDigit) ∧ ∀ c ∈ back, c.isDigit :=
    ⟨fun c hc => h.isDigit c (by simp [hc]), fun c hc => h.isDigit c (by simp [hc])⟩
  have hinit (s : List Char) (init : Nat) :
      Nat.ofDigitChars 10 s init = 10 ^ s.length * init + Nat.ofDigitChars 10 s 0 :=
    Nat.ofDigitChars_eq_ofDigitChars_zero
  have hlt : Nat.ofDigitChars 10 field 0 < 10 ^ field.length := ofDigitChars_lt hdigit.1
  have hvalue : n / 10 ^ back.length % 10 ^ field.length = Nat.ofDigitChars 10 field 0 := by
    rw [← h.value, Nat.ofDigitChars_append, Nat.ofDigitChars_append, hinit back,
      hinit field (Nat.ofDigitChars 10 front 0), Nat.mul_add_div (by positivity),
      Nat.div_eq_of_lt (ofDigitChars_lt hdigit.2), Nat.add_zero, Nat.mul_add_mod,
      Nat.mod_eq_of_lt hlt]
  have hmax : 10 ^ field.length ≤ 10 ^ 9 := Nat.pow_le_pow_right (by decide) hsmall
  rw [field?, hfield, hvalue, unsigned?_eq_some_iff]
  exact ⟨.plain ⟨List.ne_nil_of_length_pos hcount, hdigit.1, rfl⟩, by omega⟩

/-- Ten digits are printed for the numbers of ten digits. -/
theorem printed_iff (serial : Int) :
    ((signedDecimal serial).length = 10 ∧ (signedDecimal serial).all Char.isDigit) ↔
      1000000000 ≤ serial ∧ serial < 10000000000 := by
  cases serial with
  | ofNat n =>
    have hdigits : (decimal n).all Char.isDigit = true :=
      List.all_eq_true.2 (writesDigits_decimal n).isDigit
    have hten : (decimal n).length ≤ 10 ↔ n < 10 ^ 10 :=
      Nat.length_toDigits_le_iff (by decide) (by decide)
    have hnine : (decimal n).length ≤ 9 ↔ n < 10 ^ 9 :=
      Nat.length_toDigits_le_iff (by decide) (by decide)
    simp only [signedDecimal, hdigits, and_true, Int.ofNat_eq_natCast]
    omega
  | negSucc n =>
    refine iff_of_false (fun h => ?_) (by omega)
    simp [signedDecimal] at h

/-! Days of the calendar. -/

theorem isLeapYear_iff (year : Int) :
    isLeapYear year ↔ (year.tmod 4 = 0 ∧ (year.tmod 100 ≠ 0 ∨ year.tmod 400 = 0)) := by
  simp only [isLeapYear, ← Int.dvd_iff_tmod_eq_zero, Bool.or_eq_true, Bool.and_eq_true,
    decide_eq_true_eq, ne_eq]
  omega

theorem days_eq (year : Year.Offset) (month : Month.Ordinal) :
    (Month.Ordinal.days year.isLeap month).val = daysInMonth year.toInt month.val := by
  have hleap : year.isLeap = isLeapYear year.toInt := by
    rw [Bool.eq_iff_iff, isLeapYear_iff, Year.Offset.isLeap, decide_eq_true_eq]
  obtain ⟨m, hlo, hhi⟩ := month
  rw [hleap, daysInMonth]
  have hlo : 1 ≤ m := hlo
  have hhi : m ≤ 12 := hhi
  interval_cases m <;> cases isLeapYear year.toInt <;> rfl

theorem isDate_iff {year month day : Int} : isDate year month day ↔ IsDay year month day := by
  simp only [isDate, Bool.and_eq_true, decide_eq_true_eq]
  constructor
  · rintro ⟨⟨⟨hmonth, hmonth'⟩, hday⟩, hday'⟩
    have hlast : day ≤ 31 := by
      unfold daysInMonth at hday'
      split_ifs at hday' <;> omega
    let m : Month.Ordinal := ⟨month, hmonth, hmonth'⟩
    have hvalid : day ≤ (Month.Ordinal.days (Year.Offset.isLeap year) m).val :=
      hday'.trans_eq (days_eq year m).symm
    exact ⟨⟨year, m, ⟨day, hday, hlast⟩, hvalid⟩, rfl, rfl, rfl⟩
  · rintro ⟨date, rfl, rfl, rfl⟩
    refine ⟨⟨date.month.property, date.day.property.1⟩, ?_⟩
    rw [← days_eq]
    exact date.valid

/-- The serial without its last two digits is a day of the calendar, year before month
before day. -/
def StartsWithDate (serial : Int) : Prop :=
  ∃ date : PlainDate,
    serial / 100 = 10000 * date.year.toInt + 100 * date.month.val + date.day.val

theorem isDate_div_iff (serial : Int) :
    isDate (serial / 1000000) (serial / 10000 % 100) (serial / 100 % 100) ↔
      StartsWithDate serial := by
  rw [isDate_iff, IsDay, StartsWithDate]
  refine exists_congr fun date => ?_
  have hmonth : 1 ≤ date.month.val ∧ date.month.val ≤ 12 := date.month.property
  have hday : 1 ≤ date.day.val ∧ date.day.val ≤ 31 := date.day.property
  omega

theorem printedFault?_eq {calendar : Nat → Nat → Nat → Bool} (h : Gregorian calendar)
    (serial : Int64) : printedFault? calendar serial = serialFault? serial := by
  have hprinted := printed_iff serial.toInt
  simp only [printedFault?, serialFault?]
  generalize serial.toInt = n at hprinted ⊢
  by_cases hten : 1000000000 ≤ n ∧ n < 10000000000
  · obtain ⟨k, rfl⟩ := Int.eq_ofNat_of_zero_le (by omega : 0 ≤ n)
    have htext : signedDecimal k = decimal k := rfl
    obtain ⟨hlength, hdigits⟩ := hprinted.2 hten
    rw [htext] at hlength hdigits
    have hwrites := writesDigits_decimal k
    have hyear : field? (decimal k) 0 4 = some (k / 1000000 % 10000) :=
      field?_eq 0 4 6 hwrites (by decide) (by decide) hlength
    have hmonth : field? (decimal k) 4 2 = some (k / 10000 % 100) :=
      field?_eq 4 2 4 hwrites (by decide) (by decide) hlength
    have hday : field? (decimal k) 6 2 = some (k / 100 % 100) :=
      field?_eq 6 2 2 hwrites (by decide) (by decide) hlength
    have hhead : k / 1000000 % 10000 = k / 1000000 := by omega
    have hdate : calendar (k / 1000000) (k / 10000 % 100) (k / 100 % 100) =
        isDate (k / 1000000) (k / 10000 % 100) (k / 100 % 100) := by
      rw [Bool.eq_iff_iff, isDate_iff, h _ _ _ (by omega) (by omega)]
      norm_cast
    rw [if_neg (by simp [htext, hlength, hdigits]), if_neg (by omega), htext, hyear, hhead, hmonth,
      hday, ← hdate]
  · have hlong : (signedDecimal n).length ≠ 10 ∨ ¬(signedDecimal n).all Char.isDigit :=
      not_and_or.1 (mt hprinted.1 hten)
    rw [if_pos hlong, if_pos (by omega)]

variable {r : Record} {z : Zone} {b : Body}

/-- A serial is remarked on for its form just if it has no ten digits, and for its date just if it
has ten that start with no date. -/
theorem serialFormat_reads_date (h : parse? r.data = some b) :
    (serialFormat r z = some (Fault.serialNotDated b.serial).diagnostic ↔
      b.serial.toInt < 1000000000 ∨ 10000000000 ≤ b.serial.toInt) ∧
    (serialFormat r z = some (Fault.serialNoDate b.serial).diagnostic ↔
      (1000000000 ≤ b.serial.toInt ∧ b.serial.toInt < 10000000000) ∧
        ¬StartsWithDate b.serial.toInt) ∧
    (serialFormat r z = none ↔
      (1000000000 ≤ b.serial.toInt ∧ b.serial.toInt < 10000000000) ∧
        StartsWithDate b.serial.toInt) ∧
    ∀ calendar, Gregorian calendar →
      serialFormat r z = (printedFault? calendar b.serial).map Fault.diagnostic := by
  have hne : (Fault.serialNotDated b.serial).diagnostic ≠ (Fault.serialNoDate b.serial).diagnostic := by
    intro heq
    have hseverity : Severity.info = Severity.warning := congrArg Diagnostic.severity heq
    cases hseverity
  have hfound : serialFormat r z = (serialFault? b.serial).map Fault.diagnostic := by
    rw [serialFormat, h, Option.bind_some]
  simp only [← and_assoc]
  refine ⟨?_, fun calendar hcalendar => by rw [printedFault?_eq hcalendar, hfound]⟩
  rw [hfound]
  simp only [← isDate_div_iff, serialFault?]
  split
  case isTrue hshort =>
    simp [hne, hshort]
    omega
  case isFalse hten =>
    have hten' : 1000000000 ≤ b.serial.toInt ∧ b.serial.toInt < 10000000000 := by omega
    split
    case isTrue hdate => simp [hten', hdate]
    case isFalse hdate => simp [hten', hdate, hne.symm]

/-- No leap year, and so no such day. -/
theorem serialFormat_reads_date_common_year :
    parse? "ns1.example.com. hostmaster.example.com. 2023022901 7200 3600 1209600 900" =
      some ⟨"ns1.example.com.", "hostmaster.example.com.", 2023022901, 7200, 3600, 1209600, 900⟩ ∧
    Gregorian (isDate · · ·) ∧
    serialFormat
        ⟨.soa, "example.com", 3600,
          "ns1.example.com. hostmaster.example.com. 2023022901 7200 3600 1209600 900"⟩
        ⟨"example.com", [], none⟩ =
      some (Fault.serialNoDate 2023022901).diagnostic := by
  have hparse : parse? "ns1.example.com. hostmaster.example.com. 2023022901 7200 3600 1209600 900" =
      some ⟨"ns1.example.com.", "hostmaster.example.com.", 2023022901, 7200, 3600, 1209600, 900⟩ := by
    decide +kernel
  have hcalendar : Gregorian (isDate · · ·) := fun year month day _ _ => isDate_iff
  refine ⟨hparse, hcalendar, ?_⟩
  refine ((serialFormat_reads_date hparse).2.2.2 _ hcalendar).trans ?_
  decide +kernel

end Soa
end ZoneAudit
