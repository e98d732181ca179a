import Mathlib.Computability.Language
import ZoneAudit.Proofs.AddressFamilies
import ZoneAudit.Proofs.PlainNumerals

/-!
Dotted quads and ranges. A number has one plain numeral, the one that does not start with a
superfluous zero, so a dotted quad is the text of four numbers of one byte. The pattern by which
quads are also known lists the numerals of a byte by their digits: five alternatives, which leave no
number out.
-/

namespace ZoneAudit

namespace Address
open Text
open scoped Computability

/-- The plain numerals of some numbers with dots between them. -/
def dotted (ns : List Nat) : List Char := ['.'].intercalate (ns.map decimal)

/-- Four numbers from 0 to 255 in plain numerals with dots between them. -/
def IsQuad (s : List Char) : Prop :=
  ∃ ns : List Nat, ns.length = 4 ∧ (∀ n ∈ ns, n ≤ 255) ∧ s = dotted ns

variable {s : List Char} {n : Nat}

theorem octet?_eq_some_iff : octet? s = some n ↔ s = decimal n ∧ n ≤ 255 := by
  rw [octet?, Option.ite_none_right_eq_some, Option.filter_eq_some_iff, natural?_eq_some_iff,
    decide_eq_true_eq]
  constructor
  · rintro ⟨hs, hwrites, hle⟩
    exact ⟨hwrites.eq_decimal hs, hle⟩
  · rintro ⟨rfl, hle⟩
    refine ⟨?_, writesDigits_decimal n, hle⟩
    by_cases hn : n = 0
    · exact .inl (by rw [hn]; rfl)
    · exact .inr (head?_decimal (by omega))

theorem dot_notMem_decimal (n : Nat) : '.' ∉ decimal n := fun h =>
  absurd ((writesDigits_decimal n).isDigit '.' h) (by decide)

theorem splitOn_dotted {ns : List Nat} (hne : ns ≠ []) :
    (dotted ns).splitOn '.' = ns.map decimal := by
  refine List.splitOn_intercalate '.' (fun w hw => ?_) (by simpa using hne)
  obtain ⟨n, -, rfl⟩ := List.mem_map.1 hw
  exact dot_notMem_decimal n

theorem quad?_eq_some_iff {ns : List Nat} :
    quad? s = some ns ↔ ns.length = 4 ∧ (∀ n ∈ ns, n ≤ 255) ∧ s = dotted ns := by
  rw [quad?, Option.ite_none_right_eq_some, mapM_eq_some_iff fun _ _ => octet?_eq_some_iff]
  constructor
  · rintro ⟨hlength, hparts, hle⟩
    refine ⟨by simpa [hparts] using hlength, hle, ?_⟩
    rw [dotted, ← hparts, List.intercalate_splitOn]
  · rintro ⟨hlength, hle, rfl⟩
    have hne : ns ≠ [] := by
      rintro rfl
      cases hlength
    rw [splitOn_dotted hne]
    exact ⟨by simpa using hlength, rfl, hle⟩

theorem isIpv4_iff_isQuad : isIpv4 s ↔ IsQuad s := by
  rw [isIpv4, Option.isSome_iff_exists]
  simp only [quad?_eq_some_iff, IsQuad]

/-! The pattern of quads. -/

/-- One digit between two others. -/
def digit (lo hi : Nat) : Language Char := {s | ∃ d, lo ≤ d ∧ d ≤ hi ∧ s = [d.digitChar]}

/-- The numerals of a byte: 250 to 255, 200 to 249, 100 to 199, 10 to 99 and 0 to 9. -/
def octetPattern : Language Char :=
  digit 2 2 * digit 5 5 * digit 0 5 + digit 2 2 * digit 0 4 * digit 0 9 +
  digit 1 1 * digit 0 9 * digit 0 9 + digit 1 9 * digit 0 9 + digit 0 9

def quadPattern : Language Char := octetPattern * ({['.']} * octetPattern) ^ 3

/-- The repetitions of a pattern whose texts are written by a function. -/
theorem mem_pow_iff {ι : Type} {l : Language Char} {P : ι → Prop} {write : ι → List Char}
    (h : ∀ s, s ∈ l ↔ ∃ i, P i ∧ s = write i) {k : Nat} :
    s ∈ l ^ k ↔ ∃ is : List ι, is.length = k ∧ (∀ i ∈ is, P i) ∧ s = is.flatMap write := by
  induction k generalizing s with
  | zero => simp
  | succ k ih =>
    simp only [pow_succ', Language.mem_mul, h, ih]
    constructor
    · rintro ⟨_, ⟨i, hi, rfl⟩, _, ⟨is, hlength, his, rfl⟩, rfl⟩
      exact ⟨i :: is, by simp [hlength], List.forall_mem_cons.2 ⟨hi, his⟩, rfl⟩
    · rintro ⟨is, hlength, his, rfl⟩
      cases is with
      | nil => cases hlength
      | cons i is =>
        rw [List.forall_mem_cons] at his
        exact ⟨_, ⟨i, his.1, rfl⟩, _, ⟨is, by simpa using hlength, his.2, rfl⟩, rfl⟩

theorem mem_kstar_iff {ι : Type} {l : Language Char} {P : ι → Prop} {write : ι → List Char}
    (h : ∀ s, s ∈ l ↔ ∃ i, P i ∧ s = write i) :
    s ∈ l∗ ↔ ∃ is : List ι, (∀ i ∈ is, P i) ∧ s = is.flatMap write := by
  simp only [Language.kstar_eq_iSup_pow, Language.mem_iSup, mem_pow_iff h]
  constructor
  · rintro ⟨_, is, -, his, rfl⟩
    exact ⟨is, his, rfl⟩
  · rintro ⟨is, his, rfl⟩
    exact ⟨is.length, is, rfl, his, rfl⟩

theorem mem_mul_singleton_iff {l : Language Char} {t : List Char} :
    s ∈ l * {t} ↔ ∃ r, r ∈ l ∧ s = r ++ t := by
  rw [Language.mem_mul]
  constructor
  · rintro ⟨r, hr, _, rfl, rfl⟩
    exact ⟨r, hr, rfl⟩
  · rintro ⟨r, hr, rfl⟩
    exact ⟨r, hr, t, rfl, rfl⟩

theorem mem_singleton_mul_iff {l : Language Char} {t : List Char} :
    s ∈ {t} * l ↔ ∃ r ∈ l, s = t ++ r := by
  rw [Language.mem_mul]
  constructor
  · rintro ⟨_, rfl, r, hr, rfl⟩
    exact ⟨r, hr, rfl⟩
  · rintro ⟨r, hr, rfl⟩
    exact ⟨t, rfl, r, hr, rfl⟩

/-- The plain numerals of the numbers between two others. -/
def numerals (lo hi : Nat) : Language Char := {s | ∃ n, (lo ≤ n ∧ n ≤ hi) ∧ s = decimal n}

theorem mem_numerals_iff {lo hi : Nat} :
    s ∈ numerals lo hi ↔ ∃ n, (lo ≤ n ∧ n ≤ hi) ∧ s = decimal n := Iff.rfl

theorem digit_eq {lo hi : Nat} (h : hi < 10) : digit lo hi = numerals lo hi := by
  ext s
  refine exists_congr fun d => ?_
  rw [and_assoc]
  refine and_congr_right fun _ => and_congr_right fun hd => ?_
  rw [decimal_digit (by omega)]

/-- A further digit after numerals of more than zero. -/
theorem numerals_mul_digit {a b lo hi c d : Nat} (ha : 0 < a) (hhi : hi < 10)
    (h : ∀ n, (c ≤ n ∧ n ≤ d) ↔ (a ≤ n / 10 ∧ n / 10 ≤ b) ∧ lo ≤ n % 10 ∧ n % 10 ≤ hi) :
    numerals a b * digit lo hi = numerals c d := by
  ext s
  rw [Language.mem_mul]
  constructor
  · rintro ⟨_, ⟨n, hn, rfl⟩, _, ⟨k, hlo, hk, rfl⟩, rfl⟩
    refine ⟨10 * n + k, (h _).2 ?_, (decimal_append (by omega) (by omega)).symm⟩
    omega
  · rintro ⟨n, hn, rfl⟩
    obtain ⟨hfront, hlast⟩ := (h n).1 hn
    refine ⟨_, ⟨n / 10, hfront, rfl⟩, _, ⟨n % 10, hlast.1, hlast.2, rfl⟩, ?_⟩
    rw [← decimal_append (by omega) (by omega), Nat.div_add_mod]

/-- The five alternatives are the numbers up to 255, each of them once. -/
theorem octetPattern_eq : octetPattern = numerals 0 255 := by
  have h25 : digit 2 2 * digit 5 5 = numerals 25 25 := by
    rw [digit_eq (by decide : 2 < 10)]
    exact numerals_mul_digit (by decide) (by decide) fun n => by omega
  have h250 : digit 2 2 * digit 5 5 * digit 0 5 = numerals 250 255 := by
    rw [h25]
    exact numerals_mul_digit (by decide) (by decide) fun n => by omega
  have h20 : digit 2 2 * digit 0 4 = numerals 20 24 := by
    rw [digit_eq (by decide : 2 < 10)]
    exact numerals_mul_digit (by decide) (by decide) fun n => by omega
  have h200 : digit 2 2 * digit 0 4 * digit 0 9 = numerals 200 249 := by
    rw [h20]
    exact numerals_mul_digit (by decide) (by decide) fun n => by omega
  have h1 : digit 1 1 * digit 0 9 = numerals 10 19 := by
    rw [digit_eq (by decide : 1 < 10)]
    exact numerals_mul_digit (by decide) (by decide) fun n => by omega
  have h100 : digit 1 1 * digit 0 9 * digit 0 9 = numerals 100 199 := by
    rw [h1]
    exact numerals_mul_digit (by decide) (by decide) fun n => by omega
  have h10 : digit 1 9 * digit 0 9 = numerals 10 99 := by
    rw [digit_eq (by decide : 9 < 10)]
    exact numerals_mul_digit (by decide) (by decide) fun n => by omega
  rw [octetPattern, h250, h200, h100, h10, digit_eq (by decide)]
  ext s
  simp only [Language.mem_add, mem_numerals_iff, ← exists_or, ← or_and_right]
  exact exists_congr fun n => and_congr_left fun _ => by omega

theorem dotted_cons (n : Nat) (ns : List Nat) :
    dotted (n :: ns) = decimal n ++ ns.flatMap fun m => '.' :: decimal m := by
  rw [dotted, List.map_cons, intercalate_cons_eq, List.flatMap_map]

theorem mem_quadPattern_iff : s ∈ quadPattern ↔ IsQuad s := by
  have hoctet (t : List Char) : t ∈ octetPattern ↔ ∃ n, n ≤ 255 ∧ t = decimal n := by
    rw [octetPattern_eq, mem_numerals_iff]
    simp
  have hfurther (t : List Char) :
      t ∈ ({['.']} * octetPattern : Language Char) ↔ ∃ n, n ≤ 255 ∧ t = '.' :: decimal n := by
    simp only [Language.mem_mul, hoctet]
    constructor
    · rintro ⟨_, rfl, _, ⟨n, hn, rfl⟩, rfl⟩
      exact ⟨n, hn, rfl⟩
    · rintro ⟨n, hn, rfl⟩
      exact ⟨['.'], rfl, _, ⟨n, hn, rfl⟩, rfl⟩
  simp only [quadPattern, Language.mem_mul, hoctet, mem_pow_iff hfurther]
  constructor
  · rintro ⟨_, ⟨n, hn, rfl⟩, _, ⟨ns, hlength, hns, rfl⟩, rfl⟩
    exact ⟨n :: ns, by simp [hlength], List.forall_mem_cons.2 ⟨hn, hns⟩, (dotted_cons n ns).symm⟩
  · rintro ⟨ns, hlength, hns, rfl⟩
    cases ns with
    | nil => cases hlength
    | cons n ns =>
      rw [List.forall_mem_cons] at hns
      exact ⟨_, ⟨n, hns.1, rfl⟩, _, ⟨ns, by simpa using hlength, hns.2, rfl⟩,
        (dotted_cons n ns).symm⟩

/-- The addresses of version four are the dotted quads, none of them is of version six, and a range
is an address, a slash and a length that fits. -/
theorem isIpv4_isCidr_exact (s : List Char) :
    (isIpv4 s ↔ IsQuad s) ∧ (s ∈ quadPattern ↔ IsQuad s) ∧ ¬(isIpv4 s ∧ isIpv6 s) ∧
    (isCidr s ↔ ∃ address length n, s = address ++ '/' :: length ∧ '/' ∉ address ∧ '/' ∉ length ∧
      WritesUnsigned length n ∧ (isIpv4 address ∧ n ≤ 32 ∨ isIpv6 address ∧ n ≤ 128)) := by
  refine ⟨isIpv4_iff_isQuad, mem_quadPattern_iff, ?_, ?_⟩
  · rintro ⟨h4, h6⟩
    exact Bool.false_ne_true ((isIpv4_eq_false h6).symm.trans h4)
  · constructor
    · intro h
      have hslash : '/' ∈ s := by
        by_contra hslash
        simp [isCidr, cut_eq_none_iff.2 hslash] at h
      obtain ⟨address, length, rfl, haddress⟩ := List.eq_append_cons_of_mem hslash
      obtain ⟨n, hwrites, hfits⟩ := (isCidr_append haddress).1 h
      exact ⟨address, length, n, rfl, haddress, hwrites.notMem rfl (by decide), hwrites, hfits⟩
    · rintro ⟨address, length, n, rfl, haddress, -, hwrites, hfits⟩
      exact (isCidr_append haddress).2 ⟨n, hwrites, hfits⟩

end Address
end ZoneAudit
