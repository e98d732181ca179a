import ZoneAudit.Proofs.TagSegments

/-!
Small letters. No small letter is again a capital, so a text in lower case stays as it is in lower
case, and no letter is a blank, so lower case makes words of words.
-/

namespace ZoneAudit.Text
open CaseTable

/-- Whether none of the small letters of `t` is a capital of `u`: they are apart, or they alternate
with each other. -/
def CaseTable.Capitals.clears (t u : Capitals) : Bool :=
  Nat.blt (t.small + (t.last - t.first)) u.first || Nat.blt u.last t.small ||
    (Nat.beq t.step 2 || Nat.beq t.first t.last) && Nat.beq u.step 2 &&
      Nat.beq ((t.small + u.first) % 2) 1

/-- Whether a range beyond Latin-1 has no blanks. -/
def CaseTable.blankless (first last : Nat) : Bool :=
  0xA0 < first && (last < 0x1680 || 0x1680 < first) && (last < 0x2000 || 0x205F < first) &&
    (last < 0x3000 || 0x3000 < first)

variable {s : List Char} {c d : Char}

/-! The table of capitals. -/

theorem capitals_clears : capitals.all (fun t => capitals.all t.clears) = true := by
  decide +kernel

/-- The kelvin sign is the one capital with a small letter in ASCII, and none has one that is a
blank or the dotted capital. -/
theorem capitals_letters : ∀ t ∈ capitals,
    blankless t.first t.last ∧ (t = ⟨0x212A, 0x212A, 1, 0x6B⟩ ∨
      blankless t.small (t.small + (t.last - t.first)) ∧
        (t.small + (t.last - t.first) < 0x130 ∨ 0x130 < t.small)) := by
  decide +kernel

theorem not_covers_of_clears {t u : Capitals} (h : t.clears u) {n : Nat} (hn : t.covers n) :
    u.covers (n - t.first + t.small) = false := by
  rw [Bool.eq_false_iff]
  intro hu
  simp only [Capitals.covers, Bool.and_eq_true, decide_eq_true_eq, beq_iff_eq] at hn hu
  simp only [Capitals.clears, Bool.or_eq_true, Bool.and_eq_true, Nat.blt_eq, Nat.beq_eq] at h
  obtain (habove | hbelow) | ⟨⟨hstep | hsingle, hstep'⟩, hodd⟩ := h
  · omega
  · omega
  · rw [hstep] at hn
    rw [hstep'] at hu
    omega
  · rw [hstep'] at hu
    omega

theorem isBlank_of_blankless {first last : Nat} (h : blankless first last) (hfirst : first ≤ c.toNat)
    (hlast : c.toNat ≤ last) : isBlank c = false := by
  simp only [blankless, Bool.and_eq_true, Bool.or_eq_true, decide_eq_true_eq] at h
  simp only [isBlank, Bool.or_eq_false_iff, Bool.and_eq_false_iff, decide_eq_false_iff_not,
    beq_eq_false_iff_ne]
  omega

/-! One character. -/

theorem ofNat_eq_nul_or (n : Nat) : Char.ofNat n = '\x00' ∨ (Char.ofNat n).toNat = n := by
  by_cases hn : n.isValidChar
  · have hchar : Char.ofNat n = Char.ofNatAux n hn := dif_pos hn
    exact .inr (by rw [hchar]; rfl)
  · exact .inl (dif_neg hn)

/-- What may become of a character: a letter of ASCII, the two characters of the dotted capital, the
letter that the table gives a capital, or the character itself. -/
theorem mem_small_cases (hd : d ∈ small c) :
    c.toNat < 0x80 ∧ d = c.toLower ∨ c = 'İ' ∧ (d = 'i' ∨ d = '\u0307') ∨
      (∃ t ∈ capitals, t.covers c.toNat ∧ d = Char.ofNat (c.toNat - t.first + t.small)) ∨
      d = c ∧ small c = [c] := by
  by_cases hascii : c.toNat < 0x80
  · rw [small_of_ascii hascii, List.mem_singleton] at hd
    exact .inl ⟨hascii, hd⟩
  · by_cases hdotted : c = 'İ'
    · rw [small, if_neg hascii, if_pos hdotted] at hd
      exact .inr (.inl ⟨hdotted, by simpa using hd⟩)
    · cases hfind : capitals.find? (·.covers c.toNat) with
      | some t =>
        have hcovers := List.find?_some hfind
        simp only [small, if_neg hascii, if_neg hdotted, hfind, List.mem_singleton] at hd
        exact .inr (.inr (.inl ⟨t, List.mem_of_find?_eq_some hfind, hcovers, hd⟩))
      | none =>
        have hsmall : small c = [c] := by simp only [small, if_neg hascii, if_neg hdotted, hfind]
        rw [hsmall, List.mem_singleton] at hd
        exact .inr (.inr (.inr ⟨hd, hsmall⟩))

/-- A character whose code point is no capital of the table and beyond ASCII is its own
small form. -/
theorem small_of_not_covers (hascii : 0x80 ≤ c.toNat) (hdotted : c ≠ 'İ')
    (h : ∀ u ∈ capitals, u.covers c.toNat = false) : small c = [c] := by
  have hfind : capitals.find? (·.covers c.toNat) = none :=
    List.find?_eq_none.2 fun u hu => Bool.eq_false_iff.1 (h u hu)
  rw [small, if_neg (by omega), if_neg hdotted, hfind]

/-- The small letter of a capital has no small letter of its own, and it is no blank. -/
theorem small_image {t : Capitals} (ht : t ∈ capitals) {n : Nat} (hn : t.covers n)
    (hd : d = Char.ofNat (n - t.first + t.small)) : small d = [d] ∧ isBlank d = false := by
  have hrange := hn
  simp only [Capitals.covers, Bool.and_eq_true, decide_eq_true_eq] at hrange
  rcases ofNat_eq_nul_or (n - t.first + t.small) with hnul | hcode
  · rw [hd, hnul]
    decide
  · obtain ⟨-, rfl | ⟨hblank, hdotted⟩⟩ := capitals_letters t ht
    · have hkelvin : 0x212A ≤ n ∧ n ≤ 0x212A := hrange.1
      obtain rfl : n = 0x212A := by omega
      rw [hd]
      decide
    · rw [← hd] at hcode
      have hlow : 0x80 ≤ d.toNat := by
        simp only [blankless, Bool.and_eq_true, decide_eq_true_eq] at hblank
        omega
      have hne : d ≠ 'İ' := by
        rintro rfl
        have hvalue : 'İ'.toNat = 0x130 := rfl
        omega
      refine ⟨small_of_not_covers hlow hne fun u hu => ?_, ?_⟩
      · rw [hcode]
        have hclears := List.all_eq_true.1 capitals_clears t ht
        exact not_covers_of_clears (List.all_eq_true.1 hclears u hu) hn
      · exact isBlank_of_blankless hblank (by omega) (by omega)

theorem small_of_mem_small (hd : d ∈ small c) : small d = [d] := by
  obtain ⟨hascii, rfl⟩ | ⟨-, rfl | rfl⟩ | ⟨t, ht, hcovers, himage⟩ | ⟨rfl, hsmall⟩ := mem_small_cases hd
  · have hlower : ∀ n < 0x80, small (Char.ofNat n).toLower = [(Char.ofNat n).toLower] := by decide
    simpa using hlower c.toNat hascii
  · decide
  · decide +kernel
  · exact (small_image ht hcovers himage).1
  · exact hsmall

/-- Lower case makes no blanks, and it takes none away. -/
theorem isBlank_of_mem_small (hd : d ∈ small c) : isBlank d = isBlank c := by
  obtain ⟨hascii, rfl⟩ | ⟨rfl, rfl | rfl⟩ | ⟨t, ht, hcovers, himage⟩ | ⟨rfl, -⟩ := mem_small_cases hd
  · have hlower : ∀ n < 0x80, isBlank (Char.ofNat n).toLower = isBlank (Char.ofNat n) := by decide
    simpa using hlower c.toNat hascii
  · decide
  · decide
  · have hrange := hcovers
    simp only [Capitals.covers, Bool.and_eq_true, decide_eq_true_eq] at hrange
    rw [(small_image ht hcovers himage).2,
      isBlank_of_blankless (capitals_letters t ht).1 hrange.1.1 hrange.1.2]
  · rfl

/-! Texts. -/

/-- Each character of a text in lower case comes from one of the text, or is a final sigma. -/
theorem exists_of_mem_lowerAfter {inWord : Bool} (hd : d ∈ lowerAfter inWord s) :
    ∃ c ∈ s, d ∈ small c ∨ c = 'Σ' ∧ d = 'ς' := by
  induction s generalizing inWord with
  | nil => cases hd
  | cons c s ih =>
    rw [lowerAfter, List.mem_append] at hd
    rcases hd with hd | hd
    · refine ⟨c, List.mem_cons_self, ?_⟩
      by_cases hsigma : c = 'Σ'
      · rw [if_pos hsigma, List.mem_singleton] at hd
        have hsmall : small 'Σ' = ['σ'] := by decide +kernel
        rw [hsigma, hsmall, hd]
        split <;> simp
      · rw [if_neg hsigma] at hd
        exact .inl hd
    · obtain ⟨e, he, hd⟩ := ih hd
      exact ⟨e, List.mem_cons_of_mem _ he, hd⟩

theorem lowerAfter_of_small (h : ∀ c ∈ s, small c = [c]) (inWord : Bool) :
    lowerAfter inWord s = s := by
  induction s generalizing inWord with
  | nil => rfl
  | cons c s ih =>
    rw [List.forall_mem_cons] at h
    have hsigma : c ≠ 'Σ' := by
      rintro rfl
      exact absurd h.1 (by decide +kernel)
    rw [lowerAfter, if_neg hsigma, h.1, ih h.2, List.singleton_append]

theorem small_of_mem_lower (hd : d ∈ lower s) : small d = [d] := by
  obtain ⟨c, -, hd | ⟨-, rfl⟩⟩ := exists_of_mem_lowerAfter hd
  · exact small_of_mem_small hd
  · decide +kernel

theorem lower_lower (s : List Char) : lower (lower s) = lower s :=
  lowerAfter_of_small (fun _ hd => small_of_mem_lower hd) false

theorem isWord_lower (h : IsWord s) : IsWord (lower s) := by
  refine ⟨fun hnil => h.ne_nil (lower_eq_nil_iff.1 hnil), fun d hd => ?_⟩
  obtain ⟨c, hc, hd | ⟨-, rfl⟩⟩ := exists_of_mem_lowerAfter hd
  · rw [isBlank_of_mem_small hd, h.not_blank c hc]
  · decide

end ZoneAudit.Text
