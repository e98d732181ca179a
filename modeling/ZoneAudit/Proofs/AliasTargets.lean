import ZoneAudit.Cname
import ZoneAudit.Proofs.NamePatterns
import ZoneAudit.Proofs.SmallLetters

/-!
Targets of aliases. A target is a domain name once it is in lower case. Lower case turns letters of
ASCII into letters of ASCII, and of all other characters only the kelvin sign: its small letter is a
plain k. So a target is a domain name as it stands, but for kelvin signs in place of a k.
-/

namespace ZoneAudit

namespace Text

/-- The text with a k for each kelvin sign. -/
def plainKelvins (s : List Char) : List Char := s.map fun c => if c = '\u212A' then 'k' else c

variable {s : List Char} {c : Char}

theorem toNat_lt_of_isAlphanum (h : c.isAlphanum) : c.toNat < 0x80 := by
  rcases Bool.or_eq_true_iff.1 h with hletter | hdigit
  · exact toNat_lt_of_isAlpha hletter
  · have hrange : 48 ≤ c.toNat ∧ c.toNat ≤ 57 := by
      simpa [Char.isDigit, UInt32.le_iff_toNat_le] using hdigit
    omega

/-- A character beyond ASCII that is no kelvin sign stays beyond ASCII. -/
theorem exists_mem_small (hc : 0x80 ≤ c.toNat) (hkelvin : c ≠ '\u212A') :
    ∃ d ∈ small c, d = '\x00' ∨ 0x80 ≤ d.toNat := by
  obtain ⟨d, hd⟩ := List.exists_mem_of_ne_nil _ (small_ne_nil c)
  obtain ⟨hascii, -⟩ | ⟨rfl, -⟩ | ⟨t, ht, hcovers, himage⟩ | ⟨rfl, -⟩ := mem_small_cases hd
  · omega
  · exact ⟨'\u0307', by decide, .inr (by decide)⟩
  · refine ⟨d, hd, himage ▸ (ofNat_eq_nul_or _).imp_right fun hn => ?_⟩
    have hne : c.toNat ≠ 0x212A := fun h => hkelvin (Char.toNat_inj.1 h)
    simp only [CaseTable.Capitals.covers, Bool.and_eq_true, decide_eq_true_eq] at hcovers
    obtain ⟨-, rfl | ⟨hsmall, -⟩⟩ := capitals_letters t ht
    · exact absurd (Nat.le_antisymm hcovers.1.2 hcovers.1.1) hne
    · simp only [CaseTable.blankless, Bool.and_eq_true, decide_eq_true_eq] at hsmall
      omega
  · exact ⟨d, hd, .inr hc⟩

theorem exists_mem_lowerAfter (hmem : c ∈ s) (hc : 0x80 ≤ c.toNat) (hkelvin : c ≠ '\u212A')
    (inWord : Bool) : ∃ d ∈ lowerAfter inWord s, d = '\x00' ∨ 0x80 ≤ d.toNat := by
  induction s generalizing inWord with
  | nil => cases hmem
  | cons e s ih =>
    simp only [lowerAfter, List.mem_append, or_and_right, exists_or]
    rcases List.mem_cons.1 hmem with rfl | hmem
    · refine .inl ?_
      split
      · refine ⟨_, List.mem_singleton_self _, .inr ?_⟩
        split <;> decide
      · exact exists_mem_small hc hkelvin
    · exact .inr (ih hmem _)

theorem lowerAfter_of_plain (h : ∀ c ∈ s, c.toNat < 0x80 ∨ c = '\u212A') (inWord : Bool) :
    lowerAfter inWord s = (plainKelvins s).map Char.toLower := by
  induction s generalizing inWord with
  | nil => rfl
  | cons c s ih =>
    rw [List.forall_mem_cons] at h
    rw [lowerAfter, ih h.2]
    rcases h.1 with hascii | rfl
    · have hne {e : Char} (he : 0x80 ≤ e.toNat) : c ≠ e := by
        rintro rfl
        omega
      have hsigma : c ≠ 'Σ' := hne (by decide)
      have hkelvin : c ≠ '\u212A' := hne (by decide)
      simp [plainKelvins, hsigma, hkelvin, small_of_ascii hascii]
    · have hsmall : small '\u212A' = ['k'] := by decide
      have hlower : 'k'.toLower = 'k' := by decide
      simp [plainKelvins, hsmall, hlower]

end Text

namespace CaseVariant

variable {c d : Char}

theorem isAlpha_eq (h : CaseVariant c d) : c.isAlpha = d.isAlpha := by
  obtain rfl | ⟨hc, hd, -⟩ := h
  · rfl
  · rw [hc, hd]

theorem isAlphanum_eq (h : CaseVariant c d) : c.isAlphanum = d.isAlphanum := by
  obtain rfl | ⟨hc, hd, -⟩ := h
  · rfl
  · rw [Char.isAlphanum, Char.isAlphanum, hc, hd, Bool.true_or, Bool.true_or]

end CaseVariant

theorem caseVariant_toLower (c : Char) : CaseVariant c c.toLower := by
  by_cases hc : c.toNat < 0x80
  · have hascii : ∀ n < 0x80, CaseVariant (Char.ofNat n) (Char.ofNat n).toLower := by decide
    simpa using hascii c.toNat hc
  · refine .inl ?_
    have hcapital : ¬(c.val ≥ 'A'.val ∧ c.val ≤ 'Z'.val) := fun h =>
      hc (Nat.lt_of_le_of_lt (UInt32.le_iff_toNat_le.1 h.2) (by decide))
    have hlower : c.toLower = c := dif_neg hcapital
    exact hlower.symm

namespace DomainName
open Text

variable {s : List Char} {c : Char}

/-- The characters of a domain name are letters and digits of ASCII, hyphens and dots. -/
theorem Spelled.toNat_lt (h : Spelled s) (hc : c ∈ s) : c ≠ '\x00' ∧ c.toNat < 0x80 := by
  obtain ⟨front, top, hsplit, -, hfront, htop⟩ := h
  by_cases hdot : c = '.'
  · rw [hdot]
    decide
  · have hpart : ∃ l ∈ front ++ [top], c ∈ l := by
      rw [← hsplit, List.splitOn_eq_splitOnP]
      exact exists_mem_splitOnP hc (by simpa using hdot)
    have hchar : c.isAlphanum ∨ c = '-' := by
      obtain ⟨l, hl, hcl⟩ := hpart
      rcases List.mem_append.1 hl with hl | hl
      · exact (hfront l hl).isAlphanum_or c hcl
      · rw [List.mem_singleton] at hl
        exact .inl (by simp [Char.isAlphanum, htop.isAlpha c (hl ▸ hcl)])
    rcases hchar with halphanum | rfl
    · refine ⟨?_, toNat_lt_of_isAlphanum halphanum⟩
      rintro rfl
      exact absurd halphanum (by decide)
    · decide

theorem splitOn_map_toLower (s : List Char) :
    (s.map Char.toLower).splitOn '.' = (s.splitOn '.').map (List.map Char.toLower) := by
  induction s with
  | nil => rfl
  | cons c s ih =>
    rw [List.map_cons, List.splitOn_cons_eq_if_modifyHead, List.splitOn_cons_eq_if_modifyHead, ih]
    have hdot : c.toLower = '.' ↔ c = '.' := ((caseVariant_toLower c).eq_iff rfl).symm
    simp only [beq_iff_eq, hdot]
    split
    · rfl
    · cases s.splitOn '.' <;> rfl

theorem isValid_map_toLower (s : List Char) : isValid (s.map Char.toLower) = isValid s := by
  have halpha (c : Char) : c.toLower.isAlpha = c.isAlpha := (caseVariant_toLower c).isAlpha_eq.symm
  have halphanum (c : Char) : c.toLower.isAlphanum = c.isAlphanum :=
    (caseVariant_toLower c).isAlphanum_eq.symm
  have hhyphen (c : Char) : c.toLower = '-' ↔ c = '-' := ((caseVariant_toLower c).eq_iff rfl).symm
  have hlabel (l : List Char) : isLabel (l.map Char.toLower) = isLabel l := by
    simp [isLabel, Option.any_map, halphanum, hhyphen, Function.comp_def]
  have htop (l : List Char) : isTopLabel (l.map Char.toLower) = isTopLabel l := by
    simp [isTopLabel, halpha, Function.comp_def]
  have hlabels : labels (s.map Char.toLower) = (labels s).map (List.map Char.toLower) :=
    splitOn_map_toLower s
  simp [isValid, hlabels, ← List.map_dropLast, Option.any_map, hlabel, htop, Function.comp_def]

/-- What lower case does to a text is simple unless it has a character that is in no domain name, in
either case. -/
theorem lower_eq_or_not_isValid (s : List Char) :
    lower s = (plainKelvins s).map Char.toLower ∨
      ¬isValid (lower s) ∧ ¬isValid (plainKelvins s) := by
  by_cases h : ∀ c ∈ s, c.toNat < 0x80 ∨ c = '\u212A'
  · exact .inl (lowerAfter_of_plain h false)
  · simp only [not_forall, not_or, Nat.not_lt] at h
    obtain ⟨c, hmem, hc, hkelvin⟩ := h
    refine .inr ⟨fun hvalid => ?_, fun hvalid => ?_⟩
    · obtain ⟨d, hd, hrange⟩ := exists_mem_lowerAfter hmem hc hkelvin false
      have hname := (isValid_iff_spelled.1 hvalid).toNat_lt hd
      rcases hrange with hnul | hd
      · exact hname.1 hnul
      · omega
    · have hplain : c ∈ plainKelvins s := List.mem_map.2 ⟨c, hmem, if_neg hkelvin⟩
      have hname := (isValid_iff_spelled.1 hvalid).toNat_lt hplain
      omega

end DomainName

namespace Cname
open Text

/-- With each kelvin sign read as a k, a body parses just if it is a domain name, and its target is
that name in lower case. -/
theorem parse?_plainKelvins (data : String) :
    ((parse? data).isSome ↔
      DomainName.isValid (plainKelvins (dropFinal '.' (trim data.toList)))) ∧
    ∀ b ∈ parse? data, b.target =
      String.ofList ((plainKelvins (dropFinal '.' (trim data.toList))).map Char.toLower) := by
  have hlower := DomainName.lower_eq_or_not_isValid (dropFinal '.' (trim data.toList))
  rw [parse?, DomainName.normal]
  generalize dropFinal '.' (trim data.toList) = t at hlower ⊢
  rcases hlower with heq | ⟨hnot, hplain⟩
  · simp only [heq, DomainName.isValid_map_toLower]
    split
    case isTrue h => simp [h]
    case isFalse h => simp [h]
  · simp [hnot, hplain]

/-- A kelvin sign is accepted for a k, though it is not in any domain name. -/
theorem parse?_takes_kelvin :
    parse? "\u212A.com" = some ⟨"k.com"⟩ ∧
      ¬DomainName.isValid (dropFinal '.' (trim "\u212A.com".toList)) := by
  decide

end Cname
end ZoneAudit
