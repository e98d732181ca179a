import ZoneAudit.Proofs.AliasTargets
import ZoneAudit.Proofs.SmallLetters
import ZoneAudit.RecordType

/-!
Mnemonics of record types. A mnemonic is compared in upper case, and beyond ASCII that turns only
the long s and the dotless i into one letter of ASCII. A sharp s and the ligatures become two
letters, which follow each other in no mnemonic; each other character leaves one that no mnemonic
has. So a text is read as a mnemonic if it is the mnemonic but for the case of its letters and for
those two.
-/

namespace ZoneAudit
open Text

theorem caseVariant_toUpper (c : Char) : CaseVariant c c.toUpper := by
  by_cases hc : c.toNat < 0x80
  · have hascii : ∀ n < 0x80, CaseVariant (Char.ofNat n) (Char.ofNat n).toUpper := by decide
    simpa using hascii c.toNat hc
  · have hsmall : ¬(c.val ≥ 'a'.val ∧ c.val ≤ 'z'.val) := fun h =>
      hc (Nat.lt_of_le_of_lt (UInt32.le_iff_toNat_le.1 h.2) (by decide))
    have hupper : c.toUpper = c := dif_neg hsmall
    exact .inl hupper.symm

theorem CaseVariant.toUpper_eq {c d : Char} (h : CaseVariant c d) : c.toUpper = d.toUpper := by
  obtain rfl | ⟨hc, hd, hlower⟩ := h
  · rfl
  · have hascii {e : Char} (he : e.isAlpha) : e.toLower.toUpper = e.toUpper := by
      have hletters : ∀ n < 0x80, (Char.ofNat n).toLower.toUpper = (Char.ofNat n).toUpper := by decide
      have h := hletters e.toNat (toNat_lt_of_isAlpha he)
      rwa [Char.ofNat_toNat] at h
    rw [← hascii hc, hlower, hascii hd]

theorem caseVariant_iff_toUpper {c e : Char} (he : e.toUpper = e) :
    CaseVariant c e ↔ c.toUpper = e := by
  constructor
  · intro h
    rw [h.toUpper_eq, he]
  · rintro rfl
    exact caseVariant_toUpper c

namespace Text
open CaseTable

variable {s d : List Char} {c e : Char}

/-- The first two letters that a sharp s and the ligatures become in upper case. -/
def ligatures : List (List Char) := ["SS".toList, "FF".toList, "FI".toList, "FL".toList, "ST".toList]

/-- A long s is an S and a dotless i is an I. -/
def plainLetter (c : Char) : Char := if c = 'ſ' then 'S' else if c = 'ı' then 'I' else c

def plainLetters (s : List Char) : List Char := s.map plainLetter

/-- A text of ASCII that upper case leaves as it is, without two letters that might come from one
character. -/
structure IsCapital (d : List Char) : Prop where
  ascii : ∀ e ∈ d, e ≠ '\x00' ∧ e.toNat < 0x80 ∧ e.toUpper = e
  unligated : ∀ p ∈ ligatures, ¬p <:+: d

/-- A character beyond ASCII, or the one that stands for none. -/
def IsForeign (c : Char) : Prop := c = '\x00' ∨ 0x80 ≤ c.toNat

theorem isForeign_ofNat {n : Nat} (h : 0x80 ≤ n) : IsForeign (Char.ofNat n) := by
  rcases ofNat_eq_nul_or n with hnul | hcode
  · exact .inl hnul
  · exact .inr (hcode.symm ▸ h)

/-! One character. -/

/-- A form has a character beyond ASCII, or is the form of the long s, the dotless i or a character
that becomes two letters. -/
theorem capitalForms_cases : ∀ f ∈ capitalForms,
    0x80 ≤ f.capital ∨ (∃ n ∈ f.rest, 0x80 ≤ n) ∨
      f.last = f.first ∧ (f.first = 'ſ'.toNat ∨ f.first = 'ı'.toNat ∨
        ∃ p ∈ ligatures, p <+: (f.image f.first).map Char.ofNat) := by
  decide +kernel

theorem capital_of_plain (h : c.toNat < 0x80 ∨ c = 'ſ' ∨ c = 'ı') :
    capital c = [(plainLetter c).toUpper] := by
  obtain hascii | rfl | rfl := h
  · have hne {e : Char} (he : 0x80 ≤ e.toNat) : c ≠ e := by
      rintro rfl
      omega
    rw [capital, if_pos hascii, plainLetter, if_neg (hne (by decide)), if_neg (hne (by decide))]
  · decide +kernel
  · decide +kernel

/-- What other characters become in upper case. -/
theorem capital_cases (hascii : 0x80 ≤ c.toNat) (hlong : c ≠ 'ſ') (hdotless : c ≠ 'ı') :
    (∃ p ∈ ligatures, p <+: capital c) ∨ ∃ e ∈ capital c, IsForeign e := by
  have hbeyond : ¬c.toNat < 0x80 := Nat.not_lt.2 hascii
  cases hform : capitalForms.find? (·.covers c.toNat) with
  | some f =>
    have hrange := List.find?_some hform
    simp only [CapitalForms.covers, Bool.and_eq_true, decide_eq_true_eq] at hrange
    simp only [capital, if_neg hbeyond, hform]
    obtain hfirst | ⟨n, hn, hrest⟩ | ⟨hlast, hsingle⟩ :=
      capitalForms_cases f (List.mem_of_find?_eq_some hform)
    · exact .inr ⟨_, List.mem_cons_self, isForeign_ofNat (by omega)⟩
    · exact .inr ⟨_, List.mem_map_of_mem (List.mem_cons_of_mem _ hn), isForeign_ofNat hrest⟩
    · have hfirst : f.first = c.toNat := by omega
      rw [hfirst] at hsingle
      obtain hchar | hchar | hpair := hsingle
      · exact absurd (Char.toNat_inj.1 hchar) hlong
      · exact absurd (Char.toNat_inj.1 hchar) hdotless
      · exact .inl hpair
  | none =>
    right
    cases hletter : capitals.find? (·.gives c.toNat) with
    | some t =>
      have hcapital := (capitals_letters t (List.mem_of_find?_eq_some hletter)).1
      simp only [blankless, Bool.and_eq_true, decide_eq_true_eq] at hcapital
      simp only [capital, if_neg hbeyond, hform, hletter]
      exact ⟨_, List.mem_cons_self, isForeign_ofNat (by omega)⟩
    | none =>
      simp only [capital, if_neg hbeyond, hform, hletter]
      exact ⟨c, List.mem_cons_self, .inr hascii⟩

/-! Texts. -/

namespace IsCapital

theorem tail (h : IsCapital (e :: d)) : IsCapital d where
  ascii := (List.forall_mem_cons.1 h.ascii).2
  unligated p hp hpart := h.unligated p hp (hpart.trans (List.suffix_cons e d).isInfix)

theorem not_capital_prefix (h : IsCapital d) (hascii : 0x80 ≤ c.toNat) (hlong : c ≠ 'ſ')
    (hdotless : c ≠ 'ı') : ¬capital c <+: d := by
  intro hstart
  obtain ⟨p, hp, hpair⟩ | ⟨e, he, hforeign⟩ := capital_cases hascii hlong hdotless
  · exact h.unligated p hp (hpair.trans hstart).isInfix
  · obtain ⟨hnul, hrange, -⟩ := h.ascii e (hstart.subset he)
    rcases hforeign with hforeign | hforeign
    · exact hnul hforeign
    · omega

end IsCapital

/-- A text has plain capitals for its upper case just if it is that text but for case, a long s for
s and a dotless i for i. -/
theorem upper_eq_iff (hd : IsCapital d) : upper s = d ↔ Recased (plainLetters s) d := by
  induction s generalizing d with
  | nil => cases d <;> simp [upper, plainLetters, Recased]
  | cons c s ih =>
    have hupper : upper (c :: s) = capital c ++ upper s := List.flatMap_cons
    rw [hupper, plainLetters, List.map_cons, ← plainLetters]
    by_cases hplain : c.toNat < 0x80 ∨ c = 'ſ' ∨ c = 'ı'
    · rw [capital_of_plain hplain, List.singleton_append]
      cases d with
      | nil => simp [Recased]
      | cons e d =>
        have hcase {x : Char} : CaseVariant x e ↔ x.toUpper = e :=
          caseVariant_iff_toUpper (hd.ascii e List.mem_cons_self).2.2
        rw [List.cons.injEq, Recased, List.forall₂_cons, hcase, ih hd.tail]
    · simp only [not_or, Nat.not_lt] at hplain
      obtain ⟨hascii, hlong, hdotless⟩ := hplain
      have hletter : plainLetter c = c := by
        rw [plainLetter, if_neg hlong, if_neg hdotless]
      constructor
      · rintro rfl
        exact absurd (List.prefix_append _ _) (hd.not_capital_prefix hascii hlong hdotless)
      · intro h
        obtain ⟨e, r, hvariant, -, rfl⟩ := List.forall₂_cons_left_iff.1 h
        have hrange := (hd.ascii e List.mem_cons_self).2.1
        rw [hletter] at hvariant
        obtain rfl | ⟨halpha, -⟩ := hvariant
        · omega
        · exact absurd (toNat_lt_of_isAlpha halpha) (Nat.not_lt.2 hascii)

end Text

namespace RecordType

theorem isCapital_mnemonic (t : RecordType) : IsCapital t.mnemonic.toList where
  ascii := by
    have h : ∀ t ∈ all,
        t.mnemonic.toList.all fun e => e ≠ '\x00' ∧ e.toNat < 0x80 ∧ e.toUpper = e := by decide
    simpa only [List.all_eq_true, decide_eq_true_eq] using h t (mem_all t)
  unligated := by
    have h : ∀ t ∈ all, ∀ p ∈ ligatures, ¬p <:+: t.mnemonic.toList := by decide
    exact h t (mem_all t)

/-- The text is the mnemonic of the type but for case and blanks around it, with a long s for S and
a dotless i for I. -/
def Names (s : String) (t : RecordType) : Prop :=
  Recased (plainLetters (trim s.toList)) t.mnemonic.toList

theorem names_iff {s : String} {t : RecordType} :
    Names s t ↔ t.mnemonic.toList = upper (trim s.toList) := by
  rw [eq_comm, upper_eq_iff (isCapital_mnemonic t), Names]

theorem Names.unique {s : String} {t u : RecordType} (ht : Names s t) (hu : Names s u) : t = u := by
  rw [names_iff] at ht hu
  exact mnemonic_inj.1 (String.toList_inj.1 (ht.trans hu.symm))

theorem ofMnemonic_of_names {s : String} {t : RecordType} (h : Names s t) : ofMnemonic s = .ok t := by
  rw [ofMnemonic]
  cases hfind : all.find? fun t => t.mnemonic.toList = upper (trim s.toList) with
  | some u =>
    have hfound := List.find?_some hfind
    rw [decide_eq_true_eq, ← names_iff] at hfound
    rw [h.unique hfound]
  | none =>
    have ht := List.find?_eq_none.1 hfind t (mem_all t)
    exact absurd (decide_eq_true (names_iff.1 h)) ht

theorem ofMnemonic_of_no_names {s : String} (h : ∀ t, ¬Names s t) :
    ofMnemonic s = .error (.unsupportedRecordType s) := by
  have hfind : (all.find? fun t => t.mnemonic.toList = upper (trim s.toList)) = none :=
    List.find?_eq_none.2 fun t _ ht => h t (names_iff.2 (of_decide_eq_true ht))
  rw [ofMnemonic, hfind]

/-- The mnemonic of a type is recognised in each of its spellings, and every other text is handed
back as it is. -/
theorem ofMnemonic_exact (s : String) :
    (∀ t, ofMnemonic s = .ok t ↔ Names s t) ∧
      (ofMnemonic s = .error (.unsupportedRecordType s) ↔ ∀ t, ¬Names s t) := by
  by_cases hnames : ∃ t, Names s t
  · obtain ⟨t, ht⟩ := hnames
    have hok := ofMnemonic_of_names ht
    simp only [hok, Except.ok.injEq, reduceCtorEq, false_iff, not_forall, not_not]
    refine ⟨fun u => ⟨?_, ht.unique⟩, t, ht⟩
    rintro rfl
    exact ht
  · rw [not_exists] at hnames
    have herror := ofMnemonic_of_no_names hnames
    simp [herror, hnames]

/-- A long s is no letter of ASCII, yet it stands for one in a mnemonic. -/
theorem ofMnemonic_takes_long_s :
    ofMnemonic "ſoa" = .ok soa ∧ ¬Recased (trim "ſoa".toList) soa.mnemonic.toList := by
  decide +kernel

end RecordType
end ZoneAudit
