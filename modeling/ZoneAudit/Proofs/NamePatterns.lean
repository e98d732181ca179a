import ZoneAudit.Proofs.AddressPatterns

/-!
The grammar of domain names. A name is two labels or more with dots between them; the last of them
has letters only. The pattern by which names are also known repeats a label with its dot and ends in
the letters of the top label. A label starts with a letter or digit, and if that is not all of it,
it goes on with up to 61 characters that may be hyphens and ends in a letter or digit.
-/

namespace ZoneAudit.DomainName
open Text
open scoped Computability

/-- One to 63 letters, digits and hyphens; the first and the last of them is no hyphen. -/
structure IsLabel (s : List Char) : Prop where
  length_pos : 1 ≤ s.length
  length_le : s.length ≤ 63
  isAlphanum_or : ∀ c ∈ s, c.isAlphanum ∨ c = '-'
  head : ∀ c ∈ s.head?, c.isAlphanum
  last : ∀ c ∈ s.getLast?, c.isAlphanum

/-- Two letters or more, and nothing else. -/
structure IsTopLabel (s : List Char) : Prop where
  length_le : 2 ≤ s.length
  isAlpha : ∀ c ∈ s, c.isAlpha

/-- The parts between the dots: labels, at least one of them, and a top label. -/
def Spelled (s : List Char) : Prop :=
  ∃ front top, s.splitOn '.' = front ++ [top] ∧ front ≠ [] ∧ (∀ l ∈ front, IsLabel l) ∧ IsTopLabel top

variable {s : List Char}

theorem isLabel_iff : isLabel s ↔ IsLabel s := by
  cases s with
  | nil => exact iff_of_false (by decide) fun h => absurd h.length_pos (by decide)
  | cons c r =>
    have hlast : (c :: r).getLast? = some ((c :: r).getLast (by simp)) := List.getLast?_eq_some_getLast _
    simp only [isLabel, hlast, List.head?_cons, Option.any_some, Bool.and_eq_true, decide_eq_true_eq,
      List.all_eq_true, Bool.or_eq_true]
    constructor
    · rintro ⟨⟨⟨hlength, hchars⟩, hhead⟩, hlast'⟩
      exact ⟨by simp, hlength, hchars, by simpa using hhead, by simpa [hlast] using hlast'⟩
    · intro h
      exact ⟨⟨⟨h.length_le, h.isAlphanum_or⟩, h.head c rfl⟩, h.last _ hlast⟩

theorem isTopLabel_iff : isTopLabel s ↔ IsTopLabel s := by
  simp only [isTopLabel, Bool.and_eq_true, decide_eq_true_eq, List.all_eq_true]
  exact ⟨fun ⟨hlength, hletters⟩ => ⟨hlength, hletters⟩, fun h => ⟨h.length_le, h.isAlpha⟩⟩

theorem isValid_iff_spelled : isValid s ↔ Spelled s := by
  constructor
  · intro h
    simp only [isValid, Bool.and_eq_true, decide_eq_true_eq, List.all_eq_true, Option.any_eq_true,
      isLabel_iff, isTopLabel_iff] at h
    obtain ⟨⟨hlength, hfront⟩, top, hlast, htop⟩ := h
    refine ⟨_, top, (List.dropLast_append_getLast? top hlast).symm, ?_, hfront, htop⟩
    rw [← List.length_pos_iff, List.length_dropLast]
    exact Nat.sub_pos_of_lt hlength
  · rintro ⟨front, top, hsplit, hne, hfront, htop⟩
    have hlabels : labels s = front ++ [top] := hsplit
    have hlength : 2 ≤ (front ++ [top]).length := by
      have hpos := List.length_pos_iff.2 hne
      simp
      omega
    simp only [isValid, hlabels, hlength, List.dropLast_concat, List.getLast?_concat, Option.any_some,
      isTopLabel_iff.2 htop, decide_true, Bool.true_and, Bool.and_true, List.all_eq_true]
    exact fun l hl => isLabel_iff.2 (hfront l hl)

/-! The pattern of names. -/

def letter : Language Char := {s | ∃ c : Char, c.isAlpha ∧ s = [c]}

/-- A letter, a digit or a hyphen. -/
def inner : Language Char := {s | ∃ c : Char, (c.isAlphanum ∨ c = '-') ∧ s = [c]}

def labelPattern : Language Char :=
  Address.alphanumeric * (1 + Address.repeated 0 61 inner * Address.alphanumeric)

def dottedLabel : Language Char := labelPattern * {['.']}

def topPattern : Language Char := letter * letter * letter∗

def namePattern : Language Char := dottedLabel * dottedLabel∗ * topPattern

theorem mem_labelPattern_iff : s ∈ labelPattern ↔ IsLabel s := by
  have hinner (t : List Char) : t ∈ inner ↔ ∃ c : Char, (c.isAlphanum ∨ c = '-') ∧ t = [c] := Iff.rfl
  have hlast (c d : Char) (mid : List Char) : (c :: (mid ++ [d])).getLast? = some d :=
    List.getLast?_concat (l := c :: mid)
  simp only [labelPattern, Language.mem_mul, Language.mem_add, Language.mem_one,
    Address.mem_repeated_iff hinner, List.flatMap_singleton']
  constructor
  · rintro ⟨_, ⟨c, hc, rfl⟩, _, rfl | ⟨_, ⟨mid, hlength, hmid, rfl⟩, _, ⟨d, hd, rfl⟩, rfl⟩, rfl⟩
    · exact ⟨by simp, by simp, by simp [hc], by simp [hc], by simp [hc]⟩
    · refine ⟨by simp, by simp; omega, ?_, by simp [hc], by simp [hlast, hd]⟩
      simpa [hc, hd, or_imp, forall_and] using hmid
  · intro h
    obtain ⟨c, r, rfl⟩ := List.exists_cons_of_length_pos h.length_pos
    refine ⟨[c], ⟨c, h.head c rfl, rfl⟩, r, ?_, rfl⟩
    cases r using List.reverseRecOn with
    | nil => exact .inl rfl
    | append_singleton mid d =>
      have hlength := h.length_le
      rw [List.length_cons, List.length_append, List.length_singleton] at hlength
      exact .inr ⟨mid, ⟨mid, ⟨Nat.zero_le _, by omega⟩, fun e he => h.isAlphanum_or e (by simp [he]),
        rfl⟩, [d], ⟨d, h.last d (hlast c d mid), rfl⟩, rfl⟩

theorem mem_topPattern_iff : s ∈ topPattern ↔ IsTopLabel s := by
  have hletter (t : List Char) : t ∈ letter ↔ ∃ c : Char, c.isAlpha ∧ t = [c] := Iff.rfl
  simp only [topPattern, mul_assoc, Language.mem_mul, Address.mem_kstar_iff hletter, List.flatMap_singleton']
  constructor
  · rintro ⟨_, ⟨c, hc, rfl⟩, _, ⟨_, ⟨d, hd, rfl⟩, r, ⟨_, hr, rfl⟩, rfl⟩, rfl⟩
    exact ⟨by simp, by simpa [hc, hd] using hr⟩
  · rintro ⟨hlength, hletters⟩
    match s, hlength, hletters with
    | c :: d :: r, _, hletters =>
      simp only [List.forall_mem_cons] at hletters
      exact ⟨[c], ⟨c, hletters.1, rfl⟩, _, ⟨[d], ⟨d, hletters.2.1, rfl⟩, r, ⟨r, hletters.2.2, rfl⟩, rfl⟩,
        rfl⟩

theorem mem_dottedLabel_iff (s : List Char) :
    s ∈ dottedLabel ↔ ∃ l, IsLabel l ∧ s = l ++ ['.'] := by
  simp only [dottedLabel, Address.mem_mul_singleton_iff, mem_labelPattern_iff]

theorem IsLabel.dot_notMem (h : IsLabel s) : '.' ∉ s := fun hdot =>
  absurd (h.isAlphanum_or '.' hdot) (by decide)

theorem IsTopLabel.dot_notMem (h : IsTopLabel s) : '.' ∉ s := fun hdot =>
  absurd (h.isAlpha '.' hdot) (by decide)

theorem mem_namePattern_iff : s ∈ namePattern ↔ Spelled s := by
  simp only [namePattern, Language.mem_mul, mem_dottedLabel_iff,
    Address.mem_kstar_iff mem_dottedLabel_iff, mem_topPattern_iff]
  constructor
  · rintro ⟨_, ⟨_, ⟨l, hl, rfl⟩, _, ⟨front, hfront, rfl⟩, rfl⟩, top, htop, rfl⟩
    refine ⟨l :: front, top, ?_, by simp, List.forall_mem_cons.2 ⟨hl, hfront⟩, htop⟩
    rw [← List.flatMap_cons (f := (· ++ ['.'])), ← intercalate_append_singleton]
    refine List.splitOn_intercalate '.' (List.forall_mem_append.2 ⟨?_, ?_⟩) (by simp)
    · exact List.forall_mem_cons.2 ⟨hl.dot_notMem, fun l hl => (hfront l hl).dot_notMem⟩
    · exact List.forall_mem_singleton.2 htop.dot_notMem
  · rintro ⟨front, top, hsplit, hne, hfront, htop⟩
    obtain ⟨l, front, rfl⟩ := List.exists_cons_of_ne_nil hne
    rw [List.forall_mem_cons] at hfront
    refine ⟨_, ⟨_, ⟨l, hfront.1, rfl⟩, _, ⟨front, hfront.2, rfl⟩, rfl⟩, top, htop, ?_⟩
    rw [← List.flatMap_cons (f := (· ++ ['.'])), ← intercalate_append_singleton, ← hsplit,
      List.intercalate_splitOn]

/-- The domain names are the texts whose parts between dots are one or more labels and a top label,
and those that match the pattern. -/
theorem isValid_documented (s : List Char) :
    (isValid s ↔ Spelled s) ∧ (s ∈ namePattern ↔ Spelled s) :=
  ⟨isValid_iff_spelled, mem_namePattern_iff⟩

end ZoneAudit.DomainName
