import ZoneAudit.Proofs.Numerals
import ZoneAudit.Proofs.SmallLetters

/-!
Tag lists as maps. Of two lists one after the other, the second overrides the first. What a list
states has no separators and no blanks at its ends, and lower case makes neither, so names and
values are as clean as they are read; and whatever clean names and values are written down, with any
blanks around them, they are read back, each name with its last value.
-/

namespace ZoneAudit

namespace Text
open CaseTable

variable {s : List Char} {c d : Char} {inWord : Bool}

/-! The ends of a text. -/

theorem trimStart_eq_self_iff : trimStart s = s ↔ ∀ c ∈ s.head?, isBlank c = false := by
  rw [trimStart, List.dropWhile_eq_self_iff]
  cases s <;> simp

theorem trimEnd_eq_self_iff : trimEnd s = s ↔ ∀ c ∈ s.getLast?, isBlank c = false := by
  rw [trimEnd, List.reverse_eq_iff, ← List.head?_reverse]
  exact trimStart_eq_self_iff

theorem trim_eq_self_iff :
    trim s = s ↔ (∀ c ∈ s.head?, isBlank c = false) ∧ ∀ c ∈ s.getLast?, isBlank c = false := by
  rw [← trimStart_eq_self_iff, ← trimEnd_eq_self_iff]
  constructor
  · intro h
    have hend : trim s <+: trimStart s := List.rdropWhile_prefix _ _
    rw [h] at hend
    have hstart : trimStart s = s :=
      (List.dropWhile_suffix isBlank).eq_of_length_le hend.length_le
    rw [trim, hstart] at h
    exact ⟨hstart, h⟩
  · rintro ⟨hstart, hend⟩
    rw [trim, hstart, hend]

/-!
Lower case keeps blanks and other characters apart, so it leaves the ends of a text as they are.
-/

/-- The characters that a character becomes, one or more, are blanks if it is one. -/
theorem exists_form (c : Char) (s : List Char) (inWord : Bool) : ∃ form next,
    lowerAfter inWord (c :: s) = form ++ lowerAfter next s ∧ form ≠ [] ∧
      ∀ d ∈ form, isBlank d = isBlank c := by
  refine ⟨_, _, rfl, ?_⟩
  by_cases hsigma : c = 'Σ'
  · rw [if_pos hsigma, hsigma]
    refine ⟨List.cons_ne_nil _ _, List.forall_mem_singleton.2 ?_⟩
    split <;> decide
  · rw [if_neg hsigma]
    exact ⟨small_ne_nil c, fun d => isBlank_of_mem_small⟩

theorem isBlank_head?_lowerAfter (hd : d ∈ (lowerAfter inWord s).head?) :
    ∃ c ∈ s.head?, isBlank d = isBlank c := by
  cases s with
  | nil => cases hd
  | cons c s =>
    obtain ⟨form, next, heq, hne, hform⟩ := exists_form c s inWord
    rw [heq, List.head?_append_of_ne_nil _ hne] at hd
    exact ⟨c, rfl, hform d (List.mem_of_mem_head? hd)⟩

theorem isBlank_getLast?_lowerAfter (hd : d ∈ (lowerAfter inWord s).getLast?) :
    ∃ c ∈ s.getLast?, isBlank d = isBlank c := by
  induction s generalizing inWord with
  | nil => cases hd
  | cons c s ih =>
    obtain ⟨form, next, heq, hne, hform⟩ := exists_form c s inWord
    rw [heq] at hd
    cases s with
    | nil =>
      rw [lowerAfter, List.append_nil] at hd
      exact ⟨c, rfl, hform d (List.mem_of_mem_getLast? hd)⟩
    | cons c' s =>
      obtain ⟨form', next', heq', hne', -⟩ := exists_form c' s next
      have hrest : lowerAfter next (c' :: s) ≠ [] := by simp [heq', hne']
      rw [List.getLast?_append_of_ne_nil _ hrest] at hd
      rw [List.getLast?_cons_cons]
      exact ih hd

theorem trim_lower (h : trim s = s) : trim (lower s) = lower s := by
  rw [trim_eq_self_iff] at h ⊢
  constructor
  · intro d hd
    obtain ⟨c, hc, hblank⟩ := isBlank_head?_lowerAfter hd
    rw [hblank, h.1 c hc]
  · intro d hd
    obtain ⟨c, hc, hblank⟩ := isBlank_getLast?_lowerAfter hd
    rw [hblank, h.2 c hc]

/-- A sign is not made by lower case: it makes letters only, and keeps what has no small letter. -/
theorem eq_of_mem_small (hd : d ∈ small c) (hascii : d.toNat < 0x80) (hnul : d ≠ '\x00')
    (hsign : d.isAlpha = false) : c = d := by
  obtain ⟨hrange, rfl⟩ | ⟨-, rfl | rfl⟩ | ⟨t, ht, hcovers, himage⟩ | ⟨rfl, -⟩ := mem_small_cases hd
  · have hletters : ∀ n < 0x80,
        (Char.ofNat n).toLower.isAlpha = false → Char.ofNat n = (Char.ofNat n).toLower := by decide
    have h := hletters c.toNat hrange
    rw [Char.ofNat_toNat] at h
    exact h hsign
  · cases hsign
  · exact absurd hascii (by decide)
  · have hrange := hcovers
    simp only [Capitals.covers, Bool.and_eq_true, decide_eq_true_eq] at hrange
    rcases ofNat_eq_nul_or (c.toNat - t.first + t.small) with hzero | hcode
    · exact absurd (himage.trans hzero) hnul
    · rw [← himage] at hcode
      obtain ⟨-, rfl | ⟨hletter, -⟩⟩ := capitals_letters t ht
      · have hkelvin : 0x212A ≤ c.toNat ∧ c.toNat ≤ 0x212A := hrange.1
        have hcode' : c.toNat = 0x212A := by omega
        rw [himage, hcode'] at hsign
        exact absurd hsign (by decide)
      · simp only [blankless, Bool.and_eq_true, decide_eq_true_eq] at hletter
        omega
  · rfl

theorem mem_of_mem_lower (hd : d ∈ lower s) (hascii : d.toNat < 0x80) (hnul : d ≠ '\x00')
    (hsign : d.isAlpha = false) : d ∈ s := by
  obtain ⟨c, hc, hd | ⟨-, rfl⟩⟩ := exists_of_mem_lowerAfter hd
  · rwa [eq_of_mem_small hd hascii hnul hsign] at hc
  · exact absurd hascii (by decide)

end Text

namespace TagList
open Text

/-- A text that can stand between separators: it is not empty, and has no blank at its ends and no
separator. -/
structure IsField (s : String) : Prop where
  ne_empty : s ≠ ""
  trimmed : trim s.toList = s.toList
  semicolon_notMem : ';' ∉ s.toList
  equals_notMem : '=' ∉ s.toList

structure IsName (s : String) : Prop extends IsField s where
  small : lower s.toList = s.toList

instance : DecidablePred IsField := fun s =>
  decidable_of_iff
    (s ≠ "" ∧ trim s.toList = s.toList ∧ ';' ∉ s.toList ∧ '=' ∉ s.toList)
    ⟨fun ⟨h₁, h₂, h₃, h₄⟩ => ⟨h₁, h₂, h₃, h₄⟩, fun ⟨h₁, h₂, h₃, h₄⟩ => ⟨h₁, h₂, h₃, h₄⟩⟩

instance : DecidablePred IsName := fun s =>
  decidable_of_iff (IsField s ∧ lower s.toList = s.toList)
    ⟨fun ⟨h₁, h₂⟩ => ⟨h₁, h₂⟩, fun ⟨h₁, h₂⟩ => ⟨h₁, h₂⟩⟩

/-- The segment writes the entry down, with any blanks around its name and its value. -/
def Writes (segment : List Char) (e : String × String) : Prop :=
  ∃ gap₁ gap₂ gap₃ gap₄, IsGap gap₁ ∧ IsGap gap₂ ∧ IsGap gap₃ ∧ IsGap gap₄ ∧
    segment = gap₁ ++ e.1.toList ++ gap₂ ++ '=' :: (gap₃ ++ e.2.toList ++ gap₄)

variable {segment : List Char} {segments : List (List Char)} {e : String × String}
  {es : List (String × String)} {name v s : String}

theorem entries_append (a b : String) : entries (a ++ ";" ++ b) = entries a ++ entries b := by
  have hsemicolon : ";".toList = [';'] := rfl
  rw [entries, String.toList_append, String.toList_append, hsemicolon, List.append_assoc,
    List.singleton_append, List.splitOn_append_cons_self, List.filterMap_append]
  rfl

theorem States.isName (h : States segment name v) (hsegment : ';' ∉ segment) : IsName name := by
  obtain ⟨left, right, rfl, hequals, hname, -, hne, -⟩ := h
  rw [List.mem_append, not_or] at hsegment
  have hsign {c : Char} (hascii : c.toNat < 0x80) (hnul : c ≠ '\x00') (halpha : c.isAlpha = false)
      (hc : c ∉ left) : c ∉ name.toList := by
    rw [← hname]
    exact fun hmem => hc (mem_of_mem_trim (mem_of_mem_lower hmem hascii hnul halpha))
  refine ⟨⟨hne, ?_, ?_, ?_⟩, ?_⟩
  · rw [← hname, trim_lower (trim_trim left)]
  · exact hsign (by decide) (by decide) rfl hsegment.1
  · exact hsign (by decide) (by decide) rfl hequals
  · rw [← hname, lower_lower]

theorem States.isField (h : States segment name v) (hsegment : ';' ∉ segment) : IsField v := by
  obtain ⟨left, right, rfl, -, -, hvalue, -, hne⟩ := h
  rw [List.mem_append, List.mem_cons, not_or, not_or] at hsegment
  refine ⟨hne, ?_, ?_, ?_⟩
  · rw [← hvalue, trim_trim]
  · rw [← hvalue]
    exact fun hmem => hsegment.2.2 ((List.takeWhile_subset _) (mem_of_mem_trim hmem))
  · rw [← hvalue]
    intro hmem
    simpa using List.mem_takeWhile_imp (mem_of_mem_trim hmem)

theorem Writes.states (h : Writes segment e) (hname : IsName e.1) (hvalue : IsField e.2) :
    States segment e.1 e.2 := by
  obtain ⟨gap₁, gap₂, gap₃, gap₄, h₁, h₂, h₃, h₄, rfl⟩ := h
  have hgap {gap : List Char} (h : IsGap gap) : '=' ∉ gap := fun hmem => by
    cases h _ hmem
  refine ⟨_, _, rfl, ?_, ?_, ?_, hname.ne_empty, hvalue.ne_empty⟩
  · simp [hgap h₁, hgap h₂, hname.equals_notMem]
  · rw [trim_padded h₁ h₂, hname.trimmed, hname.small]
  · have hright : '=' ∉ gap₃ ++ e.2.toList ++ gap₄ := by
      simp [hgap h₃, hgap h₄, hvalue.equals_notMem]
    rw [before_of_notMem hright, trim_padded h₃ h₄, hvalue.trimmed]

theorem Writes.semicolon_notMem (h : Writes segment e) (hname : IsName e.1) (hvalue : IsField e.2) :
    ';' ∉ segment := by
  obtain ⟨gap₁, gap₂, gap₃, gap₄, h₁, h₂, h₃, h₄, rfl⟩ := h
  have hgap {gap : List Char} (h : IsGap gap) : ';' ∉ gap := fun hmem => by
    cases h _ hmem
  simp [hgap h₁, hgap h₂, hgap h₃, hgap h₄, hname.semicolon_notMem, hvalue.semicolon_notMem]

/-- The text writes the entries down in order, with semicolons between them. -/
def Spells (s : String) (es : List (String × String)) : Prop :=
  ∃ segments, s.toList = [';'].intercalate segments ∧ List.Forall₂ Writes segments es

theorem filterMap_entry?_of_writes (hes : ∀ e ∈ es, IsName e.1 ∧ IsField e.2)
    (h : List.Forall₂ Writes segments es) :
    segments.filterMap entry? = es ∧ ∀ segment ∈ segments, ';' ∉ segment := by
  induction h with
  | nil => simp
  | cons hwrites _ ih =>
    rw [List.forall_mem_cons] at hes
    obtain ⟨⟨hname, hvalue⟩, hes⟩ := hes
    obtain ⟨hentries, hsemicolon⟩ := ih hes
    have hentry := entry?_eq_some_iff.2 (hwrites.states hname hvalue)
    rw [List.filterMap_cons_some hentry, hentries]
    exact ⟨rfl, List.forall_mem_cons.2 ⟨hwrites.semicolon_notMem hname hvalue, hsemicolon⟩⟩

theorem entries_of_spells (hes : ∀ e ∈ es, IsName e.1 ∧ IsField e.2) (h : Spells s es) :
    entries s = es := by
  obtain ⟨segments, hs, hwrites⟩ := h
  obtain ⟨hentries, hsemicolon⟩ := filterMap_entry?_of_writes hes hwrites
  rw [entries, hs]
  by_cases hnil : segments = []
  · subst hnil
    cases hwrites
    rfl
  · rw [List.splitOn_intercalate ';' hsemicolon hnil, hentries]

theorem wellFormed_of_mem_entries (he : e ∈ entries s) : IsName e.1 ∧ IsField e.2 := by
  obtain ⟨segment, hsegment, hentry⟩ := List.mem_filterMap.1 he
  have hsemicolon : ';' ∉ segment := fun hmem => by
    rw [List.splitOn_eq_splitOnP] at hsegment
    simpa using not_of_mem_splitOnP hsegment ';' hmem
  have hstates := entry?_eq_some_iff.1 hentry
  exact ⟨hstates.isName hsemicolon, hstates.isField hsemicolon⟩

/-- A tag list overrides the one before it, what is read is clean, and a list of clean tags is read
back, with the last value for each name. -/
theorem tagMap_laws :
    (∀ a b name, value? (entries (a ++ ";" ++ b)) name =
      (value? (entries b) name).or (value? (entries a) name)) ∧
    (∀ s name v, value? (entries s) name = some v → IsName name ∧ IsField v) ∧
    ∀ es s, (∀ e ∈ es, IsName e.1 ∧ IsField e.2) → Spells s es → ∀ name v,
      value? (entries s) name = some v ↔
        ∃ earlier later, es = earlier ++ (name, v) :: later ∧ ∀ e ∈ later, e.1 ≠ name := by
  refine ⟨fun a b name => ?_, fun s name v h => ?_, fun es s hes hs name v => ?_⟩
  · rw [entries_append, value?_append]
  · obtain ⟨earlier, later, hentries, -⟩ := value?_eq_some_iff.1 h
    have hmem : (name, v) ∈ entries s := by simp [hentries]
    exact wellFormed_of_mem_entries hmem
  · rw [entries_of_spells hes hs, value?_eq_some_iff]

/-- A policy stated twice, with blanks of several kinds around it. -/
theorem tagMap_laws_repeated :
    Spells "p = none;v=DMARC1 ;\u00A0p\t=\u2003reject"
        [("p", "none"), ("v", "DMARC1"), ("p", "reject")] ∧
      value? (entries "p = none;v=DMARC1 ;\u00A0p\t=\u2003reject") "p" = some "reject" ∧
      IsName "p" ∧ IsField "reject" := by
  have hclean : ∀ e ∈ [("p", "none"), ("v", "DMARC1"), ("p", "reject")],
      IsName e.1 ∧ IsField e.2 := by decide +kernel
  have hblank {c : Char} (hc : isBlank c = true) : IsGap [c] := List.forall_mem_singleton.2 hc
  have hnone : IsGap [] := List.forall_mem_nil _
  have hspells : Spells "p = none;v=DMARC1 ;\u00A0p\t=\u2003reject"
      [("p", "none"), ("v", "DMARC1"), ("p", "reject")] := by
    refine ⟨["p = none".toList, "v=DMARC1 ".toList, "\u00A0p\t=\u2003reject".toList], by decide, ?_⟩
    refine .cons ⟨[], [' '], [' '], [], hnone, hblank rfl, hblank rfl, hnone, rfl⟩ ?_
    refine .cons ⟨[], [], [], [' '], hnone, hnone, hnone, hblank rfl, rfl⟩ ?_
    exact .cons ⟨['\u00A0'], ['\t'], ['\u2003'], [], hblank rfl, hblank rfl, hblank rfl, hnone, rfl⟩
      .nil
  have hlast := (tagMap_laws.2.2 _ _ hclean hspells "p" "reject").2
    ⟨[("p", "none"), ("v", "DMARC1")], [], rfl, by simp⟩
  exact ⟨hspells, hlast, tagMap_laws.2.1 _ _ _ hlast⟩

end TagList
end ZoneAudit
