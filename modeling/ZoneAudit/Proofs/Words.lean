import Mathlib.Data.List.Basic
import ZoneAudit.Proofs.Numerals

/-!
Words and the blanks around them. A text is its words with blanks between them, and the words are
all that is read of a body, so how many blanks there are and which does not matter.
-/

namespace ZoneAudit.Text

/-- Any number of blanks. -/
def IsGap (s : List Char) : Prop := ∀ c ∈ s, isBlank c

instance : DecidablePred IsGap := fun s => decidable_of_iff (s.all isBlank) List.all_eq_true

structure IsWord (s : List Char) : Prop where
  ne_nil : s ≠ []
  not_blank : ∀ c ∈ s, isBlank c = false

instance : DecidablePred IsWord := fun s =>
  decidable_of_iff (s ≠ [] ∧ s.all (!isBlank ·))
    ⟨fun h => ⟨h.1, by simpa using h.2⟩, fun h => ⟨h.ne_nil, by simpa using h.not_blank⟩⟩

/-- Parts of a text with at least one blank in front of each of them, and any number at the end. -/
inductive Trail : List (List Char) → List Char → Prop
  | nil {gap : List Char} (hgap : IsGap gap) : Trail [] gap
  | cons {gap w s : List Char} {ws : List (List Char)} (hgap : IsGap gap) (hne : gap ≠ [])
      (hs : Trail ws s) : Trail (w :: ws) (gap ++ w ++ s)

/-- Parts of a text with blanks between them and any number of blanks around them. -/
inductive Spread : List (List Char) → List Char → Prop
  | nil {gap : List Char} (hgap : IsGap gap) : Spread [] gap
  | cons {gap w s : List Char} {ws : List (List Char)} (hgap : IsGap gap) (hs : Trail ws s) :
      Spread (w :: ws) (gap ++ w ++ s)

variable {s : List Char} {ws : List (List Char)}

/-- Where a word may end. -/
def Bounded (s : List Char) : Prop := ∀ c ∈ s.head?, isBlank c

theorem words_gap_append {gap : List Char} (hgap : IsGap gap) (s : List Char) :
    words (gap ++ s) = words s := by
  induction gap with
  | nil => rfl
  | cons c gap ih =>
    rw [IsGap, List.forall_mem_cons] at hgap
    rw [List.cons_append, words_of_blank hgap.1, ih hgap.2]

theorem words_gap {gap : List Char} (hgap : IsGap gap) : words gap = [] := by
  simpa using words_gap_append hgap []

theorem trimStart_gap_append {gap : List Char} (hgap : IsGap gap) (s : List Char) :
    trimStart (gap ++ s) = trimStart s := List.dropWhile_append_of_pos hgap

theorem trimStart_gap {gap : List Char} (hgap : IsGap gap) : trimStart gap = [] := by
  simpa using trimStart_gap_append hgap []

theorem trimStart_word_append {w : List Char} (hw : IsWord w) (s : List Char) :
    trimStart (w ++ s) = w ++ s := by
  obtain ⟨c, r, rfl⟩ := List.exists_cons_of_ne_nil hw.ne_nil
  exact trimStart_of_not_blank (hw.not_blank c (by simp))

theorem words_word_append {w : List Char} (hw : IsWord w) (hs : Bounded s) :
    words (w ++ s) = w :: words s := by
  have hne : w.isEmpty = false := by simpa using hw.ne_nil
  cases s with
  | nil => simp [words, List.splitOnP_eq_singleton hw.not_blank, hne]
  | cons c s =>
    have hc : isBlank c := hs c rfl
    rw [words_of_blank hc, words, List.splitOnP_append_cons_of_forall_mem hw.not_blank c hc]
    simp [words, hne]

theorem words_of_first {gap w t : List Char} (hgap : IsGap gap) (hw : IsWord w) (ht : Bounded t) :
    words (gap ++ w ++ t) = w :: words t := by
  rw [List.append_assoc, words_gap_append hgap, words_word_append hw ht]

theorem isWord_of_mem_words {w : List Char} (hw : w ∈ words s) : IsWord w :=
  ⟨by simpa using (List.mem_filter.1 hw).2, not_isBlank_of_mem_words hw⟩

theorem Trail.bounded (h : Trail ws s) : Bounded s := by
  cases h with
  | nil hgap => exact fun c hc => hgap c (List.mem_of_mem_head? hc)
  | @cons gap w s ws hgap hne hs =>
    intro c hc
    rw [List.append_assoc, List.head?_append_of_ne_nil _ hne] at hc
    exact hgap c (List.mem_of_mem_head? hc)

theorem Trail.words_eq (h : Trail ws s) (hws : ∀ w ∈ ws, IsWord w) : words s = ws := by
  induction h with
  | nil hgap => exact words_gap hgap
  | cons hgap _ hs ih =>
    rw [List.forall_mem_cons] at hws
    rw [words_of_first hgap hws.1 hs.bounded, ih hws.2]

/-- A text is blanks only, or it has a first word, which ends at a blank or with the text. -/
theorem isGap_or_exists_word (s : List Char) :
    IsGap s ∨ ∃ gap w t, s = gap ++ w ++ t ∧ IsGap gap ∧ IsWord w ∧ Bounded t := by
  induction s with
  | nil => exact .inl (List.forall_mem_nil _)
  | cons c s ih =>
    by_cases hc : isBlank c = true
    · obtain hs | ⟨gap, w, t, rfl, hgap, hw, ht⟩ := ih
      · exact .inl (List.forall_mem_cons.2 ⟨hc, hs⟩)
      · exact .inr ⟨c :: gap, w, t, rfl, List.forall_mem_cons.2 ⟨hc, hgap⟩, hw, ht⟩
    · have hc : isBlank c = false := Bool.eq_false_iff.2 hc
      have hword : IsWord [c] := ⟨List.cons_ne_nil c [], List.forall_mem_singleton.2 hc⟩
      refine .inr ?_
      by_cases hs : Bounded s
      · exact ⟨[], [c], s, rfl, List.forall_mem_nil _, hword, hs⟩
      · obtain hs' | ⟨gap, w, t, rfl, hgap, hw, ht⟩ := ih
        · exact absurd (fun d hd => hs' d (List.mem_of_mem_head? hd)) hs
        · cases gap with
          | nil =>
            refine ⟨[], c :: w, t, rfl, List.forall_mem_nil _, ?_, ht⟩
            exact ⟨List.cons_ne_nil c w, List.forall_mem_cons.2 ⟨hc, hw.not_blank⟩⟩
          | cons b gap =>
            refine absurd (fun d hd => ?_) hs
            obtain rfl : b = d := by simpa using hd
            exact hgap b (List.mem_cons_self ..)

theorem trail_words (hs : Bounded s) : Trail (words s) s := by
  induction hlength : s.length using Nat.strongRecOn generalizing s with
  | ind n ih =>
    obtain hgap | ⟨gap, w, t, rfl, hgap, hw, ht⟩ := isGap_or_exists_word s
    · rw [words_gap hgap]
      exact .nil hgap
    · have hne : gap ≠ [] := by
        rintro rfl
        obtain ⟨c, r, rfl⟩ := List.exists_cons_of_ne_nil hw.ne_nil
        have hblank : isBlank c := hs c rfl
        simp [hw.not_blank c (by simp)] at hblank
      have hshort : t.length < n := by
        have hpos := List.length_pos_iff.2 hne
        simp only [List.length_append] at hlength
        omega
      rw [words_of_first hgap hw ht]
      exact .cons hgap hne (ih t.length hshort ht rfl)

theorem spread_words (s : List Char) : Spread (words s) s := by
  obtain hgap | ⟨gap, w, t, rfl, hgap, hw, ht⟩ := isGap_or_exists_word s
  · rw [words_gap hgap]
    exact .nil hgap
  · rw [words_of_first hgap hw ht]
    exact .cons hgap (trail_words ht)

/-- The words of a text are those that it is spread out from. -/
theorem words_eq_iff : words s = ws ↔ Spread ws s ∧ ∀ w ∈ ws, IsWord w := by
  constructor
  · rintro rfl
    exact ⟨spread_words s, fun w hw => isWord_of_mem_words hw⟩
  · rintro ⟨h, hws⟩
    cases h with
    | nil hgap => exact words_gap hgap
    | cons hgap hs =>
      rw [List.forall_mem_cons] at hws
      rw [words_of_first hgap hws.1 hs.bounded, hs.words_eq hws.2]

/-- A text without blanks that starts a word and what is behind it starts the word alone. -/
theorem prefix_append_iff {part w : List Char} (hpart : ∀ c ∈ part, isBlank c = false)
    (hs : Bounded s) : part <+: w ++ s ↔ part <+: w := by
  refine ⟨?_, fun h => h.trans (List.prefix_append w s)⟩
  rintro ⟨rest, heq⟩
  obtain ⟨more, rfl, -⟩ | ⟨more, rfl, rfl⟩ := List.append_eq_append_iff.1 heq
  · exact List.prefix_append part more
  · cases more with
    | nil => simp
    | cons c more =>
      have hc : isBlank c := hs c rfl
      simp [hpart c (by simp)] at hc

/-- What is left of a text without its leading blanks starts in the way its first word does. -/
theorem startsWith_trimStart_iff {part : String} (hne : part.toList ≠ [])
    (hpart : ∀ c ∈ part.toList, isBlank c = false) (s : List Char) :
    startsWith part (trimStart s) ↔ ∃ w ∈ (words s).head?, startsWith part w := by
  simp only [startsWith, List.isPrefixOf_iff_prefix]
  obtain hgap | ⟨gap, w, t, rfl, hgap, hw, ht⟩ := isGap_or_exists_word s
  · simp [trimStart_gap hgap, words_gap hgap, hne]
  · rw [words_of_first hgap hw ht, List.append_assoc, trimStart_gap_append hgap,
      trimStart_word_append hw, prefix_append_iff hpart ht]
    simp

end ZoneAudit.Text
