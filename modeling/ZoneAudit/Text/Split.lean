/-!
Cutting a text at separators and looking for texts inside it.
-/

namespace ZoneAudit.Text

/-- The text before the first `sep` and the text after it; `none` without a separator. -/
def cut (sep : Char) : List Char → Option (List Char × List Char)
  | [] => none
  | c :: r => if c = sep then some ([], r) else (cut sep r).map fun p => (c :: p.1, p.2)

/-- The text up to the first `sep`, the whole text without one. -/
def before (sep : Char) (s : List Char) : List Char := s.takeWhile (· ≠ sep)

def startsWith (start : String) (s : List Char) : Bool := start.toList.isPrefixOf s

def endsWith (ending : String) (s : List Char) : Bool := ending.toList.isSuffixOf s

/-- Whether `part` occurs somewhere in the text. -/
def contains (part : String) : List Char → Bool
  | [] => part.isEmpty
  | c :: r => startsWith part (c :: r) || contains part r

/-- A text without one final `c`, if it ends in one. -/
def dropFinal (c : Char) (s : List Char) : List Char :=
  if s.getLast? = some c then s.dropLast else s

theorem contains_iff {part : String} {s : List Char} :
    contains part s = true ↔ part.toList <:+: s := by
  induction s with
  | nil => simp [contains]
  | cons c r ih => simp [contains, startsWith, List.infix_cons_iff, ih]

@[simp] theorem cut_nil (sep : Char) : cut sep [] = none := rfl

theorem cut_eq_none_iff {sep : Char} {s : List Char} : cut sep s = none ↔ sep ∉ s := by
  induction s with
  | nil => simp
  | cons c r ih =>
    by_cases h : c = sep
    · simp [cut, h]
    · simp [cut, h, ih, Ne.symm h]

theorem eq_append_of_cut {sep : Char} {s a b : List Char} (h : cut sep s = some (a, b)) :
    s = a ++ sep :: b ∧ sep ∉ a := by
  induction s generalizing a with
  | nil => simp at h
  | cons c r ih =>
    by_cases hc : c = sep
    · simp only [cut, hc, if_true, Option.some.injEq, Prod.mk.injEq] at h
      obtain ⟨rfl, rfl⟩ := h
      simp [hc]
    · simp only [cut, hc, if_false, Option.map_eq_some_iff] at h
      obtain ⟨⟨x, y⟩, hr, h⟩ := h
      simp only [Prod.mk.injEq] at h
      obtain ⟨rfl, rfl⟩ := h
      obtain ⟨hs, hn⟩ := ih hr
      exact ⟨by simp [hs], by simp [hn, Ne.symm hc]⟩

theorem cut_append {sep : Char} {a : List Char} (h : sep ∉ a) (b : List Char) :
    cut sep (a ++ sep :: b) = some (a, b) := by
  induction a with
  | nil => simp [cut]
  | cons c a ih =>
    rw [List.mem_cons, not_or] at h
    simp [cut, Ne.symm h.1, ih h.2]

theorem before_append {sep : Char} {a : List Char} (h : sep ∉ a) (b : List Char) :
    before sep (a ++ sep :: b) = a := by
  have hne : ∀ c ∈ a, decide (c ≠ sep) = true := fun c hc => by
    simpa using ne_of_mem_of_not_mem hc h
  rw [before, List.takeWhile_append_of_pos hne]
  simp

theorem before_of_notMem {sep : Char} {s : List Char} (h : sep ∉ s) : before sep s = s := by
  induction s with
  | nil => rfl
  | cons c r ih =>
    rw [List.mem_cons, not_or] at h
    have hr := ih h.2
    rw [before] at hr ⊢
    simpa [Ne.symm h.1] using hr

/-- Each part but the first stands after a separator. -/
theorem intercalate_cons_eq {α : Type} (sep : α) (x : List α) (xs : List (List α)) :
    [sep].intercalate (x :: xs) = x ++ xs.flatMap (sep :: ·) := by
  induction xs generalizing x with
  | nil => simp
  | cons y ys ih => rw [List.intercalate_cons_cons, ih]; simp

/-- Each part but the last stands before a separator. -/
theorem intercalate_append_singleton {α : Type} (sep : α) (front : List (List α)) (last : List α) :
    [sep].intercalate (front ++ [last]) = front.flatMap (· ++ [sep]) ++ last := by
  induction front with
  | nil => simp
  | cons x front ih =>
    rw [List.flatMap_cons, List.append_assoc, ← ih]
    cases front <;> simp [intercalate_cons_eq]

end ZoneAudit.Text
