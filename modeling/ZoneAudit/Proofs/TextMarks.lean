import ZoneAudit.Proofs.PrintedText

/-!
The marks of JSON text: brackets, commas and colons. Outside of texts in quotation marks, each such
character is a token of its own, and it ends whatever stands before it. So a text is cut at its
marks just as its tokens are, and its pieces can be read apart from each other.
-/

namespace ZoneAudit.Json

/-- The character that a token is, if it is one of the marks. -/
def Token.mark? : Token → Option Char
  | .beginArray => some '['
  | .endArray => some ']'
  | .beginObject => some '\x7b'
  | .endObject => some '\x7d'
  | .comma => some ','
  | .colon => some ':'
  | _ => none

namespace Lexer

/-- The modes that the lexer comes to: a word is never read as a mark. -/
def Mode.Proper : Mode → Prop
  | .word t _ => t.mark? = none
  | _ => True

/-- Blanks, as they may stand between tokens. -/
def IsSpace (s : List Char) : Prop := ∀ c ∈ s, c = ' ' ∨ c = '\t' ∨ c = '\n' ∨ c = '\r'

/-- What a character does: nothing as a blank, go on inside a token, complete a token that is no
mark, or end what stands before it as a mark. -/
inductive Effect (m : Mode) (c : Char) : List Token → Mode → Prop
  | blank (hm : m = .between) (hc : IsSpace [c]) : Effect m c [] .between
  | inside {m' : Mode} (hm' : m'.Proper) (hne : m' ≠ .between) : Effect m c [] m'
  | token {m' : Mode} {t : Token} (hm' : m'.Proper) (ht : t.mark? = none) : Effect m c [t] m'
  | mark {q : List Token} {t : Token} (ht : t.mark? = some c) (hq : finish m = some q) :
      Effect m c (q ++ [t]) .between

variable {m m' : Mode} {c : Char} {t : Token} {s rest : List Char} {p ts us : List Token}

/-! One character. -/

theorem start_of_mark (h : t.mark? = some c) : start c = some ([t], .between) := by
  cases t with
  | null | bool | number | text => cases h
  | _ =>
    obtain rfl := Option.some.inj h
    rfl

theorem continue?_of_mark (h : t.mark? = some c) (place : Place) (n : Numeral) :
    continue? place n c = none := by
  cases t with
  | null | bool | number | text => cases h
  | _ =>
    obtain rfl := Option.some.inj h
    cases place <;> simp [continue?]

/-- A first character is a mark, or it completes nothing; then it is a blank or starts a token. -/
theorem start_cases (h : start c = some (p, m)) :
    m.Proper ∧ (p = [] ∧ (m = .between → IsSpace [c]) ∨
      ∃ t, p = [t] ∧ t.mark? = some c ∧ m = .between) := by
  rw [start, ite_eq_iff] at h
  rcases h with ⟨hblank, h⟩ | ⟨-, h⟩
  · cases h
    exact ⟨trivial, .inl ⟨rfl, fun _ => by simpa [IsSpace, or_assoc] using hblank⟩⟩
  iterate 6
    rw [ite_eq_iff] at h
    rcases h with ⟨rfl, h⟩ | ⟨-, h⟩
    · cases h
      exact ⟨trivial, .inr ⟨_, rfl, rfl, rfl⟩⟩
  iterate 7
    rw [ite_eq_iff] at h
    rcases h with ⟨-, h⟩ | ⟨-, h⟩
    · cases h
      exact ⟨by simp [Mode.Proper, Token.mark?], .inl ⟨rfl, by simp⟩⟩
  cases h

theorem exists_number_of_continue? {place : Place} {n : Numeral}
    (h : continue? place n c = some m) : ∃ place' n', m = .number place' n' := by
  cases place <;> simp only [continue?] at h <;> grind

/-- Before a mark a text may end, and the mark follows what the end completes. -/
theorem step_of_finish (ht : t.mark? = some c) (h : finish m = some p) :
    step m c = some (p ++ [t], .between) := by
  cases m with
  | between =>
    cases h
    exact start_of_mark ht
  | number place n =>
    rw [finish] at h
    split at h
    case isTrue hplace =>
      cases h
      simp only [step, continue?_of_mark ht, hplace, start_of_mark ht, if_true, Option.map_some]
      rfl
    case isFalse => cases h
  | _ => cases h

/-- No end completes a mark. -/
theorem mark?_of_mem_finish (h : finish m = some p) (ht : t ∈ p) : t.mark? = none := by
  cases m with
  | between =>
    cases h
    cases ht
  | number place n =>
    rw [finish] at h
    split at h
    case isTrue =>
      cases h
      rw [List.mem_singleton.1 ht]
      rfl
    case isFalse => cases h
  | _ => cases h

theorem effect_of_step (hm : m.Proper) (h : step m c = some (p, m')) : Effect m c p m' := by
  cases m with
  | between =>
    obtain ⟨hm', ⟨rfl, hblank⟩ | ⟨t, rfl, ht, rfl⟩⟩ := start_cases h
    · by_cases hbetween : m' = .between
      · exact hbetween ▸ .blank rfl (hblank hbetween)
      · exact .inside hm' hbetween
    · exact .mark ht (q := []) rfl
  | word t left =>
    match left with
    | [] => cases h
    | [d] =>
      simp only [step, Option.ite_none_right_eq_some] at h
      cases h.2
      exact .token trivial hm
    | d :: e :: left =>
      simp only [step, Option.ite_none_right_eq_some] at h
      cases h.2
      exact .inside hm (by simp)
  | number place n =>
    rw [step] at h
    cases hcontinue : continue? place n c with
    | some mode =>
      obtain ⟨place', n', rfl⟩ := exists_number_of_continue? hcontinue
      rw [hcontinue] at h
      cases h
      exact .inside trivial (by simp)
    | none =>
      simp only [hcontinue, Option.ite_none_right_eq_some, Option.map_eq_some_iff] at h
      obtain ⟨hplace, ⟨q, mode⟩, hstart, heq⟩ := h
      cases heq
      obtain ⟨hm', ⟨rfl, -⟩ | ⟨t, rfl, ht, rfl⟩⟩ := start_cases hstart
      · exact .token hm' rfl
      · exact .mark ht (q := [.number n]) (by rw [finish, if_pos hplace])
  | text done =>
    simp only [step] at h
    split_ifs at h
    all_goals cases h
    · exact .token trivial rfl
    all_goals exact .inside trivial (by simp)
  | escape done =>
    simp only [step] at h
    split at h
    case isTrue =>
      cases h
      exact .inside trivial (by simp)
    case isFalse =>
      obtain ⟨d, -, heq⟩ := Option.map_eq_some_iff.1 h
      cases heq
      exact .inside trivial (by simp)
  | unit done digits =>
    simp only [step] at h
    split at h
    case h_1 => cases h
    all_goals
      cases h
      exact .inside trivial (by simp)

/-! Texts. -/

theorem run_cons_eq_some_iff : run m (c :: s) = some ts ↔
    ∃ p m' us, step m c = some (p, m') ∧ run m' s = some us ∧ ts = p ++ us := by
  rw [run, Option.bind_eq_some_iff]
  constructor
  · rintro ⟨⟨p, m'⟩, hstep, hrun⟩
    obtain ⟨us, hus, rfl⟩ := Option.map_eq_some_iff.1 hrun
    exact ⟨p, m', us, hstep, hus, rfl⟩
  · rintro ⟨p, m', us, hstep, hus, rfl⟩
    exact ⟨(p, m'), hstep, by rw [hus, Option.map_some]⟩

/-- What stands before a mark is read as it is read alone. -/
theorem run_append_mark (ht : t.mark? = some c) (h : run m s = some ts) (rest : List Char) :
    run m (s ++ c :: rest) = (run .between rest).map (ts ++ t :: ·) := by
  induction s generalizing m ts with
  | nil =>
    rw [List.nil_append, run_cons_of_step (step_of_finish ht h)]
    simp
  | cons d s ih =>
    obtain ⟨p, m', us, hstep, hus, rfl⟩ := run_cons_eq_some_iff.1 h
    rw [List.cons_append, run_cons_of_step hstep, ih hus, Option.map_map]
    simp [Function.comp_def]

/-- Where a mark is read, it is written. -/
theorem exists_run_of_mark (hm : m.Proper) (ht : t.mark? = some c)
    (h : run m s = some (ts ++ t :: us)) :
    ∃ a b, s = a ++ c :: b ∧ run m a = some ts ∧ run .between b = some us := by
  induction s generalizing m ts with
  | nil =>
    have hnone := mark?_of_mem_finish h (t := t) (by simp)
    rw [hnone] at ht
    cases ht
  | cons d s ih =>
    obtain ⟨p, m', rest, hstep, hrest, heq⟩ := run_cons_eq_some_iff.1 h
    have hlater {x : List Token} (hm' : m'.Proper) (hts : ts = p ++ x) (hx : rest = x ++ t :: us) :
        ∃ a b, d :: s = a ++ c :: b ∧ run m a = some ts ∧ run .between b = some us := by
      rw [hx] at hrest
      obtain ⟨a, b, rfl, ha, hb⟩ := ih hm' hrest
      exact ⟨d :: a, b, rfl, run_cons_eq_some_iff.2 ⟨p, m', x, hstep, ha, hts⟩, hb⟩
    have hnone {q : List Token} (hq : ∀ u ∈ q, u.mark? = none) : t ∉ q := by
      intro hmem
      rw [hq t hmem] at ht
      cases ht
    cases effect_of_step hm hstep with
    | blank => exact hlater trivial rfl heq.symm
    | inside hm' => exact hlater hm' rfl heq.symm
    | @token m' u hm' hu =>
      cases ts with
      | nil =>
        obtain ⟨rfl, -⟩ := List.cons.inj heq
        exact absurd (List.mem_singleton_self t) (hnone (List.forall_mem_singleton.2 hu))
      | cons u' ts =>
        obtain ⟨rfl, hrest'⟩ := List.cons.inj heq
        exact hlater hm' rfl hrest'.symm
    | @mark q u hu hq =>
      rw [List.append_assoc, List.singleton_append] at heq
      have hhere (hts : ts = q) (hus : t :: us = u :: rest) :
          ∃ a b, d :: s = a ++ c :: b ∧ run m a = some ts ∧ run .between b = some us := by
        obtain ⟨rfl, rfl⟩ := List.cons.inj hus
        obtain rfl : c = d := Option.some.inj (ht.symm.trans hu)
        exact ⟨[], s, rfl, hts ▸ hq, hrest⟩
      obtain ⟨x, hx, hus⟩ | ⟨x, hx, hus⟩ := List.append_eq_append_iff.1 heq
      · cases x with
        | nil => exact hhere (by simpa using hx.symm) hus
        | cons u' x =>
          obtain ⟨rfl, -⟩ := List.cons.inj hus
          exact absurd (by simp [hx]) (hnone fun u' => mark?_of_mem_finish hq (t := u'))
      · cases x with
        | nil => exact hhere (by simpa using hx) hus.symm
        | cons u' x =>
          obtain ⟨rfl, hsame⟩ := List.cons.inj hus
          exact hlater trivial (by simpa using hx) hsame

/-! Blanks. -/

theorem run_space_append (hs : IsSpace s) (rest : List Char) :
    run .between (s ++ rest) = run .between rest := by
  induction s with
  | nil => rfl
  | cons c s ih =>
    rw [IsSpace, List.forall_mem_cons] at hs
    have hstep : step .between c = some ([], .between) := by
      obtain rfl | rfl | rfl | rfl := hs.1 <;> rfl
    rw [List.cons_append, run_cons_of_quiet hstep, ih hs.2]

theorem run_space (hs : IsSpace s) : run .between s = some [] := by
  have hnil := run_space_append hs []
  rwa [List.append_nil] at hnil

/-- A text without tokens is blank. -/
theorem isSpace_of_run (hm : m.Proper) (h : run m s = some []) : m = .between ∧ IsSpace s := by
  induction s generalizing m with
  | nil =>
    cases m with
    | between => exact ⟨rfl, List.forall_mem_nil _⟩
    | number place n =>
      rw [run, finish] at h
      split at h <;> cases h
    | _ => cases h
  | cons c s ih =>
    obtain ⟨p, m', us, hstep, hus, heq⟩ := run_cons_eq_some_iff.1 h
    obtain ⟨rfl, rfl⟩ := List.append_eq_nil_iff.1 heq.symm
    generalize hp : ([] : List Token) = p at hstep
    cases effect_of_step hm hstep with
    | blank hm' hc =>
      have hproper : Mode.between.Proper := trivial
      obtain ⟨-, hs⟩ := ih hproper hus
      exact ⟨hm', List.forall_mem_cons.2 ⟨hc c (by simp), hs⟩⟩
    | inside hm' hne => exact absurd (ih hm' hus).1 hne
    | token => cases hp
    | mark => simp at hp

end Lexer
end ZoneAudit.Json
