import Mathlib.Algebra.Ring.Parity
import ZoneAudit.Mailbox
import ZoneAudit.Proofs.NameSpelling

/-!
Responsible names. A backslash escapes the character behind it, another backslash included, so a dot
is free if it stands behind an even number of backslashes. The first free dot of a name ends the
local part of the mailbox. All dots in front of it stand behind a backslash, which is not part of
the mailbox.
-/

namespace ZoneAudit.Mailbox
open Text

/-- The number of backslashes that a text ends in. -/
def endingSlashes (s : List Char) : Nat := (s.reverse.takeWhile (· = '\\')).length

/-- A dot directly behind an even number of backslashes, with the text before and after it. -/
structure FreeDot (s front back : List Char) : Prop where
  eq : s = front ++ '.' :: back
  even : Even (endingSlashes front)

/-- The leftmost free dot. -/
structure FirstFreeDot (s front back : List Char) : Prop extends FreeDot s front back where
  first : ∀ x y, ¬FreeDot front x y

/-- The text with a backslash written directly before each dot. -/
def escapeDots (s : List Char) : List Char := s.flatMap fun c => if c = '.' then ['\\', '.'] else [c]

variable {s front back : List Char}

@[simp] theorem endingSlashes_nil : endingSlashes [] = 0 := rfl

theorem endingSlashes_append_singleton (s : List Char) (c : Char) :
    endingSlashes (s ++ [c]) = if c = '\\' then endingSlashes s + 1 else 0 := by
  by_cases hc : c = '\\' <;> simp [endingSlashes, hc]

theorem getLast?_of_not_even (h : ¬Even (endingSlashes s)) : s.getLast? = some '\\' := by
  rcases s.eq_nil_or_concat' with rfl | ⟨s, c, rfl⟩
  · exact absurd Even.zero h
  · rw [endingSlashes_append_singleton] at h
    by_cases hc : c = '\\'
    · simp [hc]
    · simp [hc] at h

@[simp] theorem escapeDots_nil : escapeDots [] = [] := rfl

theorem escapeDots_dot (s : List Char) : escapeDots ('.' :: s) = '\\' :: '.' :: escapeDots s := rfl

theorem escapeDots_cons {c : Char} (hc : c ≠ '.') (s : List Char) :
    escapeDots (c :: s) = c :: escapeDots s := by
  simp [escapeDots, hc]

theorem unescapeDots_cons {c : Char} (h : c = '\\' → s.head? ≠ some '.') :
    unescapeDots (c :: s) = c :: unescapeDots s := by
  rw [unescapeDots]
  rintro r rfl rfl
  exact h rfl rfl

theorem head?_escapeDots (s : List Char) : (escapeDots s).head? ≠ some '.' := by
  cases s with
  | nil => simp
  | cons c s =>
    by_cases hc : c = '.'
    · simp [hc, escapeDots_dot]
    · simpa [escapeDots_cons hc] using hc

theorem unescapeDots_escapeDots (s : List Char) : unescapeDots (escapeDots s) = s := by
  induction s with
  | nil => rfl
  | cons c s ih =>
    by_cases hc : c = '.'
    · rw [hc, escapeDots_dot, unescapeDots, ih]
    · rw [escapeDots_cons hc, unescapeDots_cons fun _ => head?_escapeDots s, ih]

/-- Where each dot stands behind a backslash, only these backslashes are dropped. -/
theorem escapeDots_unescapeDots
    (h : ∀ x y, s = x ++ '.' :: y → x.getLast? = some '\\') : escapeDots (unescapeDots s) = s := by
  fun_induction unescapeDots s with
  | case1 r ih =>
    rw [escapeDots_dot, ih]
    rintro x y rfl
    have hlast := h ('\\' :: '.' :: x) y rfl
    cases x with
    | nil => simp at hlast
    | cons c x => simpa [List.getLast?_cons_cons] using hlast
  | case2 c r hpair ih =>
    have hc : c ≠ '.' := by
      rintro rfl
      simpa using h [] r rfl
    rw [escapeDots_cons hc, ih]
    rintro x y rfl
    have hlast := h (c :: x) y rfl
    cases x with
    | nil => exact absurd rfl (hpair y (by simpa using hlast))
    | cons d x => simpa [List.getLast?_cons_cons] using hlast
  | case3 => rfl

theorem FreeDot.earlier {x y : List Char} (h : FreeDot s front back) (hxy : FreeDot front x y) :
    FreeDot s x (y ++ '.' :: back) :=
  ⟨by rw [h.eq, hxy.eq, List.append_assoc, List.cons_append], hxy.even⟩

theorem FreeDot.exists_first {front back : List Char} (h : FreeDot s front back) :
    ∃ front back, FirstFreeDot s front back := by
  by_cases hearlier : ∃ x y, FreeDot front x y
  · obtain ⟨x, y, hxy⟩ := hearlier
    exact (h.earlier hxy).exists_first
  · exact ⟨front, back, h, fun x y hxy => hearlier ⟨x, y, hxy⟩⟩
termination_by front.length
decreasing_by simp [hxy.eq]

/-- The scan of a text from some place on. Its flag is set if the text read so far ends in an odd
number of backslashes. -/
theorem cutUnescaped_eq_some_iff {read : List Char} :
    cutUnescaped (!decide (Even (endingSlashes read))) s = some (front, back) ↔
      s = front ++ '.' :: back ∧ Even (endingSlashes (read ++ front)) ∧
        ∀ x y, front = x ++ '.' :: y → ¬Even (endingSlashes (read ++ x)) := by
  induction s generalizing read front with
  | nil => simp [cutUnescaped]
  | cons c s ih =>
    rw [cutUnescaped, Bool.not_not]
    by_cases hfree : c = '.' ∧ Even (endingSlashes read)
    · obtain ⟨rfl, heven⟩ := hfree
      simp only [heven, decide_true, Bool.and_self, if_true, Option.some.injEq, Prod.mk.injEq]
      constructor
      · rintro ⟨rfl, rfl⟩
        simpa using heven
      · rintro ⟨heq, -, hfirst⟩
        cases front with
        | nil => simpa using heq
        | cons d front =>
          obtain ⟨rfl, -⟩ := List.cons.inj heq
          exact absurd (by simpa using heven) (hfirst [] front rfl)
    · have hflag : (decide (c = '\\') && decide (Even (endingSlashes read))) =
          !decide (Even (endingSlashes (read ++ [c]))) := by
        rw [endingSlashes_append_singleton]
        by_cases hc : c = '\\' <;> simp [hc, Nat.even_add_one, -Nat.not_even_iff_odd]
      have hgo : ¬(decide (c = '.') && decide (Even (endingSlashes read))) = true := by
        simpa using hfree
      rw [if_neg hgo, hflag, Option.map_eq_some_iff]
      constructor
      · rintro ⟨⟨front, back⟩, hcut, heq⟩
        obtain ⟨rfl, rfl⟩ := Prod.mk.inj heq
        obtain ⟨rfl, heven, hfirst⟩ := ih.1 hcut
        refine ⟨rfl, by simpa using heven, fun x y hxy => ?_⟩
        cases x with
        | nil =>
          obtain ⟨hc, -⟩ := List.cons.inj hxy
          simpa using fun heven => hfree ⟨hc, heven⟩
        | cons d x =>
          obtain ⟨rfl, hfront⟩ := List.cons.inj hxy
          simpa using hfirst x y hfront
      · rintro ⟨heq, heven, hfirst⟩
        cases front with
        | nil => exact absurd ⟨(List.cons.inj heq).1, by simpa using heven⟩ hfree
        | cons d front =>
          obtain ⟨rfl, hs⟩ := List.cons.inj heq
          refine ⟨(front, back), ih.2 ⟨hs, by simpa using heven, fun x y hxy => ?_⟩, rfl⟩
          simpa using hfirst (c :: x) y (by rw [hxy, List.cons_append])

/-- A mailbox is read at the first free dot. -/
theorem cutUnescaped_false_iff :
    cutUnescaped false s = some (front, back) ↔ FirstFreeDot s front back := by
  have h : cutUnescaped (!decide (Even (endingSlashes []))) s = some (front, back) ↔
      s = front ++ '.' :: back ∧ Even (endingSlashes front) ∧
        ∀ x y, front = x ++ '.' :: y → ¬Even (endingSlashes x) := cutUnescaped_eq_some_iff
  simp only [endingSlashes_nil, Even.zero, decide_true, Bool.not_true] at h
  rw [h]
  constructor
  · rintro ⟨heq, heven, hfirst⟩
    exact ⟨⟨heq, heven⟩, fun x y hxy => hfirst x y hxy.eq hxy.even⟩
  · rintro ⟨⟨heq, heven⟩, hfirst⟩
    exact ⟨heq, heven, fun x y hxy hx => hfirst x y ⟨hxy, hx⟩⟩

theorem FirstFreeDot.escapeDots_unescapeDots (h : FirstFreeDot s front back) :
    escapeDots (unescapeDots front) = front :=
  Mailbox.escapeDots_unescapeDots fun x y hxy =>
    getLast?_of_not_even fun heven => h.first x y ⟨hxy, heven⟩

/-- The dots of an escaped text are not free, so the next dot is. -/
theorem cutUnescaped_escapeDots (h : '\\' ∉ s) (back : List Char) :
    cutUnescaped false (escapeDots s ++ '.' :: back) = some (escapeDots s, back) := by
  induction s with
  | nil => simp [cutUnescaped]
  | cons c s ih =>
    rw [List.mem_cons, not_or] at h
    by_cases hc : c = '.'
    · simp [hc, escapeDots_dot, cutUnescaped, ih h.2]
    · simp [escapeDots_cons hc, cutUnescaped, hc, Ne.symm h.1, ih h.2]

theorem ofRname?_escapeDots {user domain : List Char} (h : '\\' ∉ user) {rname : String}
    (hrname : dropFinal '.' rname.toList = escapeDots user ++ '.' :: domain) :
    ofRname? rname = some (String.ofList (user ++ '@' :: domain)) := by
  rw [ofRname?, hrname, cutUnescaped_escapeDots h, Option.map_some, unescapeDots_escapeDots]

/-- A name stands for a mailbox just if it has a free dot: the leftmost one splits it into a local
part, unescaped, and the domain. -/
theorem ofRname?_at_free_dot :
    (∀ rname : String, (ofRname? rname).isSome ↔
      ∃ front back, FreeDot (dropFinal '.' rname.toList) front back) ∧
    (∀ (rname : String) (front back : List Char),
      FirstFreeDot (dropFinal '.' rname.toList) front back →
        ∃ user, front = escapeDots user ∧
          ofRname? rname = some (String.ofList (user ++ '@' :: back))) ∧
    ∀ user domain : List Char, '\\' ∉ user → domain ≠ [] → domain.getLast? ≠ some '.' →
      ofRname? (String.ofList (escapeDots user ++ '.' :: domain)) =
        some (String.ofList (user ++ '@' :: domain)) ∧
      ofRname? (String.ofList (escapeDots user ++ '.' :: domain ++ ['.'])) =
        some (String.ofList (user ++ '@' :: domain)) := by
  refine ⟨fun rname => ?_, fun rname front back h => ?_, fun user domain huser hne hlast => ?_⟩
  · rw [ofRname?, Option.isSome_map, Option.isSome_iff_exists]
    constructor
    · rintro ⟨⟨front, back⟩, h⟩
      exact ⟨front, back, (cutUnescaped_false_iff.1 h).toFreeDot⟩
    · rintro ⟨front, back, h⟩
      obtain ⟨front, back, hfirst⟩ := h.exists_first
      exact ⟨(front, back), cutUnescaped_false_iff.2 hfirst⟩
  · refine ⟨unescapeDots front, h.escapeDots_unescapeDots.symm, ?_⟩
    rw [ofRname?, cutUnescaped_false_iff.2 h, Option.map_some]
  · have hkeep : (escapeDots user ++ '.' :: domain).getLast? ≠ some '.' := by
      rw [List.getLast?_append_cons, List.getLast?_cons_of_ne_nil hne]
      exact hlast
    refine ⟨ofRname?_escapeDots huser ?_, ofRname?_escapeDots huser ?_⟩
    · rw [String.toList_ofList, dropFinal, if_neg hkeep]
    · rw [String.toList_ofList, dropFinal_append]

/-- Three backslashes escape a dot, and two do not. -/
theorem ofRname?_at_free_dot_slashes :
    FirstFreeDot (dropFinal '.' "a\\\\\\.b\\\\.example.org.".toList) "a\\\\\\.b\\\\".toList
      "example.org".toList ∧
    (∃ user, "a\\\\\\.b\\\\".toList = escapeDots user ∧
      ofRname? "a\\\\\\.b\\\\.example.org." =
        some (String.ofList (user ++ '@' :: "example.org".toList))) ∧
    ofRname? (String.ofList (escapeDots "j.doe".toList ++ '.' :: "example.org".toList ++ ['.'])) =
      some (String.ofList ("j.doe".toList ++ '@' :: "example.org".toList)) := by
  have hfirst : FirstFreeDot (dropFinal '.' "a\\\\\\.b\\\\.example.org.".toList)
      "a\\\\\\.b\\\\".toList "example.org".toList := cutUnescaped_false_iff.1 (by decide)
  exact ⟨hfirst, ofRname?_at_free_dot.2.1 _ _ _ hfirst,
    (ofRname?_at_free_dot.2.2 _ _ (by decide) (by decide) (by decide)).2⟩

end ZoneAudit.Mailbox
