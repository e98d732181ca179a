import Mathlib.Data.List.DropRight
import Mathlib.Logic.Relation
import ZoneAudit.Proofs.NameSpelling
import ZoneAudit.Proofs.Words
import ZoneAudit.TagList

/-!
Segments of tag lists. A segment may state a value for a name, and a list gives each name the value
that its last such segment states. So it does not matter in which order the segments of different
names stand, how a name is padded or in which case it is written, or what other segments there are.
-/

namespace ZoneAudit

namespace Text

variable {s t : List Char} {c : Char}

theorem trimStart_append_of_not_blank (hc : isBlank c = false) (s t : List Char) :
    trimStart (s ++ c :: t) = trimStart s ++ c :: t := by
  rw [trimStart, List.dropWhile_append]
  split
  case isTrue h => simp [trimStart, List.isEmpty_iff.1 h, hc]
  case isFalse => rfl

theorem trimEnd_append_of_not_blank (hc : isBlank c = false) (s t : List Char) :
    trimEnd (s ++ c :: t) = s ++ c :: trimEnd t := by
  have h := trimStart_append_of_not_blank hc t.reverse s.reverse
  simp only [trimStart] at h
  simp [trimEnd, h]

/-- The ends of a text are trimmed apart if there is something else between them. -/
theorem trim_append_of_not_blank (hc : isBlank c = false) (s t : List Char) :
    trim (s ++ c :: t) = trimStart s ++ c :: trimEnd t := by
  rw [trim, trimStart_append_of_not_blank hc, trimEnd_append_of_not_blank hc]

theorem trimEnd_append_gap {gap : List Char} (hgap : IsGap gap) (s : List Char) :
    trimEnd (s ++ gap) = trimEnd s := by
  have hreverse : IsGap gap.reverse := fun c hc => hgap c (List.mem_reverse.1 hc)
  have h := trimStart_gap_append hreverse s.reverse
  simp only [trimStart] at h
  simp [trimEnd, h]

theorem trim_of_isGap (h : IsGap s) : trim s = [] := by
  rw [trim, trimStart_gap h]
  rfl

theorem trim_trimStart (s : List Char) : trim (trimStart s) = trim s := by
  have htwice : trimStart (trimStart s) = trimStart s := List.dropWhile_idempotent _ s
  rw [trim, htwice, ← trim]

theorem trim_trimEnd (s : List Char) : trim (trimEnd s) = trim s := by
  by_cases h : IsGap s
  · have hend : trimEnd s = [] := List.rdropWhile_eq_nil_iff.2 h
    rw [hend, trim_of_isGap h]
    rfl
  · simp only [IsGap, not_forall, Bool.not_eq_true] at h
    obtain ⟨c, hc, hblank⟩ := h
    obtain ⟨x, y, rfl⟩ := List.append_of_mem hc
    have htwice : trimEnd (trimEnd y) = trimEnd y := List.rdropWhile_idempotent _ y
    rw [trimEnd_append_of_not_blank hblank, trim_append_of_not_blank hblank, htwice,
      trim_append_of_not_blank hblank]

theorem trim_trim (s : List Char) : trim (trim s) = trim s := by
  calc trim (trimEnd (trimStart s))
    _ = trim (trimStart s) := trim_trimEnd _
    _ = trim s := trim_trimStart s

theorem mem_of_mem_trim (h : c ∈ trim s) : c ∈ s :=
  (List.dropWhile_sublist _).mem ((List.rdropWhile_prefix _ _).subset h)

theorem trim_padded {gap gap' : List Char} (hgap : IsGap gap) (hgap' : IsGap gap') (s : List Char) :
    trim (gap ++ s ++ gap') = trim s := by
  rw [← trim_trimEnd, trimEnd_append_gap hgap', trim_trimEnd, trim, trimStart_gap_append hgap, ← trim]

theorem isBlank_of_isAlpha (h : c.isAlpha) : isBlank c = false := by
  have hlow : 'A'.val ≤ c.val := by
    rcases Bool.or_eq_true_iff.1 h with hupper | hlower
    · exact (of_decide_eq_true hupper).1
    · have hletters : 'A'.val ≤ 'a'.val := by decide
      exact UInt32.le_trans hletters (of_decide_eq_true (Bool.and_eq_true_iff.1 hlower).1)
  have hrange : 65 ≤ c.toNat ∧ c.toNat < 128 :=
    ⟨UInt32.le_iff_toNat_le.1 hlow, toNat_lt_of_isAlpha h⟩
  simp only [isBlank]
  grind

theorem isBlank_caseVariant {d : Char} (h : CaseVariant c d) : isBlank c = isBlank d := by
  obtain rfl | ⟨hc, hd, -⟩ := h
  · rfl
  · rw [isBlank_of_isAlpha hc, isBlank_of_isAlpha hd]

theorem trimStart_recased (h : Recased s t) : Recased (trimStart s) (trimStart t) := by
  induction h with
  | nil => exact .nil
  | @cons c d s t hcd hst ih =>
    have hblank := isBlank_caseVariant hcd
    cases hc : isBlank c with
    | true => rwa [trimStart_of_blank hc, trimStart_of_blank (hblank ▸ hc)]
    | false =>
      rw [trimStart_of_not_blank hc, trimStart_of_not_blank (hblank ▸ hc)]
      exact .cons hcd hst

theorem trim_recased (h : Recased s t) : Recased (trim s) (trim t) := by
  have hstart := trimStart_recased h
  have hend := trimStart_recased (List.forall₂_reverse_iff.2 hstart)
  exact List.forall₂_reverse_iff.2 hend

theorem small_ne_nil (c : Char) : small c ≠ [] := by
  rw [small]
  split
  · exact List.cons_ne_nil _ _
  · split
    · exact List.cons_ne_nil _ _
    · split <;> exact List.cons_ne_nil _ _

theorem lower_eq_nil_iff : lower s = [] ↔ s = [] := by
  cases s with
  | nil => simp
  | cons c s =>
    simp only [lower, lowerAfter, List.append_eq_nil_iff, reduceCtorEq, iff_false, not_and]
    intro h
    split at h
    · cases h
    · exact absurd h (small_ne_nil c)

end Text

namespace TagList
open Text

/-- The name is the trimmed small text before the first equals sign, the value the trimmed text from
there to the next; neither is empty. -/
def States (segment : List Char) (name value : String) : Prop :=
  ∃ left right, segment = left ++ '=' :: right ∧ '=' ∉ left ∧
    lower (trim left) = name.toList ∧ trim (before '=' right) = value.toList ∧
    name ≠ "" ∧ value ≠ ""

/-- The last of the segments that state a value for the name states this one. -/
def LastStates (segments : List (List Char)) (name value : String) : Prop :=
  ∃ earlier segment later, segments = earlier ++ segment :: later ∧ States segment name value ∧
    ∀ s ∈ later, ∀ v, ¬States s name v

/-- No name has a value from both segments. -/
def Apart (s t : List Char) : Prop := ∀ name v w, States s name v → ¬States t name w

/-- The same name, but for blanks around it and the case of its letters. -/
def SameName (s t : List Char) : Prop := lower (trim s) = lower (trim t)

/-- Changes that keep what segments state last for some names: segments without a common name
swapped, a name respelled, a segment with none of the names added. -/
inductive Edit (names : List String) : List (List Char) → List (List Char) → Prop
  | reorder {front ss ts back : List (List Char)} (hperm : ss.Perm ts) (hapart : ss.Pairwise Apart) :
      Edit names (front ++ ss ++ back) (front ++ ts ++ back)
  | rename {front back : List (List Char)} {left left' right : List Char} (hleft : '=' ∉ left)
      (hleft' : '=' ∉ left') (hname : SameName left left') :
      Edit names (front ++ (left ++ '=' :: right) :: back) (front ++ (left' ++ '=' :: right) :: back)
  | insert {front back : List (List Char)} {segment : List Char}
      (hother : ∀ name ∈ names, ∀ v, ¬States segment name v) :
      Edit names (front ++ back) (front ++ segment :: back)

def segments (s : String) : List (List Char) := s.toList.splitOn ';'

section

variable {s t : List Char} {ss ts : List (List Char)} {name v : String} {names : List String}

theorem SameName.of_recased {gap₁ gap₂ gap₃ gap₄ : List Char} (h₁ : IsGap gap₁) (h₂ : IsGap gap₂)
    (h₃ : IsGap gap₃) (h₄ : IsGap gap₄) (h : Recased s t) :
    SameName (gap₁ ++ s ++ gap₂) (gap₃ ++ t ++ gap₄) := by
  rw [SameName, trim_padded h₁ h₂, trim_padded h₃ h₄, lower_recased (trim_recased h)]

theorem trim_before_trimEnd (s : List Char) : trim (before '=' (trimEnd s)) = trim (before '=' s) := by
  by_cases h : '=' ∈ s
  · obtain ⟨left, right, rfl, hleft⟩ := List.eq_append_cons_of_mem h
    rw [trimEnd_append_of_not_blank (by decide), before_append hleft, before_append hleft]
  · have hend : '=' ∉ trimEnd s := fun hmem => h ((List.rdropWhile_prefix _ s).subset hmem)
    rw [before_of_notMem h, before_of_notMem hend, trim_trimEnd]

/-- The blanks around a segment belong to its name and to its value. -/
theorem entry?_append {left : List Char} (hleft : '=' ∉ left) (right : List Char) :
    entry? (left ++ '=' :: right) =
      if trim left = [] ∨ trim (before '=' right) = [] then none
      else some (String.ofList (lower (trim left)), String.ofList (trim (before '=' right))) := by
  have hstart : '=' ∉ trimStart left := fun h => hleft ((List.dropWhile_sublist _).mem h)
  unfold entry?
  rw [trim_append_of_not_blank (by decide), cut_append hstart]
  simp only [trim_trimStart, trim_before_trimEnd, Bool.or_eq_true, List.isEmpty_iff]

theorem entry?_eq_none_of_notMem (h : '=' ∉ s) : entry? s = none := by
  have htrim : '=' ∉ trim s := fun hmem => h (mem_of_mem_trim hmem)
  unfold entry?
  rw [cut_eq_none_iff.2 htrim]

theorem entry?_eq_some_iff : entry? s = some (name, v) ↔ States s name v := by
  have hempty {x : String} : x = "" ↔ x.toList = [] := String.toList_eq_nil_iff.symm
  constructor
  · intro h
    by_cases hmem : '=' ∈ s
    · obtain ⟨left, right, rfl, hleft⟩ := List.eq_append_cons_of_mem hmem
      rw [entry?_append hleft, Option.ite_none_left_eq_some, not_or] at h
      obtain ⟨⟨hname, hvalue⟩, h⟩ := h
      simp only [Option.some.injEq, Prod.mk.injEq] at h
      obtain ⟨rfl, rfl⟩ := h
      refine ⟨left, right, rfl, hleft, by simp, by simp, ?_, ?_⟩
      · rwa [Ne, hempty, String.toList_ofList, lower_eq_nil_iff]
      · rwa [Ne, hempty, String.toList_ofList]
    · rw [entry?_eq_none_of_notMem hmem] at h
      cases h
  · rintro ⟨left, right, rfl, hleft, hname, hvalue, hname', hvalue'⟩
    rw [Ne, hempty, ← hname, lower_eq_nil_iff] at hname'
    rw [Ne, hempty, ← hvalue] at hvalue'
    rw [entry?_append hleft, if_neg (not_or.2 ⟨hname', hvalue'⟩), hname, hvalue]
    simp

theorem lastStates_iff : value? (ss.filterMap entry?) name = some v ↔ LastStates ss name v := by
  rw [value?_eq_some_iff]
  constructor
  · rintro ⟨front, back, h, hback⟩
    obtain ⟨earlier, ss, rfl, -, hss⟩ := List.filterMap_eq_append_iff.1 h
    obtain ⟨skipped, segment, later, rfl, -, hsegment, rfl⟩ := List.filterMap_eq_cons_iff.1 hss
    refine ⟨earlier ++ skipped, segment, later, by simp, entry?_eq_some_iff.1 hsegment, ?_⟩
    intro s hs w hstates
    exact hback (name, w) (List.mem_filterMap.2 ⟨s, hs, entry?_eq_some_iff.2 hstates⟩) rfl
  · rintro ⟨earlier, segment, later, rfl, hsegment, hlater⟩
    refine ⟨earlier.filterMap entry?, later.filterMap entry?, ?_, ?_⟩
    · rw [List.filterMap_append, List.filterMap_cons_some (entry?_eq_some_iff.2 hsegment)]
    · rintro ⟨n, w⟩ he rfl
      obtain ⟨s, hs, he⟩ := List.mem_filterMap.1 he
      exact hlater s hs w (entry?_eq_some_iff.1 he)

theorem value?_append (xs ys : List (String × String)) (name : String) :
    value? (xs ++ ys) name = (value? ys name).or (value? xs name) := by
  rw [value?, List.reverse_append, List.lookup_append]
  rfl

theorem value?_eq_some_iff_mem {es : List (String × String)} (h : es.Pairwise (·.1 ≠ ·.1)) :
    value? es name = some v ↔ (name, v) ∈ es := by
  rw [value?_eq_some_iff]
  constructor
  · rintro ⟨front, back, rfl, -⟩
    simp
  · intro hmem
    obtain ⟨front, back, rfl⟩ := List.append_of_mem hmem
    have hback := (List.pairwise_append.1 h).2.1
    exact ⟨front, back, rfl, fun e he => (List.rel_of_pairwise_cons hback he).symm⟩

/-- Where no name is repeated, the order of the entries does not matter. -/
theorem value?_perm {xs ys : List (String × String)} (h : xs.Perm ys)
    (hxs : xs.Pairwise (·.1 ≠ ·.1)) (name : String) : value? xs name = value? ys name := by
  have hys : ys.Pairwise (·.1 ≠ ·.1) := h.pairwise hxs fun hne => hne.symm
  refine Option.ext fun v => ?_
  rw [value?_eq_some_iff_mem hxs, value?_eq_some_iff_mem hys, h.mem_iff]

theorem apart_iff : Apart s t ↔ ∀ e ∈ entry? s, ∀ f ∈ entry? t, e.1 ≠ f.1 := by
  constructor
  · rintro h ⟨name, v⟩ he ⟨name', w⟩ hf rfl
    exact h name v w (entry?_eq_some_iff.1 he) (entry?_eq_some_iff.1 hf)
  · intro h name v w hs ht
    exact h (name, v) (entry?_eq_some_iff.2 hs) (name, w) (entry?_eq_some_iff.2 ht) rfl

theorem states_none_iff :
    (∀ name ∈ names, ∀ v, ¬States s name v) ↔ ∀ e ∈ entry? s, e.1 ∉ names := by
  constructor
  · rintro h ⟨name, v⟩ he hname
    exact h name hname v (entry?_eq_some_iff.1 he)
  · intro h name hname v hs
    exact h (name, v) (entry?_eq_some_iff.2 hs) hname

theorem Edit.value?_eq (h : Edit names ss ts) (hname : name ∈ names) :
    value? (ss.filterMap entry?) name = value? (ts.filterMap entry?) name := by
  cases h with
  | @reorder front ss ts back hperm hapart =>
    have hentries : (ss.filterMap entry?).Pairwise (·.1 ≠ ·.1) :=
      List.pairwise_filterMap.2 (hapart.imp fun h e he f hf => apart_iff.1 h e he f hf)
    simp only [List.filterMap_append, value?_append,
      value?_perm (hperm.filterMap entry?) hentries name]
  | @rename front back left left' right hleft hleft' hsame =>
    have hempty : trim left = [] ↔ trim left' = [] := by
      rw [← lower_eq_nil_iff, hsame, lower_eq_nil_iff]
    have hentry : entry? (left ++ '=' :: right) = entry? (left' ++ '=' :: right) := by
      simp only [entry?_append hleft, entry?_append hleft', hempty, show lower _ = _ from hsame]
    simp only [List.filterMap_append, List.filterMap_cons, hentry]
  | @insert front back segment hother =>
    rw [List.filterMap_append, List.filterMap_append, List.filterMap_cons]
    cases hsegment : entry? segment with
    | none => rfl
    | some e =>
      have hne : name ≠ e.1 := fun h => states_none_iff.1 hother e hsegment (h ▸ hname)
      have hskip : value? [e] name = none := by
        rw [value?, List.reverse_singleton, List.lookup_eq_none_iff]
        simpa using hne
      simp only [← List.singleton_append (l := back.filterMap entry?), value?_append, hskip,
        Option.or_none]

theorem value?_eq_of_eqvGen (h : Relation.EqvGen (Edit names) ss ts) (hname : name ∈ names) :
    value? (ss.filterMap entry?) name = value? (ts.filterMap entry?) name := by
  induction h with
  | rel ss ts h => exact h.value?_eq hname
  | refl ss => rfl
  | symm ss ts _ ih => exact ih.symm
  | trans ss ts us _ _ ih ih' => exact ih.trans ih'

end

end TagList
end ZoneAudit
