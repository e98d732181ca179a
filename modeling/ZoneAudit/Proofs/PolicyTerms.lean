import ZoneAudit.Proofs.Words
import ZoneAudit.Spf.Policy

/-!
The text of a sender policy. A mechanism is written as its mark, its name and its value after a
colon; the mark of the first qualifier may be left out. Read back, the parts do not run into each
other, and terms with a name that no mechanism has leave no trace.
-/

namespace ZoneAudit.Spf
open Text

/-- How a qualifier is written in front of a name. -/
inductive Qualifier.Marks : Qualifier → List Char → Prop
  | symbol (q : Qualifier) : Marks q [q.symbol]
  | omitted : Marks .pass []

/-- How a value is written after a name. -/
def valueText : Option String → List Char
  | none => []
  | some v => ':' :: v.toList

def Mechanism.Writes (m : Mechanism) (t : List Char) : Prop :=
  ∃ mark, m.qualifier.Marks mark ∧ t = mark ++ (m.method.name.toList ++ valueText m.value)

def marks : List Char := ['+', '-', '~', '?']

def unmarked : List Char → List Char
  | [] => []
  | c :: r => if c ∈ marks then r else c :: r

/-- The name part of a term: what is left without a mark, up to the first colon. -/
def termName (t : List Char) : List Char := before ':' (unmarked t)

/-- Mechanisms, each written as a term, with terms of other names between them. -/
inductive Terms : List Mechanism → List (List Char) → Prop
  | nil : Terms [] []
  | known {m : Mechanism} {t : List Char} {ms : List Mechanism} {ts : List (List Char)}
      (hvalue : ∀ v ∈ m.value, ∀ c ∈ v.toList, isBlank c = false) (ht : m.Writes t)
      (hs : Terms ms ts) : Terms (m :: ms) (t :: ts)
  | unknown {t : List Char} {ms : List Mechanism} {ts : List (List Char)} (hword : IsWord t)
      (ht : ∀ m : Method, termName t ≠ m.name.toList) (hs : Terms ms ts) : Terms ms (t :: ts)

/-- The version and the terms of a policy with blanks between and around them. -/
def Policy.Written (p : Policy) (s : List Char) : Prop :=
  ∃ terms, Spread (p.version.toList :: terms) s ∧ "v=spf".toList <+: p.version.toList ∧
    (∀ c ∈ p.version.toList, isBlank c = false) ∧ Terms p.mechanisms terms

variable {t : List Char} {m : Mechanism}

/-! Marks and names. -/

theorem Qualifier.symbol_mem_marks (q : Qualifier) : q.symbol ∈ marks := by
  cases q <;> decide

theorem Qualifier.exists_of_mem_marks {c : Char} (h : c ∈ marks) : ∃ q : Qualifier, c = q.symbol := by
  simp only [marks, List.mem_cons, List.not_mem_nil, or_false] at h
  obtain rfl | rfl | rfl | rfl := h
  · exact ⟨.pass, rfl⟩
  · exact ⟨.fail, rfl⟩
  · exact ⟨.softFail, rfl⟩
  · exact ⟨.neutral, rfl⟩

theorem Qualifier.ofChar?_of_notMem {c : Char} (h : c ∉ marks) : ofChar? c = none := by
  unfold ofChar?
  split
  case h_5 => rfl
  all_goals exact absurd (by decide) h

theorem Method.ofName?_eq_some_iff {s : List Char} {m : Method} :
    ofName? s = some m ↔ s = m.name.toList := by
  constructor
  · intro h
    have hname := List.find?_some h
    exact (of_decide_eq_true hname).symm
  · rintro rfl
    exact ofName?_name m

theorem Method.ofName?_eq_none_iff {s : List Char} :
    ofName? s = none ↔ ∀ m : Method, s ≠ m.name.toList := by
  simp only [Option.eq_none_iff_forall_ne_some, ne_eq, ofName?_eq_some_iff]

/-- Names start with a letter and have no colon. -/
theorem Method.head?_name (m : Method) : ∀ c ∈ m.name.toList.head?, c ∉ marks := by
  have hhead : m.name.toList.head?.all (· ∉ marks) = true := by cases m <;> decide
  simpa [Option.all_eq_true] using hhead

theorem Method.name_ne_nil (m : Method) : m.name.toList ≠ [] := by
  cases m <;> decide

theorem Method.colon_notMem_name (m : Method) : ':' ∉ m.name.toList := by
  cases m <;> decide

/-! One term. -/

theorem qualified_symbol (q : Qualifier) (r : List Char) : qualified (q.symbol :: r) = (q, r) := by
  simp [qualified]

theorem qualified_of_unmarked (h : ∀ c ∈ t.head?, c ∉ marks) : qualified t = (.pass, t) := by
  cases t with
  | nil => rfl
  | cons c r => simp [qualified, Qualifier.ofChar?_of_notMem (h c rfl)]

/-- A term starts with a mark, or it does not. -/
theorem exists_mark_or (t : List Char) :
    (∃ (q : Qualifier) (r : List Char), t = q.symbol :: r) ∨ ∀ c ∈ t.head?, c ∉ marks := by
  cases t with
  | nil => exact .inr fun c hc => by cases hc
  | cons c r =>
    by_cases hc : c ∈ marks
    · obtain ⟨q, rfl⟩ := Qualifier.exists_of_mem_marks hc
      exact .inl ⟨q, r, rfl⟩
    · exact .inr fun d hd => by
        obtain rfl : c = d := by simpa using hd
        exact hc

theorem unmarked_eq (t : List Char) : unmarked t = (qualified t).2 := by
  obtain ⟨q, r, rfl⟩ | h := exists_mark_or t
  · rw [qualified_symbol, unmarked, if_pos q.symbol_mem_marks]
  · rw [qualified_of_unmarked h]
    cases t with
    | nil => rfl
    | cons c r => rw [unmarked, if_neg (h c rfl)]

/-- The parts of a term that a mechanism is made of. -/
theorem mechanism?_eq (t : List Char) :
    mechanism? t = (Method.ofName? (termName t)).map fun m =>
      ⟨(qualified t).1, m, (cut ':' (qualified t).2).map fun p => String.ofList p.2⟩ := by
  rw [termName, unmarked_eq]
  cases hcut : cut ':' (qualified t).2 with
  | none =>
    have hcolon := cut_eq_none_iff.1 hcut
    simp [mechanism?, hcut, before_of_notMem hcolon]
  | some p =>
    obtain ⟨hsplit, hcolon⟩ := eq_append_of_cut hcut
    have hbefore : before ':' (qualified t).2 = p.1 := by rw [hsplit, before_append hcolon]
    simp [mechanism?, hcut, hbefore]

theorem mechanism?_eq_none_iff :
    mechanism? t = none ↔ ∀ m : Method, termName t ≠ m.name.toList := by
  rw [mechanism?_eq, Option.map_eq_none_iff, Method.ofName?_eq_none_iff]

theorem writes_iff :
    m.Writes t ↔ qualified t = (m.qualifier, m.method.name.toList ++ valueText m.value) := by
  constructor
  · rintro ⟨_, hmark, rfl⟩
    generalize m.qualifier = q at hmark
    cases hmark with
    | symbol q => exact qualified_symbol q _
    | omitted =>
      refine qualified_of_unmarked fun c hc => ?_
      rw [List.nil_append, List.head?_append_of_ne_nil _ m.method.name_ne_nil] at hc
      exact m.method.head?_name c hc
  · intro h
    obtain ⟨q, r, rfl⟩ | hunmarked := exists_mark_or t
    · rw [qualified_symbol, Prod.mk.injEq] at h
      obtain ⟨rfl, rfl⟩ := h
      exact ⟨_, .symbol _, rfl⟩
    · rw [qualified_of_unmarked hunmarked, Prod.mk.injEq] at h
      exact ⟨[], h.1 ▸ .omitted, h.2⟩

/-- The text before the first colon and the value after it. -/
theorem before_append_valueText (s : List Char) :
    before ':' s ++ valueText ((cut ':' s).map fun p => String.ofList p.2) = s := by
  cases hcut : cut ':' s with
  | none => simp [valueText, before_of_notMem (cut_eq_none_iff.1 hcut)]
  | some p =>
    obtain ⟨hsplit, hcolon⟩ := eq_append_of_cut hcut
    rw [hsplit, before_append hcolon]
    simp [valueText]

theorem cut_valueText {name : List Char} (h : ':' ∉ name) (value : Option String) :
    before ':' (name ++ valueText value) = name ∧
      (cut ':' (name ++ valueText value)).map (fun p => String.ofList p.2) = value := by
  cases value with
  | none => simp [valueText, before_of_notMem h, cut_eq_none_iff.2 h]
  | some v => simp [valueText, before_append h, cut_append h]

/-- What is read as a mechanism is what writes it. -/
theorem mechanism?_eq_some_iff : mechanism? t = some m ↔ m.Writes t := by
  obtain ⟨q, method, value⟩ := m
  rw [mechanism?_eq, writes_iff, termName, unmarked_eq]
  generalize qualified t = p
  obtain ⟨q', rest⟩ := p
  simp only [Option.map_eq_some_iff, Method.ofName?_eq_some_iff, Mechanism.mk.injEq,
    Prod.mk.injEq]
  constructor
  · rintro ⟨method, hname, rfl, rfl, rfl⟩
    rw [← hname, before_append_valueText]
    exact ⟨rfl, rfl⟩
  · rintro ⟨rfl, rfl⟩
    obtain ⟨hname, hvalue⟩ := cut_valueText method.colon_notMem_name value
    exact ⟨method, hname, rfl, rfl, hvalue⟩

/-! All terms. -/

theorem Qualifier.Marks.not_blank {q : Qualifier} {mark : List Char} (h : q.Marks mark) :
    ∀ c ∈ mark, isBlank c = false := by
  cases h with
  | symbol => exact List.forall_mem_singleton.2 (by cases q <;> decide)
  | omitted => exact List.forall_mem_nil _

theorem Method.name_not_blank (m : Method) : ∀ c ∈ m.name.toList, isBlank c = false := by
  have hname : m.name.toList.all (isBlank · = false) = true := by cases m <;> decide
  simpa using hname

/-- A term is a word if and only if its value has no blanks. -/
theorem Mechanism.Writes.isWord_iff (h : m.Writes t) :
    IsWord t ↔ ∀ v ∈ m.value, ∀ c ∈ v.toList, isBlank c = false := by
  obtain ⟨mark, hmark, rfl⟩ := h
  have hne : mark ++ (m.method.name.toList ++ valueText m.value) ≠ [] := by
    simp [m.method.name_ne_nil]
  have hvalue : (∀ c ∈ valueText m.value, isBlank c = false) ↔
      ∀ v ∈ m.value, ∀ c ∈ v.toList, isBlank c = false := by
    cases m.value with
    | none => simp [valueText]
    | some v => simp [valueText, show isBlank ':' = false by decide]
  rw [← hvalue]
  constructor
  · exact fun h c hc => h.not_blank c (by simp [hc])
  · intro h
    exact ⟨hne, List.forall_mem_append.2
      ⟨hmark.not_blank, List.forall_mem_append.2 ⟨m.method.name_not_blank, h⟩⟩⟩

theorem terms_iff {ms : List Mechanism} {ts : List (List Char)} :
    Terms ms ts ↔ (∀ t ∈ ts, IsWord t) ∧ ts.filterMap mechanism? = ms := by
  constructor
  · intro h
    induction h with
    | nil => exact ⟨List.forall_mem_nil _, rfl⟩
    | known hvalue ht _ ih =>
      refine ⟨List.forall_mem_cons.2 ⟨ht.isWord_iff.2 hvalue, ih.1⟩, ?_⟩
      rw [List.filterMap_cons_some (mechanism?_eq_some_iff.2 ht), ih.2]
    | unknown hword ht _ ih =>
      refine ⟨List.forall_mem_cons.2 ⟨hword, ih.1⟩, ?_⟩
      rw [List.filterMap_cons_none (mechanism?_eq_none_iff.2 ht), ih.2]
  · rintro ⟨hwords, rfl⟩
    induction ts with
    | nil => exact .nil
    | cons t ts ih =>
      rw [List.forall_mem_cons] at hwords
      cases hread : mechanism? t with
      | none =>
        rw [List.filterMap_cons_none hread]
        exact .unknown hwords.1 (mechanism?_eq_none_iff.1 hread) (ih hwords.2)
      | some m =>
        have ht := mechanism?_eq_some_iff.1 hread
        rw [List.filterMap_cons_some hread]
        exact .known (ht.isWord_iff.1 hwords.1) ht (ih hwords.2)

/-- A body is read word by word. -/
theorem parse?_eq_some_iff {data : String} {p : Policy} :
    parse? data = some p ↔ ∃ terms, words data.toList = p.version.toList :: terms ∧
      startsWith "v=spf" p.version.toList ∧ terms.filterMap mechanism? = p.mechanisms := by
  obtain ⟨version, mechanisms⟩ := p
  rw [parse?]
  split
  case h_1 first terms hwords =>
    rw [Option.ite_none_right_eq_some, Option.some.injEq, Policy.mk.injEq]
    constructor
    · rintro ⟨hstart, rfl, rfl⟩
      exact ⟨terms, by rw [hwords, String.toList_ofList], by rwa [String.toList_ofList], rfl⟩
    · rintro ⟨terms', heq, hstart, rfl⟩
      obtain ⟨rfl, rfl⟩ := List.cons.inj (hwords.symm.trans heq)
      exact ⟨hstart, String.ofList_toList, rfl⟩
  case h_2 hwords => simp [hwords]

/-- The bodies that a policy is read from are those written for it, with terms of other names
anywhere after the version and any blanks. -/
theorem parse?_iff_written (data : String) (p : Policy) :
    parse? data = some p ↔ p.Written data.toList := by
  rw [parse?_eq_some_iff]
  refine exists_congr fun terms => ?_
  rw [words_eq_iff, List.forall_mem_cons, terms_iff, startsWith, List.isPrefixOf_iff_prefix]
  constructor
  · rintro ⟨⟨hspread, hversion, hterms⟩, hstart, hread⟩
    exact ⟨hspread, hstart, hversion.not_blank, hterms, hread⟩
  · rintro ⟨hspread, hstart, hblank, hterms, hread⟩
    have hne : p.version.toList ≠ [] := fun h => by simp [h] at hstart
    exact ⟨⟨hspread, ⟨hne, hblank⟩, hterms⟩, hstart, hread⟩

/-- A value may be empty or have colons of its own, and no name is written in capitals. -/
example :
    parse? " v=spf1  redirect=a ~include:b:c\tip4: MX -all" =
      some ⟨"v=spf1", [⟨.softFail, .included, some "b:c"⟩, ⟨.pass, .ip4, some ""⟩,
        ⟨.fail, .all, none⟩]⟩ := by
  decide +kernel

end ZoneAudit.Spf
