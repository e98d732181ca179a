import Mathlib.Data.List.Perm.Basic
import ZoneAudit.Json.Shape
import ZoneAudit.Proofs.ContainerText

/-!
Objects up to the order of their members and up to members that no field is read from. A record that
is read from an object has its named fields from the members with those names; each is given once,
so the order does not matter, and other members are skipped whatever their values are.
-/

namespace ZoneAudit.Json

/-- What a reader makes of one document, it makes of the other too. -/
def Document.KeptBy {α : Type} (read : Document → Option α) (d e : Document) : Prop :=
  ∀ x, read d = some x → read e = some x

/-- Fields that are both left out, or both given and related. -/
inductive Slot.Alike (related : Document → Document → Prop) : Slot → Slot → Prop
  | given {d e : Document} (h : related d e) : Alike related (.given d) (.given e)
  | omitted : Alike related .omitted .omitted

namespace Slot

variable {α : Type} {read : Document → Option α} {related : Document → Document → Prop}
  {a b : Slot} {x : α}

theorem Alike.required (h : Alike related a b)
    (hkept : ∀ d e, related d e → Document.KeptBy read d e)
    (ha : a.required read = some x) : b.required read = some x := by
  cases h with
  | given hrelated => exact hkept _ _ hrelated x ha
  | omitted => exact ha

theorem Alike.withDefault {fallback : α} (h : Alike related a b)
    (hkept : ∀ d e, related d e → Document.KeptBy read d e)
    (ha : a.withDefault fallback read = some x) : b.withDefault fallback read = some x := by
  cases h with
  | given hrelated => exact hkept _ _ hrelated x ha
  | omitted => exact ha

end Slot

namespace Document

/-- Lists are read alike if their items are. -/
theorem KeptBy.list? {α : Type} {read : Document → Option α} {ds es : List Document}
    (h : List.Forall₂ (KeptBy read) ds es) : KeptBy (list? read) (.array ds) (.array es) := by
  intro xs hxs
  rw [Document.list?] at hxs ⊢
  induction h generalizing xs with
  | nil => exact hxs
  | cons hde _ ih =>
    simp only [List.mapM_cons, Option.bind_eq_bind, Option.bind_eq_some_iff, Option.pure_def,
      Option.some.injEq] at hxs ⊢
    obtain ⟨x, hx, xs, hxs, rfl⟩ := hxs
    exact ⟨x, hde x hx, xs, ih xs hxs, rfl⟩

/-! Members. -/

section

variable {names : List String} {d e : Document} {ms ns : List (Option String × Document)}
  {related : Option String → Document → Document → Prop} {f : String → Slot}

/-- The same members with other values, which the relation allows. -/
def Changed (related : Option String → Document → Document → Prop) :
    List (Option String × Document) → List (Option String × Document) → Prop :=
  List.Forall₂ fun m n => m.1 = n.1 ∧ related m.1 m.2 n.2

/-- The members `ms` and others that have none of the names, in any order. -/
def Extended (names : List String) (ms ns : List (Option String × Document)) : Prop :=
  ∃ extra, ns.Perm (ms ++ extra) ∧ ∀ m ∈ extra, ∃ k, m.1 = some k ∧ k ∉ names

/-- What members say about a field. -/
def slotOf (members : List (Option String × Document)) (name : String) : Slot :=
  match members.lookup (some name) with
  | some d => .given d
  | none => .omitted

theorem occurrences_eq (name : String) (ms : List (Option String × Document)) :
    occurrences name ms = (ms.map (·.1)).count (some name) := by
  rw [occurrences, List.count, List.countP_map]
  rfl

theorem fields?_object_eq_some_iff : (object ms).fields? names = some f ↔
    ((∀ k ∈ ms.map (·.1), k.isSome) ∧ ∀ name ∈ names, occurrences name ms ≤ 1) ∧ slotOf ms = f := by
  rw [fields?, Option.ite_none_right_eq_some, Option.some.injEq, Bool.and_eq_true, List.all_eq_true,
    List.all_eq_true, List.forall_mem_map]
  simp only [decide_eq_true_eq]
  rfl

/-- A name that is given at most once is found with the value that it is given with. -/
theorem lookup_eq_some_iff {name : String} (h : occurrences name ms ≤ 1) :
    ms.lookup (some name) = some d ↔ (some name, d) ∈ ms := by
  induction ms with
  | nil => simp
  | cons m ms ih =>
    obtain ⟨k, e⟩ := m
    rw [occurrences_eq, List.map_cons, List.count_cons] at h
    by_cases hk : k = some name
    · subst hk
      have hnone : some name ∉ ms.map (·.1) := by
        rw [← List.count_eq_zero]
        simpa using h
      have hd : (some name, d) ∉ ms := fun hd => hnone (List.mem_map_of_mem hd)
      simp [hd, eq_comm]
    · have hname : (some name == k) = false := by simpa using Ne.symm hk
      have hrest := ih (by rw [occurrences_eq]; omega)
      simp [List.lookup_cons, hname, hrest, Ne.symm hk]

/-- The order of members does not matter for the fields, and neither do other members. -/
theorem fields?_extended (h : Extended names ms ns) (hf : (object ms).fields? names = some f) :
    ∃ g, (object ns).fields? names = some g ∧ ∀ name ∈ names, g name = f name := by
  obtain ⟨extra, hperm, hextra⟩ := h
  obtain ⟨⟨hsome, honce⟩, rfl⟩ := fields?_object_eq_some_iff.1 hf
  have hskipped {name : String} (hname : name ∈ names) : some name ∉ extra.map (·.1) := by
    intro hmem
    obtain ⟨m, hm, hkey⟩ := List.mem_map.1 hmem
    obtain ⟨k, hk, hnot⟩ := hextra m hm
    rw [hk] at hkey
    cases hkey
    exact hnot hname
  have hkeys : (ns.map (·.1)).Perm (ms.map (·.1) ++ extra.map (·.1)) := by
    rw [← List.map_append]
    exact hperm.map _
  have honce' {name : String} (hname : name ∈ names) : occurrences name ns ≤ 1 := by
    rw [occurrences_eq, hkeys.count_eq, List.count_append, List.count_eq_zero.2 (hskipped hname),
      ← occurrences_eq]
    exact honce name hname
  have hsome' : ∀ k ∈ ns.map (·.1), k.isSome := by
    intro k hk
    rcases List.mem_append.1 (hkeys.mem_iff.1 hk) with hk | hk
    · exact hsome k hk
    · obtain ⟨m, hm, rfl⟩ := List.mem_map.1 hk
      obtain ⟨k, hk, -⟩ := hextra m hm
      rw [hk]
      rfl
  refine ⟨_, fields?_object_eq_some_iff.2 ⟨⟨hsome', fun name => honce'⟩, rfl⟩, ?_⟩
  intro name hname
  have hlookup : ns.lookup (some name) = ms.lookup (some name) := by
    ext d
    rw [lookup_eq_some_iff (honce' hname), lookup_eq_some_iff (honce name hname), hperm.mem_iff,
      List.mem_append]
    exact or_iff_left fun hd => hskipped hname (List.mem_map_of_mem hd)
  rw [slotOf, slotOf, hlookup]

theorem Changed.map_fst (h : Changed related ms ns) : ms.map (·.1) = ns.map (·.1) := by
  rw [← List.forall₂_eq_eq_eq, List.forall₂_map_left_iff, List.forall₂_map_right_iff]
  exact h.imp fun _ _ h => h.1

theorem Changed.slotOf (h : Changed related ms ns) (name : String) :
    Slot.Alike (related (some name)) (slotOf ms name) (slotOf ns name) := by
  induction h with
  | nil => exact .omitted
  | @cons m n ms ns hmn _ ih =>
    obtain ⟨k, d⟩ := m
    obtain ⟨l, e⟩ := n
    obtain ⟨rfl, hrelated⟩ := hmn
    cases hk : some name == k with
    | true =>
      simp only [Document.slotOf, List.lookup_cons, hk]
      rw [beq_iff_eq.1 hk]
      exact .given hrelated
    | false =>
      simp only [Document.slotOf, List.lookup_cons, hk]
      exact ih

theorem fields?_changed (h : Changed related ms ns) (hf : (object ms).fields? names = some f) :
    ∃ g, (object ns).fields? names = some g ∧
      ∀ name, Slot.Alike (related (some name)) (f name) (g name) := by
  obtain ⟨⟨hsome, honce⟩, rfl⟩ := fields?_object_eq_some_iff.1 hf
  refine ⟨_, fields?_object_eq_some_iff.2 ⟨⟨h.map_fst ▸ hsome, ?_⟩, rfl⟩, h.slotOf⟩
  intro name hname
  rw [occurrences_eq, ← h.map_fst, ← occurrences_eq]
  exact honce name hname

end

/-! Texts. -/

section

variable {α β : Type} {xs ys : List α} {ds : List β} {reads : α → β → Prop}

theorem exists_forall₂_iff : (∃ ds, List.Forall₂ reads xs ds) ↔ ∀ x ∈ xs, ∃ d, reads x d := by
  induction xs with
  | nil => simp
  | cons x xs ih =>
    rw [List.forall_mem_cons, ← ih]
    constructor
    · rintro ⟨_, h⟩
      cases h with
      | cons hd hds => exact ⟨⟨_, hd⟩, _, hds⟩
    · rintro ⟨⟨d, hd⟩, ds, hds⟩
      exact ⟨d :: ds, .cons hd hds⟩

/-- What is read from texts changes as the texts do. -/
theorem exists_forall₂_of_change {change : α → α → Prop} {related : β → β → Prop}
    (hchange : ∀ x y d, change x y → reads x d → ∃ e, reads y e ∧ related d e)
    (hxs : List.Forall₂ change xs ys) (hds : List.Forall₂ reads xs ds) :
    ∃ es, List.Forall₂ reads ys es ∧ List.Forall₂ related ds es := by
  induction hxs generalizing ds with
  | nil =>
    cases hds
    exact ⟨[], .nil, .nil⟩
  | @cons x y _ _ hxy _ ih =>
    cases hds with
    | @cons _ d _ ds hd hds =>
      obtain ⟨e, he, hde⟩ := hchange x y d hxy hd
      obtain ⟨es, hes, hdes⟩ := ih hds
      exact ⟨e :: es, .cons he hes, .cons hde hdes⟩

end

section

variable {s t : List Char} {d e : Document} {names : List String}

/-- The text of an object, cut into the texts of its members. -/
def ObjectText (ms : List MemberText) (s : List Char) : Prop :=
  Bracketed '\x7b' '\x7d' (ms.map (·.text)) s ∧ ∀ m ∈ ms, ∃ member, m.Writes member

/-- The text of an array, cut into the texts of its items. -/
def ArrayText (parts : List (List Char)) (s : List Char) : Prop :=
  Bracketed '[' ']' parts s ∧ ∀ part ∈ parts, ∃ d : Document, d.Writes part

/-- A text that is made of the members of another, each changed as `change` tells, and of other
members with none of the names, in any order. -/
def Reworded (change : MemberText → MemberText → Prop) (names : List String) (s t : List Char) :
    Prop :=
  ∃ ms changed extra ns : List MemberText, ObjectText ms s ∧ List.Forall₂ change ms changed ∧
    (∀ m ∈ extra, ∃ k d, m.Writes (some k, d) ∧ k ∉ names) ∧ ns.Perm (changed ++ extra) ∧
    Bracketed '\x7b' '\x7d' (ns.map (·.text)) t

theorem Writes.unique (hd : d.Writes s) (he : e.Writes s) : d = e :=
  Option.some.inj (hd.symm.trans he)

/-- The texts of objects are those that can be cut so. -/
theorem exists_writes_object_iff : (∃ ms, (object ms).Writes s) ↔ ∃ ms, ObjectText ms s := by
  simp only [writes_object_iff, ObjectText, ← exists_forall₂_iff, ← exists_and_left]
  exact exists_comm

theorem exists_writes_array_iff : (∃ items, (array items).Writes s) ↔ ∃ parts, ArrayText parts s := by
  simp only [writes_array_iff, ArrayText, ← exists_forall₂_iff, ← exists_and_left]
  exact exists_comm

/-- What is read from a text that is reworded. -/
theorem Reworded.exists_writes {change : MemberText → MemberText → Prop}
    (related : Option String → Document → Document → Prop)
    (hchange : ∀ m n member, change m n → m.Writes member →
      ∃ e, n.Writes (member.1, e) ∧ related member.1 member.2 e)
    (h : Reworded change names s t) (hd : d.Writes s) :
    ∃ ms changed ns, d = object ms ∧ Changed related ms changed ∧ Extended names changed ns ∧
      (object ns).Writes t := by
  obtain ⟨ms, changed, extra, ns, ⟨hs, hms⟩, hchanged, hextra, hperm, ht⟩ := h
  obtain ⟨members, hmembers⟩ := exists_forall₂_iff.2 hms
  obtain ⟨changedMembers, hchangedMembers, hrelated⟩ :
      ∃ changedMembers, List.Forall₂ MemberText.Writes changed changedMembers ∧
        Changed related members changedMembers := by
    refine exists_forall₂_of_change ?_ hchanged hmembers
    intro m n member hmn hm
    obtain ⟨e, he, hrelated⟩ := hchange m n member hmn hm
    exact ⟨_, he, rfl, hrelated⟩
  obtain ⟨extraMembers, hextraMembers⟩ : ∃ extraMembers, List.Forall₂
      (fun m member => (∃ k, member.1 = some k ∧ k ∉ names) ∧ m.Writes member)
      extra extraMembers := by
    rw [exists_forall₂_iff]
    intro m hm
    obtain ⟨k, d, hm, hk⟩ := hextra m hm
    exact ⟨(some k, d), ⟨k, rfl, hk⟩, hm⟩
  have hwritten : List.Forall₂ MemberText.Writes extra extraMembers :=
    hextraMembers.imp fun _ _ h => h.2
  have hothers : ∀ member ∈ extraMembers, ∃ k, member.1 = some k ∧ k ∉ names := by
    intro member hmember
    have hread := exists_forall₂_iff.1 ⟨extra, List.Forall₂.flip hextraMembers⟩
    obtain ⟨m, hother, -⟩ := hread member hmember
    exact hother
  obtain ⟨nsMembers, hnsMembers, hpermMembers⟩ :=
    List.perm_comp_forall₂ hperm (List.rel_append hchangedMembers hwritten)
  refine ⟨members, changedMembers, nsMembers, ?_, hrelated, ⟨_, hpermMembers, hothers⟩, ?_⟩
  · exact hd.unique (writes_object_iff.2 ⟨ms, hs, hmembers⟩)
  · exact writes_object_iff.2 ⟨ns, ht, hnsMembers⟩

end

end Document
end ZoneAudit.Json
