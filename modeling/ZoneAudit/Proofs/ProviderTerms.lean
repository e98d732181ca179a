import ZoneAudit.Proofs.AliasTargets
import ZoneAudit.Proofs.Providers
import ZoneAudit.Proofs.Recognition

/-!
Terms that give providers away. A provider is looked for in the terms as they are written, in lower
case and without their signs, while a policy is read with one sign at most and with names in lower
case. The two agree on a term unless it has more than one sign, a capital in its name or a kelvin
sign. The known senders are looked for in values as they are written, so there the case of the
domain matters too.
-/

namespace ZoneAudit
open Text

namespace Text

variable {s t d : List Char} {c e : Char}

/-- Characters of ASCII that lower case leaves as they are. -/
def IsSmall (d : List Char) : Prop := ∀ e ∈ d, e ≠ '\x00' ∧ e.toNat < 0x80 ∧ e.toLower = e

instance : DecidablePred IsSmall := fun d =>
  decidable_of_iff (d.all fun e => e ≠ '\x00' ∧ e.toNat < 0x80 ∧ e.toLower = e)
    (by simp only [IsSmall, List.all_eq_true, decide_eq_true_eq])

theorem caseVariant_iff_toLower (he : e.toLower = e) : CaseVariant c e ↔ c.toLower = e := by
  constructor
  · rintro (rfl | ⟨-, -, h⟩)
    · exact he
    · rw [h, he]
  · rintro rfl
    exact caseVariant_toLower c

theorem recased_iff_map_toLower (hd : IsSmall d) : Recased s d ↔ s.map Char.toLower = d := by
  induction d generalizing s with
  | nil => simp [Recased]
  | cons e d ih =>
    rw [IsSmall, List.forall_mem_cons] at hd
    simp only [Recased, List.forall₂_cons_right_iff, List.map_eq_cons_iff,
      caseVariant_iff_toLower hd.1.2.2]
    constructor
    · rintro ⟨c, r, hc, hr, rfl⟩
      exact ⟨c, r, rfl, hc, (ih hd.2).1 hr⟩
    · rintro ⟨c, r, rfl, hc, hr⟩
      exact ⟨c, r, hc, (ih hd.2).2 hr, rfl⟩

theorem plainKelvins_of_notMem (h : '\u212A' ∉ s) : plainKelvins s = s := by
  rw [plainKelvins]
  conv_rhs => rw [← List.map_id s]
  rw [List.map_inj_left]
  intro c hc
  exact if_neg (ne_of_mem_of_not_mem hc h)

theorem plainKelvins_append (s t : List Char) :
    plainKelvins (s ++ t) = plainKelvins s ++ plainKelvins t := List.map_append

/-- What a text becomes in lower case, if that is plain ASCII: only the case of its letters and its
kelvin signs are lost. -/
theorem lower_eq_iff (hd : IsSmall d) : lower s = d ↔ Recased (plainKelvins s) d := by
  rw [recased_iff_map_toLower hd]
  by_cases hplain : ∀ c ∈ s, c.toNat < 0x80 ∨ c = '\u212A'
  · rw [lower, lowerAfter_of_plain hplain]
  · simp only [not_forall, not_or, Nat.not_lt] at hplain
    obtain ⟨c, hmem, hc, hkelvin⟩ := hplain
    constructor
    · rintro rfl
      obtain ⟨e, he, hrange⟩ := exists_mem_lowerAfter hmem hc hkelvin false
      obtain ⟨hnul, hascii, -⟩ := hd e he
      rcases hrange with hrange | hrange
      · exact absurd hrange hnul
      · omega
    · rintro rfl
      have hsame : c = c.toLower := by
        obtain h | ⟨hletter, -⟩ := caseVariant_toLower c
        · exact h
        · have hascii := toNat_lt_of_isAlpha hletter
          omega
      have hmem' : c ∈ (plainKelvins s).map Char.toLower := by
        rw [hsame]
        exact List.mem_map_of_mem (List.mem_map.2 ⟨c, hmem, if_neg hkelvin⟩)
      obtain ⟨-, hascii, -⟩ := hd c hmem'
      omega

/-- Each part of a text in other cases is a part of the text. -/
theorem exists_append_of_recased {u v : List Char} (h : Recased (plainKelvins s) (u ++ v)) :
    ∃ a b, s = a ++ b ∧ Recased (plainKelvins a) u ∧ Recased (plainKelvins b) v := by
  refine ⟨s.take u.length, s.drop u.length, (List.take_append_drop _ _).symm, ?_, ?_⟩
  · rw [plainKelvins, List.map_take]
    exact List.forall₂_take_append _ _ _ h
  · rw [plainKelvins, List.map_drop]
    exact List.forall₂_drop_append _ _ _ h

/-- Signs have no case and are no kelvin signs. -/
theorem eq_of_recased_of_not_alpha (hd : ∀ e ∈ d, e.isAlpha = false) (h : Recased (plainKelvins s) d) :
    s = d := by
  induction d generalizing s with
  | nil => simpa [plainKelvins, Recased] using h
  | cons e d ih =>
    rw [List.forall_mem_cons] at hd
    obtain ⟨c, r, hc, hr, heq⟩ := List.forall₂_cons_right_iff.1 h
    obtain ⟨c', r', rfl, hchar, rfl⟩ := List.map_eq_cons_iff.1 heq
    have hsame := (hc.eq_iff hd.1).2 rfl
    by_cases hkelvin : c' = '\u212A'
    · rw [if_pos hkelvin] at hchar
      rw [← hsame, ← hchar] at hd
      exact absurd hd.1 (by decide)
    · rw [if_neg hkelvin] at hchar
      rw [hchar, hsame, ih hd.2 hr]

/-- A kelvin sign is no letter in another case. -/
theorem kelvin_notMem_of_recased (hd : IsSmall d) (h : Recased s d) : '\u212A' ∉ s := by
  intro hmem
  rw [recased_iff_map_toLower hd] at h
  have hkelvin : '\u212A'.toLower ∈ d := h ▸ List.mem_map_of_mem hmem
  exact absurd (hd _ hkelvin).2.1 (by decide)

theorem kelvin_notMem_of_plain (hd : IsSmall d) (hk : 'k' ∉ d)
    (h : Recased (plainKelvins s) d) : '\u212A' ∉ s := by
  intro hmem
  rw [recased_iff_map_toLower hd] at h
  have hplain : 'k' ∈ plainKelvins s := List.mem_map.2 ⟨'\u212A', hmem, rfl⟩
  have hsmall : 'k'.toLower ∈ d := h ▸ List.mem_map_of_mem hplain
  exact hk hsmall

end Text

namespace Provider

/-- A term that a provider is looked for by: signs, the name of the mechanism and the domain, in any
case and with kelvin signs for a k. -/
structure Inclusion (p : Provider) (t signs name value : List Char) : Prop where
  split : t = signs ++ (name ++ ':' :: value)
  signs : ∀ c ∈ signs, c ∈ Spf.marks
  name : Recased name "include".toList
  value : Recased (plainKelvins value) p.senderDomain.toList

/-- A term for the provider that is not read as an inclusion: it has several signs, a capital in the
name or a kelvin sign in the domain. -/
def Disguised (p : Provider) (t : List Char) : Prop :=
  ∃ signs name value, p.Inclusion t signs name value ∧
    (1 < signs.length ∨ name ≠ "include".toList ∨ '\u212A' ∈ value)

variable {p : Provider} {t signs name value : List Char} {r : Record}

/-! What is looked for. -/

theorem isSome_ofChar?_iff {c : Char} : (Spf.Qualifier.ofChar? c).isSome ↔ c ∈ Spf.marks := by
  constructor
  · intro h
    by_contra hc
    rw [Spf.Qualifier.ofChar?_of_notMem hc] at h
    cases h
  · intro h
    obtain ⟨q, rfl⟩ := Spf.Qualifier.exists_of_mem_marks h
    simp

theorem withoutSigns_eq_cons_iff {c : Char} {u : List Char} (hc : c ∉ Spf.marks) :
    withoutSigns t = c :: u ↔ ∃ signs, t = signs ++ c :: u ∧ ∀ e ∈ signs, e ∈ Spf.marks := by
  constructor
  · intro h
    refine ⟨t.takeWhile fun c => (Spf.Qualifier.ofChar? c).isSome, ?_, fun e he => ?_⟩
    · rw [← h]
      exact List.takeWhile_append_dropWhile.symm
    · have hsign := List.mem_takeWhile_imp (p := fun c => (Spf.Qualifier.ofChar? c).isSome) he
      exact isSome_ofChar?_iff.1 hsign
  · rintro ⟨signs, rfl, hsigns⟩
    rw [withoutSigns, List.dropWhile_append_of_pos fun e he => isSome_ofChar?_iff.2 (hsigns e he)]
    apply List.dropWhile_cons_of_neg
    rwa [isSome_ofChar?_iff]

theorem senderTerm_eq (p : Provider) :
    p.senderTerm = "include".toList ++ ':' :: p.senderDomain.toList := rfl

theorem isSmall_marks : IsSmall Spf.marks := by decide

theorem isSmall_include : IsSmall "include".toList := by decide

theorem isSmall_senderDomain (p : Provider) : IsSmall p.senderDomain.toList := by
  cases p <;> decide

theorem isAlpha_of_mem_marks {c : Char} (hc : c ∈ Spf.marks) : c.isAlpha = false := by
  obtain ⟨q, rfl⟩ := Spf.Qualifier.exists_of_mem_marks hc
  cases q <;> decide

/-- A term in lower case and without its signs is that of the provider. -/
theorem withoutSigns_lower_iff :
    withoutSigns (lower t) = p.senderTerm ↔ ∃ signs name value, p.Inclusion t signs name value := by
  have hlower {signs : List Char} (hsigns : ∀ c ∈ signs, c ∈ Spf.marks) :
      lower t = signs ++ p.senderTerm ↔ Recased (plainKelvins t) (signs ++ p.senderTerm) := by
    have hcolon : IsSmall [':'] := by decide
    have hterm : IsSmall p.senderTerm := by
      rw [senderTerm_eq]
      exact List.forall_mem_append.2 ⟨isSmall_include,
        List.forall_mem_append.2 ⟨hcolon, p.isSmall_senderDomain⟩⟩
    exact lower_eq_iff (List.forall_mem_append.2 ⟨fun c hc => isSmall_marks c (hsigns c hc), hterm⟩)
  obtain ⟨u, hhead⟩ : ∃ u, p.senderTerm = 'i' :: u := ⟨_, rfl⟩
  rw [hhead, withoutSigns_eq_cons_iff (by decide), ← hhead]
  constructor
  · rintro ⟨signs, heq, hsigns⟩
    have hcase := (hlower hsigns).1 heq
    rw [senderTerm_eq] at hcase
    obtain ⟨a, b, rfl, ha, hb⟩ := exists_append_of_recased hcase
    obtain ⟨n, b, rfl, hn, hb⟩ := exists_append_of_recased hb
    obtain ⟨colon, v, rfl, hcolon, hv⟩ := exists_append_of_recased (u := [':']) hb
    obtain rfl := eq_of_recased_of_not_alpha (List.forall_mem_singleton.2 (by decide)) hcolon
    obtain rfl := eq_of_recased_of_not_alpha (fun c hc => isAlpha_of_mem_marks (hsigns c hc)) ha
    have hkelvin := kelvin_notMem_of_plain isSmall_include (by decide) hn
    rw [plainKelvins_of_notMem hkelvin] at hn
    exact ⟨a, n, v, rfl, hsigns, hn, hv⟩
  · rintro ⟨signs, name, value, rfl, hsigns, hn, hv⟩
    refine ⟨signs, (hlower hsigns).2 ?_, hsigns⟩
    have hplainSigns : '\u212A' ∉ signs := fun hmem => absurd (hsigns _ hmem) (by decide)
    have hplainName := kelvin_notMem_of_recased isSmall_include hn
    rw [plainKelvins_append, plainKelvins_append, plainKelvins_of_notMem hplainSigns,
      plainKelvins_of_notMem hplainName, senderTerm_eq]
    have hrefl (u : List Char) : Recased u u := List.forall₂_same.2 fun c _ => .inl rfl
    exact List.rel_append (hrefl signs) (List.rel_append hn (.cons (.inl rfl) hv))

/-! Terms of policies. -/

theorem exists_marks_iff {mark : List Char} :
    (∃ q : Spf.Qualifier, q.Marks mark) ↔ mark.length ≤ 1 ∧ ∀ c ∈ mark, c ∈ Spf.marks := by
  constructor
  · rintro ⟨q, hq⟩
    cases hq with
    | symbol => exact ⟨Nat.le_refl 1, List.forall_mem_singleton.2 q.symbol_mem_marks⟩
    | omitted => exact ⟨Nat.zero_le 1, List.forall_mem_nil _⟩
  · rintro ⟨hlength, hmarks⟩
    match mark, hlength with
    | [], _ => exact ⟨.pass, .omitted⟩
    | [c], _ =>
      obtain ⟨q, rfl⟩ := Spf.Qualifier.exists_of_mem_marks (hmarks c (by simp))
      exact ⟨q, .symbol q⟩

/-- The values that a policy includes are written after the name, with one sign at most. -/
theorem mem_includes_iff {policy : Spf.Policy} {terms : List (List Char)}
    (hread : terms.filterMap Spf.mechanism? = policy.mechanisms) {v : String} :
    v ∈ policy.includes ↔ ∃ t ∈ terms, ∃ mark, t = mark ++ ("include".toList ++ ':' :: v.toList) ∧
      mark.length ≤ 1 ∧ ∀ c ∈ mark, c ∈ Spf.marks := by
  have hwrites (t : List Char) : (∃ q, Spf.mechanism? t = some ⟨q, .included, some v⟩) ↔
      ∃ mark, t = mark ++ ("include".toList ++ ':' :: v.toList) ∧
        mark.length ≤ 1 ∧ ∀ c ∈ mark, c ∈ Spf.marks := by
    simp only [Spf.mechanism?_eq_some_iff, Spf.Mechanism.Writes, ← exists_marks_iff]
    constructor
    · rintro ⟨q, mark, hq, heq⟩
      exact ⟨mark, heq, q, hq⟩
    · rintro ⟨mark, heq, q, hq⟩
      exact ⟨q, mark, hq, heq⟩
  simp only [← hwrites, Spf.Policy.includes, ← hread, List.mem_filterMap, List.mem_filter,
    decide_eq_true_eq]
  constructor
  · rintro ⟨⟨q, method, value⟩, ⟨⟨t, ht, hm⟩, hmethod⟩, hvalue⟩
    simp only at hmethod hvalue
    subst hmethod hvalue
    exact ⟨t, ht, q, hm⟩
  · rintro ⟨t, ht, q, hm⟩
    exact ⟨_, ⟨⟨t, ht, hm⟩, rfl⟩, rfl⟩

/-- The version is no term that includes anything, so all words of a recognized policy
count alike. -/
theorem mem_includes_iff_words {policy : Spf.Policy} (hparse : Spf.parse? r.data = some policy)
    (hstart : startsWith "v=spf1" policy.version.toList) {v : String} :
    v ∈ policy.includes ↔ ∃ t ∈ words r.data.toList, ∃ mark,
      t = mark ++ ("include".toList ++ ':' :: v.toList) ∧
        mark.length ≤ 1 ∧ ∀ c ∈ mark, c ∈ Spf.marks := by
  obtain ⟨terms, hwords, -, hread⟩ := Spf.parse?_eq_some_iff.1 hparse
  rw [mem_includes_iff hread, hwords]
  simp only [List.mem_cons, or_and_right, exists_or, exists_eq_left]
  refine (or_iff_right ?_).symm
  rintro ⟨mark, heq, -, hmarks⟩
  rw [startsWith, List.isPrefixOf_iff_prefix, heq] at hstart
  cases mark with
  | nil => simp at hstart
  | cons c mark =>
    obtain ⟨hc, -⟩ := List.cons_prefix_cons.1 hstart
    exact absurd (hmarks c (by simp)) (hc ▸ by decide)

/-! The two readings. -/

/-- A term with the name as it is read, with any signs in front. -/
theorem inclusion_of_recased {mark v : List Char} (hmark : ∀ c ∈ mark, c ∈ Spf.marks)
    (hv : Recased v p.senderDomain.toList) :
    p.Inclusion (mark ++ ("include".toList ++ ':' :: v)) mark "include".toList v := by
  have hplain := plainKelvins_of_notMem (kelvin_notMem_of_recased p.isSmall_senderDomain hv)
  have hname : Recased "include".toList "include".toList := List.forall₂_same.2 fun c _ => .inl rfl
  exact ⟨rfl, hmark, hname, by rwa [hplain]⟩

/-- The parts of a term are determined by the term. -/
theorem Inclusion.unique {signs' name' value' : List Char} (h : p.Inclusion t signs name value)
    (h' : p.Inclusion t signs' name' value') : signs = signs' ∧ name = name' ∧ value = value' := by
  have hsigns {s n v : List Char} (h : p.Inclusion t s n v) :
      t.takeWhile (· ∈ Spf.marks) = s ∧ t.dropWhile (· ∈ Spf.marks) = n ++ ':' :: v := by
    have hmarks : ∀ c ∈ s, decide (c ∈ Spf.marks) = true := by simpa using h.signs
    obtain ⟨c, r, hc, -, rfl⟩ : ∃ c r, CaseVariant c 'i' ∧ Recased r "nclude".toList ∧ n = c :: r :=
      List.forall₂_cons_right_iff.1 h.name
    have hhead : c ∉ Spf.marks := by
      intro hmem
      have hletter := (hc.eq_iff (isAlpha_of_mem_marks hmem)).1 rfl
      exact absurd (hletter ▸ hmem) (by decide)
    rw [h.split, List.takeWhile_append_of_pos hmarks, List.dropWhile_append_of_pos hmarks]
    simp [hhead]
  have hcut {s n v : List Char} (h : p.Inclusion t s n v) :
      cut ':' (n ++ ':' :: v) = some (n, v) := by
    apply cut_append
    intro hmem
    have hcolon : ':'.toLower ∈ "include".toList := by
      rw [← (recased_iff_map_toLower isSmall_include).1 h.name]
      exact List.mem_map_of_mem hmem
    exact absurd hcolon (by decide)
  have hparts : cut ':' (name ++ ':' :: value) = cut ':' (name' ++ ':' :: value') := by
    rw [← (hsigns h).2, ← (hsigns h').2]
  rw [hcut h, hcut h', Option.some.injEq, Prod.mk.injEq] at hparts
  exact ⟨(hsigns h).1.symm.trans (hsigns h').1, hparts⟩

/-- What a disguised term includes, if anything, is not the domain. -/
theorem Disguised.not_included (h : p.Disguised t) {q : Spf.Qualifier} {v : String}
    (hm : Spf.mechanism? t = some ⟨q, .included, some v⟩) :
    ¬Recased v.toList p.senderDomain.toList := by
  intro hv
  obtain ⟨mark, hmark, heq⟩ := Spf.mechanism?_eq_some_iff.1 hm
  obtain ⟨hlength, hmarks⟩ := exists_marks_iff.1 ⟨q, hmark⟩
  have hread := inclusion_of_recased (p := p) hmarks hv
  obtain ⟨signs, name, value, hincludes, hdisguise⟩ := h
  rw [heq] at hincludes
  obtain ⟨rfl, rfl, rfl⟩ := hincludes.unique hread
  rcases hdisguise with hsigns | hname | hkelvin
  · omega
  · exact hname rfl
  · exact kelvin_notMem_of_recased p.isSmall_senderDomain hv hkelvin

/-- A provider is detected in a recognized policy by a term for it. -/
theorem mem_detect_policy_iff (hpolicy : Spf.isPolicy r) :
    p ∈ detect [r] ↔
      ∃ t ∈ words r.data.toList, ∃ signs name value, p.Inclusion t signs name value := by
  have htype : r.type = .txt := (Spf.isPolicy_iff_parse?.1 hpolicy).1
  have hnames : exchangeNames [r] = [] := by simp [exchangeNames, Mx.isMx, htype]
  have hterms : policyTerms [r] = (words r.data.toList).map lower := by
    simp [policyTerms, hpolicy]
  have hreceives : p.receives [] = false := by cases p <;> rfl
  rw [mem_detect_iff_gathered, hterms, hnames, hreceives, sends, List.any_map, List.any_eq_true]
  simp only [Function.comp_apply, decide_eq_true_eq, withoutSigns_lower_iff, Bool.false_eq_true,
    or_false]

/-- In a recognized policy a provider is detected if the policy includes its domain, or else by a
disguised term. -/
theorem mem_detect_iff_includes (hpolicy : Spf.isPolicy r) :
    p ∈ detect [r] ↔
      (∃ policy, Spf.parse? r.data = some policy ∧
        ∃ v ∈ policy.includes, Recased v.toList p.senderDomain.toList) ∨
      ∃ t ∈ words r.data.toList, p.Disguised t := by
  obtain ⟨-, policy, hparse, hstart⟩ := Spf.isPolicy_iff_parse?.1 hpolicy
  have hvalues (v : String) := mem_includes_iff_words hparse hstart (v := v)
  rw [mem_detect_policy_iff hpolicy]
  constructor
  · rintro ⟨t, ht, signs, name, value, h⟩
    by_cases hdisguise : 1 < signs.length ∨ name ≠ "include".toList ∨ '\u212A' ∈ value
    · exact .inr ⟨t, ht, signs, name, value, h, hdisguise⟩
    · simp only [not_or, not_lt, not_not] at hdisguise
      obtain ⟨hlength, rfl, hkelvin⟩ := hdisguise
      have hvalue := h.value
      rw [plainKelvins_of_notMem hkelvin] at hvalue
      obtain ⟨v, rfl⟩ : ∃ v : String, v.toList = value := ⟨String.ofList value, String.toList_ofList⟩
      exact .inl ⟨policy, hparse, v, (hvalues v).2 ⟨t, ht, signs, h.split, hlength, h.signs⟩, hvalue⟩
  · rintro (⟨policy', hparse', v, hv, hdomain⟩ | ⟨t, ht, signs, name, value, h, -⟩)
    · obtain rfl : policy = policy' := Option.some.inj (hparse.symm.trans hparse')
      obtain ⟨t, ht, mark, rfl, -, hmarks⟩ := (hvalues v).1 hv
      exact ⟨_, ht, _, _, _, inclusion_of_recased hmarks hdomain⟩
    · exact ⟨t, ht, signs, name, value, h⟩

/-- Without exchanges, a provider is detected just if some sender policy includes its domain in any
case, or has a disguised term for it. -/
theorem detect_iff_includes {rs : List Record} (h : ∀ r ∈ rs, r.type ≠ .mx) (p : Provider) :
    (p ∈ detect rs ↔ ∃ r ∈ rs, Spf.isPolicy r ∧
      ((∃ policy, Spf.parse? r.data = some policy ∧
        ∃ v ∈ policy.includes, Recased v.toList p.senderDomain.toList) ∨
      ∃ t ∈ words r.data.toList, p.Disguised t)) ∧
    ∀ t, p.Disguised t → ∀ q v, Spf.mechanism? t = some ⟨q, .included, some v⟩ →
      ¬Recased v.toList p.senderDomain.toList := by
  refine ⟨?_, fun t ht q v hm => ht.not_included hm⟩
  rw [mem_detect_iff]
  refine exists_congr fun r => and_congr_right fun hr => ?_
  by_cases hpolicy : Spf.isPolicy r
  · rw [mem_detect_iff_includes hpolicy]
    exact (and_iff_right hpolicy).symm
  · have hmx : Mx.isMx r = false := by simpa [Mx.isMx] using h r hr
    rw [detect_of_unrelated hmx (Bool.eq_false_iff.2 hpolicy)]
    simp [hpolicy]

/-- A policy that includes the domain of one provider in capitals and names another one in a
disguised term. -/
theorem detect_iff_includes_capitals :
    let r : Record := ⟨.txt, "example.com", 3600,
      "v=spf1 ~include:Spf.Protection.Outlook.COM +-Include:zoho.com -all"⟩
    (∀ s ∈ [r], s.type ≠ .mx) ∧ microsoft365 ∈ detect [r] ∧ zoho ∈ detect [r] ∧
    Disguised zoho "+-Include:zoho.com".toList := by
  intro r
  have htype : ∀ s ∈ [r], s.type ≠ .mx := List.forall_mem_singleton.2 (by decide)
  have hpolicy : Spf.isPolicy r := by decide +kernel
  have hparse : Spf.parse? r.data = some ⟨"v=spf1",
      [⟨.softFail, .included, some "Spf.Protection.Outlook.COM"⟩, ⟨.fail, .all, none⟩]⟩ := by
    decide +kernel
  have hdisguised : Disguised zoho "+-Include:zoho.com".toList :=
    ⟨['+', '-'], "Include".toList, "zoho.com".toList,
      ⟨by decide, List.forall_mem_cons.2 ⟨by decide, List.forall_mem_singleton.2 (by decide)⟩,
        by decide, by decide⟩, .inl (by decide)⟩
  have hdetect (p : Provider) := (detect_iff_includes htype p).1
  refine ⟨htype, (hdetect _).2 ?_, (hdetect _).2 ?_, hdisguised⟩
  · exact ⟨r, by simp, hpolicy, .inl ⟨_, hparse, "Spf.Protection.Outlook.COM", by decide, by decide⟩⟩
  · exact ⟨r, by simp, hpolicy, .inr ⟨_, by decide +kernel, hdisguised⟩⟩

/-- Three providers are detected, by a capital in the name, by a second sign and by a kelvin sign,
and the policy includes the domain of none of them. -/
theorem detect_takes_disguised :
    let r : Record := ⟨.txt, "example.com", 3600,
      "v=spf1 INCLUDE:_spf.google.com include:spf.protection.outloo\u212A.com ++include:zoho.com -all"⟩
    Spf.isPolicy r ∧ detect [r] = [googleWorkspace, microsoft365, zoho] ∧
    (Spf.parse? r.data).map (·.includes) = some ["spf.protection.outloo\u212A.com"] ∧
    ∀ p ∈ all, ¬Recased "spf.protection.outloo\u212A.com".toList p.senderDomain.toList := by
  decide +kernel

/-! Known senders. -/

/-- The domain of every provider but one is that of a known sender. -/
theorem senderDomain_mem_commonIncludes (h : p ≠ zoho) : p.senderDomain ∈ Spf.commonIncludes := by
  cases p with
  | zoho => exact absurd rfl h
  | _ => decide

/-- A provider detected in a policy has a term there, and known senders are found unless each term
for it has several signs, a capital name or another spelling. -/
theorem senders_of_mem_detect (hpolicy : Spf.isPolicy r) (hp : p ∈ detect [r]) (hzoho : p ≠ zoho)
    (z : Zone) :
    (∃ t ∈ words r.data.toList, ∃ signs name value, p.Inclusion t signs name value) ∧
    (Spf.senders r z = none ∨
      ∀ t ∈ words r.data.toList, ∀ signs name value, p.Inclusion t signs name value →
        1 < signs.length ∨ name ≠ "include".toList ∨ value ≠ p.senderDomain.toList) := by
  obtain ⟨-, policy, hparse, hstart⟩ := Spf.isPolicy_iff_parse?.1 hpolicy
  refine ⟨(mem_detect_policy_iff hpolicy).1 hp, ?_⟩
  by_cases hcommon : p.senderDomain ∈ policy.includes
  · have hknown : Spf.includesCommon policy := by
      rw [Spf.includesCommon, List.any_eq_true]
      refine ⟨_, hcommon, List.any_eq_true.2 ⟨_, senderDomain_mem_commonIncludes hzoho, ?_⟩⟩
      exact contains_iff.2 List.infix_rfl
    refine .inl ?_
    rw [Spf.senders, Spf.onPolicy_eq _ hparse, if_pos hknown, Option.map_none]
  · refine .inr fun t ht signs name value h => ?_
    by_contra hplain
    simp only [not_or, not_lt, not_not] at hplain
    obtain ⟨hlength, rfl, rfl⟩ := hplain
    exact hcommon ((mem_includes_iff_words hparse hstart).2
      ⟨t, ht, signs, h.split, hlength, h.signs⟩)

/-- A term with a sign and in small letters, behind a disguised one. -/
theorem senders_of_mem_detect_google :
    let r : Record := ⟨.txt, "example.com", 3600,
      "v=spf1 INCLUDE:_SPF.GOOGLE.COM ?include:_spf.google.com -all"⟩
    Spf.isPolicy r ∧ googleWorkspace ∈ detect [r] ∧ googleWorkspace ≠ zoho ∧
    ∀ z, Spf.senders r z = none := by
  intro r
  have hpolicy : Spf.isPolicy r := by decide +kernel
  have hdetect : googleWorkspace ∈ detect [r] := by decide +kernel
  have hplain : "?include:_spf.google.com".toList ∈ words r.data.toList := by decide +kernel
  have hincludes : Inclusion googleWorkspace "?include:_spf.google.com".toList ['?']
      "include".toList "_spf.google.com".toList :=
    ⟨by decide, List.forall_mem_singleton.2 (by decide), by decide, by decide⟩
  refine ⟨hpolicy, hdetect, by decide, fun z => ?_⟩
  obtain ⟨-, hnone | hall⟩ := senders_of_mem_detect hpolicy hdetect (by decide) z
  · exact hnone
  · exact absurd (hall _ hplain _ _ _ hincludes) (by decide)

/-- Three providers are detected, by a capital in the name, a second sign and a capital in the
domain, and no known senders are found. -/
theorem senders_overlooks_capitals :
    let r : Record := ⟨.txt, "example.com", 3600,
      "v=spf1 ++include:_spf.google.com include:Spf.Protection.Outlook.COM INCLUDE:amazonses.com -all"⟩
    Spf.isPolicy r ∧ detect [r] = [googleWorkspace, microsoft365, awsSes] ∧
    (Spf.senders r ⟨"example.com", [r], none⟩).map (·.message) =
      some "No common email provider includes found in SPF record" := by
  decide +kernel

end Provider
end ZoneAudit
