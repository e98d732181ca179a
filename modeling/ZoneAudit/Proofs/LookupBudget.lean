import ZoneAudit.Proofs.PolicyTerms
import ZoneAudit.Spf.Rules

/-!
The look-ups that the terms of a sender policy count for. They are added up term by term, so only
which terms there are matters and not their order. The same holds of the rules on pointers and
senders; the rule on addresses shows the first wrong value, so the order decides what it shows but
not whether.
-/

namespace ZoneAudit.Spf
open Text

/-- Whether the name of a term is one of some names. -/
def named (names : List String) (t : List Char) : Bool := names.any (termName t = ·.toList)

/-- One look-up for a term of most names, two for a pointer. -/
def budget (terms : List (List Char)) : Nat :=
  terms.countP (named ["a", "mx", "include", "exists"]) + 2 * terms.countP (named ["ptr"])

variable {r r' : Record} {p p' : Policy} {t : List Char} {terms : List (List Char)}

/-! The sum. -/

theorem termName_of_mechanism? {m : Mechanism} (h : mechanism? t = some m) :
    termName t = m.method.name.toList := by
  rw [mechanism?_eq, Option.map_eq_some_iff] at h
  obtain ⟨method, hname, rfl⟩ := h
  exact Method.ofName?_eq_some_iff.1 hname

theorem Method.name_injective : Function.Injective name := by
  intro m m' h
  have hread := congrArg (fun s => ofName? s.toList) h
  simpa using hread

/-- The terms with the names of some methods are those that are read as mechanisms of them. -/
theorem named_map_name (ms : List Method) (t : List Char) :
    named (ms.map Method.name) t = (mechanism? t).any (·.method ∈ ms) := by
  rw [Bool.eq_iff_iff]
  cases hread : mechanism? t with
  | none => simpa [named] using fun m _ => mechanism?_eq_none_iff.1 hread m
  | some m =>
    simp [named, termName_of_mechanism? hread, String.toList_inj, Method.name_injective.eq_iff]

theorem countP_named (ms : List Method) (terms : List (List Char)) :
    terms.countP (named (ms.map Method.name)) =
      (terms.filterMap mechanism?).countP (·.method ∈ ms) := by
  rw [List.countP_filterMap]
  refine List.countP_congr fun t _ => ?_
  rw [named_map_name]
  cases mechanism? t <;> rfl

theorem lookups_eq (p : Policy) :
    p.lookups = p.mechanisms.countP (·.method ∈ [Method.a, .mx, .included, .existing]) +
      2 * p.mechanisms.countP (·.method ∈ [Method.ptr]) := by
  rw [Policy.lookups]
  induction p.mechanisms with
  | nil => rfl
  | cons m ms ih =>
    rw [List.map_cons, List.foldr_cons, ih, List.countP_cons, List.countP_cons]
    cases m.method <;> simp +arith [Method.cost]

theorem lookups_eq_budget (h : terms.filterMap mechanism? = p.mechanisms) :
    p.lookups = budget terms := by
  rw [lookups_eq, ← h, ← countP_named, ← countP_named]
  rfl

theorem budget_append (ts us : List (List Char)) : budget (ts ++ us) = budget ts + budget us := by
  simp only [budget, List.countP_append]
  omega

/-! The sum against the length of the body. -/

theorem Method.cost_le_name (m : Method) : 2 * m.cost ≤ m.name.toList.length + 1 := by
  cases m <;> decide

theorem Mechanism.Writes.name_le {m : Mechanism} (h : m.Writes t) :
    m.method.name.toList.length ≤ t.length := by
  obtain ⟨mark, -, rfl⟩ := h
  simp only [List.length_append]
  omega

/-- Each term has at least as much text, its blank included, as it counts for. -/
theorem lookups_le (h : terms.filterMap mechanism? = p.mechanisms) :
    2 * p.lookups ≤ terms.flatten.length + terms.length := by
  rw [Policy.lookups, ← h]
  clear h
  induction terms with
  | nil => exact Nat.le_refl 0
  | cons t ts ih =>
    rw [List.flatten_cons, List.length_append, List.length_cons]
    cases hread : mechanism? t with
    | none =>
      rw [List.filterMap_cons_none hread]
      omega
    | some m =>
      have hcost := m.method.cost_le_name
      have hname := (mechanism?_eq_some_iff.1 hread).name_le
      rw [List.filterMap_cons_some hread, List.map_cons, List.foldr_cons]
      omega

theorem trail_length_le {ws : List (List Char)} {s : List Char} (h : Trail ws s) :
    ws.flatten.length + ws.length ≤ s.length := by
  induction h with
  | nil => exact Nat.zero_le _
  | cons _ hne _ ih =>
    have hgap := List.length_pos_iff.2 hne
    simp only [List.flatten_cons, List.length_cons, List.length_append]
    omega

theorem terms_length_le {version : List Char} {s : List Char} (h : words s = version :: terms) :
    terms.flatten.length + terms.length ≤ s.length := by
  cases (words_eq_iff.1 h).1 with
  | cons _ hs =>
    have htrail := trail_length_le hs
    simp only [List.length_append]
    omega

/-! The rules. -/

theorem lookupLimit_eq (h : parse? r.data = some p) (z : Zone) :
    lookupLimit r z = if 10 < p.lookups then some (Fault.lookups p.lookups).diagnostic else none := by
  rw [lookupLimit, onPolicy_eq _ h, apply_ite (Option.map _)]
  rfl

theorem isSome_lookupLimit (h : parse? r.data = some p) (z : Zone) :
    (lookupLimit r z).isSome ↔ 10 < p.lookups := by
  rw [lookupLimit_eq h, Option.isSome_ite]

theorem lookups_message (n : Nat) : (Fault.lookups n).diagnostic.message =
    "SPF record exceeds 10 DNS lookup limit (found " ++ toString n ++ ")" := rfl

section
variable (h : p'.mechanisms.Perm p.mechanisms)
include h

theorem lookups_perm : p'.lookups = p.lookups := by
  rw [lookups_eq, lookups_eq, h.countP_eq, h.countP_eq]

theorem includesCommon_perm : includesCommon p' = includesCommon p :=
  ((h.filter _).filterMap _).any_eq

theorem isSome_addressFault_perm : (p'.mechanisms.findSome? addressFault?).isSome ↔
    (p.mechanisms.findSome? addressFault?).isSome := by
  simp only [List.findSome?_isSome_iff, h.mem_iff]

/-- What the rules make of the same mechanisms in another order. -/
theorem rules_perm (hr : parse? r.data = some p) (hr' : parse? r'.data = some p') (z : Zone) :
    lookupLimit r' z = lookupLimit r z ∧ pointers r' z = pointers r z ∧
      senders r' z = senders r z ∧ ((addresses r' z).isSome ↔ (addresses r z).isSome) := by
  refine ⟨?_, ?_, ?_, ?_⟩
  · rw [lookupLimit_eq hr, lookupLimit_eq hr', lookups_perm h]
  · rw [pointers, onPolicy_eq _ hr, onPolicy_eq _ hr', h.any_eq]
  · rw [senders, onPolicy_eq _ hr, onPolicy_eq _ hr', includesCommon_perm h]
  · rw [addresses, onPolicy_eq _ hr, onPolicy_eq _ hr', Option.isSome_map, Option.isSome_map,
      isSome_addressFault_perm h]

end

/-- The look-ups of a policy are the sum over its terms in whatever order, at most half as many as
its characters, and an error just if above ten. -/
theorem lookups_of_terms (h : parse? r.data = some p) (z : Zone) :
    ∃ terms, words r.data.toList = p.version.toList :: terms ∧
      p.lookups = budget terms ∧ 2 * p.lookups ≤ r.data.toList.length ∧
      ((lookupLimit r z).isSome ↔ 10 < budget terms) ∧
      (∀ d ∈ lookupLimit r z, d.severity = .error ∧
        d.message = "SPF record exceeds 10 DNS lookup limit (found " ++ toString (budget terms) ++ ")" ∧
        d.metadata = some [("lookups", .int (budget terms))]) ∧
      (∀ (r' : Record) (more : List (List Char)),
        words r'.data.toList = p.version.toList :: (terms ++ more) →
          (lookupLimit r z).isSome → (lookupLimit r' z).isSome) ∧
      ∀ (r' : Record) (terms' : List (List Char)),
        words r'.data.toList = p.version.toList :: terms' → terms'.Perm terms →
          lookupLimit r' z = lookupLimit r z ∧ pointers r' z = pointers r z ∧
          senders r' z = senders r z ∧ ((addresses r' z).isSome ↔ (addresses r z).isSome) := by
  obtain ⟨terms, hwords, hstart, hterms⟩ := parse?_eq_some_iff.1 h
  have hsum := lookups_eq_budget hterms
  have hread {r' : Record} {ts : List (List Char)}
      (hw : words r'.data.toList = p.version.toList :: ts) :
      parse? r'.data = some ⟨p.version, ts.filterMap mechanism?⟩ :=
    parse?_eq_some_iff.2 ⟨ts, hw, hstart, rfl⟩
  refine ⟨terms, hwords, hsum, ?_, ?_, ?_, ?_, ?_⟩
  · exact Nat.le_trans (lookups_le hterms) (terms_length_le hwords)
  · rw [isSome_lookupLimit h, hsum]
  · intro d hd
    rw [lookupLimit_eq h, hsum, Option.mem_def, Option.ite_none_right_eq_some] at hd
    obtain rfl := Option.some.inj hd.2
    exact ⟨rfl, lookups_message _, rfl⟩
  · intro r' more hw hover
    rw [isSome_lookupLimit h, hsum] at hover
    rw [isSome_lookupLimit (hread hw), lookups_eq_budget rfl, budget_append]
    omega
  · intro r' terms' hw hperm
    refine rules_perm ?_ h (hread hw) z
    rw [← hterms]
    exact hperm.filterMap mechanism?

/-- Eleven look-ups, read from either end: each order shows another of the two wrong addresses, and
only one ends with the term that a policy is to end with. -/
theorem lookups_of_terms_reversed :
    let r : Record := ⟨.txt, "example.com", 3600,
      "v=spf1 a +mx include:b exists:c ptr ptr:b ?a -ptr ip4:b ip6:c x=ptr -all"⟩
    let r' : Record := ⟨.txt, "example.com", 3600,
      "v=spf1 -all x=ptr ip6:c ip4:b -ptr ?a ptr:b ptr exists:c include:b +mx a"⟩
    let more : Record := ⟨.txt, "example.com", 3600, r.data ++ "  ptr"⟩
    let z : Zone := ⟨"example.com", [], none⟩
    (∃ p, parse? r.data = some p ∧ p.lookups = 11) ∧
      lookupLimit r z ≠ none ∧ lookupLimit r' z = lookupLimit r z ∧ lookupLimit more z ≠ none ∧
      pointers r' z = pointers r z ∧ senders r' z = senders r z ∧
      addresses r z ≠ none ∧ addresses r' z ≠ none ∧ addresses r' z ≠ addresses r z ∧
      form r z = none ∧ form r' z ≠ none := by
  intro r r' more z
  have hversion : (parse? r.data).map (·.version) = some "v=spf1" := by decide +kernel
  have hterms : budget (words r.data.toList).tail = 11 := by decide +kernel
  have hreversed : words r'.data.toList = "v=spf1".toList :: (words r.data.toList).tail.reverse := by
    decide +kernel
  have hmore : words more.data.toList =
      "v=spf1".toList :: ((words r.data.toList).tail ++ ["ptr".toList]) := by decide +kernel
  have hfirst : (addresses r z).isSome := by decide +kernel
  have hother : (addresses r' z).map (·.metadata) ≠ (addresses r z).map (·.metadata) := by
    decide +kernel
  have hform : (form r z).isNone ∧ (form r' z).isSome := by decide +kernel
  obtain ⟨p, hp, hv⟩ := Option.map_eq_some_iff.1 hversion
  obtain ⟨terms, hwords, hsum, -, hover, -, hextended, hreordered⟩ := lookups_of_terms hp z
  rw [hv] at hwords hextended hreordered
  obtain rfl : (words r.data.toList).tail = terms := by rw [hwords, List.tail_cons]
  have hsome : (lookupLimit r z).isSome := hover.2 (by rw [hterms]; decide)
  obtain ⟨hlookups, hpointers, hsenders, haddresses⟩ :=
    hreordered r' _ hreversed (List.reverse_perm _)
  exact ⟨⟨p, hp, hsum.trans hterms⟩, Option.isSome_iff_ne_none.1 hsome, hlookups,
    Option.isSome_iff_ne_none.1 (hextended more _ hmore hsome), hpointers, hsenders,
    Option.isSome_iff_ne_none.1 hfirst, Option.isSome_iff_ne_none.1 (haddresses.2 hfirst),
    fun h => hother (by rw [h]), Option.isNone_iff_eq_none.1 hform.1,
    Option.isSome_iff_ne_none.1 hform.2⟩

end ZoneAudit.Spf
