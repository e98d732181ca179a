import Mathlib.Data.List.Basic
import ZoneAudit.Provider

/-!
Providers and the records that refer to them. The terms and the names of all records are gathered
before a provider is looked for among them, but what gives a provider away is a single term or name,
and that comes from a single record. So the providers of a list of records are those of its records
one by one, and the list is read as a set.
-/

namespace ZoneAudit.Provider
open Text

variable {p : Provider} {as bs : List Record}

/-! What is gathered. -/

theorem policyTerms_append (as bs : List Record) :
    policyTerms (as ++ bs) = policyTerms as ++ policyTerms bs := by
  simp only [policyTerms, List.filter_append, List.flatMap_append]

theorem exchangeNames_append (as bs : List Record) :
    exchangeNames (as ++ bs) = exchangeNames as ++ exchangeNames bs := by
  simp only [exchangeNames, List.filter_append, List.filterMap_append, List.map_append]

theorem sends_append (p : Provider) (ts us : List (List Char)) :
    p.sends (ts ++ us) = (p.sends ts || p.sends us) := List.any_append

theorem receives_append (p : Provider) (ns ms : List (List Char)) :
    p.receives (ns ++ ms) = (p.receives ns || p.receives ms) := by
  rw [receives, receives, receives]
  cases p.exchangeFragment? with
  | none => rfl
  | some fragment => exact List.any_append

/-! What is detected. -/

theorem mem_all (p : Provider) : p ∈ all := by cases p <;> decide

theorem mem_detect_iff_gathered {rs : List Record} :
    p ∈ detect rs ↔ p.sends (policyTerms rs) ∨ p.receives (exchangeNames rs) := by
  rw [detect, List.mem_filter, Bool.or_eq_true]
  exact and_iff_right (mem_all p)

@[simp] theorem detect_nil : detect [] = [] := rfl

theorem mem_detect_append : p ∈ detect (as ++ bs) ↔ p ∈ detect as ∨ p ∈ detect bs := by
  simp only [mem_detect_iff_gathered, policyTerms_append, exchangeNames_append, sends_append,
    receives_append, Bool.or_eq_true]
  exact or_or_or_comm

/-- A provider is detected in a list if and only if it is detected in a record of it. -/
theorem mem_detect_iff {rs : List Record} : p ∈ detect rs ↔ ∃ r ∈ rs, p ∈ detect [r] := by
  induction rs with
  | nil => simp
  | cons r rs ih =>
    have hsplit : r :: rs = [r] ++ rs := rfl
    rw [hsplit, mem_detect_append, ih]
    simp

/-- The order of what is detected is that of all providers. -/
theorem detect_eq_filter {rs : List Record} {q : Provider → Prop} [DecidablePred q]
    (h : ∀ p, p ∈ detect rs ↔ q p) : detect rs = all.filter (q ·) := by
  rw [detect]
  apply List.filter_congr
  intro p _
  rw [Bool.eq_iff_iff, Bool.or_eq_true, decide_eq_true_eq, ← h p, mem_detect_iff_gathered]

theorem nodup_detect (rs : List Record) : (detect rs).Nodup := by
  have hall : all.Nodup := by decide
  exact hall.filter _

/-- More providers are detected in more records, without a change of their order. -/
theorem detect_sublist (h : ∀ p, p ∈ detect as → p ∈ detect bs) :
    (detect as).Sublist (detect bs) := by
  have hself (rs : List Record) : detect rs = all.filter (· ∈ detect rs) :=
    detect_eq_filter fun p => Iff.rfl
  rw [hself as, hself bs]
  apply List.monotone_filter_right
  intro p hp
  simpa using h p (by simpa using hp)

/-- Only mail exchanges and sender policies refer to providers. -/
theorem detect_of_unrelated {r : Record} (hmx : Mx.isMx r = false) (hpolicy : Spf.isPolicy r = false) :
    detect [r] = [] := by
  have hterms : policyTerms [r] = [] := by simp [policyTerms, hpolicy]
  have hnames : exchangeNames [r] = [] := by simp [exchangeNames, hmx]
  rw [List.eq_nil_iff_forall_not_mem]
  intro p hp
  rw [mem_detect_iff_gathered, hterms, hnames] at hp
  cases p <;> simp [sends, receives, exchangeFragment?] at hp

/-- Two lists together have the providers of either, each once and in the order of all providers,
however the records are ordered and repeated. -/
theorem detect_unites (as bs : List Record) :
    (detect (as ++ bs) = all.filter fun p => p ∈ detect as ∨ p ∈ detect bs) ∧
    (detect (as ++ bs)).Nodup ∧
    (∀ cs, (∀ r, r ∈ cs ↔ r ∈ as) → detect cs = detect as) ∧
    (∀ cs, as ⊆ cs → (detect as).Sublist (detect cs)) ∧
    (∀ cs, as ⊆ cs → (∀ r ∈ cs, r ∈ as ∨ Mx.isMx r = false ∧ Spf.isPolicy r = false) →
      detect cs = detect as) := by
  have hgrow {cs : List Record} (h : as ⊆ cs) (p : Provider) (hp : p ∈ detect as) :
      p ∈ detect cs := by
    obtain ⟨r, hr, hp⟩ := mem_detect_iff.1 hp
    exact mem_detect_iff.2 ⟨r, h hr, hp⟩
  have hsame {cs : List Record} (h : ∀ p, p ∈ detect cs ↔ p ∈ detect as) :
      detect cs = detect as := by
    rw [detect_eq_filter h, ← detect_eq_filter (fun p => Iff.rfl)]
  refine ⟨detect_eq_filter fun p => mem_detect_append, nodup_detect _, ?_, ?_, ?_⟩
  · intro cs hcs
    apply hsame
    intro p
    rw [mem_detect_iff, mem_detect_iff]
    simp only [hcs]
  · intro cs hcs
    exact detect_sublist (hgrow hcs)
  · intro cs hcs hadded
    apply hsame
    intro p
    refine ⟨fun hp => ?_, hgrow hcs p⟩
    obtain ⟨r, hr, hp⟩ := mem_detect_iff.1 hp
    rcases hadded r hr with has | ⟨hmx, hpolicy⟩
    · exact mem_detect_iff.2 ⟨r, has, hp⟩
    · rw [detect_of_unrelated hmx hpolicy] at hp
      cases hp

/-- A policy with the first half of a term and a text that is the other half, a policy that is
published twice, and an exchange. -/
theorem detect_unites_halves :
    let half : Record := ⟨.txt, "example.com", 3600, "v=spf1 include:amazonses"⟩
    let rest : Record := ⟨.txt, "example.com", 3600, ".com include:zoho.com"⟩
    let policy : Record := ⟨.txt, "example.com", 300, "v=spf1 include:amazonses.com -all"⟩
    let exchange : Record := ⟨.mx, "example.com", 300, "10 MX.ZOHO.COM."⟩
    detect [half, rest] = [] ∧ detect [policy, exchange] = [.awsSes, .zoho] ∧
    (∀ r, r ∈ [exchange, policy, exchange] ↔ r ∈ [policy, exchange]) ∧
    detect [exchange, policy, exchange] = detect [policy, exchange] ∧
    (detect [policy, exchange]).Sublist (detect [half, exchange, policy]) ∧
    (∀ r ∈ [rest, policy, exchange], r ∈ [policy, exchange] ∨
      Mx.isMx r = false ∧ Spf.isPolicy r = false) ∧
    detect [rest, policy, exchange] = detect [policy, exchange] := by
  intro half rest policy exchange
  obtain ⟨-, -, hsame, hgrow, hstay⟩ := detect_unites [policy, exchange] [half, rest]
  have hreordered : ∀ r, r ∈ [exchange, policy, exchange] ↔ r ∈ [policy, exchange] := by
    simp only [List.mem_cons, List.not_mem_nil, or_false]
    grind
  have hadded : ∀ r ∈ [rest, policy, exchange], r ∈ [policy, exchange] ∨
      Mx.isMx r = false ∧ Spf.isPolicy r = false := by decide +kernel
  exact ⟨by decide +kernel, by decide +kernel, hreordered, hsame _ hreordered,
    hgrow _ (by decide), hadded, hstay _ (by decide) hadded⟩

end ZoneAudit.Provider
