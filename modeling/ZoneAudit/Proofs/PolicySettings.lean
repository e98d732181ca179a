import Mathlib.Data.Option.Basic
import Mathlib.Tactic.Tauto
import ZoneAudit.Dmarc.Rules
import ZoneAudit.Proofs.Numerals

/-!
The share of messages that a domain policy is applied to, and its form for subdomains. A share that
is no percentage and an unknown form are errors, but the rule stops at its first finding: it only
remarks on a share below the whole and looks no further. A share of digits beyond the range of its
type counts as none at all.
-/

namespace ZoneAudit.Dmarc
open Text

/-- The share of messages is no percentage. -/
def Policy.Misscaled (p : Policy) : Prop := ∃ n ∈ p.pct, n.toInt < 0 ∨ 100 < n.toInt

/-- Some messages, perhaps all, are exempt from the policy. -/
def Policy.Partial (p : Policy) : Prop := ∃ n ∈ p.pct, 0 ≤ n.toInt ∧ n.toInt < 100

/-- What is asked for in subdomains is no disposition. -/
def Policy.Misnamed (p : Policy) : Prop :=
  ∃ s ∈ p.subdomainPolicy, s ∉ ["none", "quarantine", "reject"]

def Fault.IsError (f : Fault) : Prop := f.diagnostic.severity = .error

def subdomainFault? (p : Policy) : Option Fault :=
  if p.subdomainPolicy.isSome ∧ p.subdomainDisposition = none then some .subdomainPolicy else none

def leniencyFault? (p : Policy) : Option Fault :=
  if p.disposition = some .none then some .lenient else none

/-- The first finding on the settings that does not concern the share of messages. -/
def otherFault? (p : Policy) : Option Fault :=
  (subdomainFault? p).or ((p.ri.bind intervalFault?).or (leniencyFault? p))

variable {r : Record} {p : Policy}

theorem settings_eq (h : parse? r.data = some p) (z : Zone) :
    settings r z = ((p.pct.bind percentageFault?).or (otherFault? p)).map Fault.diagnostic := by
  simp only [settings, onPolicy, h, Option.bind_some, HOrElse.hOrElse, OrElse.orElse,
    Option.orElse_eq_or]
  rfl

/-- The second of two findings counts where there is no first. -/
theorem exists_mem_or {α : Type} {q : α → Prop} {a b : Option α} :
    (∃ x ∈ a.or b, q x) ↔ (∃ x ∈ a, q x) ∨ a = none ∧ ∃ x ∈ b, q x := by
  cases a <;> simp

theorem error_percentage : (∃ f ∈ p.pct.bind percentageFault?, f.IsError) ↔ p.Misscaled := by
  have herror (n : Int64) : (Fault.percentage n).IsError := rfl
  have hwarning (n : Int64) : ¬(Fault.partialFiltering n).IsError := nofun
  cases h : p.pct with
  | none => simp [Policy.Misscaled, h]
  | some n =>
    by_cases hout : n.toInt < 0 ∨ 100 < n.toInt
    · simp [Policy.Misscaled, h, percentageFault?, hout, herror]
    · by_cases hpart : n.toInt < 100
      · simp [Policy.Misscaled, h, percentageFault?, hout, hpart, hwarning]
      · simp [Policy.Misscaled, h, percentageFault?, hout, hpart]

theorem percentage_eq_none_iff :
    p.pct.bind percentageFault? = none ↔ ¬p.Misscaled ∧ ¬p.Partial := by
  cases h : p.pct with
  | none => simp [Policy.Misscaled, Policy.Partial, h]
  | some n =>
    by_cases hout : n.toInt < 0 ∨ 100 < n.toInt
    · simp [Policy.Misscaled, h, percentageFault?, hout]
    · have hlo : 0 ≤ n.toInt := by omega
      simp [Policy.Misscaled, Policy.Partial, h, percentageFault?, hout, hlo]

theorem Disposition.isSome_ofName?_iff {s : String} :
    (ofName? s).isSome ↔ s ∈ ["none", "quarantine", "reject"] := by
  simp only [ofName?, List.lookup_isSome_iff, names, List.mem_cons, List.not_mem_nil, or_false,
    beq_iff_eq, or_and_right, exists_or, exists_eq_left]

theorem Policy.misnamed_iff :
    p.Misnamed ↔ p.subdomainPolicy.isSome ∧ p.subdomainDisposition = none := by
  cases h : p.subdomainPolicy with
  | none => simp [Misnamed, h]
  | some s =>
    simp only [Misnamed, subdomainDisposition, h, ← Disposition.isSome_ofName?_iff]
    simp

/-- Beyond the share of messages only an unknown form for subdomains is an error. -/
theorem mem_otherFault? {f : Fault} (hf : f ∈ otherFault? p) :
    f = .subdomainPolicy ∧ p.Misnamed ∨ (∃ n, f = .interval n) ∨ f = .lenient := by
  simp only [otherFault?, Option.mem_def, Option.or_eq_some_iff] at hf
  rcases hf with hf | ⟨-, hf | ⟨-, hf⟩⟩
  · rw [subdomainFault?, Option.ite_none_right_eq_some, ← Policy.misnamed_iff] at hf
    exact .inl ⟨(Option.some.inj hf.2).symm, hf.1⟩
  · obtain ⟨n, -, hn⟩ := Option.bind_eq_some_iff.1 hf
    rw [intervalFault?, Option.ite_none_right_eq_some] at hn
    exact .inr (.inl ⟨n, (Option.some.inj hn.2).symm⟩)
  · rw [leniencyFault?, Option.ite_none_right_eq_some] at hf
    exact .inr (.inr (Option.some.inj hf.2).symm)

theorem message_ne_of_mem_otherFault? {f : Fault} (hf : f ∈ otherFault? p) :
    f.diagnostic.message ≠ "Invalid percentage - must be between 0 and 100" := by
  rcases mem_otherFault? hf with ⟨rfl, -⟩ | ⟨n, rfl⟩ | rfl
  · decide
  · have hmessage : (Fault.interval n).diagnostic.message =
        "Report interval should be between 1 hour and 24 hours" := rfl
    rw [hmessage]
    decide
  · decide

theorem error_other : (∃ f ∈ otherFault? p, f.IsError) ↔ p.Misnamed := by
  constructor
  · rintro ⟨f, hf, herror⟩
    rcases mem_otherFault? hf with ⟨-, hmisnamed⟩ | ⟨n, rfl⟩ | rfl
    · exact hmisnamed
    · cases herror
    · cases herror
  · intro h
    exact ⟨.subdomainPolicy, by simp [otherFault?, subdomainFault?, Policy.misnamed_iff.1 h], rfl⟩

/-- The rule on settings is in error just if the share is no percentage, or all messages are in it
and the form for subdomains is unknown. -/
theorem settings_error_iff (r : Record) (z : Zone) :
    ((∃ d ∈ settings r z, d.severity = .error) ↔
      ∃ p, parse? r.data = some p ∧ (p.Misscaled ∨ p.Misnamed ∧ ¬p.Partial)) ∧
    ∀ p n, parse? r.data = some p → p.pct = some n → 0 ≤ n.toInt → n.toInt < 100 →
      settings r z = some (Fault.partialFiltering n).diagnostic := by
  constructor
  · cases h : parse? r.data with
    | none => simp [settings, onPolicy, h]
    | some p =>
      have herror : (∃ d ∈ settings r z, d.severity = .error) ↔
          p.Misscaled ∨ (¬p.Misscaled ∧ ¬p.Partial) ∧ p.Misnamed := by
        rw [settings_eq h, Option.exists_mem_map, ← percentage_eq_none_iff, ← error_percentage,
          ← error_other]
        exact exists_mem_or
      rw [herror]
      simp only [Option.some.injEq, exists_eq_left']
      tauto
  · intro p n h hpct hlo hhi
    have hscaled : ¬(n.toInt < 0 ∨ 100 < n.toInt) := by omega
    simp [settings_eq h, hpct, percentageFault?, hscaled, hhi]

/-- Half of the messages, and an unknown form for subdomains: no error is found. -/
theorem settings_overlooks_subdomains :
    let r : Record := ⟨.txt, "_dmarc.example.com", 3600, "v=DMARC1; p=reject; sp=refuse; pct=50"⟩
    let z : Zone := ⟨"example.com", [], none⟩
    (∃ p, parse? r.data = some p ∧ p.Misnamed) ∧ ¬∃ d ∈ settings r z, d.severity = .error := by
  intro r z
  have hparse : (parse? r.data).any fun p =>
      p.subdomainPolicy.isSome ∧ p.subdomainDisposition = none := by
    decide +kernel
  obtain ⟨p, hp, hmisnamed⟩ := Option.any_eq_true _ _ |>.1 hparse
  have hnone : (settings r z).all (·.severity ≠ .error) := by decide +kernel
  refine ⟨⟨p, hp, Policy.misnamed_iff.2 (by simpa using hmisnamed)⟩, ?_⟩
  rintro ⟨d, hd, herror⟩
  simpa [herror] using Option.all_eq_true _ _ |>.1 hnone d hd

theorem pct_of_parse? (h : parse? r.data = some p) :
    p.pct = (TagList.value? (TagList.entries r.data) "pct").bind fun s => leadingInt? s.toList := by
  rw [parse?, ofTags?, Option.ite_none_right_eq_some] at h
  rw [← Option.some.inj h.2]

/-- The last share of messages is reported if it lies outside 0 to 100; with more digits than fit a
word it counts as absent. -/
theorem settings_of_misscaled {before after : List (String × String)} {v : String} {n : Int}
    (h : parse? r.data = some p) (hlast : TagList.entries r.data = before ++ ("pct", v) :: after)
    (hafter : ∀ e ∈ after, e.1 ≠ "pct") (hn : BeginsSigned v.toList n) (hout : n < 0 ∨ 100 < n)
    (z : Zone) :
    (n.natAbs ≤ 9223372036854775807 →
      settings r z =
        some ((Diagnostic.error "Invalid percentage - must be between 0 and 100").note "pct"
          (.int n))) ∧
    (9223372036854775807 < n.natAbs →
      p.pct = none ∧
        ∀ d ∈ settings r z, d.message ≠ "Invalid percentage - must be between 0 and 100") := by
  have hvalue : TagList.value? (TagList.entries r.data) "pct" = some v :=
    TagList.value?_eq_some_iff.2 ⟨before, after, hlast, hafter⟩
  have hpct := pct_of_parse? h
  rw [hvalue, Option.bind_some, leadingInt?_of_begins hn] at hpct
  constructor
  · intro hrange
    have hfits : fitsInt64 n := fitsInt64_iff.2 ⟨by omega, by omega⟩
    rw [if_pos hrange] at hpct
    simp [settings_eq h, hpct, percentageFault?, toInt_ofInt_of_fits hfits, hout, Fault.diagnostic]
  · intro hrange
    rw [if_neg (by omega)] at hpct
    refine ⟨hpct, fun d hd => ?_⟩
    simp only [settings_eq h, hpct, Option.bind_none, Option.none_or, Option.mem_def,
      Option.map_eq_some_iff] at hd
    obtain ⟨f, hf, rfl⟩ := hd
    exact message_ne_of_mem_otherFault? hf

/-- A share stated twice, the second time by a number too great and a word. -/
theorem settings_of_misscaled_restated :
    let r : Record := ⟨.txt, "_dmarc.example.com", 3600,
      "v=DMARC1; p=none; pct=50; PCT = +250 percent"⟩
    let z : Zone := ⟨"example.com", [], none⟩
    (parse? r.data).isSome ∧
    TagList.entries r.data =
      [("v", "DMARC1"), ("p", "none"), ("pct", "50")] ++ ("pct", "+250 percent") :: [] ∧
    BeginsSigned "+250 percent".toList 250 ∧
    settings r z =
      some ((Diagnostic.error "Invalid percentage - must be between 0 and 100").note "pct"
        (.int 250)) := by
  intro r z
  have hparse : (parse? r.data).isSome := by decide +kernel
  have hlast : TagList.entries r.data =
      [("v", "DMARC1"), ("p", "none"), ("pct", "50")] ++ ("pct", "+250 percent") :: [] := by
    decide +kernel
  have hdigits : WritesDigits "250".toList 250 := natural?_eq_some_iff.1 (by decide +kernel)
  have hn : BeginsSigned "+250 percent".toList 250 :=
    ⟨'+' :: "250".toList, " percent".toList, rfl, .plus hdigits, by simp⟩
  obtain ⟨p, hp⟩ := Option.isSome_iff_exists.1 hparse
  exact ⟨hparse, hlast, hn,
    (settings_of_misscaled hp hlast (by simp) hn (by decide) z).1 (by decide)⟩

/-- The least number that no signed word holds: nothing is found. -/
theorem settings_overlooks_percentage :
    let r : Record := ⟨.txt, "_dmarc.example.com", 3600,
      "v=DMARC1; p=reject; pct=9223372036854775808"⟩
    let z : Zone := ⟨"example.com", [], none⟩
    (parse? r.data).isSome ∧
    TagList.entries r.data =
      [("v", "DMARC1"), ("p", "reject")] ++ ("pct", "9223372036854775808") :: [] ∧
    BeginsSigned "9223372036854775808".toList 9223372036854775808 ∧
    settings r z = none := by
  intro r z
  have hdigits : WritesDigits "9223372036854775808".toList 9223372036854775808 :=
    natural?_eq_some_iff.1 (by decide +kernel)
  exact ⟨by decide +kernel, by decide +kernel,
    ⟨"9223372036854775808".toList, [], by simp, .plain hdigits, by simp⟩, by decide +kernel⟩

end ZoneAudit.Dmarc
