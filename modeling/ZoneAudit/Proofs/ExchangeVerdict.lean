import ZoneAudit.Proofs.Soundness
import ZoneAudit.Proofs.Verdict

/-!
The verdict on a mail exchange on its own. Its target may be wrong in three ways, but the rule on
targets stops at its first finding: a target that is only known inside a network is remarked on, and
then it is no error that the exchange points to itself.
-/

namespace ZoneAudit.Mx
open Text

/-- A body is two words, a priority and a target. -/
def States (data : String) (b : Body) : Prop :=
  ∃ priority target, words data.toList = [priority, target] ∧
    WritesUnsigned priority b.priority.toNat ∧ b.target.toList = lower target

/-- The target in the form in which names are compared. -/
def Body.host (b : Body) : List Char := DomainName.normal b.target.toList

variable {r : Record} {b : Body}

theorem parse?_eq_some_iff {data : String} : parse? data = some b ↔ States data b := by
  unfold parse? States
  split
  case h_1 priority target hwords =>
    simp only [hwords, Option.map_eq_some_iff, uint16?_eq_some_iff, List.cons.injEq, and_true]
    constructor
    · rintro ⟨n, hn, rfl⟩
      exact ⟨priority, target, ⟨rfl, rfl⟩, hn, String.toList_ofList⟩
    · rintro ⟨_, _, ⟨rfl, rfl⟩, hn, htarget⟩
      refine ⟨b.priority, hn, ?_⟩
      rw [← htarget, String.ofList_toList]
  case h_2 hwords =>
    refine iff_of_false (by simp) ?_
    rintro ⟨priority, target, heq, -⟩
    exact hwords priority target heq

/-- A record on its own repeats no priority. -/
theorem findings_alone (h : parse? r.data = some b) (z : Zone) :
    findings {} r z = Rule.run rules r z := by
  have hfresh : (({} : Tracker).check r z).1 = none := by
    by_cases hz : tracked z <;> simp [Tracker.check, hz, h]
  rw [findings, hfresh, Option.toList_none, List.nil_append]

theorem passes_nullExchange (h : parse? r.data = some b) (z : Zone) :
    nullExchange.Passes r z ↔ ¬(b.priority = 0 ∧ b.target ≠ ".") :=
  Rule.passes_iff_of_error (fun hp => by simp only [nullExchange, h, if_neg hp])
    fun hp => ⟨(Fault.reservedPriority b.target).diagnostic,
      by simp only [nullExchange, h, if_pos (not_not.1 hp), Option.mem_def], rfl⟩

theorem target_eq (h : parse? r.data = some b) (z : Zone) :
    target r z =
      if Address.isIp b.host then some (Fault.addressTarget (String.ofList b.host)).diagnostic
      else if isInternal b.host then
        some (Fault.internalTarget (String.ofList b.host)).diagnostic
      else if b.host = DomainName.normal r.name.toList then some Fault.selfTarget.diagnostic
      else none := by
  simp only [target, h]
  rfl

/-- Only a target that is an address, or one known in public that is the owner, is an error. -/
theorem passes_target (h : parse? r.data = some b) (z : Zone) :
    target.Passes r z ↔
      ¬(Address.isIp b.host ∨ b.host = DomainName.normal r.name.toList ∧ ¬isInternal b.host) := by
  have haddress (s : String) : (Fault.addressTarget s).diagnostic.severity = .error := rfl
  have hinside (s : String) : (Fault.internalTarget s).diagnostic.severity = .warning := rfl
  have hself : Fault.selfTarget.diagnostic.severity = .error := rfl
  have heq := target_eq h z
  by_cases hip : Address.isIp b.host
  · rw [if_pos hip] at heq
    simp [Rule.passes_iff_of_some heq, haddress, hip]
  · rw [if_neg hip] at heq
    by_cases hinternal : isInternal b.host
    · rw [if_pos hinternal] at heq
      simp [Rule.passes_iff_of_some heq, hinside, hip, hinternal]
    · rw [if_neg hinternal] at heq
      by_cases howner : b.host = DomainName.normal r.name.toList
      · rw [if_pos howner] at heq
        refine iff_of_false (fun hpass => ?_) (not_not.2 (.inr ⟨howner, hinternal⟩))
        exact (Rule.passes_iff_of_some heq).1 hpass hself
      · rw [if_neg howner] at heq
        simp [Rule.passes_of_none heq, hip, howner]

/-- A lone exchange is in error just if it does not parse, misuses the null priority, or has an
address or its own public name for target. -/
theorem report_errors_iff (r : Record) (z : Zone) :
    ((report r z).errors ≠ [] ↔
      (¬∃ b, States r.data b) ∨
      ∃ b, States r.data b ∧
        (b.priority = 0 ∧ b.target ≠ "." ∨ Address.isIp b.host ∨
          b.host = DomainName.normal r.name.toList ∧ ¬isInternal b.host)) ∧
    ∀ b, States r.data b → ¬Address.isIp b.host → isInternal b.host →
      target r z = some (Fault.internalTarget (String.ofList b.host)).diagnostic := by
  have hvalid : (report r z).errors ≠ [] ↔ ¬(report r z).isValid :=
    not_congr (Report.sound_ofList _).isValid.symm
  simp only [← parse?_eq_some_iff]
  constructor
  · rw [hvalid]
    cases h : parse? r.data with
    | none =>
      have hinvalid : ¬(report r z).isValid := by
        rw [report, findings_malformed h, Report.isValid_ofList]
        intro hpass
        refine hpass Fault.malformed.diagnostic (List.mem_replicate.2 ⟨?_, rfl⟩) rfl
        split <;> decide
      simp [hinvalid]
    | some b =>
      have hrules : (report r z).isValid ↔ nullExchange.Passes r z ∧ target.Passes r z := by
        rw [report, findings_alone h, Rule.isValid_run]
        simp [rules]
      rw [hrules, passes_nullExchange h, passes_target h, ← not_or, not_not]
      simp
  · intro b hb hip hinternal
    rw [target_eq hb, if_neg hip, if_pos hinternal]

/-- A host inside a network that is its own exchange: no error is found. -/
theorem report_overlooks_self_target :
    let r : Record := ⟨.mx, "mail.local", 3600, "10 mail.local"⟩
    let z : Zone := ⟨"local", [r], none⟩
    (∃ b, States r.data b ∧ b.host = DomainName.normal r.name.toList) ∧
    (report r z).errors = [] := by
  intro r z
  have hparse : (parse? r.data).any fun b => b.host = DomainName.normal r.name.toList := by
    decide +kernel
  obtain ⟨b, hb, hself⟩ := Option.any_eq_true _ _ |>.1 hparse
  exact ⟨⟨b, parse?_eq_some_iff.1 hb, of_decide_eq_true hself⟩, by decide +kernel⟩

end ZoneAudit.Mx
