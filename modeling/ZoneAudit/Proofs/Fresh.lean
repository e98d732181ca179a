import ZoneAudit.Audit

/-!
Findings as rules make them. A built-in rule never says where a record stands: the position is added
by the walk, so that a finding of a rule and the finding of an audit differ in nothing else.
-/

namespace ZoneAudit

namespace Diagnostic

/-- The same finding without its position. -/
def unplaced (d : Diagnostic) : Diagnostic := { d with recordIndex := none }

@[simp] theorem unplaced_atRecord (d : Diagnostic) (i : Nat) :
    (d.atRecord i).unplaced = d.unplaced := rfl
@[simp] theorem recordIndex_atRecord (d : Diagnostic) (i : Nat) :
    (d.atRecord i).recordIndex = some i := rfl

/-- A finding as it leaves a built-in rule: its code is the slug of its message, and it has no
position yet. -/
structure Fresh (d : Diagnostic) : Prop where
  code : d.code = Text.slug d.message
  recordIndex : d.recordIndex = none

@[simp] theorem fresh_error (s : String) : (error s).Fresh := ⟨rfl, rfl⟩
@[simp] theorem fresh_warning (s : String) : (warning s).Fresh := ⟨rfl, rfl⟩
@[simp] theorem fresh_info (s : String) : (info s).Fresh := ⟨rfl, rfl⟩
@[simp] theorem fresh_note (d : Diagnostic) (name : String) (value : Json) :
    (d.note name value).Fresh ↔ d.Fresh :=
  ⟨fun h => ⟨h.code, h.recordIndex⟩, fun h => ⟨h.code, h.recordIndex⟩⟩

theorem Fresh.unplaced_eq {d : Diagnostic} (h : d.Fresh) : d.unplaced = d := by
  have hi := h.recordIndex
  cases d
  simp_all [unplaced]

end Diagnostic

/-- A message that begins in another way than a text is not that text. -/
theorem ne_of_append {start s m : String} (h : start.toList.isPrefixOf m.toList = false) :
    start ++ s ≠ m := by
  rintro rfl
  have hstart : start.toList.isPrefixOf (start ++ s).toList = true := by
    rw [String.toList_append]
    exact List.isPrefixOf_iff_prefix.2 (List.prefix_append _ _)
  rw [hstart] at h
  exact absurd h (by decide)

/-- An answer is no finding, or one that describes some fault of a kind. -/
def Describes {Fault : Type} (describe : Fault → Diagnostic) (answer : Option Diagnostic) : Prop :=
  ∀ d ∈ answer, ∃ f, d = describe f

section

variable {Fault : Type} {describe : Fault → Diagnostic}

@[simp] theorem describes_none : Describes describe none := by
  intro d hd
  exact absurd hd (Option.not_mem_none d)

@[simp] theorem describes_some (f : Fault) : Describes describe (some (describe f)) := by
  intro d hd
  exact ⟨f, (Option.some.inj hd).symm⟩

@[simp] theorem describes_map (fault? : Option Fault) :
    Describes describe (fault?.map describe) := by
  cases fault? with
  | none => exact describes_none
  | some f => exact describes_some f

theorem describes_bind {α : Type} {answer : α → Option Diagnostic}
    (h : ∀ a, Describes describe (answer a)) (a? : Option α) :
    Describes describe (a?.bind answer) := by
  cases a? with
  | none => exact describes_none
  | some a => exact h a

theorem Describes.fresh {answer : Option Diagnostic} (h : Describes describe answer)
    (hf : ∀ f, (describe f).Fresh) : ∀ d ∈ answer, d.Fresh := by
  intro d hd
  obtain ⟨f, rfl⟩ := h d hd
  exact hf f

end

namespace Rule

/-- Every finding of the rule describes some fault of a kind. -/
def Reports {Fault : Type} (describe : Fault → Diagnostic) (rule : Rule) : Prop :=
  ∀ r z, Describes describe (rule r z)

/-- Every finding of the rule is fresh. -/
def Fresh (rule : Rule) : Prop := ∀ r z, ∀ d ∈ rule r z, d.Fresh

theorem Reports.fresh {Fault : Type} {describe : Fault → Diagnostic} {rule : Rule}
    (h : rule.Reports describe) (hf : ∀ f, (describe f).Fresh) : rule.Fresh := by
  intro r z
  exact (h r z).fresh hf

theorem fresh_of_mem_run {rules : List Rule} (h : ∀ rule ∈ rules, rule.Fresh) {r : Record} {z : Zone}
    {d : Diagnostic} (hd : d ∈ run rules r z) : d.Fresh := by
  obtain ⟨rule, hrule, hr⟩ := List.mem_filterMap.1 hd
  exact h rule hrule r z d (by simpa using hr)

end Rule

/-! The rules of a kind report nothing but the faults of that kind, and these are all fresh. -/

theorem Cname.Fault.fresh (f : Cname.Fault) : f.diagnostic.Fresh := by
  cases f <;> simp [diagnostic]

theorem Mx.Fault.fresh (f : Mx.Fault) : f.diagnostic.Fresh := by
  cases f <;> simp [diagnostic]

theorem Soa.Fault.fresh (f : Soa.Fault) : f.diagnostic.Fresh := by
  cases f <;> simp [diagnostic]

theorem Spf.Fault.fresh (f : Spf.Fault) : f.diagnostic.Fresh := by
  cases f <;> simp [diagnostic]

theorem Dmarc.Fault.fresh (f : Dmarc.Fault) : f.diagnostic.Fresh := by
  cases f <;> simp [diagnostic]

theorem Srv.Fault.fresh (f : Srv.Fault) : f.diagnostic.Fresh := by
  cases f <;> simp [diagnostic]

theorem Caa.Fault.fresh (f : Caa.Fault) : f.diagnostic.Fresh := by
  cases f <;> simp [diagnostic]

theorem Ttl.Fault.fresh (f : Ttl.Fault) : f.diagnostic.Fresh := by
  cases f <;> simp [diagnostic]

theorem Cname.rules_report : ∀ rule ∈ Cname.rules, rule.Reports Cname.Fault.diagnostic := by
  intro rule hrule r z
  simp only [Cname.rules, List.mem_cons, List.not_mem_nil, or_false] at hrule
  obtain rfl | rfl | rfl := hrule
  · unfold Cname.format
    split
    · simp
    · split <;> simp
  · unfold Cname.apex
    split <;> simp
  · unfold Cname.coexistence
    split <;> simp

theorem Mx.rules_report : ∀ rule ∈ Mx.rules, rule.Reports Mx.Fault.diagnostic := by
  intro rule hrule r z
  simp only [Mx.rules, List.mem_cons, List.not_mem_nil, or_false] at hrule
  obtain rfl | rfl := hrule
  · unfold Mx.nullExchange
    split
    · simp
    · split <;> simp
  · unfold Mx.target
    split
    · simp
    · dsimp only
      split
      · simp
      · split
        · simp
        · split <;> simp

theorem Soa.onBody_reports (check : Soa.Body → Zone → Option Soa.Fault) :
    (Soa.onBody check).Reports Soa.Fault.diagnostic := by
  intro r z
  unfold Soa.onBody
  split <;> simp

theorem Soa.rules_report : ∀ rule ∈ Soa.rules, rule.Reports Soa.Fault.diagnostic := by
  intro rule hrule
  simp only [Soa.rules, List.mem_cons, List.not_mem_nil, or_false] at hrule
  obtain rfl | rfl | rfl | rfl := hrule <;> exact Soa.onBody_reports _

theorem Soa.serialFormat_reports : Rule.Reports Soa.Fault.diagnostic Soa.serialFormat := by
  intro r z
  rw [Soa.serialFormat]
  refine describes_bind (fun body => ?_) _
  exact describes_map _

theorem Spf.onPolicy_reports (check : Spf.Policy → Option Spf.Fault) :
    (Spf.onPolicy check).Reports Spf.Fault.diagnostic := by
  intro r z
  exact describes_bind (fun p => describes_map (check p)) _

theorem Spf.rules_report : ∀ rule ∈ Spf.rules, rule.Reports Spf.Fault.diagnostic := by
  intro rule hrule
  simp only [Spf.rules, List.mem_cons, List.not_mem_nil, or_false] at hrule
  obtain rfl | rfl | rfl | rfl | rfl | rfl := hrule
  · intro r z
    unfold Spf.form
    split
    · simp
    · split
      · simp
      · split <;> simp
  · intro r z
    unfold Spf.multiple
    split <;> simp
  all_goals exact Spf.onPolicy_reports _

theorem Dmarc.onPolicy_reports (check : Dmarc.Policy → Option Dmarc.Fault) :
    (Dmarc.onPolicy check).Reports Dmarc.Fault.diagnostic := by
  intro r z
  exact describes_bind (fun p => describes_map (check p)) _

theorem Dmarc.rules_report : ∀ rule ∈ Dmarc.rules, rule.Reports Dmarc.Fault.diagnostic := by
  intro rule hrule
  simp only [Dmarc.rules, List.mem_cons, List.not_mem_nil, or_false] at hrule
  obtain rfl | rfl | rfl | rfl | rfl := hrule
  · intro r z
    unfold Dmarc.body
    split <;> simp
  · intro r z
    unfold Dmarc.form
    split <;> simp
  all_goals exact Dmarc.onPolicy_reports _

theorem Srv.onBody_reports (check : Srv.Body → Record → Option Srv.Fault) :
    (Srv.onBody check).Reports Srv.Fault.diagnostic := by
  intro r z
  unfold Srv.onBody
  split <;> simp

theorem Srv.rules_report : ∀ rule ∈ Srv.rules, rule.Reports Srv.Fault.diagnostic := by
  intro rule hrule
  simp only [Srv.rules, List.mem_cons, List.not_mem_nil, or_false] at hrule
  obtain rfl | rfl | rfl | rfl | rfl := hrule <;> exact Srv.onBody_reports _

theorem Caa.onBody_reports (check : Caa.Body → Option Caa.Fault) :
    (Caa.onBody check).Reports Caa.Fault.diagnostic := by
  intro r z
  exact describes_bind (fun body => describes_map (check body)) _

theorem Caa.rules_report : ∀ rule ∈ Caa.rules, rule.Reports Caa.Fault.diagnostic := by
  intro rule hrule
  simp only [Caa.rules, List.mem_cons, List.not_mem_nil, or_false] at hrule
  obtain rfl | rfl | rfl := hrule
  · intro r z
    unfold Caa.tag
    split
    · simp
    · split <;> simp
  all_goals exact Caa.onBody_reports _

theorem Mx.Tracker.check_reports (t : Mx.Tracker) (r : Record) (z : Zone) :
    Describes Mx.Fault.diagnostic (t.check r z).1 := by
  unfold Mx.Tracker.check
  split
  · simp
  · split
    · simp
    · split <;> simp

theorem Soa.multiple_reports (n : Nat) : Describes Soa.Fault.diagnostic (Soa.multiple n) := by
  unfold Soa.multiple
  split <;> simp

theorem Dmarc.multiple_reports (n : Nat) :
    Describes Dmarc.Fault.diagnostic (Dmarc.multiple n) := by
  unfold Dmarc.multiple
  split <;> simp

theorem Dmarc.missing_reports (z : Zone) :
    Describes Dmarc.Fault.diagnostic (Dmarc.missing z) := by
  unfold Dmarc.missing
  split <;> simp

theorem Caa.coverage_reports (z : Zone) : Describes Caa.Fault.diagnostic (Caa.coverage z) := by
  unfold Caa.coverage
  split <;> simp

/-- Whatever the rules of a kind say of a record, they say without a position. -/
theorem Kind.rules_fresh (k : Kind) : ∀ rule ∈ k.rules, rule.Fresh := by
  intro rule hrule
  cases k with
  | cname => exact (Cname.rules_report rule hrule).fresh Cname.Fault.fresh
  | mx => exact (Mx.rules_report rule hrule).fresh Mx.Fault.fresh
  | soa => exact (Soa.rules_report rule hrule).fresh Soa.Fault.fresh
  | spf => exact (Spf.rules_report rule hrule).fresh Spf.Fault.fresh
  | dmarc => exact (Dmarc.rules_report rule hrule).fresh Dmarc.Fault.fresh
  | srv => exact (Srv.rules_report rule hrule).fresh Srv.Fault.fresh
  | caa => exact (Caa.rules_report rule hrule).fresh Caa.Fault.fresh

/-- The built-in findings on a record, the look at the tracker included, are fresh. -/
theorem Audit.builtin_fresh (z : Zone) (t : Mx.Tracker) (r : Record) :
    ∀ d ∈ Audit.builtin z t r, d.Fresh := by
  intro d hd
  simp only [Audit.builtin] at hd
  split at hd
  · rcases List.mem_append.1 hd with hd | hd
    · exact (t.check_reports r z).fresh Mx.Fault.fresh d (by simpa using hd)
    · exact Rule.fresh_of_mem_run Kind.mx.rules_fresh hd
  · exact Rule.fresh_of_mem_run (Kind.rules_fresh _) hd
  · simp at hd

theorem Ttl.range_fresh : Rule.Fresh Ttl.range := by
  intro r z d hd
  obtain ⟨f, -, rfl⟩ := Option.map_eq_some_iff.1 hd
  simpa using f.fresh

theorem Ttl.inconsistencies_fresh (rs : List Record) : ∀ d ∈ Ttl.inconsistencies rs, d.Fresh := by
  intro d hd
  obtain ⟨k, -, hk⟩ := List.mem_filterMap.1 hd
  dsimp only at hk
  split at hk
  · simp at hk
  · obtain rfl := Option.some.inj hk
    simp [Ttl.inconsistent]

/-- Findings on the zone as a whole are fresh, too: they stand at no record. -/
theorem Audit.onZone_fresh (a : Audit) (z : Zone) : ∀ d ∈ a.onZone z, d.Fresh := by
  intro d hd
  rcases List.mem_append.1 hd with hd | hd
  · simp only [List.mem_filterMap, List.mem_cons, List.not_mem_nil, or_false, id_eq] at hd
    obtain ⟨o, rfl | rfl | rfl | rfl, ho⟩ := hd
    · exact (Soa.multiple_reports _).fresh Soa.Fault.fresh d ho
    · exact (Dmarc.multiple_reports _).fresh Dmarc.Fault.fresh d ho
    · exact (Dmarc.missing_reports z).fresh Dmarc.Fault.fresh d ho
    · exact (Caa.coverage_reports z).fresh Caa.Fault.fresh d ho
  · split at hd
    · exact Ttl.inconsistencies_fresh z.records d hd
    · simp at hd

end ZoneAudit
