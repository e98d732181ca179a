import ZoneAudit.Proofs.Walk

/-!
Strict audits. A strict audit finds what a lenient one finds, in the same order, and raises the
warnings among it to errors before the findings are sorted into the two lists of the report.
-/

namespace ZoneAudit

namespace Diagnostic

@[simp] theorem promote_of_warning {d : Diagnostic} (h : d.severity = .warning) :
    d.promote = { d with severity := .error } := by simp [promote, h]

@[simp] theorem promote_of_ne_warning {d : Diagnostic} (h : d.severity ≠ .warning) :
    d.promote = d := by simp [promote, h]

/-- A promoted finding is an error if it was an error or a warning. -/
theorem isError_promote (d : Diagnostic) : d.promote.isError = decide (d.severity ≠ .info) := by
  cases h : d.severity <;> simp [promote, isError, h]

theorem severity_promote_ne_error {d : Diagnostic} :
    d.promote.severity ≠ .error ↔ d.severity ≠ .error ∧ d.severity ≠ .warning := by
  cases h : d.severity <;> simp [promote, h]

end Diagnostic

namespace Report

/-- The errors of a promoted list are all findings but the notes, and all are now errors. -/
theorem errors_promote (ds : List Diagnostic) :
    (ofList (ds.map Diagnostic.promote)).errors =
      (ds.filter (·.severity ≠ .info)).map ({ · with severity := .error }) := by
  have hp : Diagnostic.isError ∘ Diagnostic.promote = fun d => decide (d.severity ≠ .info) :=
    funext Diagnostic.isError_promote
  simp only [ofList]
  rw [List.filter_map, hp]
  apply List.map_congr_left
  intro d hd
  have hinfo : d.severity ≠ .info := by simpa using (List.mem_filter.1 hd).2
  by_cases hw : d.severity = .warning
  · rw [Diagnostic.promote_of_warning hw]
  · have he : d.severity = .error := by cases h : d.severity <;> simp_all
    rw [Diagnostic.promote_of_ne_warning hw, ← he]

/-- What remains beside the errors of a promoted list are the notes. -/
theorem warnings_promote (ds : List Diagnostic) :
    (ofList (ds.map Diagnostic.promote)).warnings = ds.filter (·.severity = .info) := by
  have hp : (fun d : Diagnostic => !d.isError) ∘ Diagnostic.promote =
      fun d => decide (d.severity = .info) := by
    funext d
    simp [Diagnostic.isError_promote]
  simp only [ofList]
  rw [List.filter_map, hp, List.map_congr_left (g := id), List.map_id]
  intro d hd
  have hinfo : d.severity = .info := by simpa using (List.mem_filter.1 hd).2
  simp [Diagnostic.promote, hinfo]

/-- Promotion makes a list invalid just if it was so before or has a warning. -/
theorem isValid_promote (ds : List Diagnostic) :
    (ofList (ds.map Diagnostic.promote)).isValid ↔
      (ofList ds).isValid ∧ ∀ d ∈ ds, d.severity ≠ .warning := by
  rw [isValid_ofList, isValid_ofList, List.forall_mem_map]
  constructor
  · intro h
    exact ⟨fun d hd => (Diagnostic.severity_promote_ne_error.1 (h d hd)).1,
      fun d hd => (Diagnostic.severity_promote_ne_error.1 (h d hd)).2⟩
  · rintro ⟨he, hw⟩ d hd
    exact Diagnostic.severity_promote_ne_error.2 ⟨he d hd, hw d hd⟩

end Report

namespace Audit

theorem raise_of_isError (a : Audit) {d : Diagnostic} (h : d.isError) : a.raise d = d := by
  have hw : d.severity ≠ .warning := by
    intro hw
    simp [Diagnostic.isError, hw] at h
  simp [raise, hw]

/-- Strictness has no part in what an audit finds, on records or on the zone. -/
theorem findings_strict (s s' b : Bool) (rules : List (RecordType × Rule)) (z : Zone) :
    Audit.findings ⟨⟨s, b⟩, rules⟩ z = Audit.findings ⟨⟨s', b⟩, rules⟩ z := by
  have hwalk : Audit.walk ⟨⟨s, b⟩, rules⟩ z 0 {} z.records =
      Audit.walk ⟨⟨s', b⟩, rules⟩ z 0 {} z.records :=
    walk_congr (fun _ _ _ => rfl) (fun _ _ _ => rfl)
  rw [findings, findings, hwalk]
  rfl

/-- The lenient and the strict report are made of one list; the strict one raises its warnings, and
is valid just if there are neither errors nor warnings. -/
theorem report_strict (customRules : List (RecordType × Rule)) (checkBestPractices : Bool)
    (z : Zone) :
    let lenient := Audit.report ⟨⟨false, checkBestPractices⟩, customRules⟩ z
    let strict := Audit.report ⟨⟨true, checkBestPractices⟩, customRules⟩ z
    (∃ ds : List Diagnostic,
      lenient.errors = ds.filter (·.severity = .error) ∧
      lenient.warnings = ds.filter (·.severity ≠ .error) ∧
      strict.errors = (ds.filter (·.severity ≠ .info)).map ({ · with severity := .error }) ∧
      strict.warnings = ds.filter (·.severity = .info)) ∧
    (strict.isValid ↔ lenient.isValid ∧ ∀ d ∈ lenient.diagnostics, d.severity ≠ .warning) ∧
    strict.diagnostics.Perm (lenient.diagnostics.map Diagnostic.promote) := by
  intro lenient strict
  let ds := Audit.findings ⟨⟨false, checkBestPractices⟩, customRules⟩ z
  have hlenient : lenient = .ofList ds := rfl
  have hstrict : strict = .ofList (ds.map Diagnostic.promote) := by
    show Report.ofList ((Audit.findings ⟨⟨true, checkBestPractices⟩, customRules⟩ z).map _) = _
    rw [findings_strict true false]
  rw [hlenient, hstrict]
  have hperm := Report.diagnostics_ofList_perm ds
  refine ⟨⟨ds, rfl, ?_, Report.errors_promote ds, Report.warnings_promote ds⟩, ?_, ?_⟩
  · apply List.filter_congr
    intro d _
    simp [Diagnostic.isError]
  · rw [Report.isValid_promote]
    simp only [hperm.mem_iff]
  · exact (Report.diagnostics_ofList_perm _).trans (hperm.map _).symm

end Audit
end ZoneAudit
