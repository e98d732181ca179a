import ZoneAudit.Audit

/-!
Soundness of reports. The flag of a report and its two lists are kept side by side: pushing a
finding sets the flag, joining reports conjoins their flags, and the lists only ever grow. However a
report was put together, its flag says that it has no errors, and each finding stands in the list
for its severity.
-/

namespace ZoneAudit.Report

/-- The reports that can be put together from findings and from each other. -/
inductive Reachable : Report → Prop
  | empty : Reachable {}
  | push {r : Report} (d : Diagnostic) : Reachable r → Reachable (r.push d)
  | ofList (ds : List Diagnostic) : Reachable (.ofList ds)
  | combine {rs : List Report} : (∀ r ∈ rs, Reachable r) → Reachable (.combine rs)

/-- The reports that the checks of a record, of a set of records and of a zone return. -/
inductive Returned : Report → Prop
  | record (k : Kind) (r : Record) (z : Zone) : Returned (k.report r z)
  | set (k : Kind) (rs : List Record) (z : Zone) : Returned (k.reportAll rs z)
  | time (r : Record) (z : Zone) : Returned (Ttl.report r z)
  | times (rs : List Record) (z : Zone) : Returned (Ttl.reportAll rs z)
  | zone (a : Audit) (z : Zone) : Returned (a.report z)

/-- The flag says that there are no errors, and the lists tell errors from all other findings. -/
structure Sound (r : Report) : Prop where
  isValid : r.isValid ↔ r.errors = []
  errors : ∀ d ∈ r.errors, d.severity = .error
  warnings : ∀ d ∈ r.warnings, d.severity ≠ .error

theorem sound_empty : ({} : Report).Sound := ⟨by simp, by simp, by simp⟩

theorem Sound.push {r : Report} (h : r.Sound) (d : Diagnostic) : (r.push d).Sound := by
  by_cases hd : d.severity = .error
  · have hpush : r.push d = ⟨false, r.warnings, r.errors ++ [d]⟩ := by
      simp [Report.push, Diagnostic.isError, hd]
    rw [hpush]
    refine ⟨by simp, ?_, h.warnings⟩
    intro e he
    rcases List.mem_append.1 he with he | he
    · exact h.errors e he
    · exact List.mem_singleton.1 he ▸ hd
  · have hpush : r.push d = ⟨r.isValid, r.warnings ++ [d], r.errors⟩ := by
      simp [Report.push, Diagnostic.isError, hd]
    rw [hpush]
    refine ⟨h.isValid, h.errors, ?_⟩
    intro e he
    rcases List.mem_append.1 he with he | he
    · exact h.warnings e he
    · exact List.mem_singleton.1 he ▸ hd

/-- A report of a list is reached from the empty report by pushing. -/
theorem sound_ofList (ds : List Diagnostic) : (ofList ds).Sound := by
  have hpush (r : Report) (h : r.Sound) : (ds.foldl Report.push r).Sound := by
    induction ds generalizing r with
    | nil => exact h
    | cons d ds ih => exact ih (r.push d) (h.push d)
  have hds := hpush {} sound_empty
  rwa [← ofList_nil, foldl_push, List.nil_append] at hds

theorem sound_combine {rs : List Report} (h : ∀ r ∈ rs, r.Sound) : (combine rs).Sound where
  isValid := by
    simp only [combine, List.all_eq_true, List.flatMap_eq_nil_iff]
    exact forall₂_congr fun r hr => (h r hr).isValid
  errors := by
    intro d hd
    obtain ⟨r, hr, hd⟩ := List.mem_flatMap.1 hd
    exact (h r hr).errors d hd
  warnings := by
    intro d hd
    obtain ⟨r, hr, hd⟩ := List.mem_flatMap.1 hd
    exact (h r hr).warnings d hd

theorem Reachable.sound {r : Report} (h : r.Reachable) : r.Sound := by
  induction h with
  | empty => exact sound_empty
  | push d _ ih => exact ih.push d
  | ofList ds => exact sound_ofList ds
  | combine _ ih => exact sound_combine ih

/-- A sound report is the report of its own findings. -/
theorem Sound.eq_ofList {r : Report} (h : r.Sound) : r = ofList r.diagnostics := by
  have herrors : ∀ d ∈ r.errors, d.isError := by
    intro d hd
    simp [Diagnostic.isError, h.errors d hd]
  have hothers : ∀ d ∈ r.warnings, ¬ d.isError := by
    intro d hd
    simp [Diagnostic.isError, h.warnings d hd]
  have hleft : (ofList r.diagnostics).errors = r.errors := by
    show (r.errors ++ r.warnings).filter Diagnostic.isError = r.errors
    rw [List.filter_append, List.filter_eq_self.2 herrors, List.filter_eq_nil_iff.2 hothers,
      List.append_nil]
  have hright : (ofList r.diagnostics).warnings = r.warnings := by
    show (r.errors ++ r.warnings).filter (!·.isError) = r.warnings
    rw [List.filter_append, List.filter_eq_nil_iff.2 (by simpa using herrors),
      List.filter_eq_self.2 (by simpa using hothers), List.nil_append]
  have hflag : (ofList r.diagnostics).isValid = r.isValid := by
    rw [Bool.eq_iff_iff, (sound_ofList _).isValid, h.isValid, hleft]
  calc r = ⟨r.isValid, r.warnings, r.errors⟩ := rfl
    _ = ofList r.diagnostics := by rw [← hflag, ← hleft, ← hright]

/-- No report is sound but those that can be put together: nothing more could be said of
them all. -/
theorem reachable_iff_sound {r : Report} : r.Reachable ↔ r.Sound := by
  constructor
  · exact Reachable.sound
  · intro h
    rw [h.eq_ofList]
    exact .ofList _

theorem Sound.count_error {r : Report} (h : r.Sound) : r.count .error = r.errors.length := by
  have herrors : r.errors.countP (·.severity = .error) = r.errors.length :=
    List.countP_eq_length.2 (by simpa using h.errors)
  have hothers : r.warnings.countP (·.severity = .error) = 0 :=
    List.countP_eq_zero.2 (by simpa using h.warnings)
  rw [count, diagnostics, List.countP_append, herrors, hothers, Nat.add_zero]

theorem Sound.count_others {r : Report} (h : r.Sound) :
    r.count .warning + r.count .info = r.warnings.length := by
  have herrors (s : Severity) (hs : s ≠ .error) : r.errors.countP (·.severity = s) = 0 := by
    rw [List.countP_eq_zero]
    intro d hd
    simpa [h.errors d hd] using hs.symm
  have hothers : r.warnings.countP (fun d => !decide (d.severity = .warning)) =
      r.warnings.countP (·.severity = .info) := by
    apply List.countP_congr
    intro d hd
    have hd := h.warnings d hd
    cases hs : d.severity <;> simp_all
  have hsplit := List.length_eq_countP_add_countP (·.severity = .warning) (l := r.warnings)
  simp only [count, diagnostics, List.countP_append, herrors .warning (by decide),
    herrors .info (by decide)]
  rw [hsplit]
  simpa using hothers.symm

/-- A report with no more errors than a valid one is valid. -/
theorem isValid_of_count_le {r' r : Report} (hs' : r'.Sound) (hs : r.Sound)
    (hcount : r'.count .error ≤ r.count .error) (hvalid : r.isValid) : r'.isValid := by
  have hnone : r.errors.length = 0 := List.length_eq_zero_iff.2 (hs.isValid.1 hvalid)
  rw [hs'.count_error, hs.count_error] at hcount
  exact hs'.isValid.2 (List.length_eq_zero_iff.1 (by omega))

/-- Checks that look at the records of a set one by one join the reports of the records. -/
theorem reachable_reportEach {check : Record → Zone → Report}
    (h : ∀ r z, (check r z).Reachable) (rs : List Record) (z : Zone) :
    (Rule.reportEach check rs z).Reachable := by
  apply Reachable.combine
  intro s hs
  obtain ⟨r, -, rfl⟩ := List.mem_map.1 hs
  exact h r z

/-- Checks of a whole set push their findings onto what the records of the set gave. -/
theorem Reachable.foldl_push {r : Report} (h : r.Reachable) (ds : List Diagnostic) :
    (ds.foldl Report.push r).Reachable := by
  induction ds generalizing r with
  | nil => exact h
  | cons d ds ih => exact ih (h.push d)

theorem reachable_reportsFrom (t : Mx.Tracker) (z : Zone) (rs : List Record) :
    ∀ s ∈ Mx.reportsFrom t z rs, s.Reachable := by
  induction rs generalizing t with
  | nil => simp [Mx.reportsFrom]
  | cons r rs ih =>
    rw [Mx.reportsFrom, List.forall_mem_cons]
    exact ⟨.ofList _, ih _⟩

theorem reachable_report (k : Kind) (r : Record) (z : Zone) : (k.report r z).Reachable := by
  cases k <;> exact .ofList _

theorem reachable_reportAll (k : Kind) (rs : List Record) (z : Zone) :
    (k.reportAll rs z).Reachable := by
  have heach := reachable_reportEach (reachable_report k) rs z
  cases k with
  | mx => exact .combine (reachable_reportsFrom {} z rs)
  | soa | dmarc => exact heach.foldl_push _
  | cname | spf | srv | caa => exact heach

/-- Whatever a check returns was put together from its findings. -/
theorem Returned.reachable {r : Report} (h : r.Returned) : r.Reachable := by
  cases h with
  | record k r z => exact reachable_report k r z
  | set k rs z => exact reachable_reportAll k rs z
  | time r z => exact .ofList _
  | times rs z => exact (reachable_reportEach (fun r z => .ofList _) rs z).foldl_push _
  | zone a z => exact .ofList _

theorem sound_zone (a : Audit) (z : Zone) : (a.report z).Sound :=
  (Returned.zone a z).reachable.sound

/-- Every report that is put together or returned by a check is valid just if it has no errors, and
its two lists tell errors from other findings. -/
theorem sound_of_reachable_or_returned {r : Report} (h : r.Reachable ∨ r.Returned) :
    r.Sound ∧ r.count .error = r.errors.length ∧
      r.count .warning + r.count .info = r.warnings.length := by
  have hreachable : r.Reachable := h.elim id Returned.reachable
  have hsound : r.Sound := hreachable.sound
  exact ⟨hsound, hsound.count_error, hsound.count_others⟩

/-- Two starts of authority, whose report has an error pushed after joining, joined with a note and
followed by a warning. -/
theorem sound_of_joined_sets :
    let soa : Record := ⟨.soa, "example.com", 3600, "ns.example.com admin.example.com 1 2 3 4 5"⟩
    let set := Kind.soa.reportAll [soa, soa] ⟨"example.com", [soa, soa], none⟩
    let whole := (combine [set, ({} : Report).push (.info "Seen")]).push (.warning "Late")
    set.Returned ∧ whole.Reachable ∧ set.count .error = 3 ∧ whole.count .warning = 3 ∧
      (set.Sound ∧ set.count .error = set.errors.length ∧
        set.count .warning + set.count .info = set.warnings.length) ∧
      (whole.Sound ∧ whole.count .error = whole.errors.length ∧
        whole.count .warning + whole.count .info = whole.warnings.length) := by
  intro soa set whole
  have hset : set.Returned := .set .soa [soa, soa] _
  have hwhole : whole.Reachable := by
    refine .push _ (.combine ?_)
    intro r hr
    obtain rfl | rfl := by simpa using hr
    · exact hset.reachable
    · exact .push _ .empty
  exact ⟨hset, hwhole, by decide +kernel, by decide +kernel,
    sound_of_reachable_or_returned (.inr hset), sound_of_reachable_or_returned (.inl hwhole)⟩

end ZoneAudit.Report
