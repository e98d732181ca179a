import ZoneAudit.Proofs.Fresh

/-!
The walk of an audit without its positions. What a walk finds is one batch of findings for each
record; a batch depends on the records before it only through the tracker, and only for exchanges.
-/

namespace ZoneAudit

namespace Report

/-- Joining reports of lists is reporting the joined list. -/
theorem combine_ofList (batches : List (List Diagnostic)) :
    combine (batches.map ofList) = ofList batches.flatten := by
  induction batches with
  | nil => rfl
  | cons ds batches ih =>
    simp only [combine, ofList, Report.mk.injEq, List.map_cons, List.all_cons,
      List.flatMap_cons] at ih ⊢
    obtain ⟨hv, hw, he⟩ := ih
    simp [hv, hw, he]

/-- A report holds every finding that it was made of, errors first. -/
theorem diagnostics_ofList_perm (ds : List Diagnostic) : (ofList ds).diagnostics.Perm ds :=
  List.filter_append_perm Diagnostic.isError ds

theorem isValid_ofList (ds : List Diagnostic) :
    (ofList ds).isValid ↔ ∀ d ∈ ds, d.severity ≠ .error := by
  simp [ofList, Diagnostic.isError]

/-- The report with each of its findings changed. -/
def map (f : Diagnostic → Diagnostic) (r : Report) : Report :=
  { r with warnings := r.warnings.map f, errors := r.errors.map f }

/-- Findings that keep their severity stay in the same list of a report. -/
theorem ofList_map {f : Diagnostic → Diagnostic} (hf : ∀ d, (f d).severity = d.severity)
    (ds : List Diagnostic) : ofList (ds.map f) = (ofList ds).map f := by
  have herror (d : Diagnostic) : (f d).isError = d.isError := by
    rw [Diagnostic.isError, Diagnostic.isError, hf]
  simp [ofList, map, List.filter_map, List.any_map, Function.comp_def, herror]

end Report

namespace Rule

@[simp] theorem run_nil (r : Record) (z : Zone) : run [] r z = [] := rfl

@[simp] theorem run_cons (rule : Rule) (rules : List Rule) (r : Record) (z : Zone) :
    run (rule :: rules) r z = (rule r z).toList ++ run rules r z := by
  cases h : rule r z <;> simp [run, h]

/-- A run keeps the answers of its rules that are findings. -/
theorem run_eq_answers (rules : List Rule) (r : Record) (z : Zone) :
    run rules r z = (rules.map (· r z)).filterMap id := by
  rw [run, List.filterMap_map]
  rfl

end Rule

namespace Kind

variable {domain : String} {r : Record} {k : Kind}

/-- Whether a record is of a kind: by its type, and a TXT record by what it is a policy for, where
domain policies come first. -/
def governs (k : Kind) (domain : String) (r : Record) : Bool :=
  match k with
  | cname => r.type = .cname
  | mx => r.type = .mx
  | soa => r.type = .soa
  | spf => r.type = .txt && Spf.isPolicy r && !Dmarc.isPolicy r domain
  | dmarc => r.type = .txt && Dmarc.isPolicy r domain
  | srv => r.type = .srv
  | caa => r.type = .caa

/-- A record is sent to the one kind that it is of. -/
theorem of?_eq_some_iff : of? domain r = some k ↔ k.governs domain r := by
  cases htype : r.type with
  | txt =>
    simp only [of?, htype]
    cases hdomain : Dmarc.isPolicy r domain with
    | true => cases k <;> simp [governs, htype, hdomain]
    | false =>
      cases hsender : Spf.isPolicy r with
      | true => cases k <;> simp [governs, htype, hdomain, hsender]
      | false => cases k <;> simp [governs, htype, hdomain, hsender]
  | a | ns | cname | soa | mx | aaaa | srv | caa | rrsig | nsec | nsec3 | dnskey =>
    cases k <;> simp [of?, governs, htype]

theorem of?_eq_cname : of? domain r = some cname ↔ r.type = .cname :=
  of?_eq_some_iff.trans decide_eq_true_iff

theorem of?_eq_mx : of? domain r = some mx ↔ r.type = .mx :=
  of?_eq_some_iff.trans decide_eq_true_iff

theorem of?_eq_soa : of? domain r = some soa ↔ r.type = .soa :=
  of?_eq_some_iff.trans decide_eq_true_iff

end Kind

namespace Audit

/-- The findings on each record of a run, in the order of the records and without positions. -/
def batches (a : Audit) (z : Zone) (t : Mx.Tracker) : List Record → List (List Diagnostic)
  | [] => []
  | r :: rs => a.onRecord z t r :: a.batches z (trackerAfter z t r) rs

/-- What an audit makes of the severity of a finding. -/
def raise (a : Audit) (d : Diagnostic) : Diagnostic := if a.options.strict then d.promote else d

/-- What an audit makes of a severity: a strict one knows no warnings. -/
def raiseSeverity (a : Audit) (s : Severity) : Severity :=
  if a.options.strict && s = .warning then .error else s

/-- Raising a finding changes nothing but its severity. -/
theorem raise_eq (a : Audit) (d : Diagnostic) :
    a.raise d = { d with severity := a.raiseSeverity d.severity } := by
  cases hs : a.options.strict with
  | false => simp [raise, raiseSeverity, hs]
  | true =>
    by_cases hw : d.severity = .warning
    · simp [raise, raiseSeverity, hs, Diagnostic.promote, hw]
    · simp [raise, raiseSeverity, hs, Diagnostic.promote, hw]

/-- The report of an audit lists its findings, raised if the audit is strict. -/
theorem report_eq_ofList (a : Audit) (z : Zone) :
    a.report z = .ofList ((a.findings z).map a.raise) := by
  by_cases h : a.options.strict
  · have hr : a.raise = Diagnostic.promote := by
      funext d
      simp [raise, h]
    rw [report, if_pos h, hr]
  · have hr : a.raise = id := by
      funext d
      simp [raise, h]
    rw [report, if_neg h, hr, List.map_id]

/-- A walk adds nothing to the batches but positions. -/
theorem walk_unplaced (a : Audit) (z : Zone) (i : Nat) (t : Mx.Tracker) (rs : List Record) :
    (a.walk z i t rs).map Diagnostic.unplaced =
      (a.batches z t rs).flatten.map Diagnostic.unplaced := by
  induction rs generalizing i t with
  | nil => rfl
  | cons r rs ih => simp [walk, batches, ih, Function.comp_def]

/-- A walk reads its zone, its audit and its tracker one record at a time. -/
theorem walk_congr {a b : Audit} {z w : Zone} {rs : List Record} {i : Nat} {t : Mx.Tracker}
    (hon : ∀ r ∈ rs, ∀ u, a.onRecord z u r = b.onRecord w u r)
    (hafter : ∀ r ∈ rs, ∀ u, trackerAfter z u r = trackerAfter w u r) :
    a.walk z i t rs = b.walk w i t rs := by
  induction rs generalizing i t with
  | nil => rfl
  | cons r rs ih =>
    rw [walk, walk, hon r (by simp), hafter r (by simp),
      ih (fun s hs => hon s (by simp [hs])) (fun s hs => hafter s (by simp [hs]))]

/-- A finding of a walk was made on some record of the run and stands at its position. -/
theorem exists_of_mem_walk {a : Audit} {z : Zone} {i : Nat} {t : Mx.Tracker} {rs : List Record}
    {d : Diagnostic} (hd : d ∈ a.walk z i t rs) :
    ∃ j r u, rs[j]? = some r ∧ ∃ e ∈ a.onRecord z u r, d = e.atRecord (i + j) := by
  induction rs generalizing i t with
  | nil => simp [walk] at hd
  | cons r rs ih =>
    rw [walk, List.mem_append, List.mem_map] at hd
    rcases hd with ⟨e, he, rfl⟩ | hd
    · exact ⟨0, r, t, rfl, e, he, rfl⟩
    · obtain ⟨j, s, u, hs, e, he, rfl⟩ := ih hd
      refine ⟨j + 1, s, u, hs, e, he, ?_⟩
      rw [Nat.add_right_comm, Nat.add_assoc]

theorem builtin_of_kind {z : Zone} {k : Kind} {r : Record} (hr : Kind.of? z.domain r = some k)
    (hk : k ≠ .mx) (t : Mx.Tracker) : builtin z t r = Rule.run k.rules r z := by
  cases k <;> simp_all [builtin]

theorem builtin_of_mx {z : Zone} {r : Record} (hr : Kind.of? z.domain r = some .mx)
    (t : Mx.Tracker) : builtin z t r = Mx.findings t r z := by
  simp [builtin, hr]

/-- The built-in findings on a record: those of the tracker on an exchange, then those of the rules
of its kind. -/
theorem builtin_eq (z : Zone) (t : Mx.Tracker) (r : Record) :
    builtin z t r = (if Mx.isMx r then (t.check r z).1.toList else []) ++
      (Kind.of? z.domain r).elim [] fun k => Rule.run k.rules r z := by
  by_cases hr : r.type = .mx
  · have hk : Kind.of? z.domain r = some .mx := Kind.of?_eq_mx.2 hr
    simp [builtin_of_mx hk, Mx.findings, Mx.isMx, hr, hk, Kind.rules]
  · cases hk : Kind.of? z.domain r with
    | none => simp [builtin, Mx.isMx, hr, hk]
    | some k =>
      have hmx : k ≠ .mx := by
        rintro rfl
        exact hr (Kind.of?_eq_mx.1 hk)
      simp [builtin_of_kind hk hmx, Mx.isMx, hr]

theorem trackerAfter_of_ne_mx {z : Zone} {r : Record} (h : r.type ≠ .mx) (t : Mx.Tracker) :
    trackerAfter z t r = t := by simp [trackerAfter, h]

/-- Without best practices and added rules an audit finds what the built-in rules find. -/
theorem onRecord_builtin {o : Options} (ho : o.checkBestPractices = false) (z : Zone)
    (t : Mx.Tracker) (r : Record) : onRecord ⟨o, []⟩ z t r = builtin z t r := by
  simp [onRecord, advisories, custom, ho]

@[simp] theorem onRecord_default (z : Zone) (t : Mx.Tracker) (r : Record) :
    ({} : Audit).onRecord z t r = builtin z t r := onRecord_builtin rfl z t r

end Audit
end ZoneAudit
