import Mathlib.Data.List.Flatten
import ZoneAudit.Proofs.RecordSets
import ZoneAudit.Proofs.Sight
import ZoneAudit.Proofs.Soundness
import ZoneAudit.Proofs.WalkParts

/-!
Removal of records. An audit of some of the records of a zone finds no more than an audit of all of
them, up to the details of findings. Where only the records under audit are known, two checks may
find more once others are gone, the one for a missing policy and the one for wildcards that no
authority covers; but these two never find an error.
-/

namespace ZoneAudit

section

variable {α β : Type} {xs ys : List α}

theorem subperm_filterMap (h : xs.Subperm ys) (f : α → Option β) :
    (xs.filterMap f).Subperm (ys.filterMap f) := by
  obtain ⟨zs, hperm, hsub⟩ := h
  exact ⟨zs.filterMap f, hperm.filterMap f, hsub.filterMap f⟩

theorem subperm_map (h : xs.Subperm ys) (f : α → β) : (xs.map f).Subperm (ys.map f) := by
  simpa using subperm_filterMap h (some ∘ f)

end

/-- What a finding says, without its details and its position. -/
def Diagnostic.headline (d : Diagnostic) : Severity × String := (d.severity, d.message)

/-- A finding is covered by one with the same headline; no finding is covered by any answer. -/
def Covered (answer' answer : Option Diagnostic) : Prop :=
  ∀ d' ∈ answer', ∃ d ∈ answer, d.headline = d'.headline

namespace Covered

theorem refl (answer : Option Diagnostic) : Covered answer answer := fun d hd => ⟨d, hd, rfl⟩

theorem of_eq {answer' answer : Option Diagnostic} (h : answer' = answer) :
    Covered answer' answer := h ▸ refl _

/-- A check that finds a fault on one condition is covered by one that finds it on a weaker one. -/
theorem of_imp {p' p : Prop} [Decidable p'] [Decidable p] (h : p' → p) {d' d : Diagnostic}
    (hd : d.headline = d'.headline) :
    Covered (if p' then some d' else none) (if p then some d else none) := by
  by_cases hp : p'
  · rw [if_pos hp, if_pos (h hp)]
    intro e he
    exact ⟨d, rfl, Option.some.inj he ▸ hd⟩
  · rw [if_neg hp]
    intro e he
    exact absurd he (Option.not_mem_none e)

/-- Answers that are covered one by one have no more headlines. -/
theorem headlines {answers' answers : List (Option Diagnostic)}
    (h : List.Forall₂ Covered answers' answers) :
    ((answers'.filterMap id).map Diagnostic.headline).Sublist
      ((answers.filterMap id).map Diagnostic.headline) := by
  induction h with
  | nil => exact .slnil
  | @cons answer' answer _ _ hcovered _ ih =>
    cases answer' with
    | none =>
      cases answer with
      | none => simpa using ih
      | some d => simpa using ih.cons d.headline
    | some d' =>
      obtain ⟨d, rfl, hline⟩ := hcovered d' rfl
      simpa [hline] using ih.cons_cons d'.headline

end Covered

/-- Some of the records of a zone are left for audit, and no more than before is known of the whole
zone. -/
structure Zone.Part (z' z : Zone) : Prop where
  domain : z'.domain = z.domain
  records : z'.records.Sublist z.records
  whole : z'.whole.Sublist z.whole
  fullRecords : z'.fullRecords = z.fullRecords

namespace Zone.Part

theorem of_full (domain : String) {rs' rs : List Record} (h : rs'.Sublist rs)
    (all : List Record) : Part ⟨domain, rs', some all⟩ ⟨domain, rs, some all⟩ :=
  ⟨rfl, h, List.Sublist.refl all, rfl⟩

theorem of_bare (domain : String) {rs' rs : List Record} (h : rs'.Sublist rs) :
    Part ⟨domain, rs', none⟩ ⟨domain, rs, none⟩ :=
  ⟨rfl, h, h, rfl⟩

end Zone.Part

variable {z' z : Zone}

theorem Mx.tracked_of_part (h : z'.Part z) (ht : Mx.tracked z') : Mx.tracked z := by
  have hcount : z'.whole.countP Mx.isMx ≤ z.whole.countP Mx.isMx := h.whole.countP_le
  simp only [Mx.tracked, decide_eq_true_eq] at ht ⊢
  omega

theorem Spf.multiple_covered (h : z'.Part z) (r : Record) :
    Covered (Spf.multiple r z') (Spf.multiple r z) := by
  have hcount : z'.whole.countP Spf.isPolicy ≤ z.whole.countP Spf.isPolicy := h.whole.countP_le
  exact .of_imp (fun hmany => by omega) rfl

theorem Soa.multiple_covered (h : z'.Part z) :
    Covered (Soa.multiple (z'.records.countP (·.type = .soa)))
      (Soa.multiple (z.records.countP (·.type = .soa))) := by
  have hcount : z'.records.countP (·.type = .soa) ≤ z.records.countP (·.type = .soa) :=
    h.records.countP_le
  exact .of_imp (fun hmany => by omega) rfl

theorem Dmarc.multiple_covered (h : z'.Part z) :
    Covered (Dmarc.multiple (z'.records.countP (Dmarc.isDomainPolicy · z'.domain)))
      (Dmarc.multiple (z.records.countP (Dmarc.isDomainPolicy · z.domain))) := by
  have hcount : z'.records.countP (Dmarc.isDomainPolicy · z.domain) ≤
      z.records.countP (Dmarc.isDomainPolicy · z.domain) := h.records.countP_le
  rw [h.domain]
  exact .of_imp (fun hmany => by omega) rfl

/-- A policy is missed where mail is seen, so less is missed where the zone is known as well. -/
theorem Dmarc.missing_covered (h : z'.Part z) (hw : z'.whole = z.whole) :
    Covered (Dmarc.missing z') (Dmarc.missing z) := by
  refine .of_imp ?_ rfl
  simp only [Bool.and_eq_true, hw, h.domain]
  rintro ⟨hmail, hnone⟩
  obtain ⟨r, hr, hm⟩ := List.any_eq_true.1 hmail
  exact ⟨List.any_eq_true.2 ⟨r, h.records.subset hr, hm⟩, hnone⟩

/-- Each rule of a kind finds no more on a record, whatever other records are removed. -/
theorem Kind.rule_covered (k : Kind) (h : z'.Part z) (r : Record) :
    ∀ rule ∈ k.rules, Covered (rule r z') (rule r z) := by
  have hfull : z'.fullRecords.Perm z.fullRecords := h.fullRecords ▸ List.Perm.refl _
  intro rule hrule
  by_cases hk : k = .spf
  · subst hk
    simp only [Kind.rules, Spf.rules, List.mem_cons, List.not_mem_nil, or_false] at hrule
    obtain rfl | rfl | hrule := hrule
    · exact .refl _
    · exact Spf.multiple_covered h r
    · obtain rfl | rfl | rfl | rfl := hrule <;> exact .refl _
  · exact .of_eq (k.rule_congr h.domain (fun hspf => absurd hspf hk) (fun _ => hfull) r rule hrule)

/-- So do all rules of a kind together. -/
theorem Kind.run_headlines (k : Kind) (h : z'.Part z) (r : Record) :
    ((Rule.run k.rules r z').map Diagnostic.headline).Sublist
      ((Rule.run k.rules r z).map Diagnostic.headline) := by
  have hcovered : List.Forall₂ Covered (k.rules.map (· r z')) (k.rules.map (· r z)) := by
    rw [List.forall₂_map_left_iff, List.forall₂_map_right_iff, List.forall₂_same]
    exact k.rule_covered h r
  rw [Rule.run_eq_answers, Rule.run_eq_answers]
  exact Covered.headlines hcovered

/-- Fewer records leave no record set mixed that was not. -/
theorem Ttl.inconsistencies_headlines {rs' rs : List Record} (h : rs'.Sublist rs) :
    ((inconsistencies rs').map Diagnostic.headline).Subperm
      ((inconsistencies rs).map Diagnostic.headline) := by
  have hline (k : Key) (ts : List UInt32) : (inconsistent k ts).headline =
      (.warning, "Inconsistent TTL values across record set") := rfl
  simp only [inconsistencies_eq, List.map_map, Function.comp_def, hline]
  exact subperm_map (mixed_keys_subperm h) _

namespace Audit

theorem apart_headlines (o : Options) (h : z'.Part z) (r : Record) :
    ((apart ⟨o, []⟩ z' r).map Diagnostic.headline).Sublist
      ((apart ⟨o, []⟩ z r).map Diagnostic.headline) := by
  have hrules : (((Kind.of? z'.domain r).elim [] fun k => Rule.run k.rules r z').map
        Diagnostic.headline).Sublist
      (((Kind.of? z.domain r).elim [] fun k => Rule.run k.rules r z).map Diagnostic.headline) := by
    rw [h.domain]
    cases Kind.of? z.domain r with
    | none => exact .slnil
    | some k => exact k.run_headlines h r
  have hadvice : advisories ⟨o, []⟩ z' r = advisories ⟨o, []⟩ z r := rfl
  have hcustom : custom ⟨o, []⟩ z' r = custom ⟨o, []⟩ z r := rfl
  simp only [apart, hadvice, hcustom, List.map_append]
  exact (hrules.append (.refl _)).append (.refl _)

/-- The looks that are left hear some of what all looks heard. -/
theorem answers_looks_subperm (h : z'.Part z) (t : Mx.Tracker) :
    ((t.answers (looks z' z'.records)).filterMap id).Subperm
      ((t.answers (looks z z.records)).filterMap id) := by
  by_cases ht : Mx.tracked z'
  · have htracked : Mx.tracked z' = Mx.tracked z := by rw [ht, Mx.tracked_of_part h ht]
    have hlooks : (looks z z'.records).Sublist (looks z z.records) := (h.records.filter _).map _
    rw [answers_looks_congr htracked]
    exact subperm_filterMap (Mx.Tracker.answers_subperm hlooks t) id
  · have hsilent : (t.answers (looks z' z'.records)).filterMap id = [] :=
      answers_looks_untracked (by simpa using ht) t z'.records
    rw [hsilent]
    exact List.nil_subperm

/-- A walk through the records that are left finds no more headlines. -/
theorem walk_headlines (o : Options) (h : z'.Part z) :
    ((walk ⟨o, []⟩ z' 0 {} z'.records).map Diagnostic.headline).Subperm
      ((walk ⟨o, []⟩ z 0 {} z.records).map Diagnostic.headline) := by
  have hparts (w : Zone) := walk_map_perm (f := Diagnostic.headline) (fun _ => rfl) ⟨o, []⟩ w 0 {}
    w.records
  have hanswers := subperm_map (answers_looks_subperm h {}) Diagnostic.headline
  have hapart : (z'.records.flatMap fun r => (apart ⟨o, []⟩ z' r).map Diagnostic.headline).Sublist
      (z.records.flatMap fun r => (apart ⟨o, []⟩ z r).map Diagnostic.headline) :=
    (List.Sublist.flatMap_right _ fun r _ => apart_headlines o h r).trans (h.records.flatMap _)
  exact (hparts z').subperm.trans ((hanswers.append hapart.subperm).trans (hparts z).symm.subperm)

/-- The checks of the zone find no more headlines if the whole zone is known as before. -/
theorem onZone_headlines (o : Options) (h : z'.Part z) (hw : z'.whole = z.whole) :
    ((onZone ⟨o, []⟩ z').map Diagnostic.headline).Subperm
      ((onZone ⟨o, []⟩ z).map Diagnostic.headline) := by
  have hcoverage : Caa.coverage z' = Caa.coverage z := Caa.coverage_congr (hw ▸ List.Perm.refl _)
  have hchecks := Covered.headlines (.cons (Soa.multiple_covered h) (.cons (Dmarc.multiple_covered h)
    (.cons (Dmarc.missing_covered h hw) (.cons (.of_eq hcoverage) .nil))))
  rw [onZone, onZone, List.map_append, List.map_append]
  apply hchecks.subperm.append
  split
  · exact Ttl.inconsistencies_headlines h.records
  · exact List.nil_subperm

/-- The checks of the zone find errors only where there is more than one record of what there should
be one. -/
theorem onZone_errors (a : Audit) (z : Zone) :
    (a.onZone z).filter Diagnostic.isError =
      [Soa.multiple (z.records.countP (·.type = .soa)),
        Dmarc.multiple (z.records.countP (Dmarc.isDomainPolicy · z.domain))].filterMap id := by
  have hsoa (n : Nat) : (Soa.multiple n).filter Diagnostic.isError = Soa.multiple n := by
    unfold Soa.multiple
    split <;> rfl
  have hdmarc (n : Nat) : (Dmarc.multiple n).filter Diagnostic.isError = Dmarc.multiple n := by
    unfold Dmarc.multiple
    split <;> rfl
  have hmissing : (Dmarc.missing z).filter Diagnostic.isError = none := by
    unfold Dmarc.missing
    split <;> rfl
  have hcoverage : (Caa.coverage z).filter Diagnostic.isError = none := by
    unfold Caa.coverage
    split <;> rfl
  have htimes : (if a.options.checkBestPractices then Ttl.inconsistencies z.records else []).filter
      Diagnostic.isError = [] := by
    split
    · rw [Ttl.inconsistencies_eq, List.filter_eq_nil_iff]
      intro d hd
      obtain ⟨k, -, rfl⟩ := List.mem_map.1 hd
      simp [Ttl.inconsistent, Diagnostic.isError, Diagnostic.warning, Diagnostic.of, Diagnostic.note]
    · rfl
  rw [onZone, List.filter_append, htimes, List.append_nil, List.filter_filterMap]
  simp [List.filterMap_cons, hsoa, hdmarc, hmissing, hcoverage]

/-- What is left of a zone has no more errors, whether the whole zone is known or not. -/
theorem error_headlines (o : Options) (h : z'.Part z) :
    (((findings ⟨o, []⟩ z').filter Diagnostic.isError).map Diagnostic.headline).Subperm
      (((findings ⟨o, []⟩ z).filter Diagnostic.isError).map Diagnostic.headline) := by
  have hline (ds : List Diagnostic) : (ds.filter Diagnostic.isError).map Diagnostic.headline =
      (ds.map Diagnostic.headline).filter (·.1 = .error) := by
    rw [List.filter_map]
    rfl
  have hwalk := (walk_headlines o h).filter (·.1 = .error)
  have hsurplus := Covered.headlines
    (.cons (Soa.multiple_covered h) (.cons (Dmarc.multiple_covered h) .nil))
  rw [← hline, ← hline] at hwalk
  rw [findings, findings, List.filter_append, List.filter_append, onZone_errors, onZone_errors,
    List.map_append, List.map_append]
  exact hwalk.append hsurplus.subperm

/-- With the whole zone known as before, a report on what is left has no more headlines. -/
theorem report_headlines (o : Options) (h : z'.Part z) (hw : z'.whole = z.whole) :
    ((Audit.report ⟨o, []⟩ z').diagnostics.map Diagnostic.headline).Subperm
      ((Audit.report ⟨o, []⟩ z).diagnostics.map Diagnostic.headline) := by
  let a : Audit := ⟨o, []⟩
  have hfindings : ((a.findings z').map Diagnostic.headline).Subperm
      ((a.findings z).map Diagnostic.headline) := by
    rw [findings, findings, List.map_append, List.map_append]
    exact (walk_headlines o h).append (onZone_headlines o h hw)
  let raiseLine (line : Severity × String) : Severity × String := (a.raiseSeverity line.1, line.2)
  have hraise : Diagnostic.headline ∘ a.raise = raiseLine ∘ Diagnostic.headline := by
    funext d
    rw [Function.comp_apply, raise_eq]
    rfl
  have hreport (w : Zone) : ((a.report w).diagnostics.map Diagnostic.headline).Perm
      (((a.findings w).map Diagnostic.headline).map raiseLine) := by
    rw [report_eq_ofList, List.map_map, ← hraise, ← List.map_map]
    exact (Report.diagnostics_ofList_perm _).map _
  exact (hreport z').subperm.trans
    ((subperm_map hfindings raiseLine).trans (hreport z).symm.subperm)

end Audit

namespace Report

/-- How often a headline stands in a report. -/
theorem countP_headline (r : Report) (s : Severity) (message : String) :
    r.diagnostics.countP (fun d => d.severity = s ∧ d.message = message) =
      (r.diagnostics.map Diagnostic.headline).count (s, message) := by
  rw [List.count, List.countP_map]
  apply List.countP_congr
  intro d _
  simp [Diagnostic.headline]

theorem count_headline (r : Report) (s : Severity) :
    r.count s = (r.diagnostics.map Diagnostic.headline).countP (·.1 = s) := by
  rw [List.countP_map]
  rfl

end Report

namespace Audit

/-- Removing records never introduces a problem in a full zone that stays known, nor an error in a
lenient audit of the records alone. -/
theorem report_sublist (o : Options) (domain : String) {rs' rs : List Record}
    (h : rs'.Sublist rs) :
    (∀ all : List Record,
      let left := Audit.report ⟨o, []⟩ ⟨domain, rs', some all⟩
      let before := Audit.report ⟨o, []⟩ ⟨domain, rs, some all⟩
      (∀ (s : Severity) (message : String),
        left.diagnostics.countP (fun d => d.severity = s ∧ d.message = message) ≤
          before.diagnostics.countP (fun d => d.severity = s ∧ d.message = message)) ∧
      (before.isValid → left.isValid)) ∧
    (o.strict = false →
      let left := Audit.report ⟨o, []⟩ ⟨domain, rs', none⟩
      let before := Audit.report ⟨o, []⟩ ⟨domain, rs, none⟩
      (∀ message : String, left.errors.countP (·.message = message) ≤
        before.errors.countP (·.message = message)) ∧
      (before.isValid → left.isValid)) := by
  constructor
  · intro all left before
    have hlines : (left.diagnostics.map Diagnostic.headline).Subperm
        (before.diagnostics.map Diagnostic.headline) :=
      report_headlines o (.of_full domain h all) rfl
    constructor
    · intro s message
      rw [Report.countP_headline, Report.countP_headline]
      exact hlines.count_le _
    · apply Report.isValid_of_count_le (Report.sound_zone _ _) (Report.sound_zone _ _)
      rw [Report.count_headline, Report.count_headline]
      exact hlines.countP_le _
  · intro hlenient left before
    let a : Audit := ⟨o, []⟩
    have herrors (w : Zone) : (a.report w).errors = (a.findings w).filter Diagnostic.isError := by
      have hraise : a.raise = id := by
        funext d
        simp [raise, a, hlenient]
      rw [report_eq_ofList, hraise, List.map_id]
      rfl
    have hlines : (left.errors.map Diagnostic.headline).Subperm
        (before.errors.map Diagnostic.headline) := by
      rw [herrors, herrors]
      exact error_headlines o (.of_bare domain h)
    constructor
    · intro message
      have hcount := hlines.countP_le (·.2 = message)
      rw [List.countP_map, List.countP_map] at hcount
      exact hcount
    · apply Report.isValid_of_count_le (Report.sound_zone _ _) (Report.sound_zone _ _)
      rw [(Report.sound_zone _ _).count_error, (Report.sound_zone _ _).count_error]
      simpa using hlines.length_le

/-- Without its policy and one of two exchanges of a priority, a zone has no repetition left; if
nothing else is known, it misses the policy, but is valid. -/
theorem report_sublist_without_policy :
    let mx : Record := ⟨.mx, "example.com", 3600, "10 mail.example.net"⟩
    let mx' : Record := ⟨.mx, "example.com", 7200, "10 relay.example.net"⟩
    let policy : Record := ⟨.txt, "_dmarc.example.com", 3600, "v=DMARC1; p=reject"⟩
    let rs := [mx, mx', policy]
    let o : Options := ⟨false, true⟩
    let report (rs : List Record) (all : Option (List Record)) :=
      Audit.report ⟨o, []⟩ ⟨"example.com", rs, all⟩
    let repeated (d : Diagnostic) : Prop :=
      d.severity = .warning ∧ d.message = "Duplicate MX priority found"
    [mx'].Sublist rs ∧ o.strict = false ∧
    (report [mx'] (some rs)).diagnostics.countP (fun d => repeated d) ≤
      (report rs (some rs)).diagnostics.countP (fun d => repeated d) ∧
    (report rs (some rs)).isValid ∧ (report [mx'] (some rs)).isValid ∧
    (report rs none).isValid ∧ (report [mx'] none).isValid ∧
    (report rs none).hasMessage "No DMARC record found at _dmarc subdomain" = false ∧
    (report [mx'] none).hasMessage "No DMARC record found at _dmarc subdomain" = true := by
  intro mx mx' policy rs o report repeated
  have h : [mx'].Sublist rs := by decide
  obtain ⟨hfull, hbare⟩ := report_sublist o "example.com" h
  obtain ⟨hcount, hvalid⟩ := hfull rs
  have hbefore : (report rs (some rs)).isValid := by decide +kernel
  have hbefore' : (report rs none).isValid := by decide +kernel
  exact ⟨h, rfl, hcount .warning "Duplicate MX priority found", hbefore, hvalid hbefore, hbefore',
    (hbare rfl).2 hbefore', by decide +kernel, by decide +kernel⟩

/-- In a strict audit that knows no more of the zone, the policy that is missed is an error. -/
example :
    let mx : Record := ⟨.mx, "example.com", 3600, "10 mail.example.net"⟩
    let policy : Record := ⟨.txt, "_dmarc.example.com", 3600, "v=DMARC1; p=reject"⟩
    (Audit.report ⟨⟨true, false⟩, []⟩ ⟨"example.com", [mx, policy], none⟩).isValid = true ∧
      (Audit.report ⟨⟨true, false⟩, []⟩ ⟨"example.com", [mx], none⟩).isValid = false := by
  decide +kernel

end Audit
end ZoneAudit
