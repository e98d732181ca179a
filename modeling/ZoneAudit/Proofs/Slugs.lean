import Mathlib.Data.List.SplitBy
import ZoneAudit.Proofs.Aggregation
import ZoneAudit.Proofs.SmallLetters

/-!
Codes of findings. The code of a finding is the slug of its message, and nothing that becomes of a
finding on its way into a report touches either of them: neither details, nor a position, nor a
raised severity. A slug is the message in lower case with one underscore for each run of blanks.
Lower case makes no blanks and leaves small letters as they are, so the slug of a slug is that slug.
-/

namespace ZoneAudit
open Text

namespace Text

/-- The runs of blanks and of other characters in a text, each as long as it can be. -/
def runs (s : List Char) : List (List Char) := s.splitBy fun c d => isBlank c == isBlank d

/-- A run of blanks as one underscore, and any other run as it is. -/
def joinRun (run : List Char) : List Char := if run.all isBlank then ['_'] else run

variable {s w gap : List Char} {c : Char}

/-! Runs one by one. -/

theorem joinRun_gap (hgap : IsGap gap) : joinRun gap = ['_'] := if_pos (List.all_eq_true.2 hgap)

theorem joinRun_word (hw : IsWord w) : joinRun w = w := by
  obtain ⟨c, r, rfl⟩ := List.exists_cons_of_ne_nil hw.ne_nil
  have hc : isBlank c = false := hw.not_blank c List.mem_cons_self
  simp [joinRun, hc]

theorem joinBlanks_word_append (hw : ∀ c ∈ w, isBlank c = false) (s : List Char) :
    joinBlanks (w ++ s) = w ++ joinBlanks s := by
  induction w with
  | nil => rfl
  | cons c w ih =>
    rw [List.forall_mem_cons] at hw
    rw [List.cons_append, List.cons_append, ← ih hw.2]
    cases w ++ s with
    | nil => simp [joinBlanks, hw.1]
    | cons d r => simp [joinBlanks, hw.1]

/-- Blanks up to something else, or up to the end, are joined. -/
theorem joinBlanks_gap_append (hgap : IsGap gap) (hne : gap ≠ [])
    (hs : ∀ c ∈ s.head?, isBlank c = false) : joinBlanks (gap ++ s) = '_' :: joinBlanks s := by
  induction gap with
  | nil => exact absurd rfl hne
  | cons b gap ih =>
    rw [IsGap, List.forall_mem_cons] at hgap
    cases gap with
    | nil =>
      cases s with
      | nil => simp [joinBlanks, hgap.1]
      | cons c s => simp [joinBlanks, hgap.1, hs c rfl]
    | cons b' gap =>
      have hnext : isBlank b' := hgap.2 b' List.mem_cons_self
      rw [← ih hgap.2 (List.cons_ne_nil _ _)]
      simp [joinBlanks, hgap.1, hnext]

/-- Neighbours that are alike are all blanks or all others. -/
theorem isGap_or_isWord {run : List Char} (hne : run ≠ [])
    (h : run.IsChain fun c d => isBlank c == isBlank d) : IsGap run ∨ IsWord run := by
  induction run with
  | nil => exact absurd rfl hne
  | cons c run ih =>
    cases run with
    | nil =>
      cases hc : isBlank c with
      | true => exact .inl (List.forall_mem_singleton.2 hc)
      | false => exact .inr ⟨hne, List.forall_mem_singleton.2 hc⟩
    | cons d run =>
      rw [List.isChain_cons_cons, beq_iff_eq] at h
      obtain hgap | hword := ih (List.cons_ne_nil _ _) h.2
      · exact .inl (List.forall_mem_cons.2 ⟨h.1.trans (hgap d List.mem_cons_self), hgap⟩)
      · have hc := h.1.trans (hword.not_blank d List.mem_cons_self)
        exact .inr ⟨hne, List.forall_mem_cons.2 ⟨hc, hword.not_blank⟩⟩

theorem joinBlanks_flatten {rs : List (List Char)}
    (hruns : ∀ run ∈ rs, run ≠ [] ∧ (IsGap run ∨ IsWord run))
    (hparted : rs.IsChain fun a b => ∃ ha hb, (isBlank (a.getLast ha) == isBlank (b.head hb)) = false) :
    joinBlanks rs.flatten = rs.flatMap joinRun := by
  induction rs with
  | nil => rfl
  | cons run rs ih =>
    rw [List.forall_mem_cons] at hruns
    rw [List.flatten_cons, List.flatMap_cons, ← ih hruns.2 hparted.tail]
    obtain ⟨hrun, hgap | hword⟩ := hruns.1
    · have hnext : ∀ c ∈ rs.flatten.head?, isBlank c = false := by
        cases rs with
        | nil => exact fun c hc => absurd hc (Option.not_mem_none c)
        | cons next rs =>
          obtain ⟨hrun, hnext, hne⟩ := (List.isChain_cons_cons.1 hparted).1
          rw [List.flatten_cons, List.head?_append_of_ne_nil _ hnext, List.head?_eq_some_head hnext]
          rintro c ⟨⟩
          have hlast : isBlank (run.getLast hrun) = true := hgap _ (List.getLast_mem hrun)
          simpa [hlast] using hne
      rw [joinRun_gap hgap, joinBlanks_gap_append hgap hrun hnext, List.singleton_append]
    · rw [joinRun_word hword, joinBlanks_word_append hword.not_blank]

theorem joinBlanks_eq (s : List Char) : joinBlanks s = (runs s).flatMap joinRun := by
  obtain ⟨hflatten, hne, hchain, hparted⟩ := List.splitBy_eq_iff.1 (rfl : s.splitBy _ = runs s)
  have hruns : ∀ run ∈ runs s, run ≠ [] ∧ (IsGap run ∨ IsWord run) := by
    intro run hrun
    have hnil := ne_of_mem_of_not_mem hrun hne
    exact ⟨hnil, isGap_or_isWord hnil (hchain run hrun)⟩
  conv_lhs => rw [hflatten]
  exact joinBlanks_flatten hruns hparted

theorem mem_joinBlanks (hc : c ∈ joinBlanks s) : c = '_' ∨ c ∈ s ∧ isBlank c = false := by
  fun_induction joinBlanks s <;> grind

theorem isBlank_of_mem_slug {m : String} (hc : c ∈ (slug m).toList) : isBlank c = false := by
  rw [slug, String.toList_ofList] at hc
  obtain rfl | ⟨-, hblank⟩ := mem_joinBlanks hc
  · rfl
  · exact hblank

/-- A slug is in lower case and has no blanks, so that nothing is left to be done. -/
theorem slug_slug (m : String) : slug (slug m) = slug m := by
  have hsmall : ∀ c ∈ (slug m).toList, small c = [c] := by
    intro c hc
    rw [slug, String.toList_ofList] at hc
    obtain rfl | ⟨hlower, -⟩ := mem_joinBlanks hc
    · decide
    · exact small_of_mem_lower hlower
  have hjoin := joinBlanks_word_append (w := (slug m).toList) (fun c => isBlank_of_mem_slug) []
  rw [List.append_nil] at hjoin
  rw [slug, lower, lowerAfter_of_small hsmall, hjoin]
  simp [joinBlanks]

end Text

/-- The code of the finding is the slug of its message. -/
def Diagnostic.Coded (d : Diagnostic) : Prop := d.code = slug d.message

/-- Every finding of the rule has the slug of its message for its code. -/
def Rule.Coded (rule : Rule) : Prop := ∀ r z, ∀ d ∈ rule r z, d.Coded

/-- The findings of the built-in checks, on records, in sets and in zones, whatever the switches, if
added rules code their findings in the same way. -/
inductive Diagnostic.Found : Diagnostic → Prop
  | rule {k : Kind} {rule : Rule} {r : Record} {z : Zone} {d : Diagnostic} (hrule : rule ∈ k.rules)
      (hd : d ∈ rule r z) : Found d
  | advice {rule : Rule} {r : Record} {z : Zone} {d : Diagnostic}
      (hrule : rule ∈ [Soa.serialFormat, Ttl.range]) (hd : d ∈ rule r z) : Found d
  | look {t : Mx.Tracker} {r : Record} {z : Zone} {d : Diagnostic} (hd : d ∈ (t.check r z).1) : Found d
  | times {rs : List Record} {d : Diagnostic} (hd : d ∈ Ttl.inconsistencies rs) : Found d
  | record {k : Kind} {r : Record} {z : Zone} {d : Diagnostic}
      (hd : d ∈ (k.report r z).diagnostics) : Found d
  | time {r : Record} {z : Zone} {d : Diagnostic} (hd : d ∈ (Ttl.report r z).diagnostics) : Found d
  | set {c : SetCheck} {rs : List Record} {z : Zone} {d : Diagnostic}
      (hd : d ∈ (c.reportAll rs z).diagnostics) : Found d
  | zone {a : Audit} {z : Zone} {d : Diagnostic} (hadded : ∀ added ∈ a.customRules, added.2.Coded)
      (hd : d ∈ (a.report z).diagnostics) : Found d

/-! Codes survive what becomes of a finding. -/

theorem Rule.Fresh.coded {rule : Rule} (h : rule.Fresh) : rule.Coded := fun r z d hd => (h r z d hd).code

theorem Rule.coded_of_mem_run {rules : List Rule} (h : ∀ rule ∈ rules, rule.Coded) {r : Record}
    {z : Zone} {d : Diagnostic} (hd : d ∈ run rules r z) : d.Coded := by
  obtain ⟨rule, hrule, hr⟩ := List.mem_filterMap.1 hd
  exact h rule hrule r z d hr

theorem advice_coded : ∀ rule ∈ [Soa.serialFormat, Ttl.range], rule.Coded := by
  simp only [List.forall_mem_cons]
  exact ⟨(Soa.serialFormat_reports.fresh Soa.Fault.fresh).coded, Ttl.range_fresh.coded,
    List.forall_mem_nil _⟩

theorem Kind.rules_coded (k : Kind) : ∀ rule ∈ k.rules, rule.Coded :=
  fun rule hrule => (k.rules_fresh rule hrule).coded

theorem Mx.Tracker.check_coded (t : Mx.Tracker) (r : Record) (z : Zone) :
    ∀ d ∈ (t.check r z).1, d.Coded :=
  fun d hd => ((t.check_reports r z).fresh Mx.Fault.fresh d hd).code

namespace SetCheck

theorem onRecord_coded (c : SetCheck) (z : Zone) (before : List Record) (r : Record) :
    ∀ d ∈ c.onRecord z before r, d.Coded := by
  intro d hd
  cases c with
  | times => exact Rule.coded_of_mem_run (List.forall_mem_singleton.2 Ttl.range_fresh.coded) hd
  | kind k =>
    by_cases hk : k = .mx
    · subst hk
      rcases List.mem_append.1 hd with hd | hd
      · exact Mx.Tracker.check_coded _ r z d (Option.mem_toList.1 hd)
      · exact Rule.coded_of_mem_run Kind.mx.rules_coded hd
    · have hrules : (kind k).onRecord z before r = Rule.run k.rules r z := by
        cases k with
        | mx => exact absurd rfl hk
        | cname | soa | spf | dmarc | srv | caa => rfl
      exact Rule.coded_of_mem_run k.rules_coded (hrules ▸ hd)

theorem onSet_coded (c : SetCheck) (rs : List Record) : ∀ d ∈ c.onSet rs, d.Coded := by
  intro d hd
  cases c with
  | times => exact (Ttl.inconsistencies_fresh rs d hd).code
  | kind k =>
    cases k with
    | soa => exact ((Soa.multiple_reports _).fresh Soa.Fault.fresh d (Option.mem_toList.1 hd)).code
    | dmarc =>
      exact ((Dmarc.multiple_reports _).fresh Dmarc.Fault.fresh d (Option.mem_toList.1 hd)).code
    | cname | mx | spf | srv | caa => exact absurd hd List.not_mem_nil

theorem report_eq_onRecord (k : Kind) (r : Record) (z : Zone) :
    k.report r z = .ofList ((kind k).onRecord z [] r) := by
  cases k <;> rfl

end SetCheck

namespace Audit

variable {a : Audit}

/-- What best practices add comes of two rules. -/
theorem exists_of_mem_advisories {r : Record} {z : Zone} {d : Diagnostic}
    (hd : d ∈ a.advisories z r) : ∃ rule ∈ [Soa.serialFormat, Ttl.range], d ∈ rule r z := by
  unfold advisories at hd
  split at hd
  · rcases List.mem_append.1 hd with hd | hd
    · split at hd
      · exact ⟨Soa.serialFormat, List.mem_cons_self, Option.mem_toList.1 hd⟩
      · exact absurd hd List.not_mem_nil
    · obtain ⟨rule, hrule, hd⟩ := List.mem_filterMap.1 hd
      exact ⟨rule, List.mem_cons_of_mem _ hrule, hd⟩
  · exact absurd hd List.not_mem_nil

theorem onRecord_coded (hadded : ∀ added ∈ a.customRules, added.2.Coded) (z : Zone) (t : Mx.Tracker)
    (r : Record) : ∀ d ∈ a.onRecord z t r, d.Coded := by
  intro d hd
  rcases List.mem_append.1 hd with hd | hd
  · rcases List.mem_append.1 hd with hd | hd
    · exact (builtin_fresh z t r d hd).code
    · obtain ⟨rule, hrule, hd⟩ := exists_of_mem_advisories hd
      exact advice_coded rule hrule r z d hd
  · refine Rule.coded_of_mem_run (fun rule hrule => ?_) hd
    obtain ⟨added, hmem, rfl⟩ := List.mem_map.1 hrule
    exact hadded added (List.mem_filter.1 hmem).1

theorem findings_coded (hadded : ∀ added ∈ a.customRules, added.2.Coded) (z : Zone) :
    ∀ d ∈ a.findings z, d.Coded := by
  intro d hd
  rcases List.mem_append.1 hd with hd | hd
  · obtain ⟨i, r, t, -, e, he, rfl⟩ := exists_of_mem_walk hd
    exact onRecord_coded hadded z t r e he
  · exact (a.onZone_fresh z d hd).code

end Audit

theorem Report.coded_of_mem_ofList {ds : List Diagnostic} (h : ∀ d ∈ ds, d.Coded) {d : Diagnostic}
    (hd : d ∈ (ofList ds).diagnostics) : d.Coded :=
  h d ((diagnostics_ofList_perm ds).mem_iff.1 hd)

theorem Diagnostic.Found.coded {d : Diagnostic} (h : d.Found) : d.Coded := by
  cases h with
  | @rule k rule r z d hrule hd => exact k.rules_coded rule hrule r z d hd
  | @advice rule r z d hrule hd => exact advice_coded rule hrule r z d hd
  | @look t r z d hd => exact t.check_coded r z d hd
  | @times rs d hd => exact (Ttl.inconsistencies_fresh rs d hd).code
  | @record k r z d hd =>
    rw [SetCheck.report_eq_onRecord] at hd
    exact Report.coded_of_mem_ofList (SetCheck.onRecord_coded _ z [] r) hd
  | @time r z d hd => exact Report.coded_of_mem_ofList (SetCheck.times.onRecord_coded z [] r) hd
  | @set c rs z d hd =>
    rw [c.reportAll_eq] at hd
    refine Report.coded_of_mem_ofList (fun e he => ?_) hd
    rcases List.mem_append.1 he with he | he
    · obtain ⟨found, hfound, he⟩ := List.mem_flatten.1 he
      obtain ⟨i, hi, rfl⟩ := List.mem_mapIdx.1 hfound
      exact c.onRecord_coded z (rs.take i) rs[i] e he
    · exact c.onSet_coded rs e he
  | @zone a z d hadded hd =>
    rw [a.report_eq_ofList] at hd
    refine Report.coded_of_mem_ofList (List.forall_mem_map.2 fun e he => ?_) hd
    rw [Audit.raise_eq]
    exact Audit.findings_coded hadded z e he

/-- Every finding of a built-in check has the slug of its message for its code, and a slug is the
message in lower case with its blanks underscored. -/
theorem codes_are_slugs :
    (∀ d : Diagnostic, d.Found → d.code = slug d.message) ∧
    ∀ message : String,
      (∀ c ∈ (slug message).toList, isBlank c = false) ∧
      (slug message).toList = (runs (lower message.toList)).flatMap joinRun ∧
      slug (slug message) = slug message := by
  refine ⟨fun d => Diagnostic.Found.coded, fun message => ⟨fun c => isBlank_of_mem_slug, ?_,
    slug_slug message⟩⟩
  rw [slug, String.toList_ofList, joinBlanks_eq]

/-- A strict audit of a policy with capitals in its text, the last one a final sigma, and with a
warning that is raised. -/
theorem codes_are_slugs_strict :
    let r : Record := ⟨.txt, "example.com", 3600, "v=spf1 ip4:ΑΣ"⟩
    let z : Zone := ⟨"example.com", [r], none⟩
    let errors := (Audit.report ⟨{ strict := true }, []⟩ z).errors
    errors.map (·.message) = ["SPF record should end with an 'all' mechanism",
      "Invalid IPv4 address or CIDR in SPF record: ΑΣ",
      "No DMARC record found at _dmarc subdomain"] ∧
    (∀ d ∈ errors, d.Found ∧ d.code = slug d.message) ∧
    'ς' ∈ (slug "\t ΑΣ\u00a0\n").toList ∧ isBlank 'ς' = false ∧ slug "\t ΑΣ\u00a0\n" = "_ας_" := by
  intro r z errors
  obtain ⟨hcodes, hslugs⟩ := codes_are_slugs
  have hfinal : 'ς' ∈ (slug "\t ΑΣ\u00a0\n").toList := by decide +kernel
  refine ⟨by decide +kernel, fun d hd => ?_, hfinal, (hslugs _).1 _ hfinal, by decide +kernel⟩
  have hfound : d.Found := .zone (List.forall_mem_nil _) (List.mem_append_left _ hd)
  exact ⟨hfound, hcodes d hfound⟩

end ZoneAudit
