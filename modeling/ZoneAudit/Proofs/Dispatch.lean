import Mathlib.Data.List.Basic
import Mathlib.Logic.ExistsUnique
import ZoneAudit.Proofs.Walk

/-!
An audit walks through records of all kinds, while a report of a set is made for records of one
kind. Restricted to the records of a kind, the walk finds what the report of their set finds:
records of other kinds never touch the tracker, and the position is all that the walk adds.
-/

namespace ZoneAudit

/-- The records under audit that are of a kind, in their order. -/
def Zone.ofKind (z : Zone) (k : Kind) : List Record := z.records.filter (k.governs z.domain)

/-- They are the records that an audit sends to the rules of the kind. -/
theorem Zone.ofKind_eq (z : Zone) (k : Kind) :
    z.ofKind k = z.records.filter (Kind.of? z.domain · = some k) := by
  simp only [ofKind, Kind.of?_eq_some_iff, Bool.decide_eq_true]

/-- Whether a finding stands at the position of a record of a kind. -/
def Diagnostic.concerns (z : Zone) (k : Kind) (d : Diagnostic) : Bool :=
  (d.recordIndex.bind (z.records[·]?)).any (z.ofKind k).contains

/-- The findings that the report of a set of a given size has besides those on its records. -/
def Kind.surplus : Kind → Nat → List Diagnostic
  | .soa, n => (Soa.multiple n).toList
  | .dmarc, n => (Dmarc.multiple n).toList
  | _, _ => []

/-- A surplus of records is always an error. -/
theorem Kind.isError_of_mem_surplus {k : Kind} {n : Nat} {d : Diagnostic} (hd : d ∈ k.surplus n) :
    d.isError := by
  cases k with
  | soa =>
    obtain ⟨-, rfl⟩ := by simpa [Kind.surplus, Soa.multiple] using hd
    rfl
  | dmarc =>
    obtain ⟨-, rfl⟩ := by simpa [Kind.surplus, Dmarc.multiple] using hd
    rfl
  | cname | mx | spf | srv | caa => simp [Kind.surplus] at hd

namespace Audit

/-- Records of a kind other than exchanges are each checked on their own. -/
theorem batches_of_kind {z : Zone} {k : Kind} (hk : k ≠ .mx) {rs : List Record}
    (h : ∀ r ∈ rs, Kind.of? z.domain r = some k) (t : Mx.Tracker) :
    ({} : Audit).batches z t rs = rs.map (Rule.run k.rules · z) := by
  induction rs generalizing t with
  | nil => rfl
  | cons r rs ih =>
    have hr : Kind.of? z.domain r = some k := h r (by simp)
    have hrs : ∀ s ∈ rs, Kind.of? z.domain s = some k := fun s hs => h s (by simp [hs])
    rw [batches, onRecord_default, builtin_of_kind hr hk, ih hrs, List.map_cons]

/-- Exchanges alone are checked as the set of exchanges is. -/
theorem batches_of_mx {z : Zone} {rs : List Record}
    (h : ∀ r ∈ rs, Kind.of? z.domain r = some .mx) (t : Mx.Tracker) :
    (({} : Audit).batches z t rs).map Report.ofList = Mx.reportsFrom t z rs := by
  induction rs generalizing t with
  | nil => rfl
  | cons r rs ih =>
    have hr : Kind.of? z.domain r = some .mx := h r (by simp)
    have hrs : ∀ s ∈ rs, Kind.of? z.domain s = some .mx := fun s hs => h s (by simp [hs])
    have ht : trackerAfter z t r = (t.check r z).2 := by
      simp [trackerAfter, Kind.of?_eq_mx.1 hr]
    rw [batches, onRecord_default, builtin_of_mx hr, List.map_cons, ht, ih hrs, Mx.reportsFrom]

end Audit

/-- Sets of records other than exchanges are reported record by record, and then as a whole. -/
theorem Kind.reportAll_of_ne_mx {k : Kind} (hk : k ≠ .mx) (rs : List Record) (z : Zone) :
    k.reportAll rs z =
      .ofList ((rs.map (Rule.run k.rules · z)).flatten ++ k.surplus rs.length) := by
  rw [← Report.foldl_push, ← Report.combine_ofList, List.map_map]
  cases k with
  | mx => exact absurd rfl hk
  | cname | soa | spf | dmarc | srv | caa => rfl

/-- The report of a set of records of one kind is that of their batches, and of its surplus. -/
theorem Kind.reportAll_eq {z : Zone} {k : Kind} {rs : List Record}
    (h : ∀ r ∈ rs, Kind.of? z.domain r = some k) :
    k.reportAll rs z =
      .ofList ((({} : Audit).batches z {} rs).flatten ++ k.surplus rs.length) := by
  by_cases hk : k = .mx
  · subst hk
    have hsurplus : Kind.mx.surplus rs.length = [] := rfl
    rw [hsurplus, List.append_nil, ← Report.combine_ofList, Audit.batches_of_mx h]
    rfl
  · rw [Kind.reportAll_of_ne_mx hk, Audit.batches_of_kind hk h]

namespace Audit

theorem concerns_atRecord {z : Zone} {k : Kind} {i : Nat} {r : Record} (hi : z.records[i]? = some r)
    (d : Diagnostic) : (d.atRecord i).concerns z k = decide (Kind.of? z.domain r = some k) := by
  have hr : r ∈ z.records := List.mem_of_getElem? hi
  simp [Diagnostic.concerns, hi, Zone.ofKind_eq, hr]

/-- A tracker that differs only where exchanges are not concerned gives the same batch. -/
theorem builtin_congr {z : Zone} {k : Kind} {r : Record} (hr : Kind.of? z.domain r = some k)
    {t u : Mx.Tracker} (h : k = .mx → t = u) : builtin z t r = builtin z u r := by
  by_cases hk : k = .mx
  · rw [h hk]
  · rw [builtin_of_kind hr hk, builtin_of_kind hr hk]

/-- What is found on a record concerns its own kind and no other. -/
theorem builtin_filter_concerns {z : Zone} {k : Kind} {i : Nat} {r : Record}
    (hi : z.records[i]? = some r) (t : Mx.Tracker) :
    (((builtin z t r).map (·.atRecord i)).filter (·.concerns z k)).map Diagnostic.unplaced =
      if Kind.of? z.domain r = some k then builtin z t r else [] := by
  split
  case isTrue hr =>
    have hfresh : (builtin z t r).map Diagnostic.unplaced = builtin z t r := by
      rw [List.map_congr_left fun d hd => (builtin_fresh z t r d hd).unplaced_eq, List.map_id']
    rw [List.filter_eq_self.2 (by simp [concerns_atRecord hi, hr]), List.map_map]
    exact hfresh
  case isFalse hr =>
    rw [List.filter_eq_nil_iff.2 (by simp [concerns_atRecord hi, hr]), List.map_nil]

/-- What the walk finds on the records of a kind is what a run over these alone finds, from trackers
that agree if the kind is that of exchanges. -/
theorem walk_filter_concerns {z : Zone} {k : Kind} {rs : List Record} {i : Nat} {t u : Mx.Tracker}
    (hrs : ∀ j, rs[j]? = z.records[i + j]?) (htu : k = .mx → t = u) :
    ((({} : Audit).walk z i t rs).filter (·.concerns z k)).map Diagnostic.unplaced =
      (({} : Audit).batches z u (rs.filter (Kind.of? z.domain · = some k))).flatten := by
  induction rs generalizing i t u with
  | nil => rfl
  | cons r rs ih =>
    have hi : z.records[i]? = some r := by simpa using (hrs 0).symm
    have hnext : ∀ j, rs[j]? = z.records[i + 1 + j]? := by
      intro j
      have h := hrs (j + 1)
      rw [List.getElem?_cons_succ] at h
      rw [h]
      congr 1
      omega
    rw [walk, onRecord_default, List.filter_append, List.map_append, builtin_filter_concerns hi]
    by_cases hr : Kind.of? z.domain r = some k
    · have hafter : k = .mx → trackerAfter z t r = trackerAfter z u r := by
        intro hk
        rw [htu hk]
      rw [if_pos hr, ih hnext hafter, List.filter_cons_of_pos (by simpa using hr), batches,
        onRecord_default, List.flatten_cons, builtin_congr hr htu]
    · have hafter : k = .mx → trackerAfter z t r = u := by
        rintro rfl
        rw [trackerAfter_of_ne_mx (mt Kind.of?_eq_mx.2 hr), htu rfl]
      rw [if_neg hr, ih hnext hafter, List.filter_cons_of_neg (by simpa using hr), List.nil_append]

/-- Findings on the zone as a whole concern no kind. -/
theorem onZone_filter_concerns (a : Audit) (z : Zone) (k : Kind) :
    (a.onZone z).filter (·.concerns z k) = [] := by
  rw [List.filter_eq_nil_iff]
  intro d hd
  simp [Diagnostic.concerns, (a.onZone_fresh z d hd).recordIndex]

/-- The simulation for one of the two lists of a report, which are told apart by severity alone. -/
theorem filter_findings_concerns (z : Zone) (k : Kind) {p : Diagnostic → Bool}
    (hp : ∀ d, p d.unplaced = p d) :
    (((({} : Audit).findings z).filter p).filter (·.concerns z k)).map Diagnostic.unplaced =
      (({} : Audit).batches z {} (z.ofKind k)).flatten.filter p := by
  have hwalk : ((({} : Audit).walk z 0 {} z.records).filter (·.concerns z k)).map
      Diagnostic.unplaced = (({} : Audit).batches z {} (z.ofKind k)).flatten := by
    rw [Zone.ofKind_eq]
    exact walk_filter_concerns (by simp) fun _ => rfl
  have hcomp : p ∘ Diagnostic.unplaced = p := funext hp
  rw [List.filter_comm, findings, List.filter_append, onZone_filter_concerns, List.append_nil,
    ← hwalk, List.filter_map, hcomp]

/-- A finding with a position stands at a record of exactly one kind. -/
theorem existsUnique_concerns {z : Zone} {d : Diagnostic} (hd : d ∈ ({} : Audit).findings z)
    (hplaced : d.recordIndex.isSome) : ∃! k, d.concerns z k := by
  rcases List.mem_append.1 hd with hd | hd
  · obtain ⟨j, r, u, hr, e, he, rfl⟩ := exists_of_mem_walk hd
    rw [onRecord_default] at he
    rw [Nat.zero_add]
    obtain ⟨k, hk⟩ : ∃ k, Kind.of? z.domain r = some k := by
      cases hk : Kind.of? z.domain r with
      | none => simp [builtin, hk] at he
      | some k => exact ⟨k, rfl⟩
    refine ⟨k, by simp [concerns_atRecord hr, hk], ?_⟩
    intro l hl
    simpa [concerns_atRecord hr, hk, eq_comm] using hl
  · simp [(onZone_fresh _ z d hd).recordIndex] at hplaced

/-- The kinds told by types and policies are those of the audit, and on each it finds what the
report of the set lists before its surplus. -/
theorem report_eq_reportAll (z : Zone) :
    let whole := ({} : Audit).report z
    (∀ (k : Kind) (r : Record), Kind.of? z.domain r = some k ↔ k.governs z.domain r) ∧
    (∀ k : Kind,
      let set := k.reportAll (z.ofKind k) z
      set.errors = (whole.errors.filter (·.concerns z k)).map Diagnostic.unplaced ++
        k.surplus (z.ofKind k).length ∧
      set.warnings = (whole.warnings.filter (·.concerns z k)).map Diagnostic.unplaced) ∧
    ∀ d ∈ whole.diagnostics, d.recordIndex.isSome → ∃! k, d.concerns z k := by
  intro whole
  have hwhole : whole = .ofList (({} : Audit).findings z) := by simp [whole, report]
  refine ⟨fun k r => Kind.of?_eq_some_iff, ?_, ?_⟩
  · intro k set
    have hset : set = .ofList ((({} : Audit).batches z {} (z.ofKind k)).flatten ++
        k.surplus (z.ofKind k).length) := Kind.reportAll_eq (by simp [Zone.ofKind_eq])
    have herrors : (k.surplus (z.ofKind k).length).filter Diagnostic.isError =
        k.surplus (z.ofKind k).length := List.filter_eq_self.2 fun d => Kind.isError_of_mem_surplus
    have hothers : (k.surplus (z.ofKind k).length).filter (!·.isError) = [] := by
      rw [List.filter_eq_nil_iff]
      intro d hd
      simp [Kind.isError_of_mem_surplus hd]
    rw [hset, hwhole]
    simp only [Report.ofList, List.filter_append]
    rw [filter_findings_concerns z k fun d => rfl, filter_findings_concerns z k fun d => rfl,
      herrors, hothers]
    exact ⟨rfl, List.append_nil _⟩
  · intro d hd hplaced
    rw [hwhole] at hd
    exact existsUnique_concerns ((Report.diagnostics_ofList_perm _).mem_iff.1 hd) hplaced

/-- A sender policy at the name of the domain policy is of the kind of domain policies, between two
exchanges and before a policy of a subdomain. -/
theorem report_eq_reportAll_misplaced :
    let sender : Record := ⟨.txt, "example.com", 3600, "v=spf1 -all"⟩
    let misplaced : Record := ⟨.txt, "_dmarc.example.com", 3600, "v=spf1 -all"⟩
    let lower : Record := ⟨.txt, "_dmarc.www.example.com", 3600, "v=DMARC1; p=reject"⟩
    let exchange (host : String) : Record := ⟨.mx, "example.com", 3600, "10 " ++ host⟩
    let z : Zone := ⟨"example.com",
      [sender, exchange "mail.example.net", misplaced, exchange "mail.example.org", lower], none⟩
    let whole := ({} : Audit).report z
    let d := Dmarc.Fault.malformed.diagnostic.atRecord 2
    z.ofKind .spf = [sender] ∧ z.ofKind .dmarc = [misplaced, lower] ∧
    z.ofKind .mx = [exchange "mail.example.net", exchange "mail.example.org"] ∧
    (Kind.dmarc.reportAll [misplaced, lower] z).errors =
      (whole.errors.filter (·.concerns z .dmarc)).map Diagnostic.unplaced ++
        (Dmarc.multiple 2).toList ∧
    (Kind.mx.reportAll (z.ofKind .mx) z).warnings =
      (whole.warnings.filter (·.concerns z .mx)).map Diagnostic.unplaced ∧
    d ∈ whole.diagnostics ∧ d.recordIndex.isSome ∧ ∃! k, d.concerns z k := by
  intro sender misplaced lower exchange z whole d
  obtain ⟨-, hsets, hkinds⟩ := report_eq_reportAll z
  have hpolicies : z.ofKind .dmarc = [misplaced, lower] := by decide +kernel
  have hd : d ∈ whole.diagnostics := by decide +kernel
  have herrors := (hsets .dmarc).1
  rw [hpolicies] at herrors
  exact ⟨by decide +kernel, hpolicies, by decide +kernel, herrors, (hsets .mx).2, hd, rfl,
    hkinds d hd rfl⟩

end Audit
end ZoneAudit
