import Mathlib.Data.List.Basic
import ZoneAudit.Audit

/-!
What rules see of a zone: its domain, what the whole zone and the full zone hold in whatever order,
and nothing else. Only the rules of aliases and of starts of authority look at the full zone, and
only those of sender policies at the whole zone.
-/

namespace ZoneAudit

variable {z w : Zone}

theorem Rule.run_congr {rules : List Rule} {r : Record} (h : ∀ rule ∈ rules, rule r z = rule r w) :
    Rule.run rules r z = Rule.run rules r w :=
  List.filterMap_congr h

theorem Mx.tracked_congr (h : z.whole.Perm w.whole) : Mx.tracked z = Mx.tracked w := by
  rw [Mx.tracked, Mx.tracked, h.countP_eq]

/-- The tracker sees of a zone whether priorities matter there. -/
theorem Mx.Tracker.check_zone_congr (h : Mx.tracked z = Mx.tracked w) (t : Mx.Tracker)
    (r : Record) : t.check r z = t.check r w := by
  rw [Mx.Tracker.check, Mx.Tracker.check, h]

theorem Zone.fullOfType_perm (h : z.fullRecords.Perm w.fullRecords) (t : RecordType) :
    (z.fullOfType t).Perm (w.fullOfType t) :=
  h.filter _

theorem Cname.conflicts_congr (h : z.fullRecords.Perm w.fullRecords) (name : String) :
    Cname.conflicts name z = Cname.conflicts name w := by
  apply List.filter_congr
  intro t _
  rw [(Zone.fullOfType_perm h t).any_eq]

theorem Soa.nameServers_perm (h : z.fullRecords.Perm w.fullRecords) :
    (Soa.nameServers z).Perm (Soa.nameServers w) :=
  (Zone.fullOfType_perm h .ns).map _

theorem Soa.primary_congr (h : z.fullRecords.Perm w.fullRecords) (r : Record) :
    Soa.primary r z = Soa.primary r w := by
  have hn := Soa.nameServers_perm h
  have hnil : Soa.nameServers z = [] ↔ Soa.nameServers w = [] := by
    constructor
    · intro hz
      exact List.perm_nil.1 (hz ▸ hn.symm)
    · intro hw
      exact List.perm_nil.1 (hw ▸ hn)
  simp only [Soa.primary, Soa.onBody, hnil, hn.contains_eq]

theorem Spf.multiple_congr (h : z.whole.countP Spf.isPolicy = w.whole.countP Spf.isPolicy)
    (r : Record) : Spf.multiple r z = Spf.multiple r w := by
  rw [Spf.multiple, Spf.multiple, h]

theorem Dmarc.missing_congr (hd : z.domain = w.domain) (hr : z.records.Perm w.records)
    (hw : z.whole.Perm w.whole) : Dmarc.missing z = Dmarc.missing w := by
  rw [Dmarc.missing, Dmarc.missing, hd, hr.any_eq, hw.any_eq]

theorem Caa.coverage_congr (h : z.whole.Perm w.whole) : Caa.coverage z = Caa.coverage w := by
  simp only [Caa.coverage, h.any_eq]

/-- A rule sees the same in zones with the same domain, as many sender policies and the same full
zone in any order. -/
theorem Kind.rule_congr (k : Kind) (hd : z.domain = w.domain)
    (hw : k = .spf → z.whole.countP Spf.isPolicy = w.whole.countP Spf.isPolicy)
    (hf : k = .cname ∨ k = .soa → z.fullRecords.Perm w.fullRecords) (r : Record) :
    ∀ rule ∈ k.rules, rule r z = rule r w := by
  intro rule hrule
  cases k with
  | cname =>
    simp only [Kind.rules, Cname.rules, List.mem_cons, List.not_mem_nil, or_false] at hrule
    obtain rfl | rfl | rfl := hrule
    · rfl
    · rw [Cname.apex, Cname.apex, hd]
    · rw [Cname.coexistence, Cname.coexistence, Cname.conflicts_congr (hf (.inl rfl))]
  | soa =>
    simp only [Kind.rules, Soa.rules, List.mem_cons, List.not_mem_nil, or_false] at hrule
    obtain rfl | rfl | rfl | rfl := hrule
    · rfl
    · rfl
    · exact Soa.primary_congr (hf (.inr rfl)) r
    · rfl
  | spf =>
    simp only [Kind.rules, Spf.rules, List.mem_cons, List.not_mem_nil, or_false] at hrule
    obtain rfl | rfl | hrule := hrule
    · rfl
    · exact Spf.multiple_congr (hw rfl) r
    · obtain rfl | rfl | rfl | rfl := hrule <;> rfl
  | mx =>
    simp only [Kind.rules, Mx.rules, List.mem_cons, List.not_mem_nil, or_false] at hrule
    obtain rfl | rfl := hrule <;> rfl
  | dmarc =>
    simp only [Kind.rules, Dmarc.rules, List.mem_cons, List.not_mem_nil, or_false] at hrule
    obtain rfl | rfl | rfl | rfl | rfl := hrule <;> rfl
  | srv =>
    simp only [Kind.rules, Srv.rules, List.mem_cons, List.not_mem_nil, or_false] at hrule
    obtain rfl | rfl | rfl | rfl | rfl := hrule <;> rfl
  | caa =>
    simp only [Kind.rules, Caa.rules, List.mem_cons, List.not_mem_nil, or_false] at hrule
    obtain rfl | rfl | rfl := hrule <;> rfl

theorem Kind.run_congr (k : Kind) (hd : z.domain = w.domain)
    (hw : k = .spf → z.whole.countP Spf.isPolicy = w.whole.countP Spf.isPolicy)
    (hf : k = .cname ∨ k = .soa → z.fullRecords.Perm w.fullRecords) (r : Record) :
    Rule.run k.rules r z = Rule.run k.rules r w :=
  Rule.run_congr (k.rule_congr hd hw hf r)

end ZoneAudit
