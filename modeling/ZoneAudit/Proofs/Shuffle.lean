import Mathlib.Data.Multiset.Defs
import ZoneAudit.Proofs.RecordSets
import ZoneAudit.Proofs.Sight
import ZoneAudit.Proofs.WalkParts

/-!
Zones with the same records in another order. An audit finds the same in them, at other positions:
the tracker answers as often with a repetition, and everything else that is said of a record, a set
or the zone depends on what the zone holds but not on where.
-/

namespace ZoneAudit

/-- The zones hold the same, and as much is known of them, but their records may be ordered
differently. -/
structure Zone.Shuffled (z w : Zone) : Prop where
  domain : z.domain = w.domain
  records : z.records.Perm w.records
  allRecords : Option.Rel List.Perm z.allRecords w.allRecords

namespace Zone.Shuffled

variable {z w : Zone}

theorem whole (h : z.Shuffled w) : z.whole.Perm w.whole := by
  obtain ⟨domain, records, all⟩ := z
  obtain ⟨domain', records', all'⟩ := w
  cases h.allRecords with
  | none => exact h.records
  | some hall => exact hall

theorem fullRecords (h : z.Shuffled w) : z.fullRecords.Perm w.fullRecords := by
  obtain ⟨domain, records, all⟩ := z
  obtain ⟨domain', records', all'⟩ := w
  cases h.allRecords with
  | none => exact List.Perm.refl []
  | some hall => exact hall

end Zone.Shuffled

/-- What a finding says. Its position is left out, and if it lists the different times of a record
set, then these are a multiset of their own. -/
structure Gist where
  code : String
  message : String
  severity : Severity
  metadata : Option (List (String × Json))
  times : Option (Multiset Json)
  deriving DecidableEq

namespace Diagnostic

/-- The times that a finding lists as different in one record set. -/
def times? (d : Diagnostic) : Option (List Json) :=
  if d.message = "Inconsistent TTL values across record set" then
    match (d.metadata.getD []).lookup "ttls" with
    | some (.arr times) => some times
    | _ => none
  else none

def gist (d : Diagnostic) : Gist where
  code := d.code
  message := d.message
  severity := d.severity
  metadata := if d.times?.isSome then d.metadata.map (·.filter (·.1 ≠ "ttls")) else d.metadata
  times := d.times?.map fun times => (times : Multiset Json)

theorem gist_unplaced (d : Diagnostic) : d.unplaced.gist = d.gist := rfl

/-- Of a finding that is not about different times the gist leaves out the position only. -/
theorem gist_eq_iff {d e : Diagnostic} (hd : d.times? = none) (he : e.times? = none) :
    d.gist = e.gist ↔ d.unplaced = e.unplaced := by
  simp [gist, unplaced, hd, he]

/-- Findings that differ in their positions only have the same gists. -/
theorem gists_of_unplaced {ds es : List Diagnostic}
    (h : (ds.map unplaced).Perm (es.map unplaced)) : (ds.map gist).Perm (es.map gist) := by
  have hgist : gist ∘ unplaced = gist := funext gist_unplaced
  have hmap := h.map gist
  rwa [List.map_map, List.map_map, hgist] at hmap

end Diagnostic

/-- Of a warning about different times the gist leaves out their order only. -/
theorem Ttl.inconsistent_gist_iff {k l : Key} {ts us : List UInt32} :
    (inconsistent k ts).gist = (inconsistent l us).gist ↔ k = l ∧ ts.Perm us := by
  have hgist (k : Key) (ts : List UInt32) : (inconsistent k ts).gist =
      ⟨Text.slug "Inconsistent TTL values across record set",
        "Inconsistent TTL values across record set", .warning,
        some [("name", .str k.1), ("recordType", .str k.2.mnemonic)],
        some (ts.map fun t => Json.int t.toNat : List Json)⟩ := by
    rfl
  have htime : Function.Injective fun t : UInt32 => Json.int t.toNat := by
    intro t u h
    have hint : (t.toNat : Int) = u.toNat := Json.int.inj h
    exact UInt32.toNat_inj.1 (by omega)
  rw [hgist, hgist]
  simp [RecordType.mnemonic_inj, List.map_perm_map_iff htime, Prod.ext_iff]

/-- In another order of the records the mixed sets and their times are the same. -/
theorem Ttl.inconsistencies_gists {rs ss : List Record} (h : rs.Perm ss) :
    ((inconsistencies rs).map Diagnostic.gist).Perm ((inconsistencies ss).map Diagnostic.gist) := by
  have hgist : (Diagnostic.gist ∘ fun k => inconsistent k (timesOf k rs)) =
      Diagnostic.gist ∘ fun k => inconsistent k (timesOf k ss) := by
    funext k
    exact inconsistent_gist_iff.2 ⟨rfl, timesOf_perm h k⟩
  rw [inconsistencies_eq, inconsistencies_eq, List.map_map, List.map_map, hgist]
  exact (mixed_keys_perm h).map _

namespace Audit

variable {z w : Zone}

/-- Looks hear the same in zones that hold the same, in whatever order they come. -/
theorem answers_looks_perm (h : z.Shuffled w) (t : Mx.Tracker) :
    (t.answers (looks z z.records)).Perm (t.answers (looks w w.records)) := by
  rw [answers_looks_congr (Mx.tracked_congr h.whole)]
  exact Mx.Tracker.answers_perm ((h.records.filter _).map _) t

/-- A record is given the same apart in zones that hold the same. -/
theorem apart_congr (o : Options) (h : z.Shuffled w) (r : Record) :
    apart ⟨o, []⟩ z r = apart ⟨o, []⟩ w r := by
  have hrules : (Kind.of? z.domain r).elim [] (fun k => Rule.run k.rules r z) =
      (Kind.of? w.domain r).elim [] fun k => Rule.run k.rules r w := by
    rw [h.domain]
    cases Kind.of? w.domain r with
    | none => rfl
    | some k => exact k.run_congr h.domain (fun _ => h.whole.countP_eq _) (fun _ => h.fullRecords) r
  have hadvice : advisories ⟨o, []⟩ z r = advisories ⟨o, []⟩ w r := rfl
  have hcustom : custom ⟨o, []⟩ z r = custom ⟨o, []⟩ w r := rfl
  rw [apart, apart, hrules, hadvice, hcustom]

/-- The walk finds the same, at other positions. -/
theorem walk_gists (o : Options) (h : z.Shuffled w) :
    ((walk ⟨o, []⟩ z 0 {} z.records).map Diagnostic.gist).Perm
      ((walk ⟨o, []⟩ w 0 {} w.records).map Diagnostic.gist) := by
  apply Diagnostic.gists_of_unplaced
  rw [walk_unplaced, walk_unplaced]
  have hz := batches_flatten_perm ⟨o, []⟩ z {} z.records
  have hw := batches_flatten_perm ⟨o, []⟩ w {} w.records
  have hanswers := (answers_looks_perm h {}).filterMap id
  have hapart : (z.records.flatMap (apart ⟨o, []⟩ z)).Perm (w.records.flatMap (apart ⟨o, []⟩ w)) := by
    rw [funext (apart_congr o h)]
    exact h.records.flatMap_right _
  exact (hz.trans ((hanswers.append hapart).trans hw.symm)).map _

/-- The findings on the whole zone are the same, but for the order of the record sets. -/
theorem onZone_gists (o : Options) (h : z.Shuffled w) :
    ((onZone ⟨o, []⟩ z).map Diagnostic.gist).Perm ((onZone ⟨o, []⟩ w).map Diagnostic.gist) := by
  have hsoa : z.records.countP (·.type = .soa) = w.records.countP (·.type = .soa) :=
    h.records.countP_eq _
  have hdmarc : z.records.countP (Dmarc.isDomainPolicy · z.domain) =
      w.records.countP (Dmarc.isDomainPolicy · w.domain) := by
    rw [h.domain, h.records.countP_eq]
  have hmissing : Dmarc.missing z = Dmarc.missing w :=
    Dmarc.missing_congr h.domain h.records h.whole
  have hcoverage : Caa.coverage z = Caa.coverage w := Caa.coverage_congr h.whole
  rw [onZone, onZone, hsoa, hdmarc, hmissing, hcoverage, List.map_append, List.map_append]
  apply List.Perm.append_left
  split
  · exact Ttl.inconsistencies_gists h.records
  · exact List.Perm.refl _

/-- What an audit makes of the severity in a gist. -/
def raiseGist (a : Audit) (g : Gist) : Gist :=
  if a.options.strict && g.severity = .warning then { g with severity := .error } else g

theorem gist_raise (a : Audit) (d : Diagnostic) : (a.raise d).gist = a.raiseGist d.gist := by
  cases hs : a.options.strict with
  | false => simp [raise, raiseGist, hs]
  | true =>
    by_cases hw : d.severity = .warning
    · simp [raise, raiseGist, hs, Diagnostic.promote, Diagnostic.gist, Diagnostic.times?, hw]
    · simp [raise, raiseGist, hs, Diagnostic.promote, Diagnostic.gist, hw]

/-- Without added rules an audit does not depend on the order of records: zones that hold the same
are valid alike and get the same findings. -/
theorem report_shuffled (o : Options) {z w : Zone} (h : z.Shuffled w) :
    (Audit.report ⟨o, []⟩ z).isValid = (Audit.report ⟨o, []⟩ w).isValid ∧
    ((Audit.report ⟨o, []⟩ z).diagnostics.map Diagnostic.gist).Perm
      ((Audit.report ⟨o, []⟩ w).diagnostics.map Diagnostic.gist) := by
  let a : Audit := ⟨o, []⟩
  have hfindings : ((a.findings z).map Diagnostic.gist).Perm
      ((a.findings w).map Diagnostic.gist) := by
    rw [findings, findings, List.map_append, List.map_append]
    exact (walk_gists o h).append (onZone_gists o h)
  have hraise : Diagnostic.gist ∘ a.raise = a.raiseGist ∘ Diagnostic.gist := funext a.gist_raise
  have hraised : (((a.findings z).map a.raise).map Diagnostic.gist).Perm
      (((a.findings w).map a.raise).map Diagnostic.gist) := by
    rw [List.map_map, List.map_map, hraise, ← List.map_map, ← List.map_map]
    exact hfindings.map _
  rw [report_eq_ofList, report_eq_ofList]
  constructor
  · rw [Bool.eq_iff_iff, Report.isValid_ofList, Report.isValid_ofList]
    have hseverity (ds : List Diagnostic) : (∀ d ∈ ds, d.severity ≠ .error) ↔
        ∀ g ∈ ds.map Diagnostic.gist, g.severity ≠ .error := by
      rw [List.forall_mem_map]
      rfl
    rw [hseverity, hseverity]
    exact forall_congr' fun g => by rw [hraised.mem_iff]
  · have hz := (Report.diagnostics_ofList_perm ((a.findings z).map a.raise)).map Diagnostic.gist
    have hw := (Report.diagnostics_ofList_perm ((a.findings w).map a.raise)).map Diagnostic.gist
    exact hz.trans (hraised.trans hw.symm)

/-- Two exchanges of one priority and with different times may come in either order: the reports
differ, but only in positions and in the order of the times. -/
theorem report_shuffled_exchanges :
    let mx : Record := ⟨.mx, "example.com", 3600, "10 mail.example.net"⟩
    let mx' : Record := ⟨.mx, "example.com", 7200, "10 relay.example.net"⟩
    let a : Record := ⟨.a, "www.example.com", 3600, "192.0.2.1"⟩
    let z : Zone := ⟨"example.com", [mx, a, mx'], some [mx, a, mx']⟩
    let w : Zone := ⟨"example.com", [mx', mx, a], some [a, mx', mx]⟩
    z.Shuffled w ∧
    Audit.report ⟨⟨true, true⟩, []⟩ z ≠ Audit.report ⟨⟨true, true⟩, []⟩ w ∧
    (Audit.report ⟨⟨true, true⟩, []⟩ z).isValid = (Audit.report ⟨⟨true, true⟩, []⟩ w).isValid ∧
    ((Audit.report ⟨⟨true, true⟩, []⟩ z).diagnostics.map Diagnostic.gist).Perm
      ((Audit.report ⟨⟨true, true⟩, []⟩ w).diagnostics.map Diagnostic.gist) := by
  intro mx mx' a z w
  have h : z.Shuffled w := ⟨rfl, by decide, .some (by decide)⟩
  exact ⟨h, by decide +kernel, report_shuffled ⟨true, true⟩ h⟩

end Audit
end ZoneAudit
