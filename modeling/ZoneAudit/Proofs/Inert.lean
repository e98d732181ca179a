import Mathlib.Data.List.Perm.Basic
import ZoneAudit.Proofs.Sight
import ZoneAudit.Proofs.Walk

/-!
Records that no check looks at. One more of them in a zone, wherever it stands, changes nothing that
is counted or looked for in the zone, gets no finding and leaves the tracker as it is. So an audit
finds the same as without it, but the records after it have moved by one position.
-/

namespace ZoneAudit

/-- A record that is audited as nothing but itself: an address, a name server, a part of signatures
or a text that is no policy, without a wildcard. -/
structure Record.Inert (domain : String) (r : Record) : Prop where
  owner : DomainName.isWildcard r.name.toList = false
  type : r.type ∈ [RecordType.a, .aaaa, .ns, .rrsig, .nsec, .nsec3, .dnskey] ∨
    r.type = .txt ∧ Spf.isPolicy r = false ∧ Dmarc.isPolicy r domain = false

namespace Record.Inert

variable {domain : String} {r : Record}

/-- The rules of no kind apply. -/
theorem of?_eq_none (h : r.Inert domain) : Kind.of? domain r = none := by
  rcases h.type with htype | ⟨htype, hspf, hdmarc⟩
  · simp only [List.mem_cons, List.not_mem_nil, or_false] at htype
    obtain ht | ht | ht | ht | ht | ht | ht := htype <;> simp [Kind.of?, ht]
  · simp [Kind.of?, htype, hspf, hdmarc]

theorem type_notMem (h : r.Inert domain) : r.type ∉ [RecordType.mx, .soa, .caa] := by
  rcases h.type with htype | ⟨htype, -⟩
  · simp only [List.mem_cons, List.not_mem_nil, or_false] at htype
    obtain ht | ht | ht | ht | ht | ht | ht := htype <;> simp [ht]
  · simp [htype]

theorem type_ne_mx (h : r.Inert domain) : r.type ≠ .mx :=
  fun htype => h.type_notMem (by simp [htype])

theorem type_ne_soa (h : r.Inert domain) : r.type ≠ .soa :=
  fun htype => h.type_notMem (by simp [htype])

theorem hasTag (h : r.Inert domain) (tag : String) : Caa.hasTag tag r = false := by
  have hcaa : r.type ≠ .caa := fun htype => h.type_notMem (by simp [htype])
  simp [Caa.hasTag, hcaa]

/-- An inert text is no policy. -/
theorem of_txt (h : r.Inert domain) (ht : r.type = .txt) :
    Spf.isPolicy r = false ∧ Dmarc.isPolicy r domain = false := by
  rcases h.type with htype | ⟨-, hpolicy⟩
  · simp [ht] at htype
  · exact hpolicy

theorem isPolicy (h : r.Inert domain) : Spf.isPolicy r = false := by
  by_cases ht : r.type = .txt
  · exact (h.of_txt ht).1
  · simp [Spf.isPolicy, ht]

theorem isDomainPolicy (h : r.Inert domain) : Dmarc.isDomainPolicy r domain = false := by
  by_cases ht : r.type = .txt
  · exact (Bool.or_eq_false_iff.1 (h.of_txt ht).2).1
  · simp [Dmarc.isDomainPolicy, ht]

theorem isMailRecord (h : r.Inert domain) : Dmarc.isMailRecord r = false := by
  simp [Dmarc.isMailRecord, h.type_ne_mx, h.isPolicy]

end Record.Inert

/-- The zone with one more record under audit, at a position. -/
def Zone.insert (z : Zone) (k : Nat) (r : Record) : Zone :=
  { z with records := z.records.insertIdx k r }

namespace Zone

variable {z : Zone} {k : Nat} {r : Record} {p : Record → Bool}

theorem countP_records_insert (hk : k ≤ z.records.length) (hp : p r = false) :
    (z.insert k r).records.countP p = z.records.countP p := by
  rw [insert, (List.perm_insertIdx r z.records hk).countP_eq, List.countP_cons_of_neg (by simp [hp])]

/-- Where the full zone is known it stays as it is, and else the whole zone has the new
record too. -/
theorem countP_whole_insert (hk : k ≤ z.records.length) (hp : p r = false) :
    (z.insert k r).whole.countP p = z.whole.countP p := by
  cases hall : z.allRecords with
  | none => simpa [whole, insert, hall] using countP_records_insert hk hp
  | some all => simp [whole, insert, hall]

theorem any_eq_of_countP_eq {rs ss : List Record} (h : rs.countP p = ss.countP p) :
    rs.any p = ss.any p := by
  rw [Bool.eq_iff_iff, List.any_eq_true, List.any_eq_true, ← List.countP_pos_iff,
    ← List.countP_pos_iff, h]

end Zone

/-- The same finding where a record was added at a position: the records from there on
have moved. -/
def Diagnostic.makeRoom (k : Nat) (d : Diagnostic) : Diagnostic :=
  { d with recordIndex := d.recordIndex.map fun i => if k ≤ i then i + 1 else i }

theorem Diagnostic.makeRoom_of_fresh {d : Diagnostic} (h : d.Fresh) (k : Nat) :
    d.makeRoom k = d := by
  have hi := h.recordIndex
  cases d
  simp_all [makeRoom]

namespace Audit

variable {z : Zone} {k : Nat} {r : Record}

theorem tracked_insert (h : r.Inert z.domain) (hk : k ≤ z.records.length) :
    Mx.tracked (z.insert k r) = Mx.tracked z := by
  have hmx : Mx.isMx r = false := by simp [Mx.isMx, h.type_ne_mx]
  rw [Mx.tracked, Mx.tracked, Zone.countP_whole_insert hk hmx]

/-- No record is checked otherwise beside an inert one. -/
theorem builtin_insert (h : r.Inert z.domain) (hk : k ≤ z.records.length) (t : Mx.Tracker)
    (s : Record) : builtin (z.insert k r) t s = builtin z t s := by
  have hdomain : (z.insert k r).domain = z.domain := rfl
  have hrules (l : Kind) : Rule.run l.rules s (z.insert k r) = Rule.run l.rules s z :=
    l.run_congr hdomain (fun _ => Zone.countP_whole_insert hk h.isPolicy)
      (fun _ => List.Perm.refl _) s
  simp only [builtin_eq, Mx.Tracker.check_zone_congr (tracked_insert h hk), hdomain, hrules]

theorem trackerAfter_insert (h : r.Inert z.domain) (hk : k ≤ z.records.length) (t : Mx.Tracker)
    (s : Record) : trackerAfter (z.insert k r) t s = trackerAfter z t s := by
  rw [trackerAfter, trackerAfter, Mx.Tracker.check_zone_congr (tracked_insert h hk)]

/-- The zone as a whole looks the same with an inert record. -/
theorem onZone_insert (strict : Bool) (h : r.Inert z.domain) (hk : k ≤ z.records.length) :
    onZone ⟨⟨strict, false⟩, []⟩ (z.insert k r) = onZone ⟨⟨strict, false⟩, []⟩ z := by
  have hdomain : (z.insert k r).domain = z.domain := rfl
  have hsoa : (z.insert k r).records.countP (·.type = .soa) = z.records.countP (·.type = .soa) :=
    Zone.countP_records_insert hk (by simp [h.type_ne_soa])
  have hdmarc : (z.insert k r).records.countP (Dmarc.isDomainPolicy · z.domain) =
      z.records.countP (Dmarc.isDomainPolicy · z.domain) :=
    Zone.countP_records_insert hk h.isDomainPolicy
  have hmissing : Dmarc.missing (z.insert k r) = Dmarc.missing z := by
    rw [Dmarc.missing, Dmarc.missing, hdomain,
      Zone.any_eq_of_countP_eq (Zone.countP_records_insert hk h.isMailRecord),
      Zone.any_eq_of_countP_eq (Zone.countP_whole_insert hk h.isDomainPolicy)]
  have howner : Caa.isWildcard r = false := h.owner
  have hcoverage : Caa.coverage (z.insert k r) = Caa.coverage z := by
    simp only [Caa.coverage, Zone.any_eq_of_countP_eq (Zone.countP_whole_insert hk howner),
      Zone.any_eq_of_countP_eq (Zone.countP_whole_insert hk (h.hasTag _))]
  rw [onZone, onZone, hdomain, hsoa, hdmarc, hmissing, hcoverage]
  rfl

variable {a : Audit} {rs : List Record} {i : Nat} {t : Mx.Tracker}

/-- A walk that starts one position later makes room for one record before it. -/
theorem walk_succ {k : Nat} (hk : k ≤ i) :
    a.walk z (i + 1) t rs = (a.walk z i t rs).map (·.makeRoom k) := by
  induction rs generalizing i t with
  | nil => rfl
  | cons r rs ih =>
    have hon (d : Diagnostic) : (d.atRecord i).makeRoom k = d.atRecord (i + 1) := by
      simp [Diagnostic.atRecord, Diagnostic.makeRoom, hk]
    rw [walk, walk, ih (by omega), List.map_append, List.map_map]
    simp only [Function.comp_def, hon]

/-- A record without findings that leaves the tracker as it is only takes up room. -/
theorem walk_insertIdx {r : Record} (hon : ∀ t, a.onRecord z t r = [])
    (hafter : ∀ t, trackerAfter z t r = t) {k : Nat} (hk : k ≤ rs.length) :
    a.walk z i t (rs.insertIdx k r) = (a.walk z i t rs).map (·.makeRoom (i + k)) := by
  induction k generalizing rs i t with
  | zero =>
    rw [List.insertIdx_zero, walk, hon, hafter]
    exact walk_succ (Nat.le_refl _)
  | succ k ih =>
    cases rs with
    | nil => simp at hk
    | cons s rs =>
      have hbefore (d : Diagnostic) : (d.atRecord i).makeRoom (i + (k + 1)) = d.atRecord i := by
        simp [Diagnostic.atRecord, Diagnostic.makeRoom]
      have hi : i + 1 + k = i + (k + 1) := by omega
      rw [List.insertIdx_succ_cons, walk, walk, ih (by simpa using hk), hi, List.map_append,
        List.map_map]
      simp only [Function.comp_def, hbefore]

theorem findings_insert (strict : Bool) (h : r.Inert z.domain) (hk : k ≤ z.records.length) :
    findings ⟨⟨strict, false⟩, []⟩ (z.insert k r) =
      (findings ⟨⟨strict, false⟩, []⟩ z).map (·.makeRoom k) := by
  have hsame : walk ⟨⟨strict, false⟩, []⟩ (z.insert k r) 0 {} (z.records.insertIdx k r) =
      walk ⟨⟨strict, false⟩, []⟩ z 0 {} (z.records.insertIdx k r) := by
    apply walk_congr
    · intro s _ t
      rw [onRecord_builtin rfl, onRecord_builtin rfl, builtin_insert h hk]
    · intro s _ t
      exact trackerAfter_insert h hk t s
  have hsilent (t : Mx.Tracker) : onRecord ⟨⟨strict, false⟩, []⟩ z t r = [] := by
    rw [onRecord_builtin rfl, builtin, h.of?_eq_none]
  have hwalk := walk_insertIdx (i := 0) (t := {}) hsilent (trackerAfter_of_ne_mx h.type_ne_mx) hk
  rw [Nat.zero_add] at hwalk
  have hzone : (onZone ⟨⟨strict, false⟩, []⟩ z).map (·.makeRoom k) =
      onZone ⟨⟨strict, false⟩, []⟩ z := by
    rw [List.map_congr_left (g := id), List.map_id]
    intro d hd
    exact Diagnostic.makeRoom_of_fresh (onZone_fresh _ z d hd) k
  rw [findings, findings, List.map_append, onZone_insert strict h hk, hzone]
  exact congrArg (· ++ _) (hsame.trans hwalk)

/-- With an inert record put in at a position, an audit without optional checks reports the same,
but that all positions from there on are greater by one. -/
theorem report_insert (strict : Bool) {z : Zone} {r : Record} (h : r.Inert z.domain) {k : Nat}
    (hk : k ≤ z.records.length) :
    Audit.report ⟨⟨strict, false⟩, []⟩ (z.insert k r) =
      (Audit.report ⟨⟨strict, false⟩, []⟩ z).map (·.makeRoom k) := by
  have hcomm (a : Audit) (d : Diagnostic) : a.raise (d.makeRoom k) = (a.raise d).makeRoom k := by
    rw [raise_eq, raise_eq]
    rfl
  rw [report_eq_ofList, report_eq_ofList, findings_insert strict h hk,
    ← Report.ofList_map fun d => (rfl : (d.makeRoom k).severity = d.severity), List.map_map,
    List.map_map]
  simp only [Function.comp_def, hcomm]

/-- A text between two exchanges of one priority, in a zone of which no more is known: the second
exchange still repeats the priority, at the next position. -/
theorem report_insert_between_exchanges :
    let mx : Record := ⟨.mx, "example.com", 3600, "10 mail.example.net"⟩
    let mx' : Record := ⟨.mx, "example.com", 3600, "10 relay.example.net"⟩
    let text : Record := ⟨.txt, "example.com", 3600, "site-verification=1"⟩
    let z : Zone := ⟨"example.com", [mx, mx'], none⟩
    text.Inert z.domain ∧ 1 ≤ z.records.length ∧
    Audit.report ⟨⟨true, false⟩, []⟩ (z.insert 1 text) ≠ Audit.report ⟨⟨true, false⟩, []⟩ z ∧
    Audit.report ⟨⟨true, false⟩, []⟩ (z.insert 1 text) =
      (Audit.report ⟨⟨true, false⟩, []⟩ z).map (·.makeRoom 1) := by
  intro mx mx' text z
  have h : text.Inert z.domain :=
    ⟨by decide +kernel, .inr ⟨rfl, by decide +kernel, by decide +kernel⟩⟩
  exact ⟨h, by decide, by decide +kernel, report_insert true h (by decide)⟩

end Audit
end ZoneAudit
