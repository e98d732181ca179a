import Mathlib.Data.List.Basic
import ZoneAudit.Proofs.Walk

/-!
Attribution of findings. The walk of an audit gives each finding the position of the record that it
was made on, whatever position an added rule may have set. So in both lists of a report the findings
on records come first, by increasing position, each record has its own findings in the order of the
rules, and the findings on the zone as a whole stand behind them without a position.
-/

namespace ZoneAudit

namespace Audit

/-- What the built-in rules answer on a record: on an exchange the tracker, then the rules of the
kind of the record, in their order. -/
def builtinAnswers (z : Zone) (t : Mx.Tracker) (r : Record) : List (Option Diagnostic) :=
  (if r.type = .mx then [(t.check r z).1] else []) ++
    (Kind.of? z.domain r).elim [] fun k => k.rules.map (· r z)

/-- What the optional rules answer on a record: best practices on serial numbers and times to live,
then the added rules for its type in order. -/
def optionalAnswers (a : Audit) (z : Zone) (r : Record) : List (Option Diagnostic) :=
  (if a.options.checkBestPractices then
    [if r.type = .soa then Soa.serialFormat r z else none, Ttl.range r z] else []) ++
    (a.customRules.filter (·.1 = r.type)).map (·.2 r z)

/-- The tracker as the walk over a zone leaves it before a position. -/
def trackerAt (z : Zone) (i : Nat) : Mx.Tracker := (z.records.take i).foldl (trackerAfter z) {}

/-- The findings on the record at a position, each with this position; none behind the records. -/
def foundAt (a : Audit) (z : Zone) (i : Nat) : List Diagnostic :=
  z.records[i]?.elim [] fun r =>
    ((builtinAnswers z (trackerAt z i) r ++ a.optionalAnswers z r).filterMap id).map (·.atRecord i)

theorem builtin_eq_answers (z : Zone) (t : Mx.Tracker) (r : Record) :
    builtin z t r = (builtinAnswers z t r).filterMap id := by
  have htracker : (if Mx.isMx r then (t.check r z).1.toList else []) =
      (if r.type = .mx then [(t.check r z).1] else []).filterMap id := by
    by_cases hr : r.type = .mx
    · cases (t.check r z).1 <;> simp [Mx.isMx, hr]
    · simp [Mx.isMx, hr]
  have hrules : ((Kind.of? z.domain r).elim [] fun k => Rule.run k.rules r z) =
      ((Kind.of? z.domain r).elim [] fun k => k.rules.map (· r z)).filterMap id := by
    cases Kind.of? z.domain r with
    | none => rfl
    | some k => exact Rule.run_eq_answers k.rules r z
  rw [builtin_eq, htracker, hrules, ← List.filterMap_append, builtinAnswers]

theorem optional_eq_answers (a : Audit) (z : Zone) (r : Record) :
    a.advisories z r ++ a.custom z r = (a.optionalAnswers z r).filterMap id := by
  have hadvice : a.advisories z r = (if a.options.checkBestPractices then
      [if r.type = .soa then Soa.serialFormat r z else none, Ttl.range r z] else []).filterMap id := by
    unfold advisories
    split
    · by_cases hs : r.type = .soa
      · cases Soa.serialFormat r z <;> cases h : Ttl.range r z <;> simp [hs, h, Ttl.rules]
      · cases h : Ttl.range r z <;> simp [hs, h, Ttl.rules]
    · rfl
  rw [optionalAnswers, List.filterMap_append, ← hadvice, custom, Rule.run_eq_answers, List.map_map]
  rfl

/-- The findings on a record are the answers of all rules that are asked about it, in
their order. -/
theorem onRecord_eq_answers (a : Audit) (z : Zone) (t : Mx.Tracker) (r : Record) :
    a.onRecord z t r = (builtinAnswers z t r ++ a.optionalAnswers z r).filterMap id := by
  rw [onRecord, List.append_assoc, builtin_eq_answers, optional_eq_answers, List.filterMap_append]

end Audit

/-- Findings on `n` records come first and by increasing position, those at a position are what was
found there, and the findings on the zone come last. -/
structure Attributed (n : Nat) (found : Nat → List Diagnostic) (onZone ds : List Diagnostic) :
    Prop where
  placed_first : ds = ds.filter (·.recordIndex.isSome) ++ ds.filter (·.recordIndex.isNone)
  increasing : (ds.filterMap (·.recordIndex)).Pairwise (· ≤ ·)
  lt_length : ∀ i ∈ ds.filterMap (·.recordIndex), i < n
  at_position : ∀ i, ds.filter (·.recordIndex = some i) = found i
  unplaced : ds.filter (·.recordIndex.isNone) = onZone

namespace Attributed

variable {n : Nat} {found : Nat → List Diagnostic} {onZone ds : List Diagnostic}

/-- A change that keeps positions keeps the order. -/
theorem map (h : Attributed n found onZone ds) {f : Diagnostic → Diagnostic}
    (hf : ∀ d, (f d).recordIndex = d.recordIndex) :
    Attributed n (fun i => (found i).map f) (onZone.map f) (ds.map f) := by
  have hfilter (p : Option Nat → Bool) :
      (ds.map f).filter (fun d => p d.recordIndex) = (ds.filter fun d => p d.recordIndex).map f := by
    rw [List.filter_map]
    simp only [Function.comp_def, hf]
  have hindices : (ds.map f).filterMap (·.recordIndex) = ds.filterMap (·.recordIndex) := by
    rw [List.filterMap_map]
    simp only [Function.comp_def, hf]
  constructor
  · rw [hfilter Option.isSome, hfilter Option.isNone, ← List.map_append, ← h.placed_first]
  · rw [hindices]
    exact h.increasing
  · rw [hindices]
    exact h.lt_length
  · intro i
    rw [hfilter (· = some i), h.at_position]
  · rw [hfilter Option.isNone, h.unplaced]

/-- A choice among the findings keeps the order. -/
theorem filter (h : Attributed n found onZone ds) (p : Diagnostic → Bool) :
    Attributed n (fun i => (found i).filter p) (onZone.filter p) (ds.filter p) := by
  have hindices : ((ds.filter p).filterMap (·.recordIndex)).Sublist
      (ds.filterMap (·.recordIndex)) := List.filter_sublist.filterMap _
  constructor
  · have hsplit := congrArg (List.filter p) h.placed_first
    rw [List.filter_append, List.filter_comm p, List.filter_comm p] at hsplit
    exact hsplit
  · exact h.increasing.sublist hindices
  · intro i hi
    exact h.lt_length i (hindices.subset hi)
  · intro i
    rw [List.filter_comm, h.at_position]
  · rw [List.filter_comm, h.unplaced]

end Attributed

namespace Audit

/-- A walk stands at the positions from its start on, one for each record. -/
theorem position_of_mem_walk {a : Audit} {z : Zone} {i : Nat} {t : Mx.Tracker} {rs : List Record}
    {d : Diagnostic} (hd : d ∈ a.walk z i t rs) :
    ∃ j, d.recordIndex = some j ∧ i ≤ j ∧ j < i + rs.length := by
  obtain ⟨j, r, u, hr, e, -, rfl⟩ := exists_of_mem_walk hd
  have hj : j < rs.length := (List.getElem?_eq_some_iff.1 hr).1
  exact ⟨i + j, rfl, by omega, by omega⟩

/-- At a position of a walk stands what is found on its record, with the tracker that the records
before it leave. -/
theorem walk_at_position (a : Audit) (z : Zone) (i : Nat) (t : Mx.Tracker) (rs : List Record)
    (j : Nat) :
    (a.walk z i t rs).filter (·.recordIndex = some (i + j)) =
      rs[j]?.elim [] fun r =>
        (a.onRecord z ((rs.take j).foldl (trackerAfter z) t) r).map (·.atRecord (i + j)) := by
  induction rs generalizing i t j with
  | nil => rfl
  | cons r rs ih =>
    rw [walk, List.filter_append]
    cases j with
    | zero =>
      have hhere : ((a.onRecord z t r).map (·.atRecord i)).filter (·.recordIndex = some (i + 0)) =
          (a.onRecord z t r).map (·.atRecord i) := List.filter_eq_self.2 (by simp)
      have hlater : (a.walk z (i + 1) (trackerAfter z t r) rs).filter
          (·.recordIndex = some (i + 0)) = [] := by
        rw [List.filter_eq_nil_iff]
        intro d hd
        obtain ⟨k, hk, hle, -⟩ := position_of_mem_walk hd
        simp only [hk, decide_eq_true_eq, Option.some.injEq]
        omega
      rw [hhere, hlater, List.append_nil]
      rfl
    | succ j =>
      have hhere : ((a.onRecord z t r).map (·.atRecord i)).filter
          (·.recordIndex = some (i + (j + 1))) = [] := List.filter_eq_nil_iff.2 (by simp)
      have hj : i + (j + 1) = i + 1 + j := by omega
      rw [hhere, List.nil_append, hj, ih]
      rfl

/-- A walk never goes back. -/
theorem walk_increasing (a : Audit) (z : Zone) (i : Nat) (t : Mx.Tracker) (rs : List Record) :
    ((a.walk z i t rs).filterMap (·.recordIndex)).Pairwise (· ≤ ·) := by
  induction rs generalizing i t with
  | nil => exact List.Pairwise.nil
  | cons r rs ih =>
    have hhere : ∀ j ∈ ((a.onRecord z t r).map (·.atRecord i)).filterMap (·.recordIndex),
        j = i := by simp
    rw [walk, List.filterMap_append, List.pairwise_append]
    refine ⟨?_, ih _ _, ?_⟩
    · rw [List.pairwise_iff_forall_sublist]
      intro j k hjk
      have hj := hhere j (hjk.subset (by simp))
      have hk := hhere k (hjk.subset (by simp))
      omega
    · intro j hj k hk
      obtain ⟨d, hd, hdk⟩ := List.mem_filterMap.1 hk
      obtain ⟨l, hl, hle, -⟩ := position_of_mem_walk hd
      have hlk : l = k := Option.some.inj (hl.symm.trans hdk)
      have hji := hhere j hj
      omega

/-- All that an audit finds is ordered by position. -/
theorem findings_attributed (a : Audit) (z : Zone) :
    Attributed z.records.length (a.foundAt z) (a.onZone z) (a.findings z) := by
  have hwalk : ∀ d ∈ a.walk z 0 {} z.records, d.recordIndex ≠ none := by
    intro d hd
    obtain ⟨j, hj, -, -⟩ := position_of_mem_walk hd
    simp [hj]
  have hzone : ∀ d ∈ a.onZone z, d.recordIndex = none :=
    fun d hd => (a.onZone_fresh z d hd).recordIndex
  have hindices : (a.findings z).filterMap (·.recordIndex) =
      (a.walk z 0 {} z.records).filterMap (·.recordIndex) := by
    have hnone : (a.onZone z).filterMap (·.recordIndex) = [] := List.filterMap_eq_nil_iff.2 hzone
    rw [findings, List.filterMap_append, hnone, List.append_nil]
  have hplaced : (a.findings z).filter (·.recordIndex.isSome) = a.walk z 0 {} z.records := by
    rw [findings, List.filter_append,
      List.filter_eq_self.2 (by simpa [Option.isSome_iff_ne_none] using hwalk),
      List.filter_eq_nil_iff.2 (by simpa using hzone), List.append_nil]
  have hunplaced : (a.findings z).filter (·.recordIndex.isNone) = a.onZone z := by
    rw [findings, List.filter_append, List.filter_eq_nil_iff.2 (by simpa using hwalk),
      List.filter_eq_self.2 (by simpa using hzone), List.nil_append]
  constructor
  · rw [hplaced, hunplaced, findings]
  · rw [hindices]
    exact a.walk_increasing z 0 {} z.records
  · rw [hindices]
    intro i hi
    obtain ⟨d, hd, hdi⟩ := List.mem_filterMap.1 hi
    obtain ⟨j, hj, -, hlt⟩ := position_of_mem_walk hd
    have hij : j = i := Option.some.inj (hj.symm.trans hdi)
    omega
  · intro i
    have hi := a.walk_at_position z 0 {} z.records i
    have hnone : (a.onZone z).filter (·.recordIndex = some i) = [] := by
      rw [List.filter_eq_nil_iff]
      intro d hd
      simp [hzone d hd]
    rw [Nat.zero_add] at hi
    rw [findings, List.filter_append, hnone, List.append_nil, hi]
    simp only [onRecord_eq_answers]
    rfl
  · exact hunplaced

theorem recordIndex_raise (a : Audit) (d : Diagnostic) :
    (a.raise d).recordIndex = d.recordIndex := by rw [raise_eq]

/-- Both lists of a report are ordered by position, at each position stand the answers of the rules
in order, and the findings on the zone come last. -/
theorem report_attributed (a : Audit) (z : Zone) :
    let InOrder (p : Diagnostic → Bool) := Attributed z.records.length
      (fun i => ((a.foundAt z i).map a.raise).filter p) (((a.onZone z).map a.raise).filter p)
    InOrder Diagnostic.isError (a.report z).errors ∧ InOrder (!·.isError) (a.report z).warnings := by
  intro InOrder
  have hraised := (a.findings_attributed z).map a.recordIndex_raise
  rw [report_eq_ofList]
  exact ⟨hraised.filter _, hraised.filter _⟩

end Audit
end ZoneAudit
