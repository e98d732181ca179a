import ZoneAudit.Proofs.Dispatch

/-!
Reports of sets of records, whatever their types. To join the reports of lists is to report the
joined list. So the report of a set lists what is found on its first record, on its second and so
on, and then what is found on the set; and where nothing is found on sets, and records do not look
back at those before them, the report of two sets in a row joins their reports.
-/

namespace ZoneAudit

namespace Report

/-- A report of a list is what pushing its findings one by one into an empty report leaves. -/
theorem ofList_eq_foldl (ds : List Diagnostic) : ofList ds = ds.foldl push {} := by
  simpa using (foldl_push ds []).symm

theorem combine_append (as bs : List Report) :
    combine (as ++ bs) = combine [combine as, combine bs] := by
  simp [combine]

end Report

namespace Mx

/-- The tracker after a look at each of a run of records. -/
def Tracker.after (t : Tracker) (z : Zone) (rs : List Record) : Tracker :=
  rs.foldl (fun t r => (t.check r z).2) t

/-- Each record of a run is checked with the tracker that the records before it leave. -/
theorem reportsFrom_eq (t : Tracker) (z : Zone) (rs : List Record) :
    reportsFrom t z rs =
      (rs.mapIdx fun i r => findings (t.after z (rs.take i)) r z).map Report.ofList := by
  induction rs generalizing t with
  | nil => rfl
  | cons r rs ih =>
    rw [reportsFrom, ih, List.mapIdx_cons, List.map_cons]
    rfl

end Mx

/-- The checks that are made of sets of records. -/
inductive SetCheck
  | kind (k : Kind)
  | times
  deriving DecidableEq, Repr

namespace SetCheck

def reportAll : SetCheck → List Record → Zone → Report
  | kind k => k.reportAll
  | times => Ttl.reportAll

/-- The findings on a record after others of its set, in the order of the rules; an exchange is
first looked up in the tracker. -/
def onRecord (z : Zone) (before : List Record) (r : Record) : SetCheck → List Diagnostic
  | kind .mx =>
    ((({} : Mx.Tracker).after z before).check r z).1.toList ++ Mx.rules.filterMap (· r z)
  | kind k => k.rules.filterMap (· r z)
  | times => Ttl.rules.filterMap (· r z)

/-- The findings on all records of a set, in the order of the records. -/
def onRecords (c : SetCheck) (z : Zone) (rs : List Record) : List Diagnostic :=
  (rs.mapIdx fun i r => c.onRecord z (rs.take i) r).flatten

/-- The findings on a set besides those on its records. -/
def onSet : SetCheck → List Record → List Diagnostic
  | kind k, rs => k.surplus rs.length
  | times, rs => Ttl.inconsistencies rs

/-- Records that do not look back are each checked on their own. -/
theorem onRecords_of_apart {c : SetCheck} {z : Zone} {rules : List Rule}
    (h : ∀ before r, c.onRecord z before r = Rule.run rules r z) (rs : List Record) :
    c.onRecords z rs = (rs.map (Rule.run rules · z)).flatten := by
  have hapart : (rs.mapIdx fun i r => c.onRecord z (rs.take i) r) = rs.map (Rule.run rules · z) := by
    apply List.ext_getElem?
    intro i
    simp [h]
  rw [onRecords, hapart]

/-- The report of a set lists what is found on its records, and then what is found on the set. -/
theorem reportAll_eq (c : SetCheck) (rs : List Record) (z : Zone) :
    c.reportAll rs z = .ofList (c.onRecords z rs ++ c.onSet rs) := by
  cases c with
  | kind k =>
    by_cases hk : k = .mx
    · subst hk
      have hset : onSet (kind .mx) rs = [] := rfl
      rw [hset, List.append_nil, onRecords, ← Report.combine_ofList]
      exact congrArg Report.combine (Mx.reportsFrom_eq {} z rs)
    · have h : ∀ before r, onRecord z before r (kind k) = Rule.run k.rules r z := by
        intro before r
        cases k with
        | mx => exact absurd rfl hk
        | cname | soa | spf | dmarc | srv | caa => rfl
      rw [onRecords_of_apart h]
      exact Kind.reportAll_of_ne_mx hk rs z
  | times =>
    rw [onRecords_of_apart fun _ _ => rfl, ← Report.foldl_push, ← Report.combine_ofList,
      List.map_map]
    rfl

/-- Only starts of authority and domain policies are counted, and only more than one is
remarked on. -/
theorem onSet_kind_ne_nil {k : Kind} {rs : List Record} :
    (kind k).onSet rs ≠ [] ↔ (k = .soa ∨ k = .dmarc) ∧ 1 < rs.length := by
  cases k <;> simp [onSet, Kind.surplus, Soa.multiple, Dmarc.multiple]

/-- Of these kinds each record is checked on its own, and nothing is found on a set. -/
theorem reportAll_append {k : Kind} (hk : k ∈ [Kind.cname, .spf, .srv, .caa])
    (as bs : List Record) (z : Zone) :
    k.reportAll (as ++ bs) z = .combine [k.reportAll as z, k.reportAll bs z] := by
  have heach : k.reportAll = Rule.reportEach k.report := by
    simp only [List.mem_cons, List.not_mem_nil, or_false] at hk
    obtain rfl | rfl | rfl | rfl := hk <;> rfl
  rw [heach, Rule.reportEach, List.map_append]
  exact Report.combine_append _ _

/-- Reports of sets list all findings on their records, in order and as often as found, and then
those on the set; joining reports is listing. -/
theorem reportAll_aggregates :
    (∀ ds : List Diagnostic, Report.ofList ds = ds.foldl Report.push {}) ∧
    (∀ batches : List (List Diagnostic),
      Report.combine (batches.map Report.ofList) = .ofList batches.flatten) ∧
    (∀ (c : SetCheck) (rs : List Record) (z : Zone),
      (c.reportAll rs z).errors = (c.onRecords z rs).filter Diagnostic.isError ++
        (c.onSet rs).filter Diagnostic.isError ∧
      (c.reportAll rs z).warnings = (c.onRecords z rs).filter (!·.isError) ++
        (c.onSet rs).filter (!·.isError)) ∧
    (∀ (k : Kind) (rs : List Record),
      (kind k).onSet rs ≠ [] ↔ (k = .soa ∨ k = .dmarc) ∧ 1 < rs.length) ∧
    ∀ k ∈ [Kind.cname, .spf, .srv, .caa], ∀ (as bs : List Record) (z : Zone),
      k.reportAll (as ++ bs) z = .combine [k.reportAll as z, k.reportAll bs z] := by
  refine ⟨Report.ofList_eq_foldl, Report.combine_ofList, ?_, fun k rs => onSet_kind_ne_nil,
    fun k hk => reportAll_append hk⟩
  intro c rs z
  rw [reportAll_eq, Report.ofList, List.filter_append, List.filter_append]
  exact ⟨rfl, rfl⟩

end SetCheck
end ZoneAudit
