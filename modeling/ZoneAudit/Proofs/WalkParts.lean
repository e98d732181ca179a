import ZoneAudit.Proofs.Sight
import ZoneAudit.Proofs.Tracker
import ZoneAudit.Proofs.Walk

/-!
The parts of a walk. On each record a walk finds what the tracker answers, for which the records
before it matter, and what the record is given apart, for which they do not. So up to order, a walk
finds the answers to a run of looks at the tracker and what each record is given apart.
-/

namespace ZoneAudit.Audit

/-- The findings on a record that have nothing to do with the records before it. -/
def apart (a : Audit) (z : Zone) (r : Record) : List Diagnostic :=
  ((Kind.of? z.domain r).elim [] fun k => Rule.run k.rules r z) ++ a.advisories z r ++ a.custom z r

/-- On an exchange the tracker is looked at first, on all other records not at all. -/
theorem onRecord_eq (a : Audit) (z : Zone) (t : Mx.Tracker) (r : Record) :
    a.onRecord z t r =
      (if Mx.isMx r then (t.check r z).1.toList else []) ++ a.apart z r := by
  rw [onRecord, builtin_eq, apart, List.append_assoc, List.append_assoc, List.append_assoc]

/-- The looks at the tracker on a walk through records. -/
def looks (z : Zone) (rs : List Record) : List (Record × Zone) := (rs.filter Mx.isMx).map (·, z)

/-- What a walk hears from the tracker comes from a look at its first record, if that is an
exchange, and from the looks at the others. -/
theorem answers_looks_cons (z : Zone) (t : Mx.Tracker) (r : Record) (rs : List Record) :
    (t.answers (looks z (r :: rs))).filterMap id =
      (if Mx.isMx r then (t.check r z).1.toList else []) ++
        ((trackerAfter z t r).answers (looks z rs)).filterMap id := by
  by_cases hr : r.type = .mx
  · have hlooks : looks z (r :: rs) = (r, z) :: looks z rs := by simp [looks, Mx.isMx, hr]
    have hafter : trackerAfter z t r = (t.check r z).2 := by simp [trackerAfter, hr]
    rw [hlooks, hafter, Mx.Tracker.answers]
    cases (t.check r z).1 <;> simp [Mx.isMx, hr]
  · have hlooks : looks z (r :: rs) = looks z rs := by simp [looks, Mx.isMx, hr]
    rw [hlooks, trackerAfter_of_ne_mx hr]
    simp [Mx.isMx, hr]

/-- Looks hear the same in all zones in which priorities matter, and in all in which they do not. -/
theorem answers_looks_congr {z w : Zone} (h : Mx.tracked z = Mx.tracked w) (t : Mx.Tracker)
    (rs : List Record) : t.answers (looks z rs) = t.answers (looks w rs) := by
  simp only [looks]
  induction rs.filter Mx.isMx generalizing t with
  | nil => rfl
  | cons r rs ih =>
    simp only [List.map_cons, Mx.Tracker.answers, Mx.Tracker.check_zone_congr h, ih]

/-- Where priorities do not matter looks hear nothing. -/
theorem answers_looks_untracked {z : Zone} (h : Mx.tracked z = false) (t : Mx.Tracker)
    (rs : List Record) : (t.answers (looks z rs)).filterMap id = [] := by
  simp only [looks]
  induction rs.filter Mx.isMx with
  | nil => rfl
  | cons r rs ih => simpa [Mx.Tracker.answers, Mx.Tracker.check_of_untracked h] using ih

/-- A walk finds what the tracker answers, and what its records are given apart. -/
theorem batches_flatten_perm (a : Audit) (z : Zone) (t : Mx.Tracker) (rs : List Record) :
    (a.batches z t rs).flatten.Perm
      ((t.answers (looks z rs)).filterMap id ++ rs.flatMap (a.apart z)) := by
  induction rs generalizing t with
  | nil => exact List.Perm.refl _
  | cons r rs ih =>
    have ih := ih (trackerAfter z t r)
    rw [List.perm_iff_count] at ih ⊢
    intro d
    have hd := ih d
    rw [batches, onRecord_eq, answers_looks_cons, List.flatten_cons, List.flatMap_cons]
    simp only [List.count_append] at hd ⊢
    omega

/-- What a view of findings that does not see positions sees of a walk. -/
theorem walk_map_perm {β : Type} {f : Diagnostic → β} (hf : ∀ d, f d.unplaced = f d) (a : Audit)
    (z : Zone) (i : Nat) (t : Mx.Tracker) (rs : List Record) :
    ((a.walk z i t rs).map f).Perm
      (((t.answers (looks z rs)).filterMap id).map f ++ rs.flatMap fun r => (a.apart z r).map f) := by
  have hview : f ∘ Diagnostic.unplaced = f := funext hf
  have hunplaced := congrArg (List.map f) (a.walk_unplaced z i t rs)
  rw [List.map_map, List.map_map, hview] at hunplaced
  rw [hunplaced, ← List.map_flatMap, ← List.map_append]
  exact (a.batches_flatten_perm z t rs).map f

end ZoneAudit.Audit
