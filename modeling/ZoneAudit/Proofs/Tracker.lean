import Mathlib.Data.List.Perm.Subperm
import ZoneAudit.Mx

/-!
Runs of a tracker. A look at a record either leaves the tracker as it is and gets an answer that
does not depend on it, or it makes a priority known and repeats it if it was known before. So the
answers to a run of looks depend on the set of known priorities alone, and on the order of the run
only by their own order; and a part of a run gets a part of its answers.
-/

namespace ZoneAudit.Mx

/-- The priority that a look at a record makes known, where priorities matter and the
body parses. -/
def openPriority? (r : Record) (z : Zone) : Option UInt16 :=
  if tracked z then (parse? r.data).map (·.priority) else none

namespace Tracker

/-- The answers to a run of looks at records, each in a zone of its own. -/
def answers (t : Tracker) : List (Record × Zone) → List (Option Diagnostic)
  | [] => []
  | (r, z) :: steps => (t.check r z).1 :: (t.check r z).2.answers steps

/-- A look that makes no priority known neither reads nor changes the tracker. -/
theorem check_of_closed {r : Record} {z : Zone} (h : openPriority? r z = none) :
    ∃ answer, ∀ t : Tracker, t.check r z = (answer, t) := by
  by_cases hz : tracked z
  · have hp : parse? r.data = none := by simpa [openPriority?, hz] using h
    exact ⟨some Fault.malformed.diagnostic, fun t => by simp [check, hz, hp]⟩
  · exact ⟨none, fun t => by simp [check, hz]⟩

/-- A look that makes a priority known reports it if it was known, and else remembers it. -/
theorem check_of_open {r : Record} {z : Zone} {p : UInt16} (h : openPriority? r z = some p)
    (t : Tracker) :
    t.check r z = if p ∈ t.seen then (some (Fault.duplicatePriority p).diagnostic, t)
      else (none, ⟨p :: t.seen⟩) := by
  by_cases hz : tracked z
  · obtain ⟨body, hp, rfl⟩ : ∃ body, parse? r.data = some body ∧ body.priority = p := by
      simpa [openPriority?, hz] using h
    simp [check, hz, hp]
  · simp [openPriority?, hz] at h

theorem mem_seen_check {r : Record} {z : Zone} {t : Tracker} {p : UInt16} :
    p ∈ (t.check r z).2.seen ↔ p ∈ t.seen ∨ openPriority? r z = some p := by
  cases h : openPriority? r z with
  | none =>
    obtain ⟨answer, hc⟩ := check_of_closed h
    simp [hc]
  | some q =>
    rw [check_of_open h]
    by_cases hq : q ∈ t.seen
    · rw [if_pos hq]
      constructor
      · exact Or.inl
      · rintro (hp | hp)
        · exact hp
        · exact Option.some.inj hp ▸ hq
    · rw [if_neg hq, List.mem_cons, Option.some.injEq, or_comm, eq_comm]

/-- Trackers that know the same priorities give the same answer. -/
theorem check_congr {t u : Tracker} (h : ∀ p, p ∈ t.seen ↔ p ∈ u.seen) (r : Record) (z : Zone) :
    (t.check r z).1 = (u.check r z).1 := by
  cases ho : openPriority? r z with
  | none =>
    obtain ⟨answer, hc⟩ := check_of_closed ho
    rw [hc, hc]
  | some p =>
    rw [check_of_open ho, check_of_open ho]
    by_cases hp : p ∈ t.seen
    · rw [if_pos hp, if_pos ((h p).1 hp)]
    · rw [if_neg hp, if_neg (mt (h p).2 hp)]

/-- Trackers that know the same priorities answer every run alike. -/
theorem answers_congr {t u : Tracker} (h : ∀ p, p ∈ t.seen ↔ p ∈ u.seen)
    (steps : List (Record × Zone)) : t.answers steps = u.answers steps := by
  induction steps generalizing t u with
  | nil => rfl
  | cons step steps ih =>
    obtain ⟨r, z⟩ := step
    have hnext : ∀ p, p ∈ (t.check r z).2.seen ↔ p ∈ (u.check r z).2.seen := by
      intro p
      rw [mem_seen_check, mem_seen_check, h p]
    rw [answers, answers, check_congr h, ih hnext]

/-- Two looks in either order get the same two answers, though perhaps the other way round. -/
theorem check_swap (t : Tracker) (r s : Record) (z w : Zone) :
    [(t.check s w).1, ((t.check s w).2.check r z).1].Perm
      [(t.check r z).1, ((t.check r z).2.check s w).1] := by
  cases hr : openPriority? r z with
  | none =>
    obtain ⟨answer, hc⟩ := check_of_closed hr
    rw [hc, hc]
    exact List.Perm.swap _ _ _
  | some p =>
    cases hs : openPriority? s w with
    | none =>
      obtain ⟨answer, hc⟩ := check_of_closed hs
      rw [hc, hc]
      exact List.Perm.swap _ _ _
    | some q =>
      by_cases hpq : p = q
      · subst hpq
        simp only [check_of_open hr, check_of_open hs]
        exact List.Perm.refl _
      · have hs' : ((t.check r z).2.check s w).1 = (t.check s w).1 := by
          rw [check_of_open hs, check_of_open hs]
          simp only [mem_seen_check, hr, Option.some.injEq, hpq, or_false]
          split <;> rfl
        have hr' : ((t.check s w).2.check r z).1 = (t.check r z).1 := by
          rw [check_of_open hr, check_of_open hr]
          simp only [mem_seen_check, hs, Option.some.injEq, Ne.symm hpq, or_false]
          split <;> rfl
        rw [hs', hr']
        exact List.Perm.swap _ _ _

/-- Looks in another order get the same answers in another order: of the looks that find a priority,
all but one are answered by a repetition, whichever comes first. -/
theorem answers_perm {steps steps' : List (Record × Zone)} (h : steps.Perm steps') (t : Tracker) :
    (t.answers steps).Perm (t.answers steps') := by
  induction h generalizing t with
  | nil => exact List.Perm.refl _
  | cons step _ ih => exact (ih _).cons _
  | swap x y steps =>
    obtain ⟨r, z⟩ := x
    obtain ⟨s, w⟩ := y
    have hknown : ∀ p, p ∈ ((t.check s w).2.check r z).2.seen ↔
        p ∈ ((t.check r z).2.check s w).2.seen := by
      intro p
      simp only [mem_seen_check, or_right_comm]
    rw [answers, answers, answers, answers, answers_congr hknown]
    exact (check_swap t r s z w).append_right _
  | trans _ _ ih ih' => exact (ih t).trans (ih' t)

/-- What follows a run of looks does not change its answers. -/
theorem answers_prefix (t : Tracker) (steps rest : List (Record × Zone)) :
    t.answers steps <+: t.answers (steps ++ rest) := by
  induction steps generalizing t with
  | nil => exact List.nil_prefix
  | cons step steps ih => exact (List.prefix_cons_inj _).2 (ih _)

/-- Some of the looks of a run get some of its answers: what is left out may as well follow. -/
theorem answers_subperm {steps steps' : List (Record × Zone)} (h : steps'.Sublist steps)
    (t : Tracker) : (t.answers steps').Subperm (t.answers steps) := by
  obtain ⟨rest, hrest⟩ := h.exists_perm_append
  have hfirst : (t.answers steps').Subperm (t.answers (steps' ++ rest)) :=
    (t.answers_prefix steps' rest).sublist.subperm
  exact hfirst.trans (answers_perm hrest.symm t).subperm

/-- Where priorities do not matter the tracker has nothing to say. -/
theorem check_of_untracked {z : Zone} (h : tracked z = false) (t : Tracker) (r : Record) :
    t.check r z = (none, t) := by simp [check, h]

end Tracker
end ZoneAudit.Mx
