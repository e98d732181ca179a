import Mathlib.Data.Finset.Card
import ZoneAudit.Proofs.Tracker

/-!
Repeated priorities on a run of looks. The zones may differ from look to look, so that priorities
matter at some looks and not at others. A tracker that has seen nothing answers each look by the
looks before it that made a priority known, and by nothing else; and of the looks that make some
priority known, all but the first are answered by a repetition.
-/

namespace ZoneAudit.Mx

/-- The priorities that the looks of a run make known, in order and with their repetitions. -/
def openPriorities (steps : List (Record × Zone)) : List UInt16 :=
  steps.filterMap fun s => openPriority? s.1 s.2

@[simp] theorem openPriorities_nil : openPriorities [] = [] := rfl

theorem openPriorities_cons (s : Record × Zone) (steps : List (Record × Zone)) :
    openPriorities (s :: steps) = (openPriority? s.1 s.2).toList ++ openPriorities steps := by
  cases h : openPriority? s.1 s.2 <;> simp [openPriorities, h]

/-- What a look is to be answered after earlier ones: nothing without a second exchange, else an
error for a malformed body and a warning for a known priority. -/
def answerAfter (earlier : List (Record × Zone)) (r : Record) (z : Zone) : Option Diagnostic :=
  if 1 < z.whole.countP (·.type = .mx) then
    match parse? r.data with
    | none => some (.error "Invalid null MX format (RFC 7505)")
    | some body =>
      if body.priority ∈ openPriorities earlier then
        some ((Diagnostic.warning "Duplicate MX priority found").note "priority"
          (.int body.priority.toNat))
      else none
  else none

theorem tracked_iff {z : Zone} : tracked z ↔ 1 < z.whole.countP (·.type = .mx) :=
  decide_eq_true_iff

/-- Whether an answer is the warning about a repeated priority. -/
def isRepetition (answer : Option Diagnostic) : Bool :=
  answer.any (·.message = "Duplicate MX priority found")

namespace Tracker

/-- The tracker has seen the priorities that some looks made known, and no others. -/
def Knows (t : Tracker) (earlier : List (Record × Zone)) : Prop :=
  ∀ p, p ∈ t.seen ↔ p ∈ openPriorities earlier

theorem knows_empty : ({} : Tracker).Knows [] := fun _ => Iff.rfl

variable {t : Tracker} {earlier : List (Record × Zone)}

/-- One look is answered by the looks before it. -/
theorem Knows.answer_eq (h : t.Knows earlier) (r : Record) (z : Zone) :
    (t.check r z).1 = answerAfter earlier r z := by
  by_cases hz : tracked z
  · rw [answerAfter, if_pos (tracked_iff.1 hz)]
    cases hp : parse? r.data with
    | none => simp [check, hz, hp, Fault.diagnostic]
    | some body =>
      have hknown : openPriority? r z = some body.priority := by simp [openPriority?, hz, hp]
      rw [check_of_open hknown]
      by_cases hseen : body.priority ∈ t.seen
      · simp [hseen, (h _).1 hseen, Fault.diagnostic]
      · simp [hseen, mt (h _).2 hseen]
  · rw [answerAfter, if_neg (mt tracked_iff.2 hz), check_of_untracked (by simpa using hz)]

/-- One look makes known what it should. -/
theorem Knows.check (h : t.Knows earlier) (r : Record) (z : Zone) :
    (t.check r z).2.Knows (earlier ++ [(r, z)]) := by
  intro p
  rw [mem_seen_check, h p]
  simp [openPriorities]

/-- So a run is answered look by look, each by those before it. -/
theorem Knows.answers_eq (h : t.Knows earlier) (steps : List (Record × Zone)) :
    t.answers steps =
      steps.mapIdx fun i s => answerAfter (earlier ++ steps.take i) s.1 s.2 := by
  induction steps generalizing t earlier with
  | nil => rfl
  | cons s steps ih =>
    obtain ⟨r, z⟩ := s
    rw [answers, h.answer_eq, ih (h.check r z), List.mapIdx_cons]
    simp

theorem isRepetition_duplicate (p : UInt16) :
    isRepetition (some (Fault.duplicatePriority p).diagnostic) := by
  simp [isRepetition, Fault.diagnostic, Diagnostic.note, Diagnostic.warning, Diagnostic.of]

theorem isRepetition_of_closed {r : Record} {z : Zone} (h : openPriority? r z = none)
    (t : Tracker) : isRepetition (t.check r z).1 = false := by
  by_cases hz : tracked z
  · have hp : parse? r.data = none := by simpa [openPriority?, hz] using h
    simp [check, hz, hp, isRepetition, Fault.diagnostic, Diagnostic.error, Diagnostic.of]
  · simp [check, hz, isRepetition]

/-- A tracker that has seen nothing has nothing to repeat. -/
theorem isRepetition_first (steps : List (Record × Zone)) :
    ∀ answer ∈ (({} : Tracker).answers steps).head?, isRepetition answer = false := by
  cases steps with
  | nil => simp [answers]
  | cons s steps =>
    obtain ⟨r, z⟩ := s
    suffices isRepetition (({} : Tracker).check r z).1 = false by simpa [answers]
    cases h : openPriority? r z with
    | none => exact isRepetition_of_closed h {}
    | some p => simp [check_of_open h, isRepetition]

/-- The priorities that a run makes known and that the tracker had not seen before it. -/
def unseen (t : Tracker) (steps : List (Record × Zone)) : Finset UInt16 :=
  (openPriorities steps).toFinset \ t.seen.toFinset

section

variable {r : Record} {z : Zone} {p : UInt16}

theorem unseen_of_closed (h : openPriority? r z = none) (steps : List (Record × Zone)) :
    t.unseen ((r, z) :: steps) = t.unseen steps := by
  rw [unseen, openPriorities_cons, h, Option.toList_none, List.nil_append, unseen]

theorem unseen_of_mem (h : openPriority? r z = some p) (hp : p ∈ t.seen)
    (steps : List (Record × Zone)) : t.unseen ((r, z) :: steps) = t.unseen steps := by
  rw [unseen, openPriorities_cons, h, Option.toList_some, List.singleton_append,
    List.toFinset_cons, Finset.insert_sdiff_of_mem _ (List.mem_toFinset.2 hp), unseen]

/-- A priority that was not seen before the run counts as seen from its first look on. -/
theorem card_unseen_of_notMem (h : openPriority? r z = some p) (hp : p ∉ t.seen)
    (steps : List (Record × Zone)) :
    (t.unseen ((r, z) :: steps)).card = (unseen ⟨p :: t.seen⟩ steps).card + 1 := by
  have hnew : t.unseen ((r, z) :: steps) = insert p (t.unseen steps) := by
    rw [unseen, openPriorities_cons, h, Option.toList_some, List.singleton_append,
      List.toFinset_cons, Finset.insert_sdiff_of_notMem _ (mt List.mem_toFinset.1 hp), unseen]
  have hrest : unseen ⟨p :: t.seen⟩ steps = (t.unseen steps).erase p := by
    rw [unseen, List.toFinset_cons, Finset.sdiff_insert, unseen]
  rw [hnew, hrest, ← Finset.card_erase_add_one (Finset.mem_insert_self p _),
    Finset.erase_insert_eq_erase]

end

/-- Each look that makes a priority known is answered by a repetition or is the first at a priority
new to the tracker. -/
theorem countP_isRepetition (t : Tracker) (steps : List (Record × Zone)) :
    (t.answers steps).countP isRepetition + (t.unseen steps).card =
      (openPriorities steps).length := by
  induction steps generalizing t with
  | nil => simp [answers, unseen]
  | cons s steps ih =>
    obtain ⟨r, z⟩ := s
    rw [answers, List.countP_cons, openPriorities_cons]
    cases h : openPriority? r z with
    | none =>
      obtain ⟨answer, hc⟩ := check_of_closed h
      have hanswer : isRepetition answer = false := by simpa [hc] using isRepetition_of_closed h t
      rw [unseen_of_closed h, hc]
      simpa [hanswer] using ih t
    | some p =>
      have hlength : ((some p).toList ++ openPriorities steps).length =
          (openPriorities steps).length + 1 := rfl
      by_cases hp : p ∈ t.seen
      · have hc : t.check r z = (some (Fault.duplicatePriority p).diagnostic, t) := by
          rw [check_of_open h, if_pos hp]
        have hrest := ih t
        rw [unseen_of_mem h hp, hlength, hc, if_pos (isRepetition_duplicate p)]
        dsimp only
        omega
      · have hc : t.check r z = (none, ⟨p :: t.seen⟩) := by
          rw [check_of_open h, if_neg hp]
        have hrest := ih ⟨p :: t.seen⟩
        rw [card_unseen_of_notMem h hp, hlength, hc, if_neg (by simp [isRepetition])]
        dsimp only
        omega

/-- A fresh tracker answers each look as the looks before it ask for; there are as many repetitions
as priorities made known, less the different ones. -/
theorem answers_of_fresh (steps : List (Record × Zone)) :
    let answers := ({} : Tracker).answers steps
    answers = steps.mapIdx (fun i s => answerAfter (steps.take i) s.1 s.2) ∧
    (∀ (r : Record) (z : Zone), openPriority? r z = none → ∀ (t : Tracker) later,
      (t.check r z).2.answers later = t.answers later) ∧
    (∀ answer ∈ answers.head?, isRepetition answer = false) ∧
    answers.countP isRepetition + (openPriorities steps).toFinset.card =
      (openPriorities steps).length := by
  intro answers
  have hanswers : answers = steps.mapIdx fun i s => answerAfter (steps.take i) s.1 s.2 := by
    simpa using knows_empty.answers_eq steps
  refine ⟨hanswers, ?_, ?_, ?_⟩
  · intro r z h t later
    obtain ⟨answer, hc⟩ := check_of_closed h
    rw [hc]
  · exact isRepetition_first steps
  · simpa [unseen] using countP_isRepetition {} steps

/-- Looks at a zone with one exchange neither make its priority known nor repeat it. -/
example :
    let mx : Record := ⟨.mx, "example.com", 3600, "10 mail.example.net"⟩
    let mx' : Record := ⟨.mx, "example.com", 3600, "10 relay.example.net"⟩
    let one : Zone := ⟨"example.com", [mx], none⟩
    let two : Zone := ⟨"example.com", [mx, mx'], none⟩
    (({} : Tracker).answers [(mx, one), (mx, two), (mx, one), (mx', two)]).map isRepetition =
      [false, false, false, true] := by decide +kernel

end Tracker
end ZoneAudit.Mx
