import ZoneAudit.Dmarc.Rules
import ZoneAudit.Proofs.TagSegments

/-!
What a domain policy is read from. Nothing of a body matters but the last values that it states for
eleven tags: bodies that agree on these are the same policy, and no rule that reads the policy tells
them apart.
-/

namespace ZoneAudit.Dmarc
open TagList

/-- The tags that a policy consists of. -/
def tags : List String := ["v", "p", "sp", "pct", "rua", "ruf", "fo", "aspf", "adkim", "ri", "rf"]

/-- Two bodies describe the same policy, or both none, and the rules that read it answer alike in
any records and zones. -/
structure ReadAlike (a b : String) : Prop where
  policy : parse? a = parse? b
  answers : ∀ rule ∈ [form, alignment, reporting, settings], ∀ (r s : Record) (y z : Zone),
    r.data = a → s.data = b → rule r y = rule s z

theorem ofTags?_congr {f g : String → Option String} (h : ∀ tag ∈ tags, f tag = g tag) :
    ofTags? f = ofTags? g := by
  simp only [tags, List.forall_mem_cons] at h
  obtain ⟨hv, hp, hsp, hpct, hrua, hruf, hfo, haspf, hadkim, hri, hrf, -⟩ := h
  simp only [ofTags?, hv, hp, hsp, hpct, hrua, hruf, hfo, haspf, hadkim, hri, hrf]

variable {r s : Record} {a b : String}

theorem form_congr (h : parse? r.data = parse? s.data) (y z : Zone) : form r y = form s z := by
  simp only [form, h]

theorem onPolicy_congr (h : parse? r.data = parse? s.data) (check : Policy → Option Fault)
    (y z : Zone) : onPolicy check r y = onPolicy check s z := by
  simp only [onPolicy, h]

theorem readAlike_of_parse? (h : parse? a = parse? b) : ReadAlike a b where
  policy := h
  answers := by
    rintro rule hrule r s y z rfl rfl
    simp only [List.mem_cons, List.not_mem_nil, or_false] at hrule
    obtain rfl | rfl | rfl | rfl := hrule
    · exact form_congr h y z
    all_goals exact onPolicy_congr h _ y z

theorem readAlike_of_value? (h : ∀ tag ∈ tags, value? (entries a) tag = value? (entries b) tag) :
    ReadAlike a b := readAlike_of_parse? (ofTags?_congr h)

/-- Bodies that state each of the eleven tags with the same last value, or neither at all, are read
alike; so are bodies that edits turn into each other. -/
theorem readAlike_of_last_tags (a b : String) :
    ((∀ tag ∈ tags, ∀ v, LastStates (segments a) tag v ↔ LastStates (segments b) tag v) →
      ReadAlike a b) ∧
    (Relation.EqvGen (Edit tags) (segments a) (segments b) → ReadAlike a b) := by
  constructor
  · intro h
    refine readAlike_of_value? fun tag htag => Option.ext fun v => ?_
    exact lastStates_iff.trans ((h tag htag v).trans lastStates_iff.symm)
  · intro h
    exact readAlike_of_value? fun tag htag => value?_eq_of_eqvGen h htag

/-- The policy and the share of messages change places, the name of the share is padded and in
capitals, and segments are added that state other things. -/
theorem readAlike_of_last_tags_edited :
    let a := "v=DMARC1; p=none; pct=50"
    let b := "v=DMARC1; PCT\t=50; p=none;p=;x=y"
    (∀ tag ∈ tags, ∀ v, LastStates (segments a) tag v ↔ LastStates (segments b) tag v) ∧
    Relation.EqvGen (Edit tags) (segments a) (segments b) ∧ ReadAlike a b := by
  intro a b
  have hvalues : ∀ tag ∈ tags, value? (entries a) tag = value? (entries b) tag := by
    decide +kernel
  have hlast : ∀ tag ∈ tags, ∀ v, LastStates (segments a) tag v ↔ LastStates (segments b) tag v := by
    intro tag htag v
    rw [← lastStates_iff, ← lastStates_iff]
    exact Eq.congr_left (hvalues tag htag)
  let version := "v=DMARC1".toList
  let policy := " p=none".toList
  let name := " ".toList ++ "pct".toList ++ []
  let name' := " ".toList ++ "PCT".toList ++ "\t".toList
  let share := name ++ '=' :: "50".toList
  let share' := name' ++ '=' :: "50".toList
  have ha : segments a = [version, policy, share] := by decide +kernel
  have hb : segments b = [version, share', policy, "p=".toList, "x=y".toList] := by decide +kernel
  have hapart : [policy, share].Pairwise Apart := by
    simp only [List.pairwise_pair, apart_iff]
    decide +kernel
  have hname : SameName name name' :=
    .of_recased (List.forall_mem_singleton.2 rfl) (List.forall_mem_nil _)
      (List.forall_mem_singleton.2 rfl) (List.forall_mem_singleton.2 rfl) (by decide +kernel)
  have hreorder : Edit tags [version, policy, share] [version, share, policy] :=
    @Edit.reorder _ [version] _ _ [] (.swap ..) hapart
  have hrename : Edit tags [version, share, policy] [version, share', policy] :=
    @Edit.rename _ [version] _ _ _ _ (by decide +kernel) (by decide +kernel) hname
  have hempty : Edit tags [version, share', policy] [version, share', policy, "p=".toList] :=
    @Edit.insert _ [version, share', policy] [] _ (states_none_iff.2 (by decide +kernel))
  have hother : Edit tags [version, share', policy, "p=".toList]
      [version, share', policy, "p=".toList, "x=y".toList] :=
    @Edit.insert _ [version, share', policy, "p=".toList] [] _
      (states_none_iff.2 (by decide +kernel))
  have hedits : Relation.EqvGen (Edit tags) (segments a) (segments b) := by
    rw [ha, hb]
    exact (((Relation.EqvGen.rel _ _ hreorder).trans _ _ _ (.rel _ _ hrename)).trans _ _ _
      (.rel _ _ hempty)).trans _ _ _ (.rel _ _ hother)
  exact ⟨hlast, hedits, (readAlike_of_last_tags a b).2 hedits⟩

end ZoneAudit.Dmarc
