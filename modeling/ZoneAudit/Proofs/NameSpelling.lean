import Mathlib.Data.List.Forall2
import ZoneAudit.Srv

/-!
Spellings of names. The case of an ASCII letter is no part of a name, nor is a root dot at its end:
two spellings of a name have the same normal form, and they agree in whether the name is a wildcard
and whether it starts with a service and a transport. The case of a letter does not matter to the
small forms of the letters around it either, because a letter is cased in both of its cases.
-/

namespace ZoneAudit
open Text

/-- The same character, or the other case of an ASCII letter. -/
def CaseVariant (c d : Char) : Prop :=
  c = d ∨ c.isAlpha = true ∧ d.isAlpha = true ∧ c.toLower = d.toLower

/-- The same text, but for the case of ASCII letters. -/
abbrev Recased : List Char → List Char → Prop := List.Forall₂ CaseVariant

namespace CaseVariant

variable {c d : Char}

instance : DecidableRel CaseVariant := fun c d =>
  inferInstanceAs (Decidable (c = d ∨ c.isAlpha = true ∧ d.isAlpha = true ∧ c.toLower = d.toLower))

/-- A character that is no letter has no variant but itself. -/
theorem eq_iff (h : CaseVariant c d) {e : Char} (he : e.isAlpha = false) : c = e ↔ d = e := by
  obtain rfl | ⟨hc, hd, -⟩ := h
  · rfl
  · have hne {x : Char} (hx : x.isAlpha) : x ≠ e := by
      rintro rfl
      simp [he] at hx
    simp [hne hc, hne hd]

end CaseVariant

namespace Text

theorem toNat_lt_of_isAlpha {c : Char} (h : c.isAlpha) : c.toNat < 0x80 := by
  have hbound : c.val ≤ 'Z'.val ∨ c.val ≤ 'z'.val := by
    rcases Bool.or_eq_true_iff.1 h with hupper | hlower
    · exact .inl (of_decide_eq_true hupper).2
    · exact .inr (of_decide_eq_true (Bool.and_eq_true_iff.1 hlower).2)
  have hletter : 'Z'.val.toNat < 0x80 ∧ 'z'.val.toNat < 0x80 := by decide
  rcases hbound with hc | hc
  · exact Nat.lt_of_le_of_lt (UInt32.le_iff_toNat_le.1 hc) hletter.1
  · exact Nat.lt_of_le_of_lt (UInt32.le_iff_toNat_le.1 hc) hletter.2

theorem isCased_of_isAlpha {c : Char} (h : c.isAlpha) : isCased c = true := by
  simp [isCased, toNat_lt_of_isAlpha h, h]

theorem isCaseIgnorable_of_isAlpha {c : Char} (h : c.isAlpha) : isCaseIgnorable c = false := by
  have hne {e : Char} (he : e.isAlpha = false) : c ≠ e := by
    rintro rfl
    simp [he] at h
  simp [isCaseIgnorable, toNat_lt_of_isAlpha h, hne (e := '\x27') rfl, hne (e := '.') rfl,
    hne (e := ':') rfl, hne (e := '^') rfl, hne (e := '\x60') rfl]

variable {s t : List Char}

theorem meetsCased_recased (h : Recased s t) : meetsCased s = meetsCased t := by
  induction h with
  | nil => rfl
  | cons hc _ ih =>
    obtain rfl | ⟨hc, hd, -⟩ := hc
    · rw [meetsCased, meetsCased, ih]
    · simp [meetsCased, isCased_of_isAlpha, isCaseIgnorable_of_isAlpha, hc, hd]

theorem lowerAfter_recased (h : Recased s t) (inWord : Bool) :
    lowerAfter inWord s = lowerAfter inWord t := by
  induction h generalizing inWord with
  | nil => rfl
  | @cons c d s t hcd hst ih =>
    rw [lowerAfter, lowerAfter, meetsCased_recased hst]
    obtain rfl | ⟨hc, hd, hcd⟩ := hcd
    · rw [ih]
    · have hsigma {e : Char} (he : e.isAlpha) : e ≠ 'Σ' := by
        rintro rfl
        exact absurd he (by decide)
      have hsmall : small c = small d := by
        rw [small_of_ascii (toNat_lt_of_isAlpha hc), small_of_ascii (toNat_lt_of_isAlpha hd), hcd]
      simp [hsigma hc, hsigma hd, hsmall, isCased_of_isAlpha, isCaseIgnorable_of_isAlpha, hc, hd,
        ih]

theorem lower_recased (h : Recased s t) : lower s = lower t := lowerAfter_recased h false

theorem dropFinal_recased (h : Recased s t) {e : Char} (he : e.isAlpha = false) :
    Recased (dropFinal e s) (dropFinal e t) := by
  induction h with
  | nil => exact .nil
  | @cons c d s t hcd hst ih =>
    cases hst with
    | nil =>
      by_cases hc : c = e
      · have hd := (hcd.eq_iff he).1 hc
        simp [dropFinal, hc, hd]
      · have hd := mt (hcd.eq_iff he).2 hc
        simpa [dropFinal, hc, hd] using hcd
    | @cons c' d' s t hcd' hst =>
      have hcons (x y : Char) (r : List Char) :
          dropFinal e (x :: y :: r) = x :: dropFinal e (y :: r) := by
        simp only [dropFinal, List.getLast?_cons_cons]
        split <;> rfl
      rw [hcons, hcons]
      exact .cons hcd ih

theorem dropFinal_append (s : List Char) (c : Char) : dropFinal c (s ++ [c]) = s := by
  simp [dropFinal]

end Text

namespace DomainName

variable {s t : List Char}

theorem normal_recased (h : Recased s t) : normal s = normal t :=
  lower_recased (dropFinal_recased h rfl)

theorem normal_append_dot (h : s.getLast? ≠ some '.') : normal (s ++ ['.']) = normal s := by
  rw [normal, normal, dropFinal_append, dropFinal, if_neg h]

theorem isWildcard_recased (h : Recased s t) : isWildcard s = isWildcard t := by
  have hstar : "*.".toList = ['*', '.'] := rfl
  rw [isWildcard, isWildcard, startsWith, startsWith, hstar]
  cases h with
  | nil => rfl
  | @cons c d s t hcd hst =>
    have hc := hcd.eq_iff (e := '*') rfl
    cases hst with
    | nil => simp [List.isPrefixOf]
    | @cons c' d' s t hcd' _ =>
      have hc' := hcd'.eq_iff (e := '.') rfl
      rw [Bool.eq_iff_iff]
      simp [List.isPrefixOf, eq_comm (a := '*'), eq_comm (a := '.'), hc, hc']

/-- Only the name of a single star becomes a wildcard by a root dot. -/
theorem isWildcard_append_dot (h : s ≠ ['*']) : isWildcard (s ++ ['.']) = isWildcard s := by
  have hstar : "*.".toList = ['*', '.'] := rfl
  rw [isWildcard, isWildcard, startsWith, startsWith, hstar]
  cases s with
  | nil => rfl
  | cons c r =>
    cases r with
    | nil =>
      have hc : '*' ≠ c := fun hc => h (by rw [hc])
      simp [List.isPrefixOf, hc]
    | cons d r => simp [List.isPrefixOf]

theorem labels_recased (h : Recased s t) : List.Forall₂ Recased (labels s) (labels t) := by
  rw [labels, labels]
  induction h with
  | nil => exact .cons .nil .nil
  | @cons c d s t hcd hst ih =>
    have hdot := hcd.eq_iff (e := '.') rfl
    rw [List.splitOn_cons_eq_if_modifyHead, List.splitOn_cons_eq_if_modifyHead]
    by_cases hc : c = '.'
    · simpa [hc, hdot.1 hc] using ih
    · have hd := mt hdot.2 hc
      simp only [beq_iff_eq, hc, hd, if_false]
      generalize s.splitOn '.' = ss, t.splitOn '.' = ts at ih
      cases ih with
      | nil => exact .nil
      | cons hhead htail => exact .cons (.cons hcd hhead) htail

theorem labels_append_dot (s : List Char) : labels (s ++ ['.']) = labels s ++ [[]] := by
  rw [labels, List.splitOn_append_cons_self, List.splitOn_nil]
  rfl

end DomainName

namespace Srv

variable {s t : List Char}

theorem isServiceLabel_recased (h : Recased s t) : isServiceLabel s = isServiceLabel t := by
  have hlength := h.length_eq
  rw [isServiceLabel, isServiceLabel, hlength]
  cases h with
  | nil => rfl
  | cons hcd _ => simp [hcd.eq_iff (e := '_') rfl]

theorem isProtocolLabel_recased (h : Recased s t) : isProtocolLabel s = isProtocolLabel t := by
  rw [isProtocolLabel, isProtocolLabel, lower_recased h]

theorem isServiceName_recased (h : Recased s t) : isServiceName s = isServiceName t := by
  have hlabels := DomainName.labels_recased h
  simp only [isServiceName]
  generalize DomainName.labels s = ss, DomainName.labels t = ts at hlabels
  cases hlabels with
  | nil => rfl
  | cons hservice hrest =>
    cases hrest with
    | nil => simp
    | cons hprotocol _ =>
      simp [isServiceLabel_recased hservice, isProtocolLabel_recased hprotocol]

/-- The empty label behind a root dot names no transport. -/
theorem isServiceName_append_dot (s : List Char) :
    isServiceName (s ++ ['.']) = isServiceName s := by
  have hempty : isProtocolLabel [] = false := by decide
  simp only [isServiceName, DomainName.labels_append_dot]
  cases h : DomainName.labels s with
  | nil => exact absurd h (List.splitOn_ne_nil _ _)
  | cons service labels =>
    cases labels with
    | nil => simp [hempty]
    | cons protocol labels => simp

end Srv
end ZoneAudit
