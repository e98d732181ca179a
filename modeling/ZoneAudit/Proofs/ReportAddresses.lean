import ZoneAudit.Dmarc.Rules

/-!
The addresses for reports in a domain policy. An address that no report can be sent to is an error,
but a list of too many addresses is remarked on before its addresses are looked at, and with them
those of the other list. So a policy with a wrong address gets no error as long as it has too many.
-/

namespace ZoneAudit.Dmarc

/-- Some address for reports is no URI of the schemes that its list asks for. -/
def Policy.Misaddressed (p : Policy) : Prop :=
  (∃ rua ∈ p.rua, ∃ s ∈ rua,
    ¬∃ u, Uri.parse? s = some u ∧ (u.scheme = "mailto" ∨ u.scheme = "https")) ∨
  ∃ ruf ∈ p.ruf, ∃ s ∈ ruf, ¬∃ u, Uri.parse? s = some u ∧ u.scheme = "mailto"

/-- The addresses for aggregate reports are more than a policy should have. -/
def Policy.Crowded (p : Policy) : Prop := maxAggregateUris < (p.rua.getD []).length

theorem hasScheme_iff {schemes : List String} {s : String} :
    hasScheme schemes s ↔ ∃ u, Uri.parse? s = some u ∧ u.scheme ∈ schemes := by
  simp [hasScheme, Option.any_eq_true]

/-- The first address of a list, if there is one, that has none of the given schemes. -/
def wrong? (schemes : List String) (uris : Option (List String)) : Option String :=
  uris.bind (·.find? (!hasScheme schemes ·))

theorem isSome_wrong? {schemes : List String} {uris : Option (List String)} :
    (wrong? schemes uris).isSome ↔
      ∃ l ∈ uris, ∃ s ∈ l, ¬∃ u, Uri.parse? s = some u ∧ u.scheme ∈ schemes := by
  cases uris with
  | none => simp [wrong?]
  | some l => simp [wrong?, List.find?_isSome, ← hasScheme_iff]

variable {r : Record} {p : Policy}

theorem Policy.misaddressed_iff :
    p.Misaddressed ↔
      (wrong? ["mailto", "https"] p.rua).isSome ∨ (wrong? ["mailto"] p.ruf).isSome := by
  simp [Misaddressed, isSome_wrong?]

/-- A list of too many addresses is remarked on, and nothing else. -/
theorem reporting_of_crowded (h : parse? r.data = some p) (hmany : p.Crowded) (z : Zone) :
    reporting r z = some (Fault.tooManyAggregateUris (p.rua.getD []).length).diagnostic := by
  cases hrua : p.rua with
  | none => simp [Policy.Crowded, hrua] at hmany
  | some rua =>
    have hlength : maxAggregateUris < rua.length := by simpa [Policy.Crowded, hrua] using hmany
    simp [reporting, onPolicy, h, hrua, aggregateFault?, hlength]

/-- Without too many addresses the first wrong one is reported, and if there is none, that one of
the lists is missing. -/
theorem reporting_of_not_crowded (h : parse? r.data = some p) (hfew : ¬p.Crowded) (z : Zone) :
    reporting r z =
      (((wrong? ["mailto", "https"] p.rua).map Fault.aggregateUri) <|>
        ((wrong? ["mailto"] p.ruf).map Fault.forensicUri) <|>
        if p.rua = none ∨ p.ruf = none then some Fault.reportingOff else none).map
          Fault.diagnostic := by
  have haggregate : p.rua.bind aggregateFault? =
      (wrong? ["mailto", "https"] p.rua).map Fault.aggregateUri := by
    cases hrua : p.rua with
    | none => rfl
    | some rua =>
      have hlength : ¬maxAggregateUris < rua.length := by simpa [Policy.Crowded, hrua] using hfew
      simp [aggregateFault?, hlength, wrong?]
  have hforensic : p.ruf.bind forensicFault? =
      (wrong? ["mailto"] p.ruf).map Fault.forensicUri := by
    cases p.ruf <;> rfl
  rw [← haggregate, ← hforensic, reporting, onPolicy, h]
  rfl

/-- The rule on report addresses is in error just if the body is a policy with a wrong address and
not too many of them. -/
theorem reporting_error_iff (r : Record) (z : Zone) :
    ((∃ d ∈ reporting r z, d.severity = .error) ↔
      ∃ p, parse? r.data = some p ∧ p.Misaddressed ∧ ¬p.Crowded) ∧
    ∀ p, parse? r.data = some p → p.Crowded →
      reporting r z = some (Fault.tooManyAggregateUris (p.rua.getD []).length).diagnostic := by
  refine ⟨?_, fun p h hmany => reporting_of_crowded h hmany z⟩
  cases h : parse? r.data with
  | none => simp [reporting, onPolicy, h]
  | some p =>
    simp only [Option.some.injEq, exists_eq_left']
    by_cases hmany : p.Crowded
    · have hwarning (n : Nat) : (Fault.tooManyAggregateUris n).diagnostic.severity = .warning := rfl
      simp [reporting_of_crowded h hmany, hwarning, hmany]
    · have haggregate (s : String) : (Fault.aggregateUri s).diagnostic.severity = .error := rfl
      have hforensic (s : String) : (Fault.forensicUri s).diagnostic.severity = .error := rfl
      have hoff : Fault.reportingOff.diagnostic.severity = .info := rfl
      rw [reporting_of_not_crowded h hmany, Policy.misaddressed_iff, and_iff_left hmany]
      cases wrong? ["mailto", "https"] p.rua with
      | some s => simp [haggregate]
      | none =>
        cases wrong? ["mailto"] p.ruf with
        | some s => simp [hforensic]
        | none =>
          by_cases hmissing : p.rua = none ∨ p.ruf = none
          · simp [hmissing, hoff]
          · simp [hmissing]

/-- Three addresses, the last of which has no scheme: no error is found. -/
theorem reporting_overlooks_address :
    let r : Record := ⟨.txt, "_dmarc.example.com", 3600,
      "v=DMARC1; p=reject; rua=mailto:a@x.com,mailto:b@x.com,c@x.com"⟩
    let z : Zone := ⟨"example.com", [], none⟩
    (∃ p, parse? r.data = some p ∧ p.Misaddressed) ∧
    ¬∃ d ∈ reporting r z, d.severity = .error := by
  intro r z
  have hparse : (parse? r.data).any fun p => (wrong? ["mailto", "https"] p.rua).isSome := by
    decide +kernel
  obtain ⟨p, hp, hwrong⟩ := Option.any_eq_true _ _ |>.1 hparse
  have hnone : (reporting r z).all (·.severity ≠ .error) := by decide +kernel
  refine ⟨⟨p, hp, Policy.misaddressed_iff.2 (.inl hwrong)⟩, ?_⟩
  rintro ⟨d, hd, herror⟩
  simpa [herror] using Option.all_eq_true _ _ |>.1 hnone d hd

end ZoneAudit.Dmarc
