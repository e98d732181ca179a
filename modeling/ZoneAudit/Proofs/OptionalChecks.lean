import ZoneAudit.Proofs.Attribution

/-!
Optional checks. Best practices and added rules leave the findings of the built-in checks as they
are and where they are: a report with them is an interleaving of the report without them and of what
the optional checks find.
-/

namespace ZoneAudit

/-- The third list is a merge of the first two that keeps the order of each. -/
inductive Interleave {α : Type} : List α → List α → List α → Prop
  | nil : Interleave [] [] []
  | left {xs ys zs : List α} (x : α) : Interleave xs ys zs → Interleave (x :: xs) ys (x :: zs)
  | right {xs ys zs : List α} (y : α) : Interleave xs ys zs → Interleave xs (y :: ys) (y :: zs)

namespace Interleave

variable {α β : Type} {xs ys zs xs' ys' zs' : List α}

theorem nil_right (xs : List α) : Interleave xs [] xs := by
  induction xs with
  | nil => exact .nil
  | cons x xs ih => exact ih.left x

theorem nil_left (ys : List α) : Interleave [] ys ys := by
  induction ys with
  | nil => exact .nil
  | cons y ys ih => exact ih.right y

theorem append (h : Interleave xs ys zs) (h' : Interleave xs' ys' zs') :
    Interleave (xs ++ xs') (ys ++ ys') (zs ++ zs') := by
  induction h with
  | nil => exact h'
  | left x _ ih => exact ih.left x
  | right y _ ih => exact ih.right y

/-- One list after the other is a merge of them. -/
theorem of_append (xs ys : List α) : Interleave xs ys (xs ++ ys) := by
  simpa using (nil_right xs).append (nil_left ys)

theorem map (h : Interleave xs ys zs) (f : α → β) :
    Interleave (xs.map f) (ys.map f) (zs.map f) := by
  induction h with
  | nil => exact .nil
  | left x _ ih => exact ih.left (f x)
  | right y _ ih => exact ih.right (f y)

theorem filter (h : Interleave xs ys zs) (p : α → Bool) :
    Interleave (xs.filter p) (ys.filter p) (zs.filter p) := by
  induction h with
  | nil => exact .nil
  | left x _ ih =>
    by_cases hx : p x
    · simpa [hx] using ih.left x
    · simpa [hx] using ih
  | right y _ ih =>
    by_cases hy : p y
    · simpa [hy] using ih.right y
    · simpa [hy] using ih

theorem sublist_left (h : Interleave xs ys zs) : xs.Sublist zs := by
  induction h with
  | nil => exact .slnil
  | left x _ ih => exact ih.cons_cons x
  | right y _ ih => exact ih.cons y

end Interleave

namespace Audit

/-- The same audit without best practices and without added rules. -/
def plain (a : Audit) : Audit := ⟨{ a.options with checkBestPractices := false }, []⟩

/-- What the optional rules find on the records of a run from a position on. -/
def optionalFrom (a : Audit) (z : Zone) (i : Nat) (rs : List Record) : List Diagnostic :=
  (rs.zipIdx i).flatMap fun (r, j) => ((a.optionalAnswers z r).filterMap id).map (·.atRecord j)

/-- At each position the answers of the optional rules to the record there, and behind them, as best
practices ask for, the sets whose times differ. -/
def optional (a : Audit) (z : Zone) : List Diagnostic :=
  a.optionalFrom z 0 z.records ++
    if a.options.checkBestPractices then Ttl.inconsistencies z.records else []

theorem onRecord_plain (a : Audit) (z : Zone) (t : Mx.Tracker) (r : Record) :
    a.plain.onRecord z t r = builtin z t r := onRecord_builtin rfl z t r

/-- On each record the optional rules answer after the built-in ones, whose tracker they never
touch. -/
theorem walk_interleave (a : Audit) (z : Zone) (i : Nat) (t : Mx.Tracker) (rs : List Record) :
    Interleave (a.plain.walk z i t rs) (a.optionalFrom z i rs) (a.walk z i t rs) := by
  induction rs generalizing i t with
  | nil => exact .nil
  | cons r rs ih =>
    have hrest := ih (i + 1) (trackerAfter z t r)
    have hhere : Interleave (builtin z t r) ((a.optionalAnswers z r).filterMap id)
        (a.onRecord z t r) := by
      rw [onRecord, List.append_assoc, optional_eq_answers]
      exact .of_append _ _
    rw [walk, walk, onRecord_plain]
    exact (hhere.map (·.atRecord i)).append hrest

theorem onZone_interleave (a : Audit) (z : Zone) :
    Interleave (a.plain.onZone z)
      (if a.options.checkBestPractices then Ttl.inconsistencies z.records else []) (a.onZone z) := by
  have hplain : a.plain.onZone z ++
      (if a.options.checkBestPractices then Ttl.inconsistencies z.records else []) = a.onZone z := by
    simp [plain, onZone]
  rw [← hplain]
  exact .of_append _ _

theorem findings_interleave (a : Audit) (z : Zone) :
    Interleave (a.plain.findings z) (a.optional z) (a.findings z) :=
  (a.walk_interleave z 0 {} z.records).append (a.onZone_interleave z)

/-- Each list of a report is the one without optional checks, interleaved with what the optional
checks find, in order and at the severity of the audit. -/
theorem report_interleave (a : Audit) (z : Zone) :
    let without := a.plain.report z
    let more := (a.optional z).map a.raise
    without.errors.Sublist (a.report z).errors ∧
    without.warnings.Sublist (a.report z).warnings ∧
    Interleave without.errors (more.filter (·.isError)) (a.report z).errors ∧
    Interleave without.warnings (more.filter (!·.isError)) (a.report z).warnings := by
  intro without more
  have hraised : Interleave ((a.plain.findings z).map a.raise) more ((a.findings z).map a.raise) :=
    (a.findings_interleave z).map a.raise
  have hwithout : without = .ofList ((a.plain.findings z).map a.raise) := a.plain.report_eq_ofList z
  rw [hwithout, report_eq_ofList]
  have herrors := hraised.filter (·.isError)
  have hothers := hraised.filter (!·.isError)
  exact ⟨herrors.sublist_left, hothers.sublist_left, herrors, hothers⟩

end Audit
end ZoneAudit
