import ZoneAudit.Diagnostic

/-!
Reports: findings in two lists, errors and all others, each in the order in which they arose.
-/

namespace ZoneAudit

/-- `isValid` says that there is no error; warnings and notes do not count. -/
structure Report where
  isValid : Bool := true
  warnings : List Diagnostic := []
  errors : List Diagnostic := []
  deriving DecidableEq, Repr

namespace Report

def push (r : Report) (d : Diagnostic) : Report :=
  if d.isError then { r with isValid := false, errors := r.errors ++ [d] }
  else { r with warnings := r.warnings ++ [d] }

def ofList (ds : List Diagnostic) : Report :=
  { isValid := !ds.any Diagnostic.isError
    warnings := ds.filter (!·.isError)
    errors := ds.filter Diagnostic.isError }

/-- Joins reports in the given order; repeated findings are all kept. -/
def combine (rs : List Report) : Report :=
  { isValid := rs.all Report.isValid
    warnings := rs.flatMap Report.warnings
    errors := rs.flatMap Report.errors }

/-- All findings, errors first. -/
def diagnostics (r : Report) : List Diagnostic := r.errors ++ r.warnings

def count (r : Report) (s : Severity) : Nat := r.diagnostics.countP (·.severity = s)

def hasMessage (r : Report) (message : String) : Bool :=
  r.diagnostics.any (·.message = message)

@[simp] theorem ofList_nil : ofList [] = {} := rfl

/-- A report of a list is what pushing its findings one by one leaves. -/
theorem foldl_push (ds es : List Diagnostic) :
    ds.foldl push (ofList es) = ofList (es ++ ds) := by
  induction ds generalizing es with
  | nil => simp
  | cons d r ih =>
    have h : push (ofList es) d = ofList (es ++ [d]) := by
      by_cases hd : d.isError <;> simp [push, ofList, hd]
    simp [h, ih]

end Report
end ZoneAudit
