import ZoneAudit.Record
import ZoneAudit.Report

/-!
Rules: checks of one record in its zone, each with at most one finding.
-/

namespace ZoneAudit

abbrev Rule := Record → Zone → Option Diagnostic

namespace Rule

/-- The findings of a list of rules, in their order. -/
def run (rules : List Rule) (r : Record) (z : Zone) : List Diagnostic :=
  rules.filterMap fun rule => rule r z

/-- The report of a set of records of which each is checked on its own. -/
def reportEach (check : Record → Zone → Report) (rs : List Record) (z : Zone) : Report :=
  .combine (rs.map (check · z))

end Rule
end ZoneAudit
