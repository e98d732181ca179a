import ZoneAudit.Text.Blank
import ZoneAudit.Text.Split
import ZoneAudit.Text.Case

/-!
Tag lists such as `v=DMARC1; p=reject`: segments between semicolons, each a name and a value around
an equals sign. A later segment with the same name replaces an earlier one.
-/

namespace ZoneAudit.TagList
open Text

/-- The name and value of a segment; the value ends at a second equals sign. -/
def entry? (segment : List Char) : Option (String × String) :=
  match cut '=' (trim segment) with
  | none => none
  | some (name, rest) =>
    let name := trim name
    let value := trim (before '=' rest)
    if name.isEmpty || value.isEmpty then none
    else some (String.ofList (lower name), String.ofList value)

/-- The well-formed segments of a text in order, repeated names included. -/
def entries (s : String) : List (String × String) := (s.toList.splitOn ';').filterMap entry?

/-- The value that the last segment of that name gives it. -/
def value? (entries : List (String × String)) (name : String) : Option String :=
  entries.reverse.lookup name

theorem value?_eq_some_iff {es : List (String × String)} {name v : String} :
    value? es name = some v ↔
      ∃ before after, es = before ++ (name, v) :: after ∧ ∀ e ∈ after, e.1 ≠ name := by
  rw [value?, List.lookup_eq_some_iff]
  constructor
  · rintro ⟨after, before, heq, hafter⟩
    refine ⟨before.reverse, after.reverse, ?_, fun e he => ?_⟩
    · rw [← es.reverse_reverse, heq]
      simp
    · exact (bne_iff_ne.1 (hafter e (List.mem_reverse.1 he))).symm
  · rintro ⟨before, after, rfl, hafter⟩
    refine ⟨after.reverse, before.reverse, by simp, fun e he => ?_⟩
    exact bne_iff_ne.2 (hafter e (List.mem_reverse.1 he)).symm

end ZoneAudit.TagList
