import ZoneAudit.Text.Blank

/-!
Quoted character-strings, the form in which resolvers print TXT data: one or more texts between
quotation marks, in which a backslash makes the next character literal.
-/

namespace ZoneAudit.Text.Quoted

/-- The characters between quotation marks; `inside` tells on which side of one the text starts. -/
def content (inside : Bool) : List Char → List Char
  | [] => []
  | '"' :: r => content (!inside) r
  | '\\' :: c :: r => if inside then c :: content inside r else content inside (c :: r)
  | c :: r => if inside && c ≠ '\\' then c :: content inside r else content inside r

/-- Joins the character-strings of a text that starts with one, and trims any other text. -/
def unquote (s : List Char) : List Char :=
  match trim s with
  | '"' :: r => content true r
  | r => r

/-- One character-string, with a backslash before each quotation mark and backslash. -/
def quote (s : List Char) : List Char :=
  '"' :: s.flatMap (fun c => if c = '"' ∨ c = '\\' then ['\\', c] else [c]) ++ ['"']

end ZoneAudit.Text.Quoted
