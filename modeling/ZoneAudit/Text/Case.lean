import ZoneAudit.Text.CaseTable

/-!
Lower and upper case after Unicode's full mappings: one capital has a small form of two characters,
and a capital sigma at the end of a word becomes a final sigma; ligatures and some accented letters
have capital forms of several characters.
-/

namespace ZoneAudit.Text

def isCased (c : Char) : Bool :=
  if c.toNat < 0x80 then c.isAlpha else CaseTable.within CaseTable.cased c.toNat

/-- Characters that are skipped when the end of a word is looked for. -/
def isCaseIgnorable (c : Char) : Bool :=
  if c.toNat < 0x80 then c = '\x27' || c = '.' || c = ':' || c = '^' || c = '\x60'
  else CaseTable.within CaseTable.ignorable c.toNat

/-- The small form of a character outside its context. -/
def small (c : Char) : List Char :=
  if c.toNat < 0x80 then [c.toLower]
  else if c = 'İ' then ['i', '\u0307']
  else match CaseTable.capitals.find? (·.covers c.toNat) with
    | some t => [Char.ofNat (c.toNat - t.first + t.small)]
    | none => [c]

/-- Whether the first character that is not ignorable is cased. -/
def meetsCased : List Char → Bool
  | [] => false
  | c :: r => if isCaseIgnorable c then meetsCased r else isCased c

/-- Lower case of a text that stands after a cased character (`inWord`) or not. -/
def lowerAfter (inWord : Bool) : List Char → List Char
  | [] => []
  | c :: r =>
    (if c = 'Σ' then [if inWord && !meetsCased r then 'ς' else 'σ'] else small c) ++
      lowerAfter (if isCaseIgnorable c then inWord else isCased c) r

def lower (s : List Char) : List Char := lowerAfter false s

/-- The capital form of a character, which may have up to three characters. -/
def capital (c : Char) : List Char :=
  if c.toNat < 0x80 then [c.toUpper]
  else match CaseTable.capitalForms.find? (·.covers c.toNat) with
    | some f => (f.image c.toNat).map Char.ofNat
    | none => match CaseTable.capitals.find? (·.gives c.toNat) with
      | some t => [Char.ofNat (c.toNat - t.small + t.first)]
      | none => [c]

def upper (s : List Char) : List Char := s.flatMap capital

@[simp] theorem lower_nil : lower [] = [] := rfl

theorem small_of_ascii {c : Char} (h : c.toNat < 0x80) : small c = [c.toLower] := by
  simp [small, h]

end ZoneAudit.Text
