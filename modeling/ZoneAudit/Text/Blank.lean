/-!
White space and words. A blank is a character with Unicode's White_Space property; a word is a
maximal run of characters that are not blank.
-/

namespace ZoneAudit.Text

def isBlank (c : Char) : Bool :=
  let n := c.toNat
  (0x9 ≤ n && n ≤ 0xD) || n == 0x20 || n == 0x85 || n == 0xA0 || n == 0x1680 ||
    (0x2000 ≤ n && n ≤ 0x200A) || n == 0x2028 || n == 0x2029 || n == 0x202F || n == 0x205F ||
    n == 0x3000

def trimStart (s : List Char) : List Char := s.dropWhile isBlank

def trimEnd (s : List Char) : List Char := (s.reverse.dropWhile isBlank).reverse

def trim (s : List Char) : List Char := trimEnd (trimStart s)

@[simp] theorem trimStart_nil : trimStart [] = [] := rfl

@[simp] theorem trim_nil : trim [] = [] := rfl

theorem trimStart_of_not_blank {c : Char} {s : List Char} (h : isBlank c = false) :
    trimStart (c :: s) = c :: s := by
  simp [trimStart, h]

theorem trimStart_of_blank {c : Char} {s : List Char} (h : isBlank c = true) :
    trimStart (c :: s) = trimStart s := by
  simp [trimStart, h]

/-- The words of a text, in order. -/
def words (s : List Char) : List (List Char) := (s.splitOnP isBlank).filter (!·.isEmpty)

@[simp] theorem words_nil : words [] = [] := rfl

theorem words_of_blank {c : Char} {s : List Char} (h : isBlank c = true) :
    words (c :: s) = words s := by
  simp [words, List.splitOnP_cons_eq_if_modifyHead, h]

end ZoneAudit.Text
