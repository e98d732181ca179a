import ZoneAudit.Uri.Punycode
import ZoneAudit.Uri.Idna.Label

/-!
The ASCII form of host names. A name is mapped to lower case and to canonical composed form; then
each label beyond ASCII is written in Punycode after the letters `xn--`.
-/

namespace ZoneAudit.Uri.InternationalName
open Text Idna

/-- ASCII characters that no host name contains. -/
def isDenied (c : Char) : Bool :=
  c.toNat ≤ 0x20 || c.toNat = 0x7F || "#%/:<>?@[\\]^|".toList.contains c

/-- The longest label that is encoded, and the longest Punycode that is decoded. -/
def lengthLimits : Nat × Nat := (1000, 2000)

/-- The text that the Punycode of a label spells, which must itself be fit for a label. -/
def decodeLabel? (s : List Char) : Option (List Char) :=
  if lengthLimits.2 < s.length then none
  else (Punycode.decode? s).filter fun text =>
    !isAscii text && text.all isStable && normal text = text && isLabel text

/-- The text that a label stands for. -/
def text? (label : List Char) : Option (List Char) :=
  if startsWith "xn--" label then
    if isAscii label then decodeLabel? (label.drop 4) else none
  else if isLabel label then some label
  else none

def ascii? (label : List Char) : Option (List Char) :=
  if isAscii label then some label
  else if lengthLimits.1 < label.length then none
  else some ("xn--".toList ++ Punycode.encode label)

/-- The mapped and composed labels of a name. -/
def labels? (s : List Char) : Option (List (List Char)) :=
  (s.mapM map?).map fun images => (normal images.flatten).splitOn '.'

def toAscii? (s : List Char) : Option (List Char) := do
  let labels ← labels? s
  let texts ← labels.mapM text?
  if labels.any (·.any isDenied) || !directionsFit texts then none
  return ['.'].intercalate (← labels.mapM ascii?)

end ZoneAudit.Uri.InternationalName
