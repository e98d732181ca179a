import ZoneAudit.Text.Split
import ZoneAudit.Uri.Fold
import ZoneAudit.Uri.Percent

/-!
Paths with slashes. A single dot as a segment is dropped; a double dot takes the segment before it
away, unless that starts with a drive letter.
-/

namespace ZoneAudit.Uri.Path
open Text

/-- A letter and a colon or bar. -/
def isDrive : List Char → Bool
  | [a, b] => a.isAlpha && (b = ':' || b = '|')
  | _ => false

/-- A drive letter, alone or with a backslash behind it: no double dot leads out of it. -/
def isRoot (segment : List Char) : Bool :=
  isDrive (segment.take 2) && segment[2]?.all (· = '\\')

/-- The text with each encoded dot written as a dot. -/
def plainDots : List Char → List Char
  | '%' :: '2' :: e :: r =>
    if e = 'e' ∨ e = 'E' then '.' :: plainDots r else '%' :: '2' :: plainDots (e :: r)
  | c :: r => c :: plainDots r
  | [] => []

def isDot (segment : List Char) : Bool := plainDots segment = ['.']

def isDoubleDot (segment : List Char) : Bool := plainDots segment = ['.', '.']

/-- The closed segments of a path that is being read, last first. -/
abbrev Stack := List (List Char)

def Stack.up : Stack → Stack
  | [] => []
  | d :: ds => if isRoot d then d :: ds else ds

def Stack.close (stack : Stack) (segment : List Char) : Stack :=
  if isDoubleDot segment then stack.up
  else if isDot segment then stack
  else segment :: stack

/-- The segments of a path whose last segment is given; after dots it ends in a slash. -/
def Stack.finish (stack : Stack) (last : List Char) : List (List Char) :=
  if isDot last || isDoubleDot last then stack.reverse ++ [[]] else stack.reverse

/-- The segments that are left once all dots are resolved. -/
def resolve (segments : List (List Char)) : List (List Char) :=
  (segments.foldl Stack.close []).finish (segments.getLast?.getD [])

def slashes (s : List Char) : List Char := s.map fun c => if c = '\\' then '/' else c

/-- Reads the text after the first slash of a path, without query and fragment. -/
def read (special : Bool) (s : List Char) : List (List Char) :=
  resolve ((Percent.encode Percent.path (if special then slashes s else s)).splitOn '/')

def text (segments : List (List Char)) : List Char := '/' :: ['/'].intercalate segments

/-! Paths to files, of which the first segment may be a drive letter. -/

/-- The segments closed so far, and whether a drive letter came first and stands for the host. -/
structure FileStack where
  stack : Stack := []
  drive : Bool := false

/-- A drive letter with a colon and the text behind it, if they are only parted by a fold. -/
def cutDrive (segment : List Char) : Option (List Char × List Char) :=
  match cut ':' segment with
  | some (letter, rest) =>
    let drive := unfold letter ++ [':']
    if isDrive drive && rest.head?.any isFold && !(unfold rest).isEmpty then some (drive, rest)
    else none
  | none => none

/-- Closes a segment that may still be folded. A drive letter that a fold parts from the text behind
it is a segment of its own. -/
def FileStack.close (f : FileStack) (segment : List Char) : FileStack :=
  let plain := Percent.encode Percent.path (unfold segment)
  if f.stack.isEmpty then
    match cutDrive segment with
    | some (drive, rest) =>
      { f with stack := [Percent.encode Percent.path (unfold rest), drive] }
    | none =>
      if isDrive plain then { stack := [plain.take 1 ++ [':']], drive := true }
      else { f with stack := f.stack.close plain }
  else { f with stack := f.stack.close plain }

/-- Reads the text after the first slash of a path to a file, without query and fragment. -/
def readFile (s : List Char) : List (List Char) × Bool :=
  let segments := (slashes s).splitOn '/'
  let f := segments.foldl FileStack.close {}
  (f.stack.finish (unfold (segments.getLast?.getD [])), f.drive)

end ZoneAudit.Uri.Path
