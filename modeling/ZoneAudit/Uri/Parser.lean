import ZoneAudit.Uri.Scheme
import ZoneAudit.Uri.Host
import ZoneAudit.Uri.Path

/-!
Absolute URIs, read as browsers read them: blanks around the text and tabs and line breaks in it are
ignored, special schemes have a host, and every part is brought into its encoded form.
-/

namespace ZoneAudit
open Text

/-- The parts of a URI. The host is empty where there is none; other absent parts are `none`. -/
structure Uri where
  scheme : String
  userinfo : Option String
  host : String
  port : Option String
  path : Option String
  query : Option String
  fragment : Option String
  deriving DecidableEq, Repr

namespace Uri

/-- Drops control characters and spaces at both ends. -/
def trimControls (s : List Char) : List Char :=
  let outer (c : Char) : Bool := c.toNat ≤ 0x20
  ((s.dropWhile outer).reverse.dropWhile outer).reverse

def isSlash (c : Char) : Bool := c = '/' || c = '\\'

/-- A query or a fragment starts here. -/
def endsPath (c : Char) : Bool := c = '?' || c = '#'

/-- A path, query or fragment starts here; in special URIs a backslash is a slash. -/
def endsAuthority (special : Bool) (c : Char) : Bool :=
  c = '/' || endsPath c || (special && c = '\\')

def someText (s : List Char) : Option String := if s.isEmpty then none else some (String.ofList s)

/-- The text before and after the last `c`. -/
def cutLast (c : Char) (s : List Char) : Option (List Char × List Char) :=
  (cut c s.reverse).map fun p => (p.2.reverse, p.1.reverse)

/-- Adds the query and the fragment that a text ends in to a URI. -/
def withTail (special : Bool) (u : Uri) (s : List Char) : Uri :=
  let rest := s.dropWhile (!endsPath ·)
  let set := if special then Percent.specialQuery else Percent.query
  let query : List Char := if rest.head? = some '?' then before '#' rest.tail else []
  let fragment := (rest.dropWhile (· ≠ '#')).tail
  { u with
    query := someText (Percent.encode set query)
    fragment := someText (Percent.encode Percent.fragment fragment) }

/-- Who asks for access: a name, and a secret after a colon unless it is empty. -/
structure Credentials where
  user : List Char
  password : List Char
  deriving DecidableEq, Repr

namespace Credentials

def read (s : List Char) : Credentials :=
  match cut ':' s with
  | some (user, password) =>
    ⟨Percent.encode Percent.userinfo user, Percent.encode Percent.userinfo password⟩
  | none => ⟨Percent.encode Percent.userinfo s, []⟩

def isEmpty (c : Credentials) : Bool := c.user.isEmpty && c.password.isEmpty

/-- The text of credentials with a user. -/
def text? (c : Credentials) : Option String :=
  if c.user.isEmpty then none
  else if c.password.isEmpty then some (String.ofList c.user)
  else some (String.ofList (c.user ++ ':' :: c.password))

end Credentials

/-- Splits the credentials off an authority; an at sign alone before a path fails. -/
def cutCredentials (special : Bool) (s : List Char) : Option (Credentials × List Char) :=
  let authority := s.takeWhile (!endsAuthority special ·)
  let rest := s.dropWhile (!endsAuthority special ·)
  match cutLast '@' authority with
  | none => some (⟨[], []⟩, s)
  | some (credentials, host) =>
    if credentials.isEmpty && host.isEmpty && !rest.isEmpty then none
    else some (Credentials.read credentials, host ++ rest)

/-- Splits the host off a text: it ends before a colon outside brackets. -/
def cutHost (special inside : Bool) : List Char → List Char × List Char
  | [] => ([], [])
  | c :: r =>
    if endsAuthority special c || (c = ':' && !inside) then ([], c :: r)
    else
      let inside := c = '[' || (inside && c ≠ ']')
      (c :: (cutHost special inside r).1, (cutHost special inside r).2)

/-- Reads a port up to the path; the usual port of the scheme and an empty one are left out. -/
def readPort (usual : Option Nat) (s : List Char) : Option (Option String × List Char) :=
  let digits := s.takeWhile Char.isDigit
  let rest := s.dropWhile Char.isDigit
  let port := Nat.ofDigitChars 10 digits 0
  if 65535 < port || !(rest.head?.all fun c => isSlash c || endsPath c) then none
  else if digits.isEmpty || usual = some port then some (none, rest)
  else some (some (String.ofList (decimal port)), rest)

/-- The path after an authority: special URIs always have one. -/
def authorityPath (special : Bool) (s : List Char) : Option String :=
  let path := s.takeWhile (!endsPath ·)
  let isSlash (c : Char) : Bool := endsAuthority special c
  if !special && path.isEmpty then none
  else
    let path := if path.head?.any isSlash then path.tail else path
    some (String.ofList (Path.text (Path.read special path)))

/-- The part of a URI after the double slash. -/
def afterSlashes (scheme : Scheme) (s : List Char) : Option Uri := do
  let special := scheme.isSpecial
  let (credentials, s) ← cutCredentials special s
  let (hostText, s) := cutHost special false s
  let host ← if special then Host.parse? hostText else Host.unresolved? hostText
  if host.text.isEmpty && (s.head? = some ':' || !credentials.isEmpty) then none
  let (port, s) ← if s.head? = some ':' then readPort scheme.port? s.tail else some (none, s)
  return withTail special
    { scheme := scheme.name, userinfo := credentials.text?, host := String.ofList host.text, port,
      path := authorityPath special s, query := none, fragment := none } s

/-- A URI without authority; its path is opaque unless it starts with a slash. -/
def withoutAuthority (scheme : Scheme) (s : List Char) : Uri :=
  let path := s.takeWhile (!endsPath ·)
  let path := match path with
    | '/' :: r => Path.text (Path.read false r)
    | _ => Percent.encode Percent.controls path
  withTail false
    { scheme := scheme.name, userinfo := none, host := "", port := none, path := someText path,
      query := none, fragment := none } s

/-- A URI of a file whose host is known, from the text after the first slash of its path. -/
def filePath (host : List Char) (s : List Char) : Uri :=
  let (segments, drive) := Path.readFile (s.takeWhile (!endsPath ·))
  let host := if drive then [] else host
  withTail true
    { scheme := Scheme.file.name, userinfo := none, host := String.ofList host, port := none,
      path := some (String.ofList ('/' :: (Path.text segments).dropWhile (· = '/'))),
      query := none, fragment := none } (unfold s)

/-- A URI of a file after two slashes: a drive letter is no host, and the local host is left out. -/
def fileWithHost (s : List Char) : Option Uri :=
  let hostText := unfold (s.takeWhile (!endsAuthority true ·))
  let rest := s.dropWhile (!endsAuthority true ·)
  if Path.isDrive hostText then some (filePath [] s)
  else if hostText.isEmpty then some (filePath [] rest)
  else (Host.parse? hostText).map fun host =>
    if host = .name "localhost".toList then filePath [] rest
    else filePath host.text (if rest.head?.any isSlash then rest.tail else rest)

/-- The text after a slash that comes first, folds aside. -/
def afterSlash? (s : List Char) : Option (List Char) :=
  match s.dropWhile isFold with
  | c :: r => if isSlash c then some r else none
  | [] => none

/-- A URI of a file; its text may be folded. -/
def file (s : List Char) : Option Uri :=
  match afterSlash? s with
  | none => some (filePath [] s)
  | some r =>
    match afterSlash? r with
    | none => some (filePath [] r)
    | some r => fileWithHost r

/-- The part of a URI after the colon of its scheme; only in files folds part anything. -/
def afterScheme (scheme : Scheme) (s : List Char) : Option Uri :=
  match scheme with
  | .file => file s
  | .special _ _ => afterSlashes scheme ((unfold s).dropWhile isSlash)
  | .other _ =>
    match unfold s with
    | '/' :: '/' :: r => afterSlashes scheme r
    | s => some (withoutAuthority scheme s)

def parse? (s : String) : Option Uri :=
  (cutScheme (trimControls s.toList)).bind fun p => afterScheme (.ofName p.1) p.2

end Uri
end ZoneAudit
