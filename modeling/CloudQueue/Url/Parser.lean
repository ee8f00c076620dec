import CloudQueue.Text.Trim
import CloudQueue.Url.Basic

/-!
# Parsing URLs

`Url.parse?` reads an absolute URL, `Url.join?` a reference seen from a web address. Control
characters and spaces around the text, and tabs and line ends within, do not count. Dot segments
lead up or nowhere, and special schemes take a backslash for a slash.
-/

namespace CloudQueue.Url

/-- The text that counts: without control characters and spaces at its ends, and without tabs and
line ends. -/
def clean (s : List Char) : List Char :=
  let outer (c : Char) : Bool := c.toNat ≤ 0x20
  (Text.dropEndWhile outer (s.dropWhile outer)).filter fun c =>
    !(c == '\t' || c == '\n' || c == '\r')

def cutScheme? (s : List Char) : Option (List Char × List Char) :=
  let inScheme (c : Char) : Bool := c.isAlphanum || c == '+' || c == '-' || c == '.'
  match s with
  | c :: _ =>
    if c.isAlpha then
      match s.dropWhile inScheme with
      | ':' :: rest => some ((s.takeWhile inScheme).map Char.toLower, rest)
      | _ => none
    else none
  | [] => none

def isSlash (special : Bool) (c : Char) : Bool := c == '/' || (special && c == '\\')

def endsAuthority (special : Bool) (c : Char) : Bool :=
  isSlash special c || c == '?' || c == '#'

/-! ## Paths -/

def isSingleDot (s : List Char) : Bool :=
  s == ['.'] || s.map Char.toLower == ['%', '2', 'e']

def isDoubleDot (s : List Char) : Bool :=
  let t := s.map Char.toLower
  t == ['.', '.'] || t == ['.', '%', '2', 'e'] || t == ['%', '2', 'e', '.'] ||
    t == ['%', '2', 'e', '%', '2', 'e']

def isDrive (s : List Char) : Bool :=
  match s with
  | [c, d] => c.isAlpha && (d == ':' || d == '|')
  | _ => false

/-- Whether a segment is the letter of a drive, up to its end or a backslash. -/
def startsWithDrive (s : List Char) : Bool := isDrive (s.takeWhile (· != '\\'))

/-- The path without its last segment. What starts with a drive stays. -/
def shorten (path : List (List Char)) : List (List Char) :=
  match path.getLast? with
  | some s => if startsWithDrive s then path else path.dropLast
  | none => []

/-- The path with further segments. A dot segment at the end leaves an empty one. -/
def addSegments : List (List Char) → List (List Char) → List (List Char)
  | path, [] => path
  | path, [s] =>
    if isDoubleDot s then shorten path ++ [[]]
    else if isSingleDot s then path ++ [[]]
    else path ++ [percentEncode pathSet s]
  | path, s :: rest =>
    if isDoubleDot s then addSegments (shorten path) rest
    else if isSingleDot s then addSegments path rest
    else addSegments (path ++ [percentEncode pathSet s]) rest

def rawSegments (special : Bool) (s : List Char) : List (List Char) :=
  Text.splitOn '/' (s.map fun c => if isSlash special c then '/' else c)

def cutPath (s : List Char) : List Char × List Char :=
  let ends (c : Char) : Bool := c == '?' || c == '#'
  (s.takeWhile (!ends ·), s.dropWhile (!ends ·))

def withQueryAndFragment (u : Url) (s : List Char) : Url :=
  let (query, rest) := match s with
    | '?' :: s => (some (s.takeWhile (· != '#')), s.dropWhile (· != '#'))
    | s => (none, s)
  let fragment := match rest with
    | '#' :: s => some (percentEncode fragmentSet s)
    | _ => none
  let set := if isSpecial u.scheme then specialQuerySet else querySet
  { u with query := query.map (percentEncode set), fragment }

def withPath (u : Url) (s : List Char) : Url :=
  let special := isSpecial u.scheme
  let (path, rest) := cutPath s
  let segments := match path with
    | [] => if special then [[]] else []
    | c :: cs => addSegments [] (rawSegments special (if isSlash special c then cs else c :: cs))
  withQueryAndFragment { u with path := .segments segments } rest

/-- The URL of a file with the path, query and fragment of a text that follows its host. A path
that starts with a drive has no host, and a colon behind the letter; slashes at the start of a path
count once. -/
def withFilePath (u : Url) (s : List Char) : Url :=
  let (path, rest) := cutPath s
  let raw := match path with
    | c :: cs => rawSegments true (if isSlash true c ∧ u.host ≠ some .none then cs else c :: cs)
    | [] => [[]]
  -- Only the path's own text is looked at: a drive behind a dot segment keeps its host and its bar.
  let onDrive := (raw.take 1).any isDrive
  let raw := if onDrive then raw.modifyHead fun s => s.take 1 ++ [':'] else raw
  let segments := match (addSegments [] raw).dropWhile (· == []) with
    | [] => [[]]
    | list => list
  withQueryAndFragment
    { u with host := if onDrive then some .none else u.host, path := .segments segments } rest

/-! ## Authorities -/

def cutLast (c : Char) (s : List Char) : Option (List Char) × List Char :=
  match (Text.splitOn c s).reverse with
  | last :: before :: rest => (some (Text.joinWith c (before :: rest).reverse), last)
  | _ => (none, s)

def UserInfo.ofText (s : List Char) : UserInfo :=
  { name := percentEncode userInfoSet (s.takeWhile (· != ':'))
    password := percentEncode userInfoSet ((s.dropWhile (· != ':')).drop 1) }

/-- The host and the text from its port on; colons in brackets belong to the host. -/
def cutHost : (inBrackets : Bool) → List Char → List Char × List Char
  | _, [] => ([], [])
  | inBrackets, c :: s =>
    if c = ':' ∧ !inBrackets then ([], c :: s)
    else
      let (host, rest) := cutHost (c == '[' || (inBrackets && c != ']')) s
      (c :: host, rest)

/-- The port of a text of digits; none if there are none or it is the scheme's own. -/
def port? (scheme : List Char) (s : List Char) : Option (Option Nat) :=
  match Text.readDigits 65535 .tooLarge 0 s with
  | .ok n => some (if s = [] ∨ defaultPort? scheme = some n then none else some n)
  | .error _ => none

/-- A URL with the user, host and port of its authority, and what follows it. The sign that ends
user information may stand alone, but not in front of an empty host with a path; a port also ends
at a backslash. -/
def withAuthority (scheme : List Char) (s : List Char) : Option Url := do
  let special := isSpecial scheme
  let (user, hostAndPort) := cutLast '@' (s.takeWhile (!endsAuthority special ·))
  let rest := s.dropWhile (!endsAuthority special ·)
  if user = some [] ∧ hostAndPort = [] ∧ rest ≠ [] then none
  let (host, portText) := cutHost false hostAndPort
  let user := match user with
    | some t => UserInfo.ofText t
    | none => {}
  if host = [] ∧ (special ∨ portText ≠ [] ∨ user ≠ {}) then none
  let host ← if host = [] then some .none else Host.parse? special host
  let port ← port? scheme ((portText.drop 1).takeWhile (· != '\\'))
  return withPath { scheme, user, host := some host, port, path := .segments [] }
    (portText.dropWhile (· != '\\') ++ rest)

/-! ## URLs -/

def ofFileText (s : List Char) : Option Url :=
  let u : Url := { scheme := fileScheme, host := some .none, path := .segments [] }
  match s with
  | a :: b :: rest =>
    if isSlash true a ∧ isSlash true b then
      let host := rest.takeWhile (!endsAuthority true ·)
      let rest' := rest.dropWhile (!endsAuthority true ·)
      if isDrive host then some (withFilePath u rest)
      else if host = [] then some (withFilePath u rest')
      else do
        let host ← Host.parse? true host
        let host := if host = .name "localhost".toList then .none else host
        return withFilePath { u with host := some host } rest'
    else some (withFilePath u s)
  | s => some (withFilePath u s)

def ofScheme (scheme s : List Char) : Option Url :=
  if scheme = fileScheme then ofFileText s
  else if isSpecial scheme then withAuthority scheme (s.dropWhile (isSlash true))
  else
    match s with
    | '/' :: '/' :: rest => withAuthority scheme rest
    | '/' :: _ => some (withPath { scheme, path := .segments [] } s)
    | s =>
      let (path, rest) := cutPath s
      some (withQueryAndFragment
        { scheme, path := .opaqueText (percentEncode controlSet path) } rest)

def parse? (text : String) : Option Url :=
  match cutScheme? (clean text.toList) with
  | some (scheme, rest) => ofScheme scheme rest
  | none => none

/-- The URL of a text without a scheme, seen from the web address `base`. -/
def ofReference (base : Url) (s : List Char) : Option Url :=
  let segments := match base.path with
    | .segments list => list
    | .opaqueText _ => []
  match s with
  | [] => some { base with fragment := none }
  | c :: rest =>
    if isSlash true c then
      match rest with
      | d :: rest' =>
        if isSlash true d then withAuthority base.scheme (rest'.dropWhile (isSlash true))
        else some (withPath { base with query := none, fragment := none } s)
      | [] => some (withPath { base with query := none, fragment := none } s)
    else if c = '?' then some (withQueryAndFragment base s)
    else if c = '#' then
      some { withQueryAndFragment base s with query := base.query }
    else
      let (path, rest) := cutPath s
      some (withQueryAndFragment { base with
        path := .segments (addSegments segments.dropLast (rawSegments true path)) } rest)

def join? (base : Url) (reference : String) : Option Url :=
  let s := clean reference.toList
  match cutScheme? s with
  | some (scheme, rest) =>
    let slashes := (rest.takeWhile (isSlash true)).length
    if scheme = base.scheme ∧ slashes < 2 then ofReference base rest else ofScheme scheme rest
  | none => ofReference base s

end CloudQueue.Url
