import CloudQueue.Url.Host

/-!
# URLs

A `Url` holds the parts of an absolute URL, each already in percent-encoding, so its text is a mere
concatenation.
-/

namespace CloudQueue

/-- The path of a URL: segments below a host or root, or opaque text. -/
inductive Url.Path where
  | segments (list : List (List Char))
  | opaqueText (s : List Char)
  deriving DecidableEq, Repr

structure Url.UserInfo where
  name : List Char := []
  password : List Char := []
  deriving DecidableEq, Repr

structure Url where
  scheme : List Char
  user : Url.UserInfo := {}
  host : Option Url.Host := none
  port : Option Nat := none
  path : Url.Path
  query : Option (List Char) := none
  fragment : Option (List Char) := none
  deriving DecidableEq, Repr

namespace Url

def defaultPort? (scheme : List Char) : Option Nat :=
  if scheme = "http".toList ∨ scheme = "ws".toList then some 80
  else if scheme = "https".toList ∨ scheme = "wss".toList then some 443
  else if scheme = "ftp".toList then some 21
  else none

def fileScheme : List Char := "file".toList

def isSpecial (scheme : List Char) : Bool :=
  (defaultPort? scheme).isSome || scheme == fileScheme

def isWeb (u : Url) : Bool := u.scheme == "http".toList || u.scheme == "https".toList

def Path.text : Path → List Char
  | .segments list => list.flatMap fun s => '/' :: s
  | .opaqueText s => s

def UserInfo.text (u : UserInfo) : List Char :=
  if u.name = [] ∧ u.password = [] then []
  else if u.password = [] then u.name ++ ['@']
  else u.name ++ ':' :: u.password ++ ['@']

/-- Whether user information can be sent as credentials: its name is a text in percent-encoding,
and there is a name, or a password that is such a text as well. -/
def UserInfo.isReadable (u : UserInfo) : Bool :=
  (decodeText? u.name).isSome &&
    (u.name ≠ [] || (u.password ≠ [] && (decodeText? u.password).isSome))

/-- The URL without its credentials. What cannot be sent as credentials stays. -/
def withoutCredentials (u : Url) : Url :=
  if u.user.isReadable then { u with user := {} } else u

/-- The text between scheme and path. Without a host, a path that looks like one is kept apart. -/
def authorityText (u : Url) : List Char :=
  match u.host with
  | some host =>
    let port := match u.port with
      | some n => ':' :: Text.digits n
      | none => []
    ['/', '/'] ++ u.user.text ++ host.text ++ port
  | none =>
    match u.path with
    | .segments ([] :: _ :: _) => ['/', '.']
    | _ => []

def markedPart (mark : Char) : Option (List Char) → List Char
  | some s => mark :: s
  | none => []

def target (u : Url) : List Char := u.path.text ++ markedPart '?' u.query

def text (u : Url) : List Char :=
  u.scheme ++ ':' :: u.authorityText ++ u.target ++ markedPart '#' u.fragment

protected def toString (u : Url) : String := String.ofList u.text

end Url

end CloudQueue
