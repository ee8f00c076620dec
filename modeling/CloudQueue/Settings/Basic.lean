import CloudQueue.Json.Reader
import CloudQueue.Json.Shape
import CloudQueue.Settings.File

/-!
# Settings and their sections

Settings are a JSON document. A section is addressed by a name: the empty name stands for the whole
document, a name that is itself a top-level member stands for that member, and any other name is a
path of member names with dots between them. A null section counts as missing.
-/

namespace CloudQueue

structure Settings where
  root : Json := .null
  deriving DecidableEq

namespace Settings

instance : Inhabited Settings := ⟨{}⟩

inductive Error where
  | notFound (name : String)
  | text (e : Json.Error)
  | shape (m : Json.Mismatch)
  | file (e : FileError)
  deriving DecidableEq

def Error.message : Error → String
  | .notFound name => "config section not found: " ++ name
  | .text e => "json: " ++ e.message
  | .shape m => "json: " ++ m.message
  | .file e => "io error: " ++ e.message

def ofText (text : String) : Except Error Settings :=
  match Json.parse text with
  | .ok root => .ok ⟨root⟩
  | .error e => .error (.text e)

def ofRead : Except FileError String → Except Error Settings
  | .ok text => ofText text
  | .error e => .error (.file e)

def ofFile (tree : FileTree) (path : String) : Except Error Settings := ofRead (tree.read path)

def segments (name : String) : List String :=
  (Text.splitOn '.' name.toList).map String.ofList

def walk : List String → Json → Option Json
  | [], j => some j
  | key :: path, j =>
    match j.get? key with
    | some child => walk path child
    | none => none

/-- The value that a name addresses, null included. -/
def address (settings : Settings) (name : String) : Option Json :=
  if name = "" then some settings.root
  else
    -- A null member is found here too, and hides what the path would lead to.
    match settings.root.get? name with
    | some member => some member
    | none => walk (segments name) settings.root

/-- The section of a name, if there is one other than null. -/
def section? (settings : Settings) (name : String) : Option Json :=
  (settings.address name).filter fun j => !j.isNull

def has (settings : Settings) (name : String) : Bool := (settings.section? name).isSome

def get (settings : Settings) (name : String) : Except Error Json :=
  match settings.section? name with
  | some j => .ok j
  | none => .error (.notFound name)

def read {α : Type} (settings : Settings) (shape : Json.Shape α) (name : String) :
    Except Error α :=
  match settings.get name with
  | .error e => .error e
  | .ok j =>
    match shape j with
    | .ok x => .ok x
    | .error m => .error (.shape m)

end Settings

end CloudQueue
