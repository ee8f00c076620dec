import CloudQueue.Text.Split

/-!
# Files

A `FileTree` is what a directory holds: the files and directories in it, by their paths. Reading
follows a path name by name, so the first name that leads nowhere is the one reported.
-/

namespace CloudQueue

inductive FileError where
  | notFound
  | notDirectory
  | isDirectory
  | nameTooLong
  | zeroByte
  | permissionDenied
  | invalidText
  deriving DecidableEq, Repr

def FileError.message : FileError → String
  | .notFound => "No such file or directory (os error 2)"
  | .notDirectory => "Not a directory (os error 20)"
  | .isDirectory => "Is a directory (os error 21)"
  | .nameTooLong => "File name too long (os error 36)"
  | .permissionDenied => "Permission denied (os error 13)"
  | .zeroByte => "file name contained an unexpected NUL byte"
  | .invalidText => "stream did not contain valid UTF-8"

inductive FileEntry where
  | file (bytes : ByteArray)
  | directory

/-- The files and directories below a directory, each with the names that lead to it. -/
structure FileTree where
  entries : List (List String × FileEntry)

namespace FileTree

/-- The names of a path. Empty names and single dots lead nowhere else. -/
def names (path : String) : List String :=
  ((Text.splitOn '/' path.toList).filter fun name => name ≠ [] ∧ name ≠ ['.']).map String.ofList

def ofList (files : List (String × FileEntry)) : FileTree :=
  ⟨files.map fun f => (names f.1, f.2)⟩

/-- What stands at a place. A place that leads on to an entry is a directory. -/
def entry? (tree : FileTree) (place : List String) : Option FileEntry :=
  match tree.entries.find? fun e => e.1 = place with
  | some e => some e.2
  | none =>
    if place = [] ∨ tree.entries.any (fun e => place.isPrefixOf e.1) then some .directory else none

/-- The longest name that a directory can hold, in bytes. -/
def nameLimit : Nat := 255

/-- The longest path that is followed, in bytes. -/
def pathLimit : Nat := 4095

/-- What the names lead to, from a place on. Above the tree there is nothing but directories. -/
def follow (tree : FileTree) (place : List String) : List String → Except FileError FileEntry
  | [] => match tree.entry? place with
    | some e => .ok e
    | none => .error .notFound
  | name :: rest =>
    match tree.entry? place with
    | none => .error .notFound
    | some (.file _) => .error .notDirectory
    | some .directory =>
      if name = ".." then
        if place ≠ [] then tree.follow place.dropLast rest
        else if rest.all (· = "..") then .ok .directory
        else .error .notFound
      else if nameLimit < name.utf8ByteSize then .error .nameTooLong
      else tree.follow (place ++ [name]) rest

/-- Whether a path can only lead to a directory: its last name is empty or a single dot. -/
def endsInDirectory (path : String) : Bool :=
  match (Text.splitOn '/' path.toList).getLast? with
  | some name => name == [] || name == ['.']
  | none => true

/-- What a path leads to. A path that is too long is not followed at all, the empty path leads
nowhere, and of what is outside the tree only the root of the file system is known. -/
def find (tree : FileTree) (path : String) : Except FileError FileEntry :=
  if path.toList.contains '\x00' then .error .zeroByte
  else if pathLimit < path.utf8ByteSize then .error .nameTooLong
  else if path = "" then .error .notFound
  else if path.toList.head? = some '/' then
    if (names path).all (· = "..") then .ok .directory else .error .notFound
  else
    match tree.follow [] (names path) with
    | .ok (.file bytes) => if endsInDirectory path then .error .notDirectory else .ok (.file bytes)
    | r => r

def read (tree : FileTree) (path : String) : Except FileError String :=
  match tree.find path with
  | .error e => .error e
  | .ok .directory => .error .isDirectory
  | .ok (.file bytes) =>
    match String.fromUTF8? bytes with
    | some text => .ok text
    | none => .error .invalidText

end FileTree

end CloudQueue
