import CloudQueue.Binary64.Shortest
import CloudQueue.Json.Basic
import CloudQueue.Text.Quoted

/-!
# The text of a JSON value

A value has a compact text, without blanks, and a pretty one, with a line for every item and member
and two spaces for each level. Both come from one printer, `print`, under a `Layout`. The display
text names the kind of every value and is meant for people.
-/

namespace CloudQueue.Json

/-- One character of a JSON string: quotes, backslashes and the control characters below U+0020 are
escaped, everything else stands for itself. -/
def escapeChar (c : Char) : List Char :=
  if c = '"' then ['\\', '"']
  else if c = '\\' then ['\\', '\\']
  else if c = '\x08' then ['\\', 'b']
  else if c = '\t' then ['\\', 't']
  else if c = '\n' then ['\\', 'n']
  else if c = '\x0c' then ['\\', 'f']
  else if c = '\r' then ['\\', 'r']
  else if c.toNat < 0x20 then
    ['\\', 'u', '0', '0', Nat.digitChar (c.toNat / 16), Nat.digitChar (c.toNat % 16)]
  else [c]

def quote (s : String) : List Char := '"' :: s.toList.flatMap escapeChar ++ ['"']

def Number.print : Number → List Char
  | .integer i _ _ => Text.integer i
  | .float x => x.render

inductive Layout where
  | compact
  | pretty
  deriving DecidableEq, Repr

/-- What stands before each part at a level, and before the closing bracket. -/
def Layout.newline : Layout → Nat → List Char
  | .compact, _ => []
  | .pretty, level => '\n' :: List.replicate (2 * level) ' '

def Layout.colon : Layout → List Char
  | .compact => [':']
  | .pretty => [':', ' ']

mutual

/-- The text of a value at a level. Empty arrays and objects stay on one line. -/
def print (layout : Layout) (level : Nat) : Json → List Char
  | .null => ['n', 'u', 'l', 'l']
  | .bool true => ['t', 'r', 'u', 'e']
  | .bool false => ['f', 'a', 'l', 's', 'e']
  | .number n => n.print
  | .string s => quote s
  | .array [] => ['[', ']']
  | .array (x :: xs) =>
    '[' :: layout.newline (level + 1) ++ print layout (level + 1) x ++
      printItems layout (level + 1) xs ++ layout.newline level ++ [']']
  | .object .empty => ['\x7b', '\x7d']
  | .object (.member name _ x rest) =>
    '\x7b' :: layout.newline (level + 1) ++ quote name ++ layout.colon ++
      print layout (level + 1) x ++ printMembers layout (level + 1) rest ++
      layout.newline level ++ ['\x7d']

/-- The items after the first, each with the comma before it. -/
def printItems (layout : Layout) (level : Nat) : List Json → List Char
  | [] => []
  | x :: xs =>
    ',' :: layout.newline level ++ print layout level x ++ printItems layout level xs

def printMembers (layout : Layout) (level : Nat) : {bound : Option String} →
    Members Json bound → List Char
  | _, .empty => []
  | _, .member name _ x rest =>
    ',' :: layout.newline level ++ quote name ++ layout.colon ++ print layout level x ++
      printMembers layout level rest

end

def compact (j : Json) : String := String.ofList (j.print .compact 0)

def pretty (j : Json) : String := String.ofList (j.print .pretty 0)

mutual

def display : Json → List Char
  | .null => "Null".toList
  | .bool true => "Bool(true)".toList
  | .bool false => "Bool(false)".toList
  | .number n => "Number(".toList ++ n.print ++ [')']
  | .string s => "String(".toList ++ Text.quoted s.toList ++ [')']
  | .array items => "Array [".toList ++ displayItems items ++ [']']
  | .object members => "Object ".toList ++ ('\x7b' :: displayMembers members ++ ['\x7d'])

def displayItems : List Json → List Char
  | [] => []
  | [x] => x.display
  | x :: xs => x.display ++ [',', ' '] ++ displayItems xs

def displayMembers : {bound : Option String} → Members Json bound → List Char
  | _, .empty => []
  | _, .member name _ x .empty => Text.quoted name.toList ++ [':', ' '] ++ x.display
  | _, .member name _ x rest =>
    Text.quoted name.toList ++ [':', ' '] ++ x.display ++ [',', ' '] ++ displayMembers rest

end

end CloudQueue.Json
