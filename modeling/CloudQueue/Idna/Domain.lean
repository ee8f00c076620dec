import CloudQueue.Idna.Direction
import CloudQueue.Idna.Joining
import CloudQueue.Idna.Mapping
import CloudQueue.Idna.Punycode
import CloudQueue.Text.Composition

/-!
# Host names in ASCII

A host name consists of labels between dots. One with characters beyond ASCII has a form in ASCII,
in which such labels are in Punycode behind `xn--`. Plain names only lose their capital letters.
-/

namespace CloudQueue.Idna

def punycodeMark : List Char := ['x', 'n', '-', '-']

def isAscii (c : Char) : Bool := c.toNat < 128

/-- Whether a label can stand in a host name: its characters are kept as they are, it is composed,
no mark of Punycode and no combining mark is at its start, and joiners have letters to join. -/
def isLabel (s : List Char) : Bool :=
  s.all isKept && Text.compose s == s && !punycodeMark.isPrefixOf s && !s.head?.any Text.isMark &&
    joinsWell [] s

def encodeLimit : Nat := 1000

def decodeLimit : Nat := 2004

/-- The label that a text stands for. Punycode is for labels with characters beyond ASCII only. -/
def decodeLabel? (s : List Char) : Option (List Char) :=
  if punycodeMark.isPrefixOf s then
    match Punycode.decode? (s.drop punycodeMark.length) with
    | some t =>
      if s.all isAscii && s.length ≤ decodeLimit && !t.all isAscii && isLabel t then some t
      else none
    | none => none
  else if isLabel s then some s
  else none

def encodeLabel? (s : List Char) : Option (List Char) :=
  if s.all isAscii then some s
  else if s.length ≤ encodeLimit then some (punycodeMark ++ Punycode.encode s)
  else none

/-- A host name with its characters replaced, in composed form. -/
def mapped? (s : List Char) : Option (List Char) :=
  (s.mapM replacement?).map fun parts => Text.compose parts.flatten

def isPlain (s : List Char) : Bool :=
  s.all isAscii && !(Text.splitOn '.' (s.map Char.toLower)).any punycodeMark.isPrefixOf

def toAscii? (s : List Char) : Option (List Char) :=
  if isPlain s then some (s.map Char.toLower)
  else do
    let labels ← (Text.splitOn '.' (← mapped? s)).mapM decodeLabel?
    if areOrdered labels then
      return Text.joinWith '.' (← labels.mapM encodeLabel?)
    else none

end CloudQueue.Idna
