/-!
# Text without control sequences

Control characters and control sequences steer a terminal and are not shown. A sequence starts with
the escape character; where it stands in its sequence decides whether a character belongs to it.
White space within a short sequence is shown, and what follows it is shown up to the next control
character, which goes on with the sequence.
-/

namespace CloudQueue.Text

/-- A place in a control sequence. -/
inductive SequencePlace where
  | outside
  | escape
  | intermediate
  | parameters
  /-- In a command of the operating system. -/
  | command
  | device
  | deviceParameters
  | deviceIntermediate
  /-- In a text that the terminal skips up to its terminator. -/
  | skipped
  deriving DecidableEq, Repr

def isBetween (first last : Nat) (c : Char) : Bool := first ≤ c.toNat && c.toNat ≤ last

/-- White space that moves the cursor. -/
def isMotion (c : Char) : Bool := c == '\t' || c == '\n' || c == '\x0c' || c == '\r'

def isVisible (c : Char) : Bool := isMotion c || (0x20 ≤ c.toNat && c.toNat ≠ 0x7F)

namespace SequencePlace

/-- The place behind a character of a sequence. A terminator is the single byte, also within the
encoding of a character. -/
def next (place : SequencePlace) (c : Char) : SequencePlace :=
  if c = '\x1b' then .escape
  else if c = '\x18' ∨ c = '\x1a' then .outside
  else
    match place with
    | .outside => .outside
    | .escape =>
      if isBetween 0x20 0x2F c then .intermediate
      else if c = '[' then .parameters
      else if c = ']' then .command
      else if c = 'P' then .device
      else if c = 'X' ∨ c = '^' ∨ c = '_' then .skipped
      else if isBetween 0x30 0x7E c then .outside
      else .escape
    | .intermediate => if isBetween 0x30 0x7E c then .outside else .intermediate
    | .parameters => if isBetween 0x40 0x7E c then .outside else .parameters
    | .command => if c = '\x07' then .outside else .command
    | .device =>
      if isBetween 0x20 0x2F c then .deviceIntermediate
      else if isBetween 0x30 0x3F c then .deviceParameters
      else if isBetween 0x40 0x7E c then .skipped
      else .device
    | .deviceParameters =>
      if isBetween 0x20 0x2F c then .deviceIntermediate
      else if isBetween 0x3C 0x7E c then .skipped
      else .deviceParameters
    | .deviceIntermediate => if isBetween 0x30 0x7E c then .skipped else .deviceIntermediate
    | .skipped => if (String.utf8EncodeChar c).contains 0x9C then .outside else .skipped

def shows (place : SequencePlace) (c : Char) : Bool :=
  match place with
  | .outside => isVisible c
  | .escape | .intermediate | .parameters => isMotion c
  | _ => false

end SequencePlace

/-- What is shown of a text, from a place on. While a text is `showing`, its visible characters do
not belong to the sequence at that place; one beyond ASCII ends it. -/
def visibleFrom : (showing : Bool) → SequencePlace → List Char → List Char
  | _, _, [] => []
  | true, place, c :: s =>
    if isVisible c then c :: visibleFrom true (if 0x7F < c.toNat then .outside else place) s
    else visibleFrom false (place.next c) s
  | false, place, c :: s =>
    if place.shows c then c :: visibleFrom true (place.next c) s
    else visibleFrom false (place.next c) s

def visible (s : List Char) : List Char := visibleFrom false .outside s

end CloudQueue.Text
