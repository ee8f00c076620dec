import CloudQueue.Idna.Domain
import CloudQueue.Url.Percent

/-!
# Hosts

A host is a name, a version 4 or version 6 address, or opaque text. A name that ends in a number
has to be an address of version 4. Names are taken in their form in ASCII.
-/

namespace CloudQueue.Url

inductive Host where
  | name (s : List Char)
  | v4 (address : Nat)
  | v6 (pieces : List Nat)
  | opaqueText (s : List Char)
  | none
  deriving DecidableEq, Repr

/-! ## Version 4 -/

/-- A number in decimal, in octal after a zero, or in hexadecimal after `0x`. -/
def v4Number? (s : List Char) : Option Nat :=
  let digits (base : Nat) (ds : List Char) : Option Nat :=
    ds.foldlM (fun acc c => do
      let d ← Text.hexDigitValue? c
      if d < base then some (acc * base + d) else none) 0
  match s with
  | [] => .none
  | '0' :: 'x' :: ds => digits 16 ds
  | '0' :: 'X' :: ds => digits 16 ds
  | '0' :: d :: ds => digits 8 (d :: ds)
  | ds => digits 10 ds

def dotParts (s : List Char) : List (List Char) :=
  let parts := Text.splitOn '.' s
  if 1 < parts.length ∧ parts.getLast? = some [] then parts.dropLast else parts

def endsInNumber (s : List Char) : Bool :=
  match (dotParts s).getLast? with
  | .none => false
  | some [] => false
  | some part => part.all Char.isDigit || (part.take 1 == ['0'] && (v4Number? part).isSome)

/-- The address of at most four numbers. All but the last stand for one byte each, and the last
for all bytes that are left. -/
def v4OfNumbers? : (left : Nat) → List Nat → Option Nat
  | left + 1, [n] => if n < Nat.pow 256 (left + 1) then some n else .none
  | left + 1, n :: ns =>
    if n < 256 then (v4OfNumbers? left ns).map fun rest => n * Nat.pow 256 left + rest else .none
  | _, _ => .none

def v4OfText? (s : List Char) : Option Nat := do
  v4OfNumbers? 4 (← (dotParts s).mapM v4Number?)

def v4Text (address : Nat) : List Char :=
  Text.joinWith '.'
    ([16777216, 65536, 256, 1].map fun unit => Text.digits (address / unit % 256))

/-! ## Version 6 -/

def v6Piece? (s : List Char) : Option Nat :=
  if s = [] ∨ 4 < s.length then .none
  else s.foldlM (fun acc c => (Text.hexDigitValue? c).map (acc * 16 + ·)) 0

def decimalByte? (s : List Char) : Option Nat := do
  let n ← s.foldlM (fun acc c => (Text.digitValue? c).map (acc * 10 + ·)) 0
  if s = [] ∨ 255 < n ∨ (1 < s.length ∧ s.head? = some '0') then .none else some n

/-- The two pieces of an address of version 4 at the end of one of version 6. -/
def v6Tail? (s : List Char) : Option (List Nat) := do
  match ← (Text.splitOn '.' s).mapM decimalByte? with
  | [a, b, c, d] => some [a * 256 + b, c * 256 + d]
  | _ => .none

/-- The pieces between single colons. Only the last may be an address of version 4. -/
def v6Pieces? : List (List Char) → Option (List Nat)
  | [] => some []
  | [s] => if s.contains '.' then v6Tail? s else (v6Piece? s).map fun n => [n]
  | s :: rest => do
    let n ← v6Piece? s
    let ns ← v6Pieces? rest
    some (n :: ns)

def cutDoubleColon : List Char → Option (List Char × List Char)
  | ':' :: ':' :: s => some ([], s)
  | c :: s => (cutDoubleColon s).map fun p => (c :: p.1, p.2)
  | [] => .none

def v6Side? (s : List Char) : Option (List Nat) :=
  if s = [] then some [] else v6Pieces? (Text.splitOn ':' s)

/-- The eight pieces of an address. A double colon stands for as many zeros as are missing, at
least one. -/
def v6OfText? (s : List Char) : Option (List Nat) :=
  match cutDoubleColon s with
  | some (before, after) => do
    if before.contains '.' then .none
    let before ← v6Side? before
    let after ← v6Side? after
    if before.length + after.length ≤ 7 then
      some (before ++ List.replicate (8 - before.length - after.length) 0 ++ after)
    else .none
  | .none => do
    let pieces ← v6Pieces? (Text.splitOn ':' s)
    if pieces.length = 8 then some pieces else .none

def zeroRun (pieces : List Nat) : Nat := (pieces.takeWhile (· == 0)).length

def longestZeroRun : List Nat → Nat
  | [] => 0
  | n :: ns => max (zeroRun (n :: ns)) (longestZeroRun ns)

def v6Join (pieces : List Nat) : List Char := Text.joinWith ':' (pieces.map Text.hexDigits)

def cutZeroRun (length : Nat) : List Nat → List Nat × List Nat
  | [] => ([], [])
  | n :: ns =>
    if zeroRun (n :: ns) = length then ([], (n :: ns).drop length)
    else
      let (before, after) := cutZeroRun length ns
      (n :: before, after)

/-- An address, its first longest run of at least two zeros as a double colon. -/
def v6Text (pieces : List Nat) : List Char :=
  let run := longestZeroRun pieces
  if run < 2 then v6Join pieces
  else
    let (before, after) := cutZeroRun run pieces
    v6Join before ++ [':', ':'] ++ v6Join after

/-! ## Hosts -/

def Host.text : Host → List Char
  | .name s => s
  | .v4 address => v4Text address
  | .v6 pieces => '[' :: v6Text pieces ++ [']']
  | .opaqueText s => s
  | .none => []

def forbiddenHostChar (c : Char) : Bool :=
  ['\x00', '\t', '\n', '\r', ' ', '#', '/', ':', '<', '>', '?', '@', '[', '\\', ']', '^',
    '|'].contains c

def forbiddenNameChar (c : Char) : Bool :=
  forbiddenHostChar c || c.toNat < 0x20 || c == '%' || 0x7E < c.toNat

/-- The host of a text; `special` schemes know names, others opaque text. -/
def Host.parse? (special : Bool) (s : List Char) : Option Host :=
  match s with
  | '[' :: s =>
    if s.getLast? = some ']' then (v6OfText? s.dropLast).map .v6 else .none
  | s =>
    if special then do
      let name ← Idna.toAscii? (← decodeText? s)
      if name = [] ∨ name.any forbiddenNameChar then .none
      else if endsInNumber name then (v4OfText? name).map .v4
      else some (.name name)
    else if s.any forbiddenHostChar then .none
    else some (.opaqueText (percentEncode controlSet s))

end CloudQueue.Url
