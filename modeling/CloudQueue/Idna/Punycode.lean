import CloudQueue.Text.Integer

/-!
# Punycode

A text is written in ASCII: its ASCII characters first, then a hyphen, then for each other
character, in ascending order, how far it is from the one before in value and place. Such a distance
is a number of digits in base 36, the least first; a digit below the threshold of its place is the
last one. The thresholds follow the size of the distances.
-/

namespace CloudQueue.Idna.Punycode

def digit (n : Nat) : Char := if n < 26 then Char.ofNat (97 + n) else Char.ofNat (22 + n)

def digitValue? (c : Char) : Option Nat :=
  if 'a' ≤ c ∧ c ≤ 'z' then some (c.toNat - 97)
  else if 'A' ≤ c ∧ c ≤ 'Z' then some (c.toNat - 65)
  else if '0' ≤ c ∧ c ≤ '9' then some (c.toNat - 22)
  else none

/-- The threshold of a place, counted in steps of 36. -/
def threshold (bias place : Nat) : Nat := min 26 (max 1 (place - bias))

/-- The bias of a small distance, and what a larger one adds to it with each division. -/
def biasOf : (fuel : Nat) → Nat → Nat
  | 0, delta => 36 * delta / (delta + 38)
  | fuel + 1, delta =>
    if 455 < delta then 36 + biasOf fuel (delta / 35) else 36 * delta / (delta + 38)

def adapt (delta length : Nat) (first : Bool) : Nat :=
  let delta := if first then delta / 700 else delta / 2
  let delta := delta + delta / length
  biasOf delta delta

def initialBias : Nat := 72

def firstBeyond : Nat := 128

/-! ## Encoding -/

/-- The digits of a distance, from a place on. A number has fewer digits than its value says. -/
def encodeNumber (bias : Nat) : (fuel place : Nat) → Nat → List Char
  | 0, _, n => [digit n]
  | fuel + 1, place, n =>
    let t := threshold bias place
    if n < t then [digit n]
    else
      digit (t + (n - t) % (36 - t)) ::
        encodeNumber bias fuel (place + 36) ((n - t) / (36 - t))

/-- What has been written: the digits, the distance so far, the bias, and how many characters are
done. -/
structure Encoder where
  digits : List Char := []
  delta : Nat := 0
  bias : Nat := initialBias
  done : Nat

def Encoder.step (ascii n : Nat) (e : Encoder) (c : Char) : Encoder :=
  if c.toNat < n then { e with delta := e.delta + 1 }
  else if c.toNat = n then
    { digits := e.digits ++ encodeNumber e.bias e.delta 36 e.delta
      delta := 0
      bias := adapt e.delta (e.done + 1) (e.done == ascii)
      done := e.done + 1 }
  else e

/-- The encoder behind the code points `ns`, which are in ascending order and start at `n`. -/
def Encoder.run (s : List Char) (ascii : Nat) : (n : Nat) → List Nat → Encoder → Encoder
  | _, [], e => e
  | n, m :: ms, e =>
    let e := { e with delta := e.delta + (m - n) * (e.done + 1) }
    let e := s.foldl (Encoder.step ascii m) e
    run s ascii (m + 1) ms { e with delta := e.delta + 1 }

def ascending (ns : List Nat) : List Nat := (ns.mergeSort (· ≤ ·)).eraseReps

def encode (s : List Char) : List Char :=
  let ascii := s.filter fun c => c.toNat < firstBeyond
  let beyond := (s.map Char.toNat).filter (firstBeyond ≤ ·)
  let e := Encoder.run s ascii.length firstBeyond (ascending beyond) { done := ascii.length }
  (if ascii = [] then [] else ascii ++ ['-']) ++ e.digits

/-! ## Decoding -/

def numberLimit : Nat := 4294967295

/-- A number with the digits of a text, from a place and a weight on, added to `n`; and the text
behind it. -/
def decodeNumber? (bias : Nat) : (place weight n : Nat) → List Char → Option (Nat × List Char)
  | _, _, _, [] => none
  | place, weight, n, c :: s => do
    let d ← digitValue? c
    let n := n + d * weight
    let t := threshold bias place
    if numberLimit < n then none
    else if d < t then some (n, s)
    else if numberLimit < weight * (36 - t) then none
    else decodeNumber? bias (place + 36) (weight * (36 - t)) n s

/-- The text `out` with the characters that the distances in `s` insert. `n` is the code point and
`i` the place of the last one. The fuel is at least the length of `s`. -/
def insertAll? : (fuel bias n i : Nat) → (out s : List Char) → Option (List Char)
  | _, _, _, _, out, [] => some out
  | 0, _, _, _, _, _ :: _ => none
  | fuel + 1, bias, n, i, out, c :: s => do
    let (j, rest) ← decodeNumber? bias 36 1 i (c :: s)
    let length := out.length + 1
    let n := n + j / length
    let place := j % length
    if n.isValidChar then
      insertAll? fuel (adapt (j - i) length (i == 0)) n (place + 1)
        (out.insertIdx place (Char.ofNat n)) rest
    else none

/-- The text of a Punycode. The last hyphen ends the ASCII characters, unless it is the first
character. -/
def decode? (s : List Char) : Option (List Char) :=
  let digits := (s.reverse.takeWhile (· != '-')).reverse
  let ascii := (s.take (s.length - digits.length)).dropLast
  if ascii = [] then insertAll? s.length initialBias firstBeyond 0 [] s
  else insertAll? digits.length initialBias firstBeyond 0 ascii digits

end CloudQueue.Idna.Punycode
