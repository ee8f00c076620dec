/-!
# Integers as text

Reading takes an optional sign and decimal digits, and refuses what lies outside a given range.
The digits are judged from left to right, so the first fault in the text is the one reported.
-/

namespace CloudQueue.Text

inductive IntegerError where
  | empty
  | invalidDigit
  | tooLarge
  | tooSmall
  deriving DecidableEq, Repr

def IntegerError.message : IntegerError → String
  | .empty => "cannot parse integer from empty string"
  | .invalidDigit => "invalid digit found in string"
  | .tooLarge => "number too large to fit in target type"
  | .tooSmall => "number too small to fit in target type"

def digitValue? (c : Char) : Option Nat :=
  if '0' ≤ c ∧ c ≤ '9' then some (c.toNat - '0'.toNat) else none

def hexDigitValue? (c : Char) : Option Nat :=
  if '0' ≤ c ∧ c ≤ '9' then some (c.toNat - 48)
  else if 'a' ≤ c ∧ c ≤ 'f' then some (c.toNat - 87)
  else if 'A' ≤ c ∧ c ≤ 'F' then some (c.toNat - 55)
  else none

/-- Digits read onto `acc`, as long as the value stays within `limit`. -/
def readDigits (limit : Nat) (overflow : IntegerError) :
    Nat → List Char → Except IntegerError Nat
  | acc, [] => .ok acc
  | acc, c :: rest =>
    match digitValue? c with
    | none => .error .invalidDigit
    | some d =>
      if acc * 10 + d ≤ limit then readDigits limit overflow (acc * 10 + d) rest
      else .error overflow

/-- An integer between `-low` and `high`, with an optional sign. A minus sign is a sign only where
the range reaches below zero. -/
def readInteger (low high : Nat) : List Char → Except IntegerError Int
  | [] => .error .empty
  | '+' :: [] => .error .invalidDigit
  | '-' :: [] => .error .invalidDigit
  | '+' :: ds => (readDigits high .tooLarge 0 ds).map Int.ofNat
  | '-' :: ds =>
    if low = 0 then .error .invalidDigit
    else (readDigits low .tooSmall 0 ds).map fun n => -Int.ofNat n
  | ds => (readDigits high .tooLarge 0 ds).map Int.ofNat

def readInt64 (s : List Char) : Except IntegerError Int :=
  readInteger 9223372036854775808 9223372036854775807 s

def readNat64 (s : List Char) : Except IntegerError Nat :=
  (readInteger 0 18446744073709551615 s).map Int.toNat

def digits (n : Nat) : List Char := Nat.toDigits 10 n

def integer (i : Int) : List Char :=
  if i < 0 then '-' :: digits i.natAbs else digits i.natAbs

def hexDigits (n : Nat) : List Char := Nat.toDigits 16 n

end CloudQueue.Text
