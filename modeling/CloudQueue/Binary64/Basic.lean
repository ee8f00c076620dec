/-!
# Finite binary floating-point numbers

A `Binary64` is a finite number of the 64-bit binary format: a sign, a biased exponent below the
one reserved for infinities, and 52 bits of fraction. Its magnitude is `significand * 2 ^ power`.
`ofRatio` rounds any ratio to the nearest such number, ties to the even significand, and
`mul`, `div` are the correctly rounded operations.
-/

namespace CloudQueue

structure Binary64 where
  negative : Bool
  exponent : Fin 2047
  fraction : Fin 4503599627370496
  deriving DecidableEq

namespace Binary64

def hiddenBit : Nat := 4503599627370496

/-- The magnitude in units of `2 ^ power`. -/
def significand (x : Binary64) : Nat :=
  if x.exponent.val = 0 then x.fraction.val else hiddenBit + x.fraction.val

/-- The exponent of the last bit of the significand. -/
def power (x : Binary64) : Int :=
  if x.exponent.val = 0 then -1074 else (x.exponent.val : Int) - 1075

def zero (negative : Bool) : Binary64 := ⟨negative, 0, 0⟩

def isZero (x : Binary64) : Bool := x.significand == 0

def neg (x : Binary64) : Binary64 := { x with negative := !x.negative }

/-- Equality of values: the two zeros are equal. -/
def sameValue (x y : Binary64) : Bool := (x.isZero && y.isZero) || x == y

/-- `num / den` to the nearest integer, ties to the even one. -/
def roundDiv (num den : Nat) : Nat :=
  let q := num / den
  let r := num % den
  if 2 * r < den ∨ (2 * r = den ∧ q % 2 = 0) then q else q + 1

def scaled (num den : Nat) (e : Int) : Nat × Nat :=
  if 0 ≤ e then (num, den * Nat.pow 2 e.toNat) else (num * Nat.pow 2 (-e).toNat, den)

/-- The number with a significand of at most twice the hidden bit in units of `2 ^ e`, unless it is
too large to be finite. Significands without the hidden bit belong to the least exponent. -/
def pack? (negative : Bool) (m : Nat) (e : Int) : Option Binary64 :=
  let (m, e) := if m = 2 * hiddenBit then (hiddenBit, e + 1) else (m, e)
  if m < hiddenBit then some ⟨negative, 0, Fin.ofNat _ m⟩
  else if h : (e + 1075).toNat < 2047 then
    some ⟨negative, ⟨(e + 1075).toNat, h⟩, Fin.ofNat _ (m - hiddenBit)⟩
  else none

/-- The number nearest to `num / den`, ties to even; none beyond the finite range. The exponent is
the one that leaves 53 bits before rounding, or the least one. -/
def ofRatio (negative : Bool) (num den : Nat) : Option Binary64 :=
  if num = 0 then some (zero negative)
  else
    let low : Int := (Nat.log2 num : Int) - (Nat.log2 den : Int) - 53
    let (n, d) := scaled num den low
    let e := max (-1074) (if 2 * hiddenBit ≤ n / d then low + 1 else low)
    let (n, d) := scaled num den e
    pack? negative (roundDiv n d) e

def ratio (x : Binary64) : Nat × Nat :=
  if 0 ≤ x.power then (x.significand * Nat.pow 2 x.power.toNat, 1)
  else (x.significand, Nat.pow 2 (-x.power).toNat)

def mul (x y : Binary64) : Option Binary64 :=
  ofRatio (x.negative != y.negative) (x.ratio.1 * y.ratio.1) (x.ratio.2 * y.ratio.2)

def div (x y : Binary64) : Option Binary64 :=
  ofRatio (x.negative != y.negative) (x.ratio.1 * y.ratio.2) (x.ratio.2 * y.ratio.1)

def ofInt (i : Int) : Option Binary64 := ofRatio (i < 0) i.natAbs 1

end Binary64

end CloudQueue
