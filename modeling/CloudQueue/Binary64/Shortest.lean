import CloudQueue.Binary64.Basic
import CloudQueue.Text.Integer

/-!
# The shortest decimal text of a floating-point number

`shortest` finds the fewest decimal digits that round back to a number, and of those the nearest
to it. `render` lays them out as a `DecimalFormat` says.
-/

namespace CloudQueue.Binary64

/-- A decimal number `digits * 10 ^ power`. -/
structure Decimal where
  digits : Nat
  power : Int
  deriving DecidableEq, Repr

def compareDecimal (a : Nat) (g : Int) (b : Nat) (p : Int) : Ordering :=
  compare (a * Nat.pow 10 g.toNat * Nat.pow 2 (-p).toNat)
    (b * Nat.pow 2 p.toNat * Nat.pow 10 (-g).toNat)

/-- The least and greatest decimals that round to `x`, in quarters of its last bit. Below a power
of two the neighbour is half as far away. -/
def roundingBounds (x : Binary64) : Nat × Nat :=
  let m := 4 * x.significand
  (if x.fraction.val = 0 ∧ 1 < x.exponent.val then m - 1 else m - 2, m + 2)

/-- Whether `a * 10 ^ g` rounds to `x`. The bounds themselves do if the significand is even. -/
def roundsTo (x : Binary64) (a : Nat) (g : Int) : Bool :=
  let (low, high) := roundingBounds x
  let p := x.power - 2
  let below := compareDecimal a g low p
  let above := compareDecimal a g high p
  if x.significand % 2 = 0 then below.isGE && above.isLE else below.isGT && above.isLT

/-- The number of decimal digits before the point of `x`, zero or negative below one. -/
def decimalMagnitude (x : Binary64) : Int :=
  let guess := (Nat.log2 x.significand + x.power) * 30103 / 100000
  let fits (k : Int) : Bool := (compareDecimal 1 k x.significand x.power).isGT
  if fits (guess - 1) then guess - 1
  else if fits guess then guess
  else if fits (guess + 1) then guess + 1
  else guess + 2

/-- The nearest of the two neighbours of `x` on the grid of `10 ^ g` that round to `x`; of two
equally near ones the even. -/
def onGrid (x : Binary64) (g : Int) : Option Nat :=
  let (n, d) := x.ratio
  let (n, d) := if 0 ≤ g then (n, d * Nat.pow 10 g.toNat) else (n * Nat.pow 10 (-g).toNat, d)
  let down := n / d
  let nearest := roundDiv n d
  let other := if nearest = down then down + 1 else down
  if roundsTo x nearest g then some nearest
  else if roundsTo x other g then some other
  else none

/-- The first grid, from the coarsest of `n` digits to the finest of 17, with a decimal that
rounds to `x`. -/
def searchGrids (x : Binary64) (magnitude : Int) : Nat → Decimal
  | 0 => ⟨x.significand, x.power⟩
  | left + 1 =>
    let g := magnitude - (17 - left : Nat)
    match onGrid x g with
    | some a => ⟨a, g⟩
    | none => searchGrids x magnitude left

def shortest (x : Binary64) : Decimal :=
  if x.significand = 0 then ⟨0, 0⟩ else searchGrids x x.decimalMagnitude 17

/-- Where a decimal text is positional, and how its exponent looks. -/
structure DecimalFormat where
  /-- Positional from this many zeros after the point. -/
  leadingZeros : Nat
  /-- Positional up to this many digits before the point. -/
  integerDigits : Nat
  positiveMark : List Char

/-- Documents write a number positionally between `1e-5` and `1e16`, and mark the sign of every
exponent. -/
def documentFormat : DecimalFormat := ⟨4, 16, ['+']⟩

/-- The digits without the zeros at the end, and the power that makes up for them. -/
def dropZeros (s : List Char) (power : Int) : List Char × Int :=
  let kept := (s.reverse.dropWhile (· = '0')).reverse
  (kept, power + (s.length - kept.length : Nat))

def Decimal.layout (f : DecimalFormat) (d : Decimal) : List Char :=
  if d.digits = 0 then ['0', '.', '0']
  else
    let (ds, power) := dropZeros (Text.digits d.digits) d.power
    let point : Int := ds.length + power
    if 0 ≤ power ∧ point ≤ f.integerDigits then
      ds ++ List.replicate power.toNat '0' ++ ['.', '0']
    else if 0 < point ∧ point ≤ f.integerDigits then
      ds.take point.toNat ++ '.' :: ds.drop point.toNat
    else if -(f.leadingZeros : Int) ≤ point ∧ point ≤ 0 then
      '0' :: '.' :: List.replicate (-point).toNat '0' ++ ds
    else
      let e := point - 1
      let mark := if e < 0 then '-' :: Text.digits e.natAbs
        else f.positiveMark ++ Text.digits e.natAbs
      match ds with
      | [d] => d :: 'e' :: mark
      | ds => ds.take 1 ++ '.' :: ds.drop 1 ++ 'e' :: mark

def layout (f : DecimalFormat) (x : Binary64) : List Char :=
  if x.negative then '-' :: x.shortest.layout f else x.shortest.layout f

def render (x : Binary64) : List Char := x.layout documentFormat

end CloudQueue.Binary64
