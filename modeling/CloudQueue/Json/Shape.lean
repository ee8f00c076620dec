import CloudQueue.Json.Mismatch

/-!
# Shapes of values

A `Shape α` reads values of one shape into `α`, or says what does not fit. Nothing is converted on
the way: a text is never a number, and an integer is a floating-point number only where one is
asked for.
-/

namespace CloudQueue.Json

/-- A reader of the values of one shape. -/
abbrev Shape (α : Type) := Json → Except Mismatch α

namespace Shape

def any : Shape Json := .ok

def text : Shape String
  | .string s => .ok s
  | j => .error (.wrongType j "a string")

def boolean : Shape Bool
  | .bool b => .ok b
  | j => .error (.wrongType j "a boolean")

def integer (low high : Int) (expected : String) : Shape Int
  | .number (.integer i l h) =>
    if low ≤ i ∧ i ≤ high then .ok i else .error (.wrongValue (.number (.integer i l h)) expected)
  | j => .error (.wrongType j expected)

def int64 : Shape Int := integer (-9223372036854775808) 9223372036854775807 "i64"

def uint64 : Shape Int := integer 0 18446744073709551615 "u64"

def uint8 : Shape Int := integer 0 255 "u8"

/-- A floating-point number. Integers count as the nearest one. -/
def double : Shape Binary64
  | .number (.float x) => .ok x
  | .number (.integer i _ _) => .ok ((Binary64.ofInt i).getD (.zero false))
  | j => .error (.wrongType j "f64")

/-- Nothing, written as null, or something of a shape. -/
def optional {α : Type} (shape : Shape α) : Shape (Option α)
  | .null => .ok none
  | j => (shape j).map some

def list {α : Type} (shape : Shape α) : Shape (List α)
  | .array items => items.mapM shape
  | j => .error (.wrongType j "a sequence")

def members {α : Type} (shape : Shape α) : Shape (Members α none)
  | .object ms => ms.mapM shape
  | j => .error (.wrongType j "a map")

end Shape

end CloudQueue.Json
