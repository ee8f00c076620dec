import CloudQueue.Json.Printer

/-!
# Values of the wrong shape

A `Mismatch` says what a reader of a certain shape found instead of what it expected.
-/

namespace CloudQueue.Json

inductive Mismatch where
  | wrongType (found : Json) (expected : String)
  | wrongValue (found : Json) (expected : String)
  | wrongLength (length : Nat) (expected : String)
  | missingField (name : String)
  deriving DecidableEq

/-- How a value is named in a message: scalars with their text, arrays and objects by their kind. -/
def found : Json → String
  | .null => "null"
  | .bool true => "boolean `true`"
  | .bool false => "boolean `false`"
  | .number (.integer i _ _) => "integer `" ++ String.ofList (Text.integer i) ++ "`"
  | .number (.float x) => "floating point `" ++ String.ofList x.render ++ "`"
  | .string s => "string " ++ String.ofList (Text.quoted s.toList)
  | .array _ => "sequence"
  | .object _ => "map"

def Mismatch.message : Mismatch → String
  | .wrongType j expected => "invalid type: " ++ j.found ++ ", expected " ++ expected
  | .wrongValue j expected => "invalid value: " ++ j.found ++ ", expected " ++ expected
  | .wrongLength n expected =>
    "invalid length " ++ String.ofList (Text.digits n) ++ ", expected " ++ expected
  | .missingField name => "missing field `" ++ name ++ "`"

end CloudQueue.Json
