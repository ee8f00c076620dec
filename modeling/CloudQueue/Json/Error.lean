import CloudQueue.Json.Mismatch

/-!
# Faults in JSON texts

A fault has a cause and a place. While a text is read the place is the number of bytes still
ahead; `Fault.locate` turns it into a line and a column, which counts bytes.
-/

namespace CloudQueue.Json

inductive Cause where
  | endOfList
  | endOfObject
  | endOfString
  | endOfValue
  | expectedColon
  | expectedListCommaOrEnd
  | expectedObjectCommaOrEnd
  | expectedIdent
  | expectedValue
  | invalidEscape
  | invalidNumber
  | numberOutOfRange
  | controlCharacter
  | keyMustBeString
  | loneSurrogate
  | trailingComma
  | trailingCharacters
  | unexpectedEndOfHexEscape
  | depthExceeded
  | mismatch (m : Mismatch)
  deriving DecidableEq

def Cause.message : Cause → String
  | .endOfList => "EOF while parsing a list"
  | .endOfObject => "EOF while parsing an object"
  | .endOfString => "EOF while parsing a string"
  | .endOfValue => "EOF while parsing a value"
  | .expectedColon => "expected `:`"
  | .expectedListCommaOrEnd => "expected `,` or `]`"
  | .expectedObjectCommaOrEnd => "expected `,` or `\x7d`"
  | .expectedIdent => "expected ident"
  | .expectedValue => "expected value"
  | .invalidEscape => "invalid escape"
  | .invalidNumber => "invalid number"
  | .numberOutOfRange => "number out of range"
  | .controlCharacter => "control character (\\u0000-\\u001F) found while parsing a string"
  | .keyMustBeString => "key must be a string"
  | .loneSurrogate => "lone leading surrogate in hex escape"
  | .trailingComma => "trailing comma"
  | .trailingCharacters => "trailing characters"
  | .unexpectedEndOfHexEscape => "unexpected end of hex escape"
  | .depthExceeded => "recursion limit exceeded"
  | .mismatch m => m.message

def byteCount : List Char → Nat
  | [] => 0
  | c :: s => c.utf8Size + byteCount s

/-- A cause, with the number of bytes behind the place of the fault. -/
structure Fault where
  cause : Cause
  left : Nat
  deriving DecidableEq

def Fault.before (cause : Cause) (rest : List Char) : Fault := ⟨cause, byteCount rest⟩

/-- A fault in the first byte of the rest of a text, or at its end. -/
def Fault.at (cause : Cause) (rest : List Char) : Fault := ⟨cause, byteCount rest - 1⟩

/-- A cause with its line, counted from one, and its column: the bytes of that line up to the
fault. -/
structure Error where
  cause : Cause
  line : Nat
  column : Nat
  deriving DecidableEq

def position : (bytes line column : Nat) → List Char → Nat × Nat
  | _, line, column, [] => (line, column)
  | bytes, line, column, c :: s =>
    if bytes < c.utf8Size then (line, column + bytes)
    else if c = '\n' then position (bytes - 1) (line + 1) 0 s
    else position (bytes - c.utf8Size) line (column + c.utf8Size) s

def Fault.locate (text : List Char) (fault : Fault) : Error :=
  let (line, column) := position (byteCount text - fault.left) 1 0 text
  ⟨fault.cause, line, column⟩

def Error.message (e : Error) : String :=
  e.cause.message ++ " at line " ++ String.ofList (Text.digits e.line) ++ " column " ++
    String.ofList (Text.digits e.column)

end CloudQueue.Json
