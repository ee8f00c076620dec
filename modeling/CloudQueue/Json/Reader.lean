import CloudQueue.Json.Error

/-!
# Reading JSON texts

The reader goes through the characters of a text once. Every function takes the text ahead and
returns what it read and the text behind it, or the first fault. Arrays and objects may nest as
deep as a budget allows, which is also what the recursion goes by.
-/

namespace CloudQueue.Json

/-- Something read and the text behind it, or a fault. -/
abbrev Read (α : Type) := Except Fault (α × List Char)

def isSpace (c : Char) : Bool := c = ' ' || c = '\n' || c = '\t' || c = '\r'

def skipSpace (s : List Char) : List Char := s.dropWhile isSpace

def readWord : List Char → List Char → Except Fault (List Char)
  | [], s => .ok s
  | _ :: _, [] => .error (.at .endOfValue [])
  | e :: es, c :: s => if c = e then readWord es s else .error (.at .expectedIdent (c :: s))

/-! ## Strings -/

def hexValue4? (a b c d : Char) : Option Nat := do
  let a ← Text.hexDigitValue? a
  let b ← Text.hexDigitValue? b
  let c ← Text.hexDigitValue? c
  let d ← Text.hexDigitValue? d
  return ((a * 16 + b) * 16 + c) * 16 + d

/-- Where four hexadecimal digits were expected: the text is too short, or its next four bytes are
no digits. -/
def hexFault (s : List Char) : Fault :=
  if byteCount s < 4 then ⟨.endOfString, 0⟩ else ⟨.invalidEscape, byteCount s - 4⟩

def readHex4 : List Char → Read Nat
  | a :: b :: c :: d :: s =>
    match hexValue4? a b c d with
    | some n => .ok (n, s)
    | none => .error (hexFault (a :: b :: c :: d :: s))
  | s => .error (hexFault s)

/-- The second half of a surrogate pair whose first half is read. -/
def readLowSurrogate (high : Nat) : List Char → Read Char
  | [] => .error (.at .endOfString [])
  | '\\' :: [] => .error (.at .endOfString [])
  | '\\' :: 'u' :: s =>
    match readHex4 s with
    | .error e => .error e
    | .ok (low, s) =>
      if 0xDC00 ≤ low ∧ low ≤ 0xDFFF then
        .ok (Char.ofNat (0x10000 + (high - 0xD800) * 0x400 + (low - 0xDC00)), s)
      else .error (.before .loneSurrogate s)
  | '\\' :: c :: s => .error (.at .unexpectedEndOfHexEscape (c :: s))
  | c :: s => .error (.at .unexpectedEndOfHexEscape (c :: s))

def readUnicode (s : List Char) : Read Char :=
  match readHex4 s with
  | .error e => .error e
  | .ok (n, s) =>
    if 0xDC00 ≤ n ∧ n ≤ 0xDFFF then .error (.before .loneSurrogate s)
    else if 0xD800 ≤ n ∧ n ≤ 0xDBFF then readLowSurrogate n s
    else .ok (Char.ofNat n, s)

def readEscape : List Char → Read Char
  | [] => .error (.at .endOfString [])
  | c :: s =>
    if c = '"' then .ok ('"', s)
    else if c = '\\' then .ok ('\\', s)
    else if c = '/' then .ok ('/', s)
    else if c = 'b' then .ok ('\x08', s)
    else if c = 'f' then .ok ('\x0c', s)
    else if c = 'n' then .ok ('\n', s)
    else if c = 'r' then .ok ('\r', s)
    else if c = 't' then .ok ('\t', s)
    else if c = 'u' then readUnicode s
    else .error (.at .invalidEscape (c :: s))

/-- The characters of a string up to its closing quote, put before those already read in reverse.
The fuel is at least the length of the text. -/
def readChars : (fuel : Nat) → List Char → List Char → Read String
  | 0, _, _ => .error ⟨.endOfString, 0⟩
  | _ + 1, _, [] => .error (.at .endOfString [])
  | fuel + 1, read, c :: s =>
    if c = '"' then .ok (String.ofList read.reverse, s)
    else if c = '\\' then
      match readEscape s with
      | .error e => .error e
      | .ok (d, s) => readChars fuel (d :: read) s
    else if c.toNat < 0x20 then .error (.before .controlCharacter s)
    else readChars fuel (c :: read) s

def readString (s : List Char) : Read String := readChars (s.length + 1) [] s

/-! ## Numbers -/

def significandLimit : Nat := 18446744073709551615

/-- The largest exponent that is told from an infinite one. -/
def exponentLimit : Nat := 2147483647

/-- The largest power of ten among the floating-point numbers is this one. -/
def powerLimit : Nat := 308

/-- `x * 10 ^ e`, by one rounded multiplication or division, after divisions by the largest power
of ten as long as the exponent is below its negative. Two of those leave nothing of a 64-bit
significand, so three steps are enough. None if the result is not finite. -/
def scale : (steps : Nat) → Binary64 → Int → Option Binary64
  | steps, x, e => do
    if e.natAbs ≤ powerLimit then
      let power ← Binary64.ofInt (Nat.pow 10 e.natAbs)
      if 0 ≤ e then x.mul power else x.div power
    else if x.isZero then return x
    else if 0 ≤ e then none
    else match steps with
      | 0 => return .zero x.negative
      | steps + 1 =>
        let power ← Binary64.ofInt (Nat.pow 10 powerLimit)
        scale steps (← x.div power) (e + powerLimit)

def finishFloat (positive : Bool) (significand : Nat) (e : Int) (s : List Char) : Read Number :=
  match (Binary64.ofInt significand).bind fun x => scale 3 x e with
  | none => .error (.before .numberOutOfRange s)
  | some x => .ok (.float (if positive then x else x.neg), s)

/-- The number without fraction and exponent. Negative integers below the signed range, and minus
zero, are floating-point numbers. -/
def finishInteger (positive : Bool) (significand : Nat) (s : List Char) : Read Number :=
  if positive then
    if h : significand ≤ 18446744073709551615 then
      .ok (.ofNat significand h, s)
    else finishFloat positive significand 0 s
  else if h : 0 < significand ∧ significand ≤ 9223372036854775808 then
    .ok (.ofNegNat significand h.2, s)
  else finishFloat positive significand 0 s

def skipDigits (s : List Char) : List Char := s.dropWhile Char.isDigit

/-- The digits of an exponent after the first. One too large for a limit is as good as infinite:
it makes zero of a number, or leaves the finite range. -/
def readExponentDigits (positive : Bool) (significand : Nat) (e : Int) (positiveExponent : Bool) :
    Nat → List Char → Read Number
  | acc, [] => finishFloat positive significand (if positiveExponent then e + acc else e - acc) []
  | acc, c :: s =>
    match Text.digitValue? c with
    | none =>
      finishFloat positive significand (if positiveExponent then e + acc else e - acc) (c :: s)
    | some d =>
      if acc * 10 + d ≤ exponentLimit then
        readExponentDigits positive significand e positiveExponent (acc * 10 + d) s
      else if significand ≠ 0 ∧ positiveExponent then .error (.before .numberOutOfRange s)
      else .ok (.float (.zero (!positive)), skipDigits s)

def readUnsignedExponent (positive : Bool) (significand : Nat) (e : Int)
    (positiveExponent : Bool) : List Char → Read Number
  | [] => .error (.at .endOfValue [])
  | c :: s =>
    match Text.digitValue? c with
    | none => .error (.at .invalidNumber (c :: s))
    | some d => readExponentDigits positive significand e positiveExponent d s

def readExponent (positive : Bool) (significand : Nat) (e : Int) : List Char → Read Number
  | '+' :: s => readUnsignedExponent positive significand e true s
  | '-' :: s => readUnsignedExponent positive significand e false s
  | s => readUnsignedExponent positive significand e true s

def readExponent? (positive : Bool) (significand : Nat) (e : Int) : List Char → Read Number
  | 'e' :: s => readExponent positive significand e s
  | 'E' :: s => readExponent positive significand e s
  | s => finishFloat positive significand e s

/-- The fraction of a number, after the point and `count` digits. Digits that the significand
cannot hold are ignored. -/
def readFraction (positive : Bool) (e : Int) : (significand count : Nat) → List Char → Read Number
  | significand, count, [] =>
    if count = 0 then .error (.at .endOfValue [])
    else readExponent? positive significand (e - count) []
  | significand, count, c :: s =>
    match Text.digitValue? c with
    | none =>
      if count = 0 then .error (.at .invalidNumber (c :: s))
      else readExponent? positive significand (e - count) (c :: s)
    | some d =>
      if significand * 10 + d ≤ significandLimit then
        readFraction positive e (significand * 10 + d) (count + 1) s
      else readExponent? positive significand (e - count) (skipDigits s)

/-- The digits before the point that the significand cannot hold, each a power of ten. -/
def readLongInteger (positive : Bool) (significand : Nat) : Nat → List Char → Read Number
  | dropped, '.' :: s => readFraction positive dropped significand 0 s
  | dropped, c :: s =>
    if c.isDigit then readLongInteger positive significand (dropped + 1) s
    else readExponent? positive significand dropped (c :: s)
  | dropped, [] => readExponent? positive significand dropped []

def readAfterInteger (positive : Bool) (significand : Nat) : List Char → Read Number
  | '.' :: s => readFraction positive 0 significand 0 s
  | 'e' :: s => readExponent positive significand 0 s
  | 'E' :: s => readExponent positive significand 0 s
  | s => finishInteger positive significand s

def readIntegerDigits (positive : Bool) : (significand : Nat) → List Char → Read Number
  | significand, [] => readAfterInteger positive significand []
  | significand, c :: s =>
    match Text.digitValue? c with
    | none => readAfterInteger positive significand (c :: s)
    | some d =>
      if significand * 10 + d ≤ significandLimit then
        readIntegerDigits positive (significand * 10 + d) s
      else readLongInteger positive significand 0 (c :: s)

/-- A number, after its sign. A leading zero stands alone. -/
def readNumber (positive : Bool) : List Char → Read Number
  | [] => .error (.at .endOfValue [])
  | c :: s =>
    match Text.digitValue? c with
    | none => .error (.at .invalidNumber (c :: s))
    | some 0 =>
      -- A second digit is an error of its own place, not the end of the number.
      match s with
      | d :: _ =>
        if d.isDigit then .error (.at .invalidNumber s) else readAfterInteger positive 0 s
      | [] => readAfterInteger positive 0 s
    | some d => readIntegerDigits positive d s

/-! ## Arrays and objects -/

/-- The items of an array up to its closing bracket, put before those already read in reverse. The
fuel is at least the length of the text. -/
def readItems (item : List Char → Read Json) :
    (fuel : Nat) → List Json → List Char → Read (List Json)
  | 0, _, _ => .error ⟨.endOfList, 0⟩
  | fuel + 1, read, s =>
    match skipSpace s with
    | [] => .error (.at .endOfList [])
    | ']' :: s => .ok (read.reverse, s)
    | c :: s =>
      if read.isEmpty then
        match item (c :: s) with
        | .error e => .error e
        | .ok (x, s) => readItems item fuel (x :: read) s
      else if c = ',' then
        match skipSpace s with
        | [] => .error (.at .endOfValue [])
        | ']' :: s => .error (.at .trailingComma (']' :: s))
        | s =>
          match item s with
          | .error e => .error e
          | .ok (x, s) => readItems item fuel (x :: read) s
      else .error (.at .expectedListCommaOrEnd (c :: s))

def readName (s : List Char) : Read String :=
  match readString s with
  | .error e => .error e
  | .ok (name, s) =>
    match skipSpace s with
    | [] => .error (.at .endOfObject [])
    | ':' :: s => .ok (name, s)
    | c :: s => .error (.at .expectedColon (c :: s))

def readMember (item : List Char → Read Json) : List Char → Read (String × Json)
  | [] => .error (.at .endOfValue [])
  | '"' :: s =>
    match readName s with
    | .error e => .error e
    | .ok (name, s) =>
      match item s with
      | .error e => .error e
      | .ok (x, s) => .ok ((name, x), s)
  | '\x7d' :: s => .error (.at .trailingComma ('\x7d' :: s))
  | c :: s => .error (.at .keyMustBeString (c :: s))

/-- The members of an object up to its closing brace, put before those already read in reverse.
The fuel is at least the length of the text. -/
def readMembers (item : List Char → Read Json) :
    (fuel : Nat) → List (String × Json) → List Char → Read (List (String × Json))
  | 0, _, _ => .error ⟨.endOfObject, 0⟩
  | fuel + 1, read, s =>
    match skipSpace s with
    | [] => .error (.at .endOfObject [])
    | '\x7d' :: s => .ok (read.reverse, s)
    | c :: s =>
      if read.isEmpty then
        match readMember item (c :: s) with
        | .error e => .error e
        | .ok (p, s) => readMembers item fuel (p :: read) s
      else if c = ',' then
        match readMember item (skipSpace s) with
        | .error e => .error e
        | .ok (p, s) => readMembers item fuel (p :: read) s
      else .error (.at .expectedObjectCommaOrEnd (c :: s))

/-! ## Values -/

def readScalar : List Char → Read Json
  | [] => .error (.at .endOfValue [])
  | 'n' :: s => (readWord ['u', 'l', 'l'] s).map fun s => (.null, s)
  | 't' :: s => (readWord ['r', 'u', 'e'] s).map fun s => (.bool true, s)
  | 'f' :: s => (readWord ['a', 'l', 's', 'e'] s).map fun s => (.bool false, s)
  | '"' :: s => (readString s).map fun p => (.string p.1, p.2)
  | '-' :: s => (readNumber false s).map fun p => (.number p.1, p.2)
  | c :: s =>
    if c.isDigit then (readNumber true (c :: s)).map fun p => (.number p.1, p.2)
    else .error (.at .expectedValue (c :: s))

/-- A value in which arrays and objects nest at most `depth` deep, after any blanks. -/
def readValue : (depth : Nat) → List Char → Read Json
  | 0, s =>
    match skipSpace s with
    | '[' :: s => .error (.at .depthExceeded ('[' :: s))
    | '\x7b' :: s => .error (.at .depthExceeded ('\x7b' :: s))
    | s => readScalar s
  | depth + 1, s =>
    match skipSpace s with
    | '[' :: s =>
      (readItems (readValue depth) (s.length + 1) [] s).map fun p => (.array p.1, p.2)
    | '\x7b' :: s =>
      (readMembers (readValue depth) (s.length + 1) [] s).map fun p =>
        (.object (Members.ofList p.1), p.2)
    | s => readScalar s

def depthLimit : Nat := 127

def readWhole {α : Type} (read : List Char → Read α) (s : List Char) : Except Fault α :=
  match read s with
  | .error e => .error e
  | .ok (x, s) =>
    match skipSpace s with
    | [] => .ok x
    | c :: s => .error (.at .trailingCharacters (c :: s))

def parse (text : String) : Except Error Json :=
  (readWhole (readValue depthLimit) text.toList).mapError (Fault.locate text.toList)

/-- The members of an object, after any blanks. A value of another kind is a fault: of an array in
front of it, of a scalar behind it. -/
def readObject (s : List Char) : Read (Members Json none) :=
  match skipSpace s with
  | '[' :: s => .error (.before (.mismatch (.wrongType (.array []) "a map")) ('[' :: s))
  | s =>
    match readValue depthLimit s with
    | .error e => .error e
    | .ok (.object members, s) => .ok (members, s)
    | .ok (j, s) => .error (.before (.mismatch (.wrongType j "a map")) s)

def parseObject (text : String) : Except Error (Members Json none) :=
  (readWhole readObject text.toList).mapError (Fault.locate text.toList)

end CloudQueue.Json
