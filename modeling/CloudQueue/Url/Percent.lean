import CloudQueue.Text.Integer

/-!
# Percent-encoding

A character of an encode set is written as its UTF-8 bytes, each as a percent sign and two
upper-case hexadecimal digits. The sets grow from the fragment's to that of user information.
-/

namespace CloudQueue.Url

def upperHexDigit (n : Nat) : Char := (Nat.digitChar n).toUpper

def encodeByte (b : UInt8) : List Char :=
  ['%', upperHexDigit (b.toNat / 16), upperHexDigit (b.toNat % 16)]

def percentEncode (inSet : Char → Bool) (s : List Char) : List Char :=
  s.flatMap fun c => if inSet c then (String.utf8EncodeChar c).flatMap encodeByte else [c]

def controlSet (c : Char) : Bool := c.toNat < 0x20 || 0x7E < c.toNat

def fragmentSet (c : Char) : Bool := controlSet c || [' ', '"', '<', '>', '\x60'].contains c

def querySet (c : Char) : Bool := controlSet c || [' ', '"', '#', '<', '>'].contains c

def specialQuerySet (c : Char) : Bool := querySet c || c == '\''

def pathSet (c : Char) : Bool := querySet c || ['?', '\x60', '\x7b', '\x7d'].contains c

def userInfoSet (c : Char) : Bool :=
  pathSet c || ['/', ':', ';', '=', '@', '[', '\\', ']', '^', '|'].contains c

/-- The bytes that a text stands for. A percent sign without two hexadecimal digits behind it
stands for itself. -/
def percentDecode : List Char → List UInt8
  | '%' :: a :: b :: s =>
    match Text.hexDigitValue? a, Text.hexDigitValue? b with
    | some x, some y => (x * 16 + y).toUInt8 :: percentDecode s
    | _, _ => 37 :: percentDecode (a :: b :: s)
  | c :: s => String.utf8EncodeChar c ++ percentDecode s
  | [] => []

def decodeText? (s : List Char) : Option (List Char) :=
  (String.fromUTF8? ⟨(percentDecode s).toArray⟩).map String.toList

end CloudQueue.Url
