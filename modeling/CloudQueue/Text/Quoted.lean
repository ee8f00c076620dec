import CloudQueue.Text.Integer
import CloudQueue.Text.Printable

/-!
# Quoted text for display

A quoted text stands between double quotes. Quotes, backslashes and the common control characters
have an escape of two characters; every other character that is not printable is written as its
code point in hexadecimal.
-/

namespace CloudQueue.Text

def quotedChar (c : Char) : List Char :=
  if c = '\x00' then ['\\', '0']
  else if c = '\t' then ['\\', 't']
  else if c = '\n' then ['\\', 'n']
  else if c = '\r' then ['\\', 'r']
  else if c = '"' then ['\\', '"']
  else if c = '\\' then ['\\', '\\']
  else if isPrintable c then [c]
  else ['\\', 'u', '\x7b'] ++ hexDigits c.toNat ++ ['\x7d']

def quoted (s : List Char) : List Char :=
  '"' :: s.flatMap quotedChar ++ ['"']

end CloudQueue.Text
