import CloudQueue.Text.Split
import CloudQueue.Text.Integer

/-!
# Tables of code points

A table is a text whose entries stand between blanks. Code points are written in hexadecimal, and
two of them with a hyphen stand for a range with both ends included. A value stands behind an equals
sign.
-/

namespace CloudQueue.Text

def hexNumber (s : List Char) : Nat :=
  s.foldl (fun n c => n * 16 + (hexDigitValue? c).getD 0) 0

def tableEntries (table : String) : List (List Char) :=
  let (word, words) := table.toList.foldr
    (fun c (word, words) =>
      if c = ' ' ∨ c = '\n' then ([], if word = [] then words else word :: words)
      else (c :: word, words))
    (([] : List Char), ([] : List (List Char)))
  if word = [] then words else word :: words

def codePointRange (s : List Char) : Nat × Nat :=
  match splitOn '-' s with
  | first :: last :: _ => (hexNumber first, hexNumber last)
  | _ => (hexNumber s, hexNumber s)

def codePointRanges (table : String) : List (Nat × Nat) :=
  (tableEntries table).map codePointRange

def cutEntry (s : List Char) : List Char × List Char :=
  (s.takeWhile (· != '='), (s.dropWhile (· != '=')).drop 1)

def codePointValues (table : String) : List ((Nat × Nat) × Nat) :=
  (tableEntries table).map fun s =>
    (codePointRange (cutEntry s).1, hexNumber (cutEntry s).2)

def inRanges (ranges : List (Nat × Nat)) (n : Nat) : Bool :=
  ranges.any fun r => r.1 ≤ n && n ≤ r.2

end CloudQueue.Text
