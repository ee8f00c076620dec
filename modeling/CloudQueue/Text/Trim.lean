/-!
# Blanks and trimming

The blank characters are those of the Unicode property `White_Space`. Trimming removes the longest
blank run at either end, and nothing in between.
-/

namespace CloudQueue.Text

/-- The characters with the Unicode property `White_Space`. -/
def isBlank (c : Char) : Bool :=
  (9 ≤ c.toNat && c.toNat ≤ 13) || c.toNat == 0x20 || c.toNat == 0x85 || c.toNat == 0xA0 ||
    c.toNat == 0x1680 || (0x2000 ≤ c.toNat && c.toNat ≤ 0x200A) || c.toNat == 0x2028 ||
    c.toNat == 0x2029 || c.toNat == 0x202F || c.toNat == 0x205F || c.toNat == 0x3000

/-- The text without the longest run of characters satisfying `p` at its end. -/
def dropEndWhile (p : Char → Bool) (s : List Char) : List Char :=
  (s.reverse.dropWhile p).reverse

def trim (s : List Char) : List Char :=
  dropEndWhile isBlank (s.dropWhile isBlank)

theorem dropEndWhile_append_singleton_of {p : Char → Bool} {s : List Char} {c : Char}
    (h : p c = true) : dropEndWhile p (s ++ [c]) = dropEndWhile p s := by
  simp [dropEndWhile, h]

theorem dropEndWhile_idem (p : Char → Bool) (s : List Char) :
    dropEndWhile p (dropEndWhile p s) = dropEndWhile p s := by
  simp only [dropEndWhile, List.reverse_reverse]
  induction s.reverse with
  | nil => rfl
  | cons c r ih => by_cases h : p c <;> simp [h, ih]

end CloudQueue.Text
