import CloudQueue.Json.Reader
import CloudQueue.Proofs.Binary64.Render

/-!
# Reading the texts of numbers

In front of a text in which no number goes on (`EndsNumber`), the digits of an integer are read as
that integer (`readNumber_digits`), and whatever is read of a decimal text, all of it is read
(`readNumber_leaves`).
-/

namespace CloudQueue.Json

open Text (AllDigits IsExponent IsDecimal IsDecimalTail)

def NoDigit (t : List Char) : Prop := ∀ c s, t = c :: s → c.isDigit = false

/-- No number in front of the text goes on in it. -/
def EndsNumber (t : List Char) : Prop :=
  ∀ c s, t = c :: s → c.isDigit = false ∧ c ≠ '.' ∧ c ≠ 'e' ∧ c ≠ 'E'

/-- If anything is read, this text is left. -/
def Leaves {α : Type} (t : List Char) (result : Read α) : Prop :=
  ∀ x s, result = .ok (x, s) → s = t

variable {t ds tail : List Char} {positive positiveExponent : Bool} {n significand acc count : Nat}
  {e : Int}

theorem endsNumber_nil : EndsNumber [] := by
  intro c s h
  cases h

theorem endsNumber_cons {c : Char} (h : c.isDigit = false ∧ c ≠ '.' ∧ c ≠ 'e' ∧ c ≠ 'E') :
    EndsNumber (c :: t) := by
  rintro _ _ ⟨⟩
  exact h

theorem EndsNumber.noDigit (ht : EndsNumber t) : NoDigit t := fun c s h => (ht c s h).1

theorem noDigit_cons {c : Char} (h : c.isDigit = false) : NoDigit (c :: t) := by
  rintro _ _ ⟨⟩
  exact h

theorem noDigit_tail (h : IsDecimalTail tail) : NoDigit (tail ++ t) := by
  rcases h with ⟨sign, ds, rfl, -⟩ | -
  · exact noDigit_cons rfl
  · exact noDigit_cons rfl

/-! ## Integers -/

theorem readIntegerDigits_append (hds : AllDigits ds)
    (hle : Nat.ofDigitChars 10 ds acc ≤ significandLimit) :
    readIntegerDigits positive acc (ds ++ t) =
      readIntegerDigits positive (Nat.ofDigitChars 10 ds acc) t := by
  induction ds generalizing acc with
  | nil => rfl
  | cons c ds ih =>
    obtain ⟨hc, hds⟩ := Text.allDigits_cons.mp hds
    rw [Nat.ofDigitChars_cons] at hle ⊢
    have hstep := Nat.le_trans (Text.le_ofDigitChars ds _) hle
    rw [Nat.mul_comm] at hle hstep ⊢
    rw [List.cons_append, readIntegerDigits, Text.digitValue?_of_isDigit hc]
    simp only [hstep, if_true]
    exact ih hds hle

theorem readAfterInteger_of_ends (ht : EndsNumber t) :
    readAfterInteger positive significand t = finishInteger positive significand t := by
  unfold readAfterInteger
  split
  · exact absurd rfl (ht _ _ rfl).2.1
  · exact absurd rfl (ht _ _ rfl).2.2.1
  · exact absurd rfl (ht _ _ rfl).2.2.2
  · rfl

theorem readIntegerDigits_of_noDigit (ht : NoDigit t) :
    readIntegerDigits positive significand t = readAfterInteger positive significand t := by
  cases t with
  | nil => rfl
  | cons c s =>
    unfold readIntegerDigits
    rw [Text.digitValue?_eq_none (ht c s rfl)]

theorem readNumber_zero (ht : NoDigit t) :
    readNumber positive ('0' :: t) = readAfterInteger positive 0 t := by
  cases t with
  | nil => rfl
  | cons c s =>
    have hc := ht c s rfl
    show (if c.isDigit then _ else _) = _
    rw [hc]
    rfl

theorem readNumber_cons {c : Char} {s : List Char} (hc : c.isDigit = true) (hzero : c ≠ '0') :
    readNumber positive (c :: s) = readIntegerDigits positive (c.toNat - '0'.toNat) s := by
  unfold readNumber
  simp only [Text.digitValue?_of_isDigit hc]
  split
  · rename_i h
    cases h
  · rename_i h
    -- The digit has the value zero, so it is the digit zero.
    have hvalue : c.toNat - '0'.toNat = 0 := Option.some.inj h
    have hle : '0'.toNat ≤ c.toNat := (Text.isDigit_iff.mp hc).1
    have heq : c = '0' := Char.toNat_inj.mp (by omega)
    exact absurd heq hzero
  · rename_i h
    rw [Option.some.inj h]

theorem readNumber_digits (ht : EndsNumber t) (hn : n ≤ significandLimit) :
    readNumber positive (Text.digits n ++ t) = finishInteger positive n t := by
  rcases Nat.eq_zero_or_pos n with rfl | hpos
  · rw [Text.digits_zero, List.cons_append, List.nil_append, readNumber_zero ht.noDigit]
    exact readAfterInteger_of_ends ht
  · have hvalue := Text.ofDigitChars_digits n
    have hall := Text.allDigits_digits n
    have hhead := Text.head?_digits_ne_zero hpos
    rcases hdigits : Text.digits n with _ | ⟨c, ds⟩
    · exact absurd hdigits (Text.digits_ne_nil n)
    rw [hdigits] at hvalue hall hhead
    obtain ⟨hc, hds⟩ := Text.allDigits_cons.mp hall
    rw [Nat.ofDigitChars_cons, Nat.mul_zero, Nat.zero_add] at hvalue
    rw [List.cons_append, readNumber_cons hc fun h => hhead (congrArg some h)]
    rw [readIntegerDigits_append hds (hvalue.symm ▸ hn), hvalue,
      readIntegerDigits_of_noDigit ht.noDigit, readAfterInteger_of_ends ht]

/-- The text of an integer, without its sign, is read as that integer. -/
theorem readNumber_integer {i : Int} (low : -9223372036854775808 ≤ i)
    (high : i ≤ 18446744073709551615) (ht : EndsNumber t) :
    readNumber (0 ≤ i) (Text.digits i.natAbs ++ t) = .ok (.integer i low high, t) := by
  have hlimit : i.natAbs ≤ significandLimit := by
    unfold significandLimit
    omega
  rw [readNumber_digits ht hlimit]
  unfold finishInteger
  by_cases hi : 0 ≤ i
  · have hle : i.natAbs ≤ 18446744073709551615 := hlimit
    simp only [hi, decide_true, if_true, hle, dif_pos]
    unfold Number.ofNat
    simp only [Int.natAbs_of_nonneg hi]
  · have hle : 0 < i.natAbs ∧ i.natAbs ≤ 9223372036854775808 := by omega
    simp only [hi, decide_false, hle, dif_pos, and_self]
    unfold Number.ofNegNat
    have hneg : -(i.natAbs : Int) = i := by omega
    simp only [hneg, Bool.false_eq_true, if_false]

/-! ## Decimal texts -/

theorem leaves_error {α : Type} (fault : Fault) : Leaves t (.error fault : Read α) := by
  intro x s h
  cases h

theorem leaves_ok {α : Type} (x : α) : Leaves t (.ok (x, t)) := by
  rintro _ _ ⟨⟩
  rfl

theorem finishFloat_leaves : Leaves t (finishFloat positive significand e t) := by
  unfold finishFloat
  split
  · exact leaves_error _
  · exact leaves_ok _

theorem skipDigits_append (hds : AllDigits ds) (ht : NoDigit t) : skipDigits (ds ++ t) = t := by
  unfold skipDigits
  rw [List.dropWhile_append_of_pos hds]
  cases t with
  | nil => rfl
  | cons c s => rw [List.dropWhile_cons, ht c s rfl, if_neg (by simp)]

theorem readExponentDigits_leaves (hds : AllDigits ds) (ht : NoDigit t) :
    Leaves t (readExponentDigits positive significand e positiveExponent acc (ds ++ t)) := by
  induction ds generalizing acc with
  | nil =>
    cases t with
    | nil => exact finishFloat_leaves
    | cons c s =>
      rw [List.nil_append, readExponentDigits, Text.digitValue?_eq_none (ht c s rfl)]
      exact finishFloat_leaves
  | cons c ds ih =>
    obtain ⟨hc, hds⟩ := Text.allDigits_cons.mp hds
    rw [List.cons_append, readExponentDigits, Text.digitValue?_of_isDigit hc]
    simp only
    split
    · exact ih hds
    split
    · exact leaves_error _
    · rw [skipDigits_append hds ht]
      exact leaves_ok _

theorem readUnsignedExponent_leaves (hds : AllDigits ds) (ht : NoDigit t) :
    Leaves t (readUnsignedExponent positive significand e positiveExponent (ds ++ t)) := by
  cases ds with
  | nil =>
    cases t with
    | nil => exact leaves_error _
    | cons c s =>
      rw [List.nil_append, readUnsignedExponent, Text.digitValue?_eq_none (ht c s rfl)]
      exact leaves_error _
  | cons c ds =>
    obtain ⟨hc, hds⟩ := Text.allDigits_cons.mp hds
    rw [List.cons_append, readUnsignedExponent, Text.digitValue?_of_isDigit hc]
    exact readExponentDigits_leaves hds ht

theorem readExponent_leaves {sign : Char} (hsign : sign = '+' ∨ sign = '-') (hds : AllDigits ds)
    (ht : NoDigit t) : Leaves t (readExponent positive significand e (sign :: ds ++ t)) := by
  rcases hsign with rfl | rfl
  · exact readUnsignedExponent_leaves hds ht
  · exact readUnsignedExponent_leaves hds ht

theorem readExponent?_leaves (positive : Bool) (significand : Nat) (e : Int)
    (h : tail = [] ∨ IsExponent tail) (ht : EndsNumber t) :
    Leaves t (readExponent? positive significand e (tail ++ t)) := by
  rcases h with rfl | ⟨sign, ds, rfl, hsign, hds⟩
  · rw [List.nil_append]
    unfold readExponent?
    split
    · exact absurd rfl (ht _ _ rfl).2.2.1
    · exact absurd rfl (ht _ _ rfl).2.2.2
    · exact finishFloat_leaves
  · exact readExponent_leaves hsign hds ht.noDigit

theorem readFraction_leaves (hds : AllDigits ds) (h : tail = [] ∨ IsExponent tail)
    (ht : EndsNumber t) :
    Leaves t (readFraction positive e significand count (ds ++ (tail ++ t))) := by
  have hnoDigit : NoDigit (tail ++ t) := by
    rcases h with rfl | h
    · exact ht.noDigit
    · exact noDigit_tail (.exponent h)
  induction ds generalizing significand count with
  | nil =>
    rw [List.nil_append]
    have hend := readExponent?_leaves positive significand (e - count) h ht
    rcases htext : tail ++ t with _ | ⟨c, s⟩
    · rw [htext] at hend
      unfold readFraction
      split
      · exact leaves_error _
      · exact hend
    · rw [htext] at hend hnoDigit
      rw [readFraction, Text.digitValue?_eq_none (hnoDigit c s rfl)]
      simp only
      split
      · exact leaves_error _
      · exact hend
  | cons c ds ih =>
    obtain ⟨hc, hds⟩ := Text.allDigits_cons.mp hds
    rw [List.cons_append, readFraction, Text.digitValue?_of_isDigit hc]
    simp only
    split
    · exact ih hds
    · rw [skipDigits_append hds hnoDigit]
      exact readExponent?_leaves _ _ _ h ht

theorem readAfterInteger_leaves (h : IsDecimalTail tail) (ht : EndsNumber t) :
    Leaves t (readAfterInteger positive significand (tail ++ t)) := by
  rcases h with ⟨sign, ds, rfl, hsign, hds⟩ | ⟨hds, h⟩
  · exact readExponent_leaves hsign hds ht.noDigit
  · rw [List.append_assoc]
    exact readFraction_leaves hds h ht

theorem readLongInteger_leaves (hds : AllDigits ds) (h : IsDecimalTail tail) (ht : EndsNumber t) :
    Leaves t (readLongInteger positive significand count (ds ++ (tail ++ t))) := by
  induction ds generalizing count with
  | nil =>
    rcases h with ⟨sign, ds, rfl, hsign, hds⟩ | ⟨hds, h⟩
    · exact readExponent_leaves hsign hds ht.noDigit
    · rw [List.nil_append, List.append_assoc]
      exact readFraction_leaves hds h ht
  | cons c ds ih =>
    obtain ⟨hc, hds⟩ := Text.allDigits_cons.mp hds
    rw [List.cons_append, readLongInteger]
    · rw [hc, if_pos rfl]
      exact ih hds
    · rintro rfl
      cases hc

theorem readIntegerDigits_leaves (hds : AllDigits ds) (h : IsDecimalTail tail)
    (ht : EndsNumber t) :
    Leaves t (readIntegerDigits positive significand (ds ++ (tail ++ t))) := by
  induction ds generalizing significand with
  | nil =>
    rw [List.nil_append, readIntegerDigits_of_noDigit (noDigit_tail h)]
    exact readAfterInteger_leaves h ht
  | cons c ds ih =>
    obtain ⟨hc, hdigits⟩ := Text.allDigits_cons.mp hds
    rw [List.cons_append, readIntegerDigits, Text.digitValue?_of_isDigit hc]
    simp only
    split
    · exact ih hdigits
    · exact readLongInteger_leaves hds h ht

/-- Whatever is read of a decimal text, all of it is read. -/
theorem readNumber_leaves {s : List Char} (hs : IsDecimal s) (ht : EndsNumber t) :
    Leaves t (readNumber positive (s ++ t)) := by
  obtain ⟨whole, tail, rfl, hne, hwhole, htail⟩ := hs
  rw [List.append_assoc]
  rcases whole with _ | ⟨c, ds⟩
  · exact absurd rfl hne
  obtain ⟨hc, hds⟩ := Text.allDigits_cons.mp hwhole
  rw [List.cons_append]
  by_cases hzero : c = '0'
  · subst hzero
    cases ds with
    | nil =>
      rw [List.nil_append, readNumber_zero (noDigit_tail htail)]
      exact readAfterInteger_leaves htail ht
    | cons d ds =>
      -- A zero with more digits behind it is no number.
      show Leaves t (if d.isDigit then _ else _)
      rw [(Text.allDigits_cons.mp hds).1]
      exact leaves_error _
  · rw [readNumber_cons hc hzero]
    exact readIntegerDigits_leaves hds htail ht

end CloudQueue.Json
