import CloudQueue.Proofs.Text.Decimal
import CloudQueue.Text.Trim

/-!
# Texts of integers

A text writes an integer if it is decimal digits with at most one sign in front of them
(`WritesInteger`); leading zeros do not matter, and there may be any number of digits. Reading with
limits finds exactly the integers within the limits (`readInteger_eq_ok_iff`), although it gives up
at the first digit that leads beyond them. The trimmed text is the one between the blanks at both
ends (`isTrimmed_trim`, `IsTrimmed.trim_eq`).
-/

namespace CloudQueue.Text

variable {s ds core : List Char} {limit low high acc n : Nat} {i : Int} {e : IntegerError}

/-! ## Trimming -/

/-- What is left of a text without the blanks at both ends: it neither begins nor ends with one. -/
structure IsTrimmed (s core : List Char) : Prop where
  between : ∃ left right, s = left ++ core ++ right ∧ (∀ c ∈ left, isBlank c = true) ∧
    ∀ c ∈ right, isBlank c = true
  head : ∀ c, core.head? = some c → isBlank c = false
  last : ∀ c, core.getLast? = some c → isBlank c = false

theorem isTrimmed_trim (s : List Char) : IsTrimmed s (trim s) where
  between := by
    refine ⟨s.takeWhile isBlank, (s.dropWhile isBlank).rtakeWhile isBlank, ?_,
      fun _ => List.mem_takeWhile_imp, fun _ => List.mem_rtakeWhile_imp⟩
    show s = _ ++ (s.dropWhile isBlank).rdropWhile isBlank ++ _
    rw [List.append_assoc, List.rdropWhile_append_rtakeWhile, List.takeWhile_append_dropWhile]
  head c hc := by
    have hprefix : trim s <+: s.dropWhile isBlank := List.rdropWhile_prefix isBlank _
    obtain ⟨right, hright⟩ := hprefix
    have hfirst := List.head?_dropWhile_not isBlank s
    rw [← hright, List.head?_append, hc] at hfirst
    exact hfirst
  last c hc := by
    have hne : trim s ≠ [] := by
      intro hnil
      rw [hnil] at hc
      cases hc
    have hlast : ¬isBlank ((trim s).getLast hne) = true := List.rdropWhile_last_not isBlank _ hne
    rw [List.getLast_of_getLast?_eq_some hc] at hlast
    exact Bool.eq_false_iff.mpr hlast

theorem IsTrimmed.trim_eq (h : IsTrimmed s core) : trim s = core := by
  obtain ⟨⟨left, right, rfl, hleft, hright⟩, hhead, hlast⟩ := h
  unfold trim
  rw [List.append_assoc, List.dropWhile_append_of_pos hleft]
  show ((core ++ right).dropWhile isBlank).rdropWhile isBlank = core
  rcases core with _ | ⟨c, rest⟩
  · have hnone : right.dropWhile isBlank = [] := List.dropWhile_eq_nil_iff.mpr hright
    rw [List.nil_append, hnone]
    rfl
  · have hc : ¬isBlank c = true := by simp [hhead c rfl]
    rw [List.cons_append, List.dropWhile_cons_of_neg hc, ← List.cons_append]
    -- From the end, the blanks go first, and then the text keeps its last character.
    unfold List.rdropWhile
    rw [List.reverse_append, List.dropWhile_append_of_pos (by simpa using hright)]
    refine List.rdropWhile_eq_self_iff.mpr fun hne => ?_
    simp [hlast _ (List.getLast?_eq_some_getLast hne)]

/-! ## Integers -/

/-- A text writes an integer: digits, one of them at least, with at most one sign in front. -/
inductive WritesInteger : List Char → Int → Prop
  | unsigned {ds : List Char} (hne : ds ≠ []) (hds : AllDigits ds) :
      WritesInteger ds (Nat.ofDigitChars 10 ds 0)
  | plus {ds : List Char} (hne : ds ≠ []) (hds : AllDigits ds) :
      WritesInteger ('+' :: ds) (Nat.ofDigitChars 10 ds 0)
  | minus {ds : List Char} (hne : ds ≠ []) (hds : AllDigits ds) :
      WritesInteger ('-' :: ds) (-(Nat.ofDigitChars 10 ds 0 : Int))

/-- Digits are read if and only if there is nothing else and their value is within the limit: what
is read of them never exceeds the value of all of them. -/
theorem readDigits_eq_ok_iff (hacc : acc ≤ limit) : readDigits limit e acc ds = .ok n ↔
    AllDigits ds ∧ Nat.ofDigitChars 10 ds acc = n ∧ n ≤ limit := by
  induction ds generalizing acc with
  | nil =>
    rw [readDigits, Nat.ofDigitChars_nil, Except.ok.injEq]
    constructor
    · rintro rfl
      exact ⟨allDigits_nil, rfl, hacc⟩
    · exact fun h => h.2.1
  | cons c ds ih =>
    rw [readDigits, allDigits_cons, Nat.ofDigitChars_cons, Nat.mul_comm 10 acc]
    rcases hc : c.isDigit with _ | _
    · rw [digitValue?_eq_none hc]
      simp
    · rw [digitValue?_of_isDigit hc]
      by_cases hle : acc * 10 + (c.toNat - '0'.toNat) ≤ limit
      · simp only [hle, if_true, ih hle, true_and]
      · simp only [hle, if_false]
        constructor
        · rintro ⟨⟩
        · rintro ⟨-, rfl, hlimit⟩
          exact absurd ((le_ofDigitChars ds _).trans hlimit) hle

theorem map_readDigits_eq_ok_iff (f : Nat → Int) : (readDigits limit e 0 ds).map f = .ok i ↔
    AllDigits ds ∧ f (Nat.ofDigitChars 10 ds 0) = i ∧ Nat.ofDigitChars 10 ds 0 ≤ limit := by
  rcases hread : readDigits limit e 0 ds with e' | n
  · constructor
    · rintro ⟨⟩
    · rintro ⟨hds, -, hle⟩
      have hok := (readDigits_eq_ok_iff (e := e) (Nat.zero_le limit)).mpr ⟨hds, rfl, hle⟩
      cases hread.symm.trans hok
  · obtain ⟨hds, rfl, hle⟩ := (readDigits_eq_ok_iff (Nat.zero_le limit)).mp hread
    constructor
    · rintro ⟨⟩
      exact ⟨hds, rfl, hle⟩
    · rintro ⟨-, rfl, -⟩
      rfl

theorem not_allDigits_plus : ¬AllDigits ('+' :: ds) := by
  simp [show ('+').isDigit = false from rfl]

theorem not_allDigits_minus : ¬AllDigits ('-' :: ds) := by
  simp [show ('-').isDigit = false from rfl]

theorem writesInteger_plus_iff : WritesInteger ('+' :: ds) i ↔
    ds ≠ [] ∧ AllDigits ds ∧ (Nat.ofDigitChars 10 ds 0 : Int) = i := by
  constructor
  · rintro (⟨-, hds⟩ | ⟨hne, hds⟩)
    · exact absurd hds not_allDigits_plus
    · exact ⟨hne, hds, rfl⟩
  · rintro ⟨hne, hds, rfl⟩
    exact .plus hne hds

theorem writesInteger_minus_iff : WritesInteger ('-' :: ds) i ↔
    ds ≠ [] ∧ AllDigits ds ∧ (Nat.ofDigitChars 10 ds 0 : Int) = -i := by
  constructor
  · rintro (⟨-, hds⟩ | - | ⟨hne, hds⟩)
    · exact absurd hds not_allDigits_minus
    · exact ⟨hne, hds, (Int.neg_neg _).symm⟩
  · rintro ⟨hne, hds, hi⟩
    obtain rfl : i = -(Nat.ofDigitChars 10 ds 0 : Int) := by omega
    exact .minus hne hds

theorem writesInteger_iff_of_ne (hplus : ∀ rest, ds ≠ '+' :: rest)
    (hminus : ∀ rest, ds ≠ '-' :: rest) : WritesInteger ds i ↔
      ds ≠ [] ∧ AllDigits ds ∧ (Nat.ofDigitChars 10 ds 0 : Int) = i := by
  constructor
  · rintro (⟨hne, hds⟩ | - | -)
    · exact ⟨hne, hds, rfl⟩
    · exact absurd rfl (hplus _)
    · exact absurd rfl (hminus _)
  · rintro ⟨hne, hds, rfl⟩
    exact .unsigned hne hds

/-- **Reading an integer** finds the one that the text writes, if it lies within the limits. -/
theorem readInteger_eq_ok_iff (hlow : 0 < low) : readInteger low high s = .ok i ↔
    WritesInteger s i ∧ -(low : Int) ≤ i ∧ i ≤ high := by
  unfold readInteger
  split
  · simp [writesInteger_iff_of_ne]
  · simp [writesInteger_plus_iff]
  · simp [writesInteger_minus_iff]
  · rename_i ds hne
    rw [map_readDigits_eq_ok_iff, writesInteger_plus_iff, Int.ofNat_eq_natCast]
    constructor
    · rintro ⟨hds, rfl, hle⟩
      exact ⟨⟨hne, hds, rfl⟩, by omega, Int.ofNat_le.mpr hle⟩
    · rintro ⟨⟨-, hds, rfl⟩, -, hle⟩
      exact ⟨hds, rfl, Int.ofNat_le.mp hle⟩
  · rename_i ds hne
    rw [if_neg (Nat.ne_of_gt hlow), map_readDigits_eq_ok_iff, writesInteger_minus_iff,
      Int.ofNat_eq_natCast]
    constructor
    · rintro ⟨hds, rfl, hle⟩
      exact ⟨⟨hne, hds, (Int.neg_neg _).symm⟩, by omega, by omega⟩
    · rintro ⟨⟨-, hds, hvalue⟩, hle, -⟩
      exact ⟨hds, by omega, by omega⟩
  · rename_i hnil _ _ hplus hminus
    rw [map_readDigits_eq_ok_iff, writesInteger_iff_of_ne hplus hminus, Int.ofNat_eq_natCast]
    constructor
    · rintro ⟨hds, rfl, hle⟩
      exact ⟨⟨hnil, hds, rfl⟩, by omega, Int.ofNat_le.mpr hle⟩
    · rintro ⟨⟨-, hds, rfl⟩, -, hle⟩
      exact ⟨hds, rfl, Int.ofNat_le.mp hle⟩

end CloudQueue.Text
