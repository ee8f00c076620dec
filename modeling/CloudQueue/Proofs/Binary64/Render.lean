import CloudQueue.Binary64.Shortest
import CloudQueue.Proofs.Text.Decimal

/-!
# The form of rendered numbers

The text of a floating-point number in a document is a decimal text, with a minus sign in front of
it for a negative number (`render_form`). It always has a point or an exponent, so it is never the
text of an integer.
-/

namespace CloudQueue.Binary64

open Text (AllDigits IsExponent IsDecimal IsDecimalTail)

/-- Without the zeros at its end, the text of a number other than zero is digits. -/
theorem dropZeros_digits {n : Nat} (h : 0 < n) (power : Int) :
    (dropZeros (Text.digits n) power).1 ≠ [] ∧ AllDigits (dropZeros (Text.digits n) power).1 := by
  unfold dropZeros
  constructor
  · intro hnil
    rcases hdigits : Text.digits n with _ | ⟨c, ds⟩
    · exact Text.digits_ne_nil n hdigits
    · have hhead := Text.head?_digits_ne_zero h
      rw [hdigits] at hnil hhead
      rw [List.reverse_eq_nil_iff, List.dropWhile_eq_nil_iff] at hnil
      have hzero := hnil c (by simp)
      exact hhead (congrArg some (of_decide_eq_true hzero))
  · intro c hc
    rw [List.mem_reverse] at hc
    exact Text.isDigit_of_mem_digits (List.mem_reverse.mp ((List.dropWhile_sublist _).subset hc))

theorem isExponent_mark (e : Int) :
    IsExponent ('e' :: if e < 0 then '-' :: Text.digits e.natAbs
      else documentFormat.positiveMark ++ Text.digits e.natAbs) := by
  split
  · exact ⟨'-', _, rfl, .inr rfl, Text.allDigits_digits _⟩
  · exact ⟨'+', _, rfl, .inl rfl, Text.allDigits_digits _⟩

theorem isDecimal_layout (d : Decimal) : IsDecimal (d.layout documentFormat) := by
  unfold Decimal.layout
  split
  · exact ⟨['0'], '.' :: ['0'] ++ [], rfl, by simp, by simp, .fraction (by simp) (.inl rfl)⟩
  rename_i hzero
  have hkept := dropZeros_digits (Nat.pos_of_ne_zero hzero) d.power
  generalize dropZeros (Text.digits d.digits) d.power = kept at hkept
  obtain ⟨ds, power⟩ := kept
  obtain ⟨hne, hdigits⟩ : ds ≠ [] ∧ AllDigits ds := hkept
  simp only
  split
  · -- zeros up to the point
    refine ⟨ds ++ List.replicate power.toNat '0', '.' :: ['0'] ++ [], by simp, ?_, ?_,
      .fraction (by simp) (.inl rfl)⟩
    · exact fun h => hne (List.append_eq_nil_iff.mp h).1
    · exact Text.allDigits_append.mpr ⟨hdigits, Text.allDigits_replicate_zero _⟩
  split
  · -- the point among the digits
    rename_i hpoint
    refine ⟨ds.take (ds.length + power).toNat, '.' :: ds.drop (ds.length + power).toNat ++ [],
      by simp, ?_, hdigits.take _, .fraction (hdigits.drop _) (.inl rfl)⟩
    intro htake
    rcases List.take_eq_nil_iff.mp htake with h | h
    · omega
    · exact hne h
  split
  · -- zeros behind the point
    refine ⟨['0'], '.' :: (List.replicate (-(ds.length + power)).toNat '0' ++ ds) ++ [], by simp,
      by simp, by simp, .fraction ?_ (.inl rfl)⟩
    exact Text.allDigits_append.mpr ⟨Text.allDigits_replicate_zero _, hdigits⟩
  · have hmark := isExponent_mark (ds.length + power - 1)
    generalize (if _ < (0 : Int) then _ else _ : List Char) = mark at hmark ⊢
    split
    · exact ⟨[_], _, rfl, by simp, hdigits, .exponent hmark⟩
    · refine ⟨ds.take 1, '.' :: ds.drop 1 ++ 'e' :: mark, by simp, ?_, hdigits.take 1,
        .fraction (hdigits.drop 1) (.inr hmark)⟩
      simpa using hne

/-- **The form of a rendered number.** -/
theorem render_form (x : Binary64) :
    ∃ s, IsDecimal s ∧ x.render = if x.negative then '-' :: s else s :=
  ⟨_, isDecimal_layout x.shortest, rfl⟩

end CloudQueue.Binary64
