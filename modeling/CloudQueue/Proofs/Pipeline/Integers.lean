import CloudQueue.Proofs.Settings.Agreement
import CloudQueue.Proofs.Text.Integers

/-!
# Integers in a pipeline

A value stands for an integer if it is one, or a text that writes one between blanks, and 64 bits
hold it. `int_eq_iff` says that the reader of integers answers just that, and its default for every
other value and for a setting that is not there.
-/

namespace CloudQueue

/-- The integer of 64 bits that a value stands for. A text stands for what it writes without the
blanks at both ends; no other value but an integer stands for one. -/
inductive Json.StandsForInt : Json → Int → Prop
  | integer {i : Int} {low high} (hi : IsInt64 i) : StandsForInt (.number (.integer i low high)) i
  | text {s : String} {core : List Char} {i : Int} (hcore : Text.IsTrimmed s.toList core)
      (hwrites : Text.WritesInteger core i) (hi : IsInt64 i) : StandsForInt (.string s) i

namespace Pipeline

open Json (StandsForInt)

variable {p : Pipeline} {key : String} {v : Json} {i : Int}

/-- The answer of a reader of integers: what the setting stands for, and the default if the setting
is not there or stands for none. -/
inductive AnswersInt (p : Pipeline) (key : String) (default : Int) : Int → Prop
  | value {v : Json} {i : Int} (hv : p.get? key = some v) (hi : v.StandsForInt i) :
      AnswersInt p key default i
  | default (hnone : ∀ v i, p.get? key = some v → ¬v.StandsForInt i) :
      AnswersInt p key default default

theorem readInt64_eq_ok_iff {s : String} :
    Text.readInt64 (Text.trim s.toList) = .ok i ↔ (Json.string s).StandsForInt i := by
  rw [Text.readInt64, Text.readInteger_eq_ok_iff (by decide)]
  constructor
  · rintro ⟨hwrites, hi⟩
    exact .text (Text.isTrimmed_trim s.toList) hwrites hi
  · rintro (- | ⟨hcore, hwrites, hi⟩)
    rw [hcore.trim_eq]
    exact ⟨hwrites, hi⟩

theorem int_of_standsForInt (hv : p.get? key = some v) (hi : v.StandsForInt i) (default : Int) :
    p.int key default = i := by
  cases hi with
  | integer hi => exact int_of_number hv hi.2 default
  | text hcore hwrites hi =>
    have hread := readInt64_eq_ok_iff.mpr (.text hcore hwrites hi)
    unfold int
    rw [hv]
    simp only [hread]

theorem int_of_not_standsForInt (h : ∀ v i, p.get? key = some v → ¬v.StandsForInt i)
    (default : Int) : p.int key default = default := by
  unfold int
  split
  · rename_i n low high hn
    have hlarge : ¬n ≤ 9223372036854775807 := fun hle => h _ n hn (.integer ⟨low, hle⟩)
    exact if_neg hlarge
  · rename_i s hs
    split
    · rename_i n hread
      exact absurd (readInt64_eq_ok_iff.mp hread) (h _ n hs)
    · rfl
  · rfl

/-- **Integers in a pipeline.** The reader of integers answers what the setting stands for, and its
default if the setting is not there or stands for no integer of 64 bits; and so does the reader of
the priority, with a setting and a default of its own. -/
theorem int_eq_iff (p : Pipeline) :
    (∀ key default i, p.int key default = i ↔ p.AnswersInt key default i) ∧
      ∀ i, p.priority = i ↔ p.AnswersInt "priority" 10 i := by
  have hint (key : String) (default i : Int) :
      p.int key default = i ↔ p.AnswersInt key default i := by
    constructor
    · rintro rfl
      by_cases h : ∃ v i, p.get? key = some v ∧ v.StandsForInt i
      · obtain ⟨v, i, hv, hi⟩ := h
        rw [int_of_standsForInt hv hi]
        exact .value hv hi
      · have hnone : ∀ v i, p.get? key = some v → ¬v.StandsForInt i :=
          fun v i hv hi => h ⟨v, i, hv, hi⟩
        rw [int_of_not_standsForInt hnone]
        exact .default hnone
    · rintro (⟨hv, hi⟩ | hnone)
      · exact int_of_standsForInt hv hi default
      · exact int_of_not_standsForInt hnone default
  exact ⟨hint, hint priorityKey defaultPriority⟩

/-- Both signs reach their own limit, zeros in front do not count, and a text may have any blanks
around the integer but none inside. -/
example :
    let p (s : String) : Pipeline := ({} : Pipeline).set "limit" (.string s)
    (p "\u2003-0000000000000000000000009223372036854775808\n").int "limit" 7 =
        -9223372036854775808 ∧
      (p "+9223372036854775807").int "limit" 7 = 9223372036854775807 ∧
      (p "9223372036854775808").int "limit" 7 = 7 ∧ (p "- 5").int "limit" 7 = 7 ∧
      (p "+").int "limit" 7 = 7 ∧ (p "\u0665").int "limit" 7 = 7 := by
  decide +kernel

end Pipeline

end CloudQueue
