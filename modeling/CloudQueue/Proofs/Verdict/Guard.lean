import CloudQueue.Verdict.Schedule
import Mathlib

/-!
# The guard of a cell

Whatever the schedule, the cell keeps count of the calls behind its guard: one writer alone, or any
number of readers (`System.Guarded`). The count holds of the fresh cell and every move keeps it
(`System.Guarded.run`).
-/

namespace CloudQueue.Verdict

/-- Whether a call at this place holds the guard to write. -/
def Phase.isWriting : Phase → Bool
  | .deciding _ | .storing _ | .announcing | .leavingWrite => true
  | _ => false

/-- Whether a call at this place holds the guard to read. -/
def Phase.isReading : Phase → Bool
  | .reading | .leavingRead _ => true
  | _ => false

@[simp] theorem Call.isWriting_start (c : Call) : c.start.isWriting = false := by
  cases c <;> rfl

@[simp] theorem Call.isReading_start (c : Call) : c.start.isReading = false := by
  cases c <;> rfl

namespace System

/-- The cell knows who is behind its guard, and a writer is alone there. -/
structure Guarded (s : System) : Prop where
  writers : s.tasks.countP (·.phase.isWriting) = s.cell.writing.toNat
  readers : s.tasks.countP (·.phase.isReading) = s.cell.readers
  exclusive : s.cell.writing = true → s.cell.readers = 0

theorem guarded_fresh : Guarded {} := ⟨rfl, rfl, by simp⟩

namespace Guarded

variable {s : System} {i j : Nat} {t u : Task}

theorem writing_of_isWriting (h : s.Guarded) (hi : s.tasks[i]? = some t)
    (ht : t.phase.isWriting = true) : s.cell.writing = true := by
  have hpos : 0 < s.tasks.countP (·.phase.isWriting) :=
    List.countP_pos_iff.mpr ⟨t, List.mem_of_getElem? hi, ht⟩
  rw [h.writers] at hpos
  cases hw : s.cell.writing with
  | true => rfl
  | false => simp [hw] at hpos

theorem readers_pos_of_isReading (h : s.Guarded) (hi : s.tasks[i]? = some t)
    (ht : t.phase.isReading = true) : 0 < s.cell.readers := by
  rw [← h.readers]
  exact List.countP_pos_iff.mpr ⟨t, List.mem_of_getElem? hi, ht⟩

theorem not_writing_of_isReading (h : s.Guarded) (hi : s.tasks[i]? = some t)
    (ht : t.phase.isReading = true) : s.cell.writing = false := by
  have hpos := h.readers_pos_of_isReading hi ht
  cases hw : s.cell.writing with
  | false => rfl
  | true =>
    have := h.exclusive hw
    omega

theorem alone (h : s.Guarded) (hi : s.tasks[i]? = some t) (ht : t.phase.isWriting = true)
    (hij : i ≠ j) (hj : s.tasks[j]? = some u) :
    u.phase.isWriting = false ∧ u.phase.isReading = false := by
  have hw := h.writing_of_isWriting hi ht
  obtain ⟨hlt, rfl⟩ := List.getElem?_eq_some_iff.mp hi
  constructor
  · -- With the writer taken away no writer is left, and the other call is still in its place.
    have hnone : (s.tasks.set i ⟨.isReady, .looking⟩).countP (·.phase.isWriting) = 0 := by
      rw [List.countP_set hlt, h.writers, hw, if_pos ht]
      rfl
    have hmem : u ∈ s.tasks.set i ⟨.isReady, .looking⟩ :=
      List.mem_of_getElem? (by rw [List.getElem?_set_ne hij]; exact hj)
    simpa using List.countP_eq_zero.mp hnone u hmem
  · have hnone : s.tasks.countP (·.phase.isReading) = 0 := by
      rw [h.readers, h.exclusive hw]
    simpa using List.countP_eq_zero.mp hnone u (List.mem_of_getElem? hj)

end Guarded

end System

/-! ## Steps -/

/-- A step counts the guard as it takes or leaves it, and no writer gets behind a reader's guard. -/
theorem Phase.step_guard {ph : Phase} {c : Cell} (call : Call) (now : Nat)
    (hw : ph.isWriting = true → c.writing = true) (hr : ph.isReading = true → 0 < c.readers)
    (hx : c.writing = true → c.readers = 0) :
    let after := ph.step call now c
    after.2.writing.toNat + ph.isWriting.toNat = c.writing.toNat + after.1.isWriting.toNat ∧
      after.2.readers + ph.isReading.toNat = c.readers + after.1.isReading.toNat ∧
      (after.2.writing = true → after.2.readers = 0) := by
  cases ph with
  | enteringWrite v =>
    by_cases hfree : c.writing = true ∨ c.readers ≠ 0
    · simpa [step, hfree, isWriting, isReading] using hx
    · obtain ⟨hnw, hnr⟩ := not_or.mp hfree
      have hnw : c.writing = false := by simpa using hnw
      have hnr : c.readers = 0 := by simpa using hnr
      simp [step, hnw, hnr, isWriting, isReading]
  | deciding v => by_cases hc : c.ready = true <;> simpa [step, hc, isWriting, isReading] using hx
  | storing v => simpa [step, isWriting, isReading] using hx
  | announcing => simpa [step, isWriting, isReading] using hx
  | leavingWrite => simp [step, isWriting, isReading, hw rfl]
  | enteringRead =>
    by_cases hc : c.writing = true
    · simpa [step, hc, isWriting, isReading] using hx hc
    · simp [step, hc, isWriting, isReading]
  | reading => simpa [step, isWriting, isReading] using hx
  | leavingRead seen =>
    have hpos := hr rfl
    refine ⟨by simp [step, isWriting], ?_, fun hc => ?_⟩
    · simp only [step, isReading, Bool.toNat_true, Bool.toNat_false]
      omega
    · have := hx hc
      omega
  | looking => simpa [step, isWriting, isReading] using hx
  | subscribing n => simpa [step, isWriting, isReading] using hx
  | watching deadline =>
    by_cases hc : c.ready = true
    · simpa [step, hc, isWriting, isReading] using hx
    · by_cases hd : deadline ≤ now <;> simpa [step, hc, hd, isWriting, isReading] using hx
  | ended a => simpa [step, isWriting, isReading] using hx

/-- A step never takes the flag down, and only a writer changes the content of the cell. -/
theorem Phase.step_content (ph : Phase) (call : Call) (now : Nat) (c : Cell) :
    (c.ready = true → (ph.step call now c).2.ready = true) ∧
      (ph.isWriting = false →
        (ph.step call now c).2.inside = c.inside ∧ (ph.step call now c).2.ready = c.ready) := by
  cases ph <;> simp only [step, isWriting] <;> (try split) <;> (try split) <;> simp

/-- Only a writer that has stored its value takes the flag up. -/
theorem Phase.eq_announcing_of_step {ph : Phase} {call : Call} {now : Nat} {c : Cell}
    (hdown : c.ready ≠ true) (hup : (ph.step call now c).2.ready = true) : ph = .announcing := by
  cases hw : ph.isWriting with
  | false => exact absurd (((ph.step_content call now c).2 hw).2.symm.trans hup) hdown
  | true =>
    cases ph with
    | announcing => rfl
    | deciding v =>
      rw [step, if_neg hdown] at hup
      exact absurd hup hdown
    | storing v => exact absurd hup hdown
    | leavingWrite => exact absurd hup hdown
    | _ => cases hw

theorem getElem?_append_singleton_cases {α : Type} {l : List α} {i : Nat} {a b : α}
    (h : (l ++ [a])[i]? = some b) : l[i]? = some b ∨ i = l.length ∧ b = a := by
  rcases Nat.lt_trichotomy i l.length with hlt | heq | hgt
  · rw [List.getElem?_append_left hlt] at h
    exact .inl h
  · rw [heq, List.getElem?_concat_length] at h
    exact .inr ⟨heq, (Option.some.inj h).symm⟩
  · rw [List.getElem?_eq_none (by simp; omega)] at h
    cases h

theorem countP_set_add {α : Type} (p : α → Bool) {l : List α} {i : Nat} {a : α}
    (hi : l[i]? = some a) (b : α) :
    (l.set i b).countP p + (p a).toNat = l.countP p + (p b).toNat := by
  obtain ⟨hlt, rfl⟩ := List.getElem?_eq_some_iff.mp hi
  rw [List.countP_set hlt]
  by_cases hp : p l[i] = true
  · have hpos : 0 < l.countP p := List.countP_pos_iff.mpr ⟨l[i], List.getElem_mem hlt, hp⟩
    cases p b <;> simp [hp] <;> omega
  · cases p b <;> simp [hp]

namespace System

theorem apply_step {s : System} {i : Nat} {t : Task} (hi : s.tasks[i]? = some t) :
    s.apply (.step i) =
      { s with
        cell := (t.phase.step t.call s.clock s.cell).2
        tasks := s.tasks.set i ⟨t.call, (t.phase.step t.call s.clock s.cell).1⟩ } := by
  simp only [apply, hi]

theorem apply_step_of_none {s : System} {i : Nat} (hi : s.tasks[i]? = none) :
    s.apply (.step i) = s := by
  simp only [apply, hi]

/-- A move leaves a call where it is, or it is a step of the call. -/
theorem apply_getElem?_cases {s : System} {j : Nat} {t : Task} (hj : s.tasks[j]? = some t)
    (m : Move) : (s.apply m).tasks[j]? = some t ∨ m = .step j ∧
      (s.apply m).tasks[j]? = some ⟨t.call, (t.phase.step t.call s.clock s.cell).1⟩ := by
  obtain ⟨hlt, -⟩ := List.getElem?_eq_some_iff.mp hj
  cases m with
  | call c => exact .inl (by rw [apply, List.getElem?_append_left hlt, hj])
  | pass milliseconds => exact .inl hj
  | step i =>
    rcases hi : s.tasks[i]? with _ | u
    · exact .inl (by rw [apply_step_of_none hi, hj])
    · rw [apply_step hi]
      by_cases hij : i = j
      · subst hij
        obtain rfl : t = u := Option.some.inj (hj.symm.trans hi)
        exact .inr ⟨rfl, List.getElem?_set_self hlt⟩
      · exact .inl (by rw [List.getElem?_set_ne hij, hj])

theorem Guarded.apply {s : System} (h : s.Guarded) (m : Move) : (s.apply m).Guarded := by
  cases m with
  | call c =>
    refine ⟨?_, ?_, h.exclusive⟩
    · simpa [System.apply] using h.writers
    · simpa [System.apply] using h.readers
  | pass milliseconds => exact ⟨h.writers, h.readers, h.exclusive⟩
  | step i =>
    rcases hi : s.tasks[i]? with _ | t
    · rw [apply_step_of_none hi]
      exact h
    · obtain ⟨hwriters, hreaders, hexclusive⟩ :=
        Phase.step_guard t.call s.clock (h.writing_of_isWriting hi) (h.readers_pos_of_isReading hi)
          h.exclusive
      rw [apply_step hi]
      refine ⟨?_, ?_, hexclusive⟩
      · have hcount := countP_set_add (·.phase.isWriting) hi
          ⟨t.call, (t.phase.step t.call s.clock s.cell).1⟩
        rw [h.writers, ← hwriters] at hcount
        exact Nat.add_right_cancel hcount
      · have hcount := countP_set_add (·.phase.isReading) hi
          ⟨t.call, (t.phase.step t.call s.clock s.cell).1⟩
        rw [h.readers, ← hreaders] at hcount
        exact Nat.add_right_cancel hcount

theorem Guarded.run {s : System} (h : s.Guarded) (moves : List Move) : (s.run moves).Guarded := by
  induction moves generalizing s with
  | nil => exact h
  | cons m moves ih => exact ih (h.apply m)

theorem ready_apply {s : System} (hready : s.cell.ready = true) (m : Move) :
    (s.apply m).cell.ready = true := by
  cases m with
  | call c => exact hready
  | pass milliseconds => exact hready
  | step i =>
    rcases hi : s.tasks[i]? with _ | t
    · rwa [apply_step_of_none hi]
    · rw [apply_step hi]
      exact (t.phase.step_content t.call s.clock s.cell).1 hready

theorem ready_run {s : System} (hready : s.cell.ready = true) (moves : List Move) :
    (s.run moves).cell.ready = true := by
  induction moves generalizing s with
  | nil => exact hready
  | cons m moves ih => exact ih (ready_apply hready m)

end System

end CloudQueue.Verdict
