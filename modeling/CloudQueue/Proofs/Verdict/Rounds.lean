import CloudQueue.Proofs.Verdict.Guard

/-!
# Rounds

A round gives every call in progress at least one turn. Whoever stands in front of the guard waits
for somebody behind it, and calls behind the guard go on unhindered. So every round brings one of
the calls further, unless each of them has ended or waits for a flag that is down, and with as many
rounds as there is work left that is so (`System.stuck_of_rounds`,
`System.Guarded.ended_or_watching_of_stuck`). Once the flag is up all calls end
(`System.Guarded.work_rounds`).
-/

namespace CloudQueue.Verdict

/-- How many steps a call has ahead of it at most. -/
def Phase.work : Phase → Nat
  | .enteringWrite _ | .subscribing _ => 5
  | .deciding _ | .watching _ => 4
  | .storing _ | .enteringRead => 3
  | .announcing | .reading => 2
  | .leavingWrite | .leavingRead _ | .looking => 1
  | .ended _ => 0

theorem Phase.work_le (ph : Phase) : ph.work ≤ 5 := by
  cases ph <;> simp [work]

theorem Phase.step_eq_or_work_lt (ph : Phase) (call : Call) (now : Nat) (c : Cell) :
    ph.step call now c = (ph, c) ∨ (ph.step call now c).1.work < ph.work := by
  cases ph with
  | enteringWrite v =>
    by_cases hfree : c.writing = true ∨ c.readers ≠ 0
    · exact .inl (by rw [step, if_pos hfree])
    · exact .inr (by simp [step, if_neg hfree, work])
  | deciding v => by_cases hready : c.ready = true <;> simp [step, hready, work]
  | enteringRead => by_cases hfree : c.writing = true <;> simp [step, hfree, work]
  | watching deadline =>
    by_cases hready : c.ready = true
    · simp [step, hready, work]
    · by_cases hd : deadline ≤ now <;> simp [step, hready, hd, work]
  | ended a => exact .inl rfl
  | _ => exact .inr (by simp [step, work])

theorem Phase.step_ne_of_behind {ph : Phase} (h : ph.isWriting = true ∨ ph.isReading = true)
    (call : Call) (now : Nat) (c : Cell) : (ph.step call now c).1 ≠ ph := by
  cases ph with
  | deciding v => by_cases hready : c.ready = true <;> simp [step, hready]
  | storing v => simp [step]
  | announcing => simp [step]
  | leavingWrite => simp [step]
  | reading => simp [step]
  | leavingRead seen => simp [step]
  | _ => simp [isWriting, isReading] at h

theorem sum_set_add {l : List Nat} {i a : Nat} (hi : l[i]? = some a) (b : Nat) :
    (l.set i b).sum + a = l.sum + b := by
  induction l generalizing i with
  | nil => simp at hi
  | cons x xs ih =>
    cases i with
    | zero =>
      obtain rfl : x = a := by simpa using hi
      simp only [List.set_cons_zero, List.sum_cons]
      omega
    | succ i =>
      have := ih (by simpa using hi)
      simp only [List.set_cons_succ, List.sum_cons]
      omega

namespace System

/-- How many steps the calls have ahead of them at most. -/
def work (s : System) : Nat := (s.tasks.map (·.phase.work)).sum

/-- A round of turns: every call has one. -/
def IsRound (s : System) (turns : List Nat) : Prop := ∀ i < s.tasks.length, i ∈ turns

theorem work_le (s : System) : s.work ≤ 5 * s.tasks.length := by
  unfold work
  induction s.tasks with
  | nil => simp
  | cons t ts ih =>
    have := t.phase.work_le
    simp only [List.map_cons, List.sum_cons, List.length_cons]
    omega

theorem work_phase_le {s : System} {i : Nat} {t : Task} (hi : s.tasks[i]? = some t) :
    t.phase.work ≤ s.work :=
  List.le_sum_of_mem (List.mem_map_of_mem (List.mem_of_getElem? hi))

@[simp] theorem length_apply_step (s : System) (i : Nat) :
    (s.apply (.step i)).tasks.length = s.tasks.length := by
  rcases hi : s.tasks[i]? with _ | t
  · rw [apply_step_of_none hi]
  · rw [apply_step hi, List.length_set]

@[simp] theorem length_run_steps (s : System) (turns : List Nat) :
    (s.run (turns.map .step)).tasks.length = s.tasks.length := by
  induction turns generalizing s with
  | nil => rfl
  | cons i turns ih => rw [List.map_cons, run_cons, ih, length_apply_step]

theorem apply_step_eq_or_work_lt (s : System) (i : Nat) :
    s.apply (.step i) = s ∨ (s.apply (.step i)).work < s.work := by
  rcases hi : s.tasks[i]? with _ | t
  · exact .inl (apply_step_of_none hi)
  · obtain ⟨hlt, ht⟩ := List.getElem?_eq_some_iff.mp hi
    rw [apply_step hi]
    rcases t.phase.step_eq_or_work_lt t.call s.clock s.cell with heq | hless
    · left
      rw [heq, ← ht, List.set_getElem_self]
    · right
      have hmap : (s.tasks.map (·.phase.work))[i]? = some t.phase.work := by
        rw [List.getElem?_map, hi, Option.map_some]
      have hsum := sum_set_add hmap (t.phase.step t.call s.clock s.cell).1.work
      simp only [work, List.map_set]
      omega

theorem work_run_steps_le (s : System) (turns : List Nat) :
    (s.run (turns.map .step)).work ≤ s.work := by
  induction turns generalizing s with
  | nil => exact Nat.le_refl _
  | cons i turns ih =>
    rw [List.map_cons, run_cons]
    rcases s.apply_step_eq_or_work_lt i with heq | hless
    · rw [heq]
      exact ih s
    · exact Nat.le_trans (ih _) (Nat.le_of_lt hless)

/-- Turns in an order leave every call where it is, or there is less work left after them. -/
theorem stuck_or_work_lt (s : System) (turns : List Nat) :
    (∀ i ∈ turns, s.apply (.step i) = s) ∨ (s.run (turns.map .step)).work < s.work := by
  induction turns with
  | nil => exact .inl (by simp)
  | cons i turns ih =>
    rw [List.map_cons, run_cons]
    rcases s.apply_step_eq_or_work_lt i with heq | hless
    · rw [heq]
      rcases ih with hstuck | hless
      · exact .inl (List.forall_mem_cons.mpr ⟨heq, hstuck⟩)
      · exact .inr hless
    · exact .inr (Nat.lt_of_le_of_lt (work_run_steps_le _ turns) hless)

theorem step_eq_of_apply_eq {s : System} {i : Nat} {t : Task} (hi : s.tasks[i]? = some t)
    (h : s.apply (.step i) = s) : (t.phase.step t.call s.clock s.cell).1 = t.phase := by
  obtain ⟨hlt, -⟩ := List.getElem?_eq_some_iff.mp hi
  have htask : (s.apply (.step i)).tasks[i]? = some t := by rw [h, hi]
  rw [apply_step hi, List.getElem?_set_self hlt] at htask
  exact congrArg Task.phase (Option.some.inj htask)

theorem run_steps_of_stuck {s : System} (hstuck : ∀ i < s.tasks.length, s.apply (.step i) = s)
    (turns : List Nat) : s.run (turns.map .step) = s := by
  induction turns with
  | nil => rfl
  | cons i turns ih =>
    have hi : s.apply (.step i) = s := by
      by_cases hlt : i < s.tasks.length
      · exact hstuck i hlt
      · exact apply_step_of_none (List.getElem?_eq_none (Nat.le_of_not_lt hlt))
    rw [List.map_cons, run_cons, hi, ih]

/-- With as many rounds as there is work left, all calls go on as far as they can. -/
theorem stuck_of_rounds {s : System} {rounds : List (List Nat)}
    (hrounds : ∀ turns ∈ rounds, s.IsRound turns) (hlength : s.work ≤ rounds.length) :
    let after := s.run (rounds.flatten.map .step)
    ∀ i < after.tasks.length, after.apply (.step i) = after := by
  induction rounds generalizing s with
  | nil =>
    intro after i hi
    have hnone : s.work = 0 := Nat.le_zero.mp hlength
    rcases s.apply_step_eq_or_work_lt i with heq | hless
    · exact heq
    · omega
  | cons turns rounds ih =>
    obtain ⟨hround, hrest⟩ := List.forall_mem_cons.mp hrounds
    rcases s.stuck_or_work_lt turns with hstuck | hless
    · have hall : ∀ i < s.tasks.length, s.apply (.step i) = s := fun i hi => hstuck i (hround i hi)
      rw [run_steps_of_stuck hall]
      exact hall
    · rw [List.flatten_cons, List.map_append, run_append]
      refine ih (fun more hmore i hi => ?_) ?_
      · rw [length_run_steps] at hi
        exact hrest more hmore i hi
      · rw [List.length_cons] at hlength
        omega

/-- If nobody's turn changes anything, every call has ended or waits for a flag that is down. -/
theorem Guarded.ended_or_watching_of_stuck {s : System} (h : s.Guarded)
    (hstuck : ∀ i < s.tasks.length, s.apply (.step i) = s) {t : Task} (ht : t ∈ s.tasks) :
    (∃ a, t.phase = .ended a) ∨
      s.cell.ready = false ∧ ∃ deadline, t.phase = .watching deadline := by
  have hself (u : Task) (hu : u ∈ s.tasks) :
      (u.phase.step u.call s.clock s.cell).1 = u.phase := by
    obtain ⟨i, hi⟩ := List.mem_iff_getElem?.mp hu
    exact step_eq_of_apply_eq hi (hstuck i (List.getElem?_eq_some_iff.mp hi).1)
  have hnobody (u : Task) (hu : u ∈ s.tasks) :
      ¬(u.phase.isWriting = true ∨ u.phase.isReading = true) :=
    fun hbehind => Phase.step_ne_of_behind hbehind u.call s.clock s.cell (hself u hu)
  -- Nobody is behind the guard, so the counts leave the guard free.
  have hnw : s.cell.writing = false := by
    have hcount : s.tasks.countP (·.phase.isWriting) = 0 :=
      List.countP_eq_zero.mpr fun u hu => (not_or.mp (hnobody u hu)).1
    rw [h.writers] at hcount
    simpa using hcount
  have hnr : s.cell.readers = 0 := by
    rw [← h.readers]
    exact List.countP_eq_zero.mpr fun u hu => (not_or.mp (hnobody u hu)).2
  have hstays := hself t ht
  generalize t.phase = ph at hstays
  cases ph with
  | ended a => exact .inl ⟨a, rfl⟩
  | watching deadline =>
    right
    cases hready : s.cell.ready with
    | true => simp [Phase.step, hready] at hstays
    | false => exact ⟨rfl, deadline, rfl⟩
  | deciding v => cases hready : s.cell.ready <;> simp [Phase.step, hready] at hstays
  | _ => simp [Phase.step, hnw, hnr] at hstays

/-- Once the flag is up, as many rounds as there is work left do all of it. -/
theorem Guarded.work_rounds {s : System} (h : s.Guarded) (hready : s.cell.ready = true)
    {rounds : List (List Nat)} (hrounds : ∀ turns ∈ rounds, s.IsRound turns)
    (hlength : s.work ≤ rounds.length) : (s.run (rounds.flatten.map .step)).work = 0 := by
  refine List.sum_eq_zero fun n hn => ?_
  obtain ⟨t, ht, rfl⟩ := List.mem_map.mp hn
  rcases (h.run _).ended_or_watching_of_stuck (stuck_of_rounds hrounds hlength) ht with
    ⟨a, ha⟩ | ⟨hdown, -⟩
  · rw [ha]
    rfl
  · cases hdown.symm.trans (ready_run hready _)

end System

end CloudQueue.Verdict
