import CloudQueue.Plugin.Runtime
import CloudQueue.Proofs.Verdict.FirstGrant

/-!
# The tasks of a runtime

What a move does to one task (`Task.Steps`, `Runtime.apply_task_cases`), where a task comes from
(`Runtime.apply_origin`), and what a runtime is to the cell of the verdict: a system of calls on
it, which takes exactly the steps of the runtime's tasks (`Runtime.onCell_apply`).
-/

namespace CloudQueue.Runtime

open Http (Server)
open Metadata (Detection)
open Verdict (Cell Phase System)

variable {σ γ τ θ κ δ ε : Type} {k : Constructor γ τ θ κ δ ε} {server : Server σ}
  {s : Runtime σ γ τ θ κ δ ε} {t t' : Task γ τ θ δ ε} {i j : Nat}

/-- A task takes a step in a runtime. -/
inductive Task.Steps (k : Constructor γ τ θ κ δ ε) (s : Runtime σ γ τ θ κ δ ε) :
    Task γ τ θ δ ε → Task γ τ θ δ ε → Prop
  | cell {job : Job θ} {phase : Phase}
    (hcell : ∀ order seen, job = .call (.build order) → phase ≠ .ended (.flag seen)) :
    Steps k s ⟨job, .cell phase⟩ ⟨job, .cell (phase.step job.onCell s.clock s.cell).1⟩
  | accept {order : Order θ} {seen : Bool} :
    Steps k s ⟨.call (.build order), .cell (.ended (.flag seen))⟩
      ⟨.call (.build order), .accepted ((s.snapshot seen).driverArgs order.queue)⟩
  | invoke {order : Order θ} {args : DriverArgs γ τ θ} :
    Steps k s ⟨.call (.build order), .accepted args⟩ ⟨.call (.build order),
      .built args (k.build s.memory order.source order.pipeline args).2⟩

theorem Task.Steps.job_eq (h : t.Steps k s t') : t'.job = t.job := by
  cases h <;> rfl

/-- The step of a task is one on the cell, the acceptance of an order, the call of the constructor,
or none at all. -/
theorem step_cases (k : Constructor γ τ θ κ δ ε) (hi : s.tasks[i]? = some t) :
    (∃ job phase, t = ⟨job, .cell phase⟩ ∧
      (∀ order seen, job = .call (.build order) → phase ≠ .ended (.flag seen)) ∧
      s.step k i = s.stepCell i job phase) ∨
    (∃ order seen, t = ⟨.call (.build order), .cell (.ended (.flag seen))⟩ ∧
      s.step k i = s.accept i order seen) ∨
    (∃ order args, t = ⟨.call (.build order), .accepted args⟩ ∧
      s.step k i = s.invoke k i order args) ∨
    (∀ job phase, t ≠ ⟨job, .cell phase⟩) ∧ s.step k i = s := by
  unfold step
  rw [hi]
  split
  · rename_i order seen heq
    obtain rfl := Option.some.inj heq
    exact .inr (.inl ⟨order, seen, rfl, rfl⟩)
  · rename_i order args heq
    obtain rfl := Option.some.inj heq
    exact .inr (.inr (.inl ⟨order, args, rfl, rfl⟩))
  · rename_i job phase hne heq
    obtain rfl := Option.some.inj heq
    refine .inl ⟨job, phase, rfl, ?_, rfl⟩
    rintro order seen rfl rfl
    exact hne order seen rfl rfl
  · rename_i hne
    refine .inr (.inr (.inr ⟨?_, rfl⟩))
    rintro job phase rfl
    exact hne job phase rfl

theorem step_of_none (k : Constructor γ τ θ κ δ ε) (hi : s.tasks[i]? = none) : s.step k i = s := by
  unfold step
  rw [hi]

theorem step_of_seen {order : Order θ} {seen : Bool}
    (hi : s.tasks[i]? = some ⟨.call (.build order), .cell (.ended (.flag seen))⟩)
    (k : Constructor γ τ θ κ δ ε) : s.step k i = s.accept i order seen := by
  rw [step, hi]

theorem step_of_accepted {order : Order θ} {args : DriverArgs γ τ θ}
    (hi : s.tasks[i]? = some ⟨.call (.build order), .accepted args⟩)
    (k : Constructor γ τ θ κ δ ε) : s.step k i = s.invoke k i order args := by
  rw [step, hi]

theorem step_frame (k : Constructor γ τ θ κ δ ε) (s : Runtime σ γ τ θ κ δ ε) (i : Nat) :
    (s.step k i).plugin = s.plugin ∧ (s.step k i).detection? = s.detection? ∧
      (s.step k i).pending = s.pending := by
  rcases hi : s.tasks[i]? with _ | t
  · rw [step_of_none k hi]
    exact ⟨rfl, rfl, rfl⟩
  · rcases step_cases k hi with ⟨_, _, -, -, hstep⟩ | ⟨_, _, -, hstep⟩ | ⟨_, _, -, hstep⟩ |
      ⟨-, hstep⟩ <;> rw [hstep] <;> exact ⟨rfl, rfl, rfl⟩

/-- What the step number `i` does to the task there; all others stay. -/
theorem step_tasks (k : Constructor γ τ θ κ δ ε) (hi : s.tasks[i]? = some t) :
    s.step k i = s ∨ ∃ t', t.Steps k s t' ∧ (s.step k i).tasks = s.tasks.set i t' := by
  rcases step_cases k hi with ⟨job, phase, rfl, hcell, hstep⟩ | ⟨order, seen, rfl, hstep⟩ |
    ⟨order, args, rfl, hstep⟩ | ⟨-, hstep⟩
  · exact .inr ⟨_, .cell hcell, by rw [hstep]; rfl⟩
  · exact .inr ⟨_, .accept, by rw [hstep]; rfl⟩
  · exact .inr ⟨_, .invoke, by rw [hstep]; rfl⟩
  · exact .inl hstep

@[simp] theorem length_step (k : Constructor γ τ θ κ δ ε) (s : Runtime σ γ τ θ κ δ ε) (i : Nat) :
    (s.step k i).tasks.length = s.tasks.length := by
  rcases hi : s.tasks[i]? with _ | t
  · rw [step_of_none k hi]
  · rcases step_tasks k hi with hstay | ⟨t', -, htasks⟩
    · rw [hstay]
    · rw [htasks, List.length_set]

theorem apply_task_cases (k : Constructor γ τ θ κ δ ε) (server : Server σ)
    (hj : s.tasks[j]? = some t) (m : Move σ θ) :
    (s.apply k server m).tasks[j]? = some t ∨
      m = .step j ∧ ∃ t', t.Steps k s t' ∧ (s.apply k server m).tasks[j]? = some t' := by
  obtain ⟨hlt, -⟩ := List.getElem?_eq_some_iff.mp hj
  cases m with
  | call c => exact .inl (by rw [apply, List.getElem?_append_left hlt, hj])
  | step i =>
    rcases hi : s.tasks[i]? with _ | u
    · exact .inl (by rw [apply, step_of_none k hi, hj])
    · rcases step_tasks k hi with hstay | ⟨u', hsteps, htasks⟩
      · exact .inl (by rw [apply, hstay, hj])
      · rw [apply, htasks]
        by_cases hij : i = j
        · subst hij
          obtain rfl : t = u := Option.some.inj (hj.symm.trans hi)
          exact .inr ⟨rfl, u', hsteps, List.getElem?_set_self hlt⟩
        · exact .inl (by rw [List.getElem?_set_ne hij, hj])
  | detect =>
    rw [apply, detect]
    split <;> exact .inl hj
  | advance =>
    rw [apply, advance]
    split
    · exact .inl hj
    · exact .inl hj
    · exact .inl (by rw [List.getElem?_append_left hlt, hj])
  | change world => exact .inl hj
  | pass milliseconds => exact .inl hj

/-- A task behind a move was there before, or it is a step further, or it begins with the move. -/
theorem apply_origin (k : Constructor γ τ θ κ δ ε) (server : Server σ) {m : Move σ θ}
    (h : (s.apply k server m).tasks[j]? = some t') :
    s.tasks[j]? = some t' ∨
      (m = .step j ∧ ∃ t, s.tasks[j]? = some t ∧ t.Steps k s t') ∨
      j = s.tasks.length ∧ ((∃ c, t' = .start (.call c)) ∨
        ∃ inside, .settle inside ∈ s.pending ∧ t' = .start (.settle inside)) := by
  rcases hj : s.tasks[j]? with _ | t
  · right
    right
    have hle : s.tasks.length ≤ j := List.getElem?_eq_none_iff.mp hj
    cases m with
    | call c =>
      rcases Verdict.getElem?_append_singleton_cases h with hold | ⟨hlength, rfl⟩
      · cases hj.symm.trans hold
      · exact ⟨hlength, .inl ⟨c, rfl⟩⟩
    | step i =>
      rw [← length_step k s i] at hle
      cases (List.getElem?_eq_none hle).symm.trans h
    | detect =>
      rw [apply, detect] at h
      split at h <;> cases hj.symm.trans h
    | advance =>
      rw [apply, advance] at h
      split at h
      · cases hj.symm.trans h
      · cases hj.symm.trans h
      · rename_i inside rest hpending
        rcases Verdict.getElem?_append_singleton_cases h with hold | ⟨hlength, rfl⟩
        · cases hj.symm.trans hold
        · exact ⟨hlength, .inr ⟨inside, hpending ▸ List.mem_cons_self, rfl⟩⟩
    | change world => cases hj.symm.trans h
    | pass milliseconds => cases hj.symm.trans h
  · rcases apply_task_cases k server hj m with hstay | ⟨hm, u, hsteps, hu⟩
    · exact .inl (hstay.symm.trans h)
    · obtain rfl : u = t' := Option.some.inj (hu.symm.trans h)
      exact .inr (.inl ⟨hm, t, rfl, hsteps⟩)

theorem job_apply (hj : s.tasks[j]? = some t) (k : Constructor γ τ θ κ δ ε) (server : Server σ)
    (m : Move σ θ) : ∃ t', (s.apply k server m).tasks[j]? = some t' ∧ t'.job = t.job := by
  rcases apply_task_cases k server hj m with hstay | ⟨-, t', hsteps, ht'⟩
  · exact ⟨t, hstay, rfl⟩
  · exact ⟨t', ht', hsteps.job_eq⟩

theorem job_run (hj : s.tasks[j]? = some t) (k : Constructor γ τ θ κ δ ε) (server : Server σ)
    (moves : List (Move σ θ)) : ∃ t', (s.run k server moves).tasks[j]? = some t' ∧
      t'.job = t.job := by
  induction moves generalizing s t with
  | nil => exact ⟨t, hj, rfl⟩
  | cons m moves ih =>
    obtain ⟨u, hu, hjob⟩ := job_apply hj k server m
    obtain ⟨t', ht', hjob'⟩ := ih hu
    exact ⟨t', ht', hjob'.trans hjob⟩

/-! ## On the cell -/

/-- The place of a stage on the cell. Behind the cell that is the answer it has given. -/
def Stage.phase : Stage γ τ θ δ ε → Phase
  | .cell phase => phase
  | .accepted args | .built args _ => .ended (.flag args.inside)

def Task.onCell (t : Task γ τ θ δ ε) : Verdict.Task := ⟨t.job.onCell, t.stage.phase⟩

def onCell (s : Runtime σ γ τ θ κ δ ε) : System := ⟨s.cell, s.clock, s.tasks.map Task.onCell⟩

/-- The moves of the system that a move of the runtime is. -/
def cellMoves (s : Runtime σ γ τ θ κ δ ε) : Move σ θ → List Verdict.Move
  | .call c => [.call (Job.call c).onCell]
  | .step i => [.step i]
  | .advance =>
    match s.pending with
    | .settle inside :: _ => [.call (.settle inside)]
    | _ => []
  | .pass milliseconds => [.pass milliseconds]
  | .detect | .change _ => []

theorem onCell_getElem? (hi : s.tasks[i]? = some t) : s.onCell.tasks[i]? = some t.onCell := by
  show (s.tasks.map Task.onCell)[i]? = _
  rw [List.getElem?_map, hi, Option.map_some]

theorem apply_step_of_ended {s : System} {call : Verdict.Call} {a : Verdict.Answer}
    (hi : s.tasks[i]? = some ⟨call, .ended a⟩) : s.apply (.step i) = s := by
  obtain ⟨hlt, ht⟩ := List.getElem?_eq_some_iff.mp hi
  rw [System.apply_step hi]
  show { s with tasks := s.tasks.set i ⟨call, .ended a⟩ } = s
  rw [← ht, List.set_getElem_self]

theorem onCell_eq_of_set {s' : Runtime σ γ τ θ κ δ ε} (hi : s.tasks[i]? = some t)
    (htasks : s'.tasks = s.tasks.set i t') (htask : t'.onCell = t.onCell)
    (hcell : s'.cell = s.cell) (hclock : s'.clock = s.clock) : s'.onCell = s.onCell := by
  obtain ⟨hlt, rfl⟩ := List.getElem?_eq_some_iff.mp hi
  unfold onCell
  rw [htasks, hcell, hclock, List.map_set, htask, ← List.map_set, List.set_getElem_self]

/-- A step of a task is a step of its call on the cell. Behind the cell that is none. -/
theorem onCell_step (k : Constructor γ τ θ κ δ ε) (s : Runtime σ γ τ θ κ δ ε) (i : Nat) :
    (s.step k i).onCell = s.onCell.apply (.step i) := by
  rcases hi : s.tasks[i]? with _ | t
  · have hnone : s.onCell.tasks[i]? = none := by
      show (s.tasks.map Task.onCell)[i]? = _
      rw [List.getElem?_map, hi, Option.map_none]
    rw [step_of_none k hi, System.apply_step_of_none hnone]
  · have hcall := onCell_getElem? hi
    rcases step_cases k hi with ⟨job, phase, rfl, -, hstep⟩ | ⟨order, seen, rfl, hstep⟩ |
      ⟨order, args, rfl, hstep⟩ | ⟨hbehind, hstep⟩
    · rw [hstep, System.apply_step hcall]
      show System.mk _ _ ((s.tasks.set i _).map Task.onCell) = _
      rw [List.map_set]
      rfl
    · rw [hstep, apply_step_of_ended hcall]
      exact onCell_eq_of_set hi rfl rfl rfl rfl
    · rw [hstep, apply_step_of_ended hcall]
      exact onCell_eq_of_set hi rfl rfl rfl rfl
    · obtain ⟨job, stage⟩ := t
      cases stage with
      | cell phase => exact absurd rfl (hbehind job phase)
      | accepted args => rw [hstep, apply_step_of_ended hcall]
      | built args result => rw [hstep, apply_step_of_ended hcall]

/-- A move of the runtime is some moves of the system on the cell. -/
theorem onCell_apply (k : Constructor γ τ θ κ δ ε) (server : Server σ)
    (s : Runtime σ γ τ θ κ δ ε) (m : Move σ θ) :
    (s.apply k server m).onCell = s.onCell.run (s.cellMoves m) := by
  cases m with
  | call c =>
    show System.mk _ _ ((s.tasks ++ [_]).map Task.onCell) = _
    rw [List.map_append]
    rfl
  | step i => exact onCell_step k s i
  | detect =>
    rw [apply, detect]
    split <;> rfl
  | advance =>
    rw [apply, advance, cellMoves]
    split
    · simp_all
    · simp_all [onCell]
    · rename_i inside rest hpending
      rw [hpending]
      show System.mk _ _ ((s.tasks ++ [_]).map Task.onCell) = _
      rw [List.map_append]
      rfl
  | change world => rfl
  | pass milliseconds => rfl

end CloudQueue.Runtime
