import CloudQueue.Proofs.Plugin.DriverCalls
import CloudQueue.Proofs.Verdict.WriteOnce

/-!
# Settled plugins

A detection that has been run settles its verdict: its last action begins the task that does so
(`EndsDetection`), and with enough rounds of turns that task takes the flag up
(`Kept.ready_of_rounds`). From then on every read and every wait that begins ends with the verdict
(`Kept.yields`).
-/

namespace CloudQueue.Runtime

open Http (Server)
open Metadata (Detection)
open Verdict (Cell Phase System)

variable {σ γ τ θ κ δ ε : Type} {k : Constructor γ τ θ κ δ ε} {server : Server σ}
  {s : Runtime σ γ τ θ κ δ ε} {t : Task γ τ θ δ ε} {i : Nat} {v : Bool} {c : Call θ}

/-- A call that begins now can end with one answer only, whatever moves come in between, and it
does end when all tasks are given enough turns. -/
def Yields (k : Constructor γ τ θ κ δ ε) (server : Server σ) (s : Runtime σ γ τ θ κ δ ε)
    (c : Call θ) (a : Verdict.Answer) : Prop :=
  ∀ moves, let later := (s.apply k server (.call c)).run k server moves
    (∀ b, later.tasks[s.tasks.length]? = some ⟨.call c, .cell (.ended b)⟩ → b = a) ∧
      ∀ rounds : List (List Nat), (∀ turns ∈ rounds, ∀ i < later.tasks.length, i ∈ turns) →
        5 * later.tasks.length ≤ rounds.length →
        (later.run k server (rounds.flatten.map .step)).tasks[s.tasks.length]? =
          some ⟨.call c, .cell (.ended a)⟩

/-- The verdict of a detection that has been run is about to be settled, or a task does so. -/
def EndsDetection (s : Runtime σ γ τ θ κ δ ε) : Prop :=
  ∀ v, s.verdict? = some v → .settle v ∈ s.pending ∨ ∃ t ∈ s.tasks, t.job = .settle v

/-! ## Runs on the cell -/

theorem exists_onCell_run (k : Constructor γ τ θ κ δ ε) (server : Server σ)
    (s : Runtime σ γ τ θ κ δ ε) (moves : List (Move σ θ)) :
    ∃ cellMoves, (s.run k server moves).onCell = s.onCell.run cellMoves := by
  induction moves generalizing s with
  | nil => exact ⟨[], rfl⟩
  | cons m moves ih =>
    obtain ⟨cellMoves, hrest⟩ := ih (s.apply k server m)
    exact ⟨s.cellMoves m ++ cellMoves, by rw [run_cons, hrest, onCell_apply, System.run_append]⟩

theorem onCell_run_steps (k : Constructor γ τ θ κ δ ε) (server : Server σ)
    (s : Runtime σ γ τ θ κ δ ε) (turns : List Nat) :
    (s.run k server (turns.map .step)).onCell = s.onCell.run (turns.map .step) := by
  induction turns generalizing s with
  | nil => rfl
  | cons i turns ih =>
    rw [List.map_cons, List.map_cons, run_cons, ih, onCell_apply]
    rfl

@[simp] theorem length_onCell (s : Runtime σ γ τ θ κ δ ε) :
    s.onCell.tasks.length = s.tasks.length := List.length_map _

theorem cell_run {job : Job θ} {phase : Phase} (hi : s.tasks[i]? = some ⟨job, .cell phase⟩)
    (hjob : ∀ order, job ≠ .call (.build order)) (k : Constructor γ τ θ κ δ ε)
    (server : Server σ) (moves : List (Move σ θ)) :
    ∃ phase', (s.run k server moves).tasks[i]? = some ⟨job, .cell phase'⟩ := by
  induction moves generalizing s phase with
  | nil => exact ⟨phase, hi⟩
  | cons m moves ih =>
    rcases apply_task_cases k server hi m with hstay | ⟨-, t', hsteps, ht'⟩
    · exact ih hstay
    · cases hsteps with
      | cell hcell => exact ih ht'
      | accept => exact absurd rfl (hjob _)

/-! ## Calls on a settled plugin -/

theorem Yields.of_onCell {a : Verdict.Answer} (h : s.onCell.Yields (Job.call c).onCell a)
    (hc : ∀ order, c ≠ .build order) (k : Constructor γ τ θ κ δ ε) (server : Server σ) :
    s.Yields k server c a := by
  have hjob : ∀ order, Job.call c ≠ .call (.build order) := fun order hjob =>
    hc order (Job.call.inj hjob)
  have hbegun : (s.apply k server (.call c)).tasks[s.tasks.length]? = some (.start (.call c)) :=
    List.getElem?_concat_length
  intro moves later
  obtain ⟨cellMoves, hcell⟩ := exists_onCell_run k server (s.apply k server (.call c)) moves
  rw [onCell_apply] at hcell
  have hlater : later.onCell = _ := hcell
  obtain ⟨hanswer, hends⟩ := h cellMoves
  rw [length_onCell] at hanswer hends
  refine ⟨fun b hb => hanswer b ?_, fun rounds hrounds hlength => ?_⟩
  · exact hlater ▸ onCell_getElem? hb
  · have htask := hends rounds
      (fun turns hturns i hi => hrounds turns hturns i (by rwa [← length_onCell, hlater]))
      (by rwa [← length_onCell, hlater] at hlength)
    obtain ⟨phase, hphase⟩ :=
      cell_run hbegun hjob k server (moves ++ rounds.flatten.map .step)
    rw [run_append] at hphase
    have hsame := onCell_getElem? hphase
    rw [onCell_run_steps, hcell] at hsame
    obtain rfl : phase = .ended a :=
      congrArg Verdict.Task.phase (Option.some.inj (hsame.symm.trans htask))
    exact hphase

/-- **Calls on a settled plugin.** Once the flag is up, a read or a wait that begins ends with the
verdict of the detection. -/
theorem Kept.yields (h : s.Kept) (hready : s.cell.ready = true) (hv : s.verdict? = some v)
    (hc : ∀ order, c ≠ .build order) (k : Constructor γ τ θ κ δ ε) (server : Server σ) :
    s.Yields k server c ((Job.call c).onCell.report v) := by
  obtain ⟨first, hkept, -⟩ := h.cell
  obtain rfl : s.cell.inside = v := Option.some.inj ((h.verdict_of_ready hready).symm.trans hv)
  exact .of_onCell (hkept.yields hready (Job.call c).onCell) hc k server

/-! ## The end of the detection -/

/-- The end of the detection is still to come, or has begun, if what was pending is so or has
begun, and no task is gone. -/
theorem EndsDetection.mono {s' : Runtime σ γ τ θ κ δ ε} (h : s.EndsDetection)
    (hdetection : s'.detection? = s.detection?)
    (hpending : ∀ v, .settle v ∈ s.pending → .settle v ∈ s'.pending ∨
      ∃ t ∈ s'.tasks, t.job = .settle v)
    (htasks : ∀ t ∈ s.tasks, ∃ t' ∈ s'.tasks, t'.job = t.job) : s'.EndsDetection := by
  intro v hv
  rw [verdict?, hdetection] at hv
  rcases h v hv with hmem | ⟨t, ht, hjob⟩
  · exact hpending v hmem
  · obtain ⟨t', ht', hjob'⟩ := htasks t ht
    exact .inr ⟨t', ht', hjob'.trans hjob⟩

theorem EndsDetection.apply (h : s.EndsDetection) (k : Constructor γ τ θ κ δ ε)
    (server : Server σ) (m : Move σ θ) : (s.apply k server m).EndsDetection := by
  have htasks : ∀ t ∈ s.tasks, ∃ t' ∈ (s.apply k server m).tasks, t'.job = t.job := by
    intro t ht
    obtain ⟨i, hi⟩ := List.mem_iff_getElem?.mp ht
    obtain ⟨t', ht', hjob⟩ := job_apply hi k server m
    exact ⟨t', List.mem_of_getElem? ht', hjob⟩
  cases m with
  | call c => exact h.mono rfl (fun v hv => .inl hv) htasks
  | step i =>
    obtain ⟨-, hdetection, hpending⟩ := step_frame k s i
    exact h.mono hdetection (fun v hv => .inl (hpending ▸ hv)) htasks
  | detect =>
    rcases hdetection : s.detection? with _ | d
    · intro v hv
      simp only [Runtime.apply, detect, hdetection] at hv ⊢
      rw [← Option.some.inj hv]
      exact .inl (List.mem_append_right _ List.mem_cons_self)
    · have hstill : s.apply k server .detect = s := by rw [Runtime.apply, detect, hdetection]
      rwa [hstill]
  | advance =>
    refine h.mono ?_ (fun v hv => ?_) htasks
    · rw [Runtime.apply, advance]
      split <;> rfl
    · rw [Runtime.apply, advance]
      split
      · exact .inl hv
      · rename_i e rest hpending
        rw [hpending] at hv
        exact .inl (List.mem_of_ne_of_mem (fun h => by cases h) hv)
      · rename_i inside rest hpending
        rw [hpending] at hv
        rcases List.mem_cons.mp hv with heq | hrest
        · exact .inr ⟨_, List.mem_append_right _ List.mem_cons_self,
            congrArg Job.settle (Action.settle.inj heq).symm⟩
        · exact .inl hrest
  | change world => exact h.mono rfl (fun v hv => .inl hv) htasks
  | pass milliseconds => exact h.mono rfl (fun v hv => .inl hv) htasks

theorem EndsDetection.run (h : s.EndsDetection) (k : Constructor γ τ θ κ δ ε)
    (server : Server σ) (moves : List (Move σ θ)) : (s.run k server moves).EndsDetection := by
  induction moves generalizing s with
  | nil => exact h
  | cons m moves ih => exact ih (h.apply k server m)

theorem endsDetection_start (p : Plugin γ τ) (world : σ) (memory : κ) :
    (start p world memory : Runtime σ γ τ θ κ δ ε).EndsDetection := fun v hv => by cases hv

theorem pending_run_advance (k : Constructor γ τ θ κ δ ε) (server : Server σ)
    (s : Runtime σ γ τ θ κ δ ε) (n : Nat) :
    (s.run k server (List.replicate n .advance)).pending = s.pending.drop n := by
  induction n generalizing s with
  | zero => rfl
  | succ n ih =>
    rw [List.replicate_succ, run_cons, ih, apply, advance]
    rcases hpending : s.pending with _ | ⟨e | inside, rest⟩
    · simp [hpending]
    · rfl
    · rfl

theorem Kept.ready_of_settled {a : Verdict.Answer} (h : s.Kept)
    (ht : ⟨.settle v, .cell (.ended a)⟩ ∈ s.tasks) : s.cell.ready = true := by
  obtain ⟨first, hkept, -⟩ := h.cell
  obtain ⟨i, hi⟩ := List.mem_iff_getElem?.mp ht
  exact hkept.calls i _ (onCell_getElem? hi)

/-- **The detection comes to its end.** When it has performed its actions, and all tasks are given
enough turns, the flag is up. -/
theorem Kept.ready_of_rounds (h : s.Kept) (hends : s.EndsDetection) (hv : s.verdict? = some v)
    (hpending : s.pending = []) {rounds : List (List Nat)}
    (hrounds : ∀ turns ∈ rounds, ∀ i < s.tasks.length, i ∈ turns)
    (hlength : 5 * s.tasks.length ≤ rounds.length) (k : Constructor γ τ θ κ δ ε)
    (server : Server σ) : (s.run k server (rounds.flatten.map .step)).cell.ready = true := by
  obtain ⟨t, ht, hjob⟩ : ∃ t ∈ s.tasks, t.job = .settle v := by
    rcases hends v hv with hmem | htask
    · rw [hpending] at hmem
      cases hmem
    · exact htask
  obtain ⟨i, hi⟩ := List.mem_iff_getElem?.mp ht
  have hafter := h.run k server (rounds.flatten.map .step)
  obtain ⟨first, hkept, -⟩ := hafter.cell
  obtain ⟨t', ht', hjob'⟩ := job_run hi k server (rounds.flatten.map .step)
  have hcall := onCell_getElem? ht'
  have hagrees := hkept.calls i _ hcall
  have honCell : ∀ turns ∈ rounds, s.onCell.IsRound turns := fun turns hturns i hi =>
    hrounds turns hturns i (by rwa [length_onCell] at hi)
  have hstuck := System.stuck_of_rounds honCell (s.onCell.work_le.trans (by rwa [length_onCell]))
  rw [← onCell_run_steps k server] at hstuck
  have hsettle : t'.onCell.call = .settle v := congrArg Job.onCell (hjob'.trans hjob)
  rcases hkept.guarded.ended_or_watching_of_stuck hstuck (List.mem_of_getElem? hcall) with
    ⟨a, ha⟩ | ⟨-, deadline, hwatching⟩
  · rw [ha, hsettle] at hagrees
    exact hagrees
  · rw [hwatching, hsettle] at hagrees
    obtain ⟨n, hn⟩ := hagrees
    cases hn

end CloudQueue.Runtime
