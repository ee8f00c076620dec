import CloudQueue.Proofs.Plugin.Kept

/-!
# Builds

A build sees the verdict with one step, behind the guard of the cell, and what it saw stays with it
(`seen_run`, `Kept.snapshot_of_seen`). It hands that to the constructor with the collaborators of
the plugin, and calls the constructor once (`Runtime.Recorded`).
-/

namespace CloudQueue.Runtime

open Http (Server)
open Verdict (Phase)

variable {σ γ τ θ κ δ ε : Type} {k : Constructor γ τ θ κ δ ε} {server : Server σ}
  {s : Runtime σ γ τ θ κ δ ε} {t t' : Task γ τ θ δ ε} {i j : Nat} {v : Bool} {order : Order θ}

/-- The verdict that a build saw, once its snapshot is taken. -/
def Stage.seen? : Stage γ τ θ δ ε → Option Bool
  | .cell (.leavingRead seen) => some seen
  | .cell (.ended (.flag seen)) => some seen
  | .accepted args => some args.inside
  | .built args _ => some args.inside
  | _ => none

/-- The arguments that a build hands to the constructor, once it has them. -/
def Stage.args? : Stage γ τ θ δ ε → Option (DriverArgs γ τ θ)
  | .accepted args => some args
  | .built args _ => some args
  | .cell _ => none

def Stage.result? : Stage γ τ θ δ ε → Option (Except ε δ)
  | .built _ result => some result
  | _ => none

theorem Stage.seen_of_args {stage : Stage γ τ θ δ ε} {args : DriverArgs γ τ θ}
    (h : stage.args? = some args) : stage.seen? = some args.inside := by
  cases stage with
  | cell phase => cases h
  | accepted args' => rw [← Option.some.inj h]; rfl
  | built args' result => rw [← Option.some.inj h]; rfl

/-! ## Snapshots -/

theorem Task.Steps.seen (hsteps : t.Steps k s t') (hjob : t.job = .call (.build order))
    (hv : t.stage.seen? = some v) : t'.stage.seen? = some v := by
  cases hsteps with
  | @cell job phase hcell =>
    obtain rfl : job = .call (.build order) := hjob
    cases phase with
    | leavingRead seen => exact hv
    | ended a =>
      cases a with
      | flag seen => exact absurd rfl (hcell order seen rfl)
      | _ => cases hv
    | _ => cases hv
  | accept => exact hv
  | invoke => exact hv

theorem Kept.snapshot_of_steps (h : s.Kept) (hi : s.tasks[i]? = some t)
    (hjob : t.job = .call (.build order)) (hsteps : t.Steps k s t')
    (hnone : t.stage.seen? = none) (hv : t'.stage.seen? = some v) :
    t.stage = .cell .reading ∧ v = s.stored?.getD false := by
  have hbuild := h.builds t (List.mem_of_getElem? hi) order hjob
  cases hsteps with
  | @cell job phase hcell =>
    obtain rfl : job = .call (.build order) := hjob
    rcases hbuild with rfl | rfl | ⟨seen, rfl | rfl⟩
    · by_cases hw : s.cell.writing = true <;> simp [Phase.step, hw, Stage.seen?] at hv
    · refine ⟨rfl, ?_⟩
      rw [← h.inside_of_reading hi rfl]
      exact (Option.some.inj hv).symm
    · cases hnone
    · exact absurd rfl (hcell order seen rfl)
  | accept => cases hnone
  | invoke => cases hnone

theorem seen_apply (hi : s.tasks[i]? = some t) (hjob : t.job = .call (.build order))
    (hv : t.stage.seen? = some v) (k : Constructor γ τ θ κ δ ε) (server : Server σ)
    (m : Move σ θ) : ∃ t', (s.apply k server m).tasks[i]? = some t' ∧
      t'.job = .call (.build order) ∧ t'.stage.seen? = some v := by
  rcases apply_task_cases k server hi m with hstay | ⟨-, t', hsteps, ht'⟩
  · exact ⟨t, hstay, hjob, hv⟩
  · exact ⟨t', ht', hsteps.job_eq.trans hjob, hsteps.seen hjob hv⟩

theorem seen_run (hi : s.tasks[i]? = some t) (hjob : t.job = .call (.build order))
    (hv : t.stage.seen? = some v) (k : Constructor γ τ θ κ δ ε) (server : Server σ)
    (moves : List (Move σ θ)) : ∃ t', (s.run k server moves).tasks[i]? = some t' ∧
      t'.job = .call (.build order) ∧ t'.stage.seen? = some v := by
  induction moves generalizing s t with
  | nil => exact ⟨t, hi, hjob, hv⟩
  | cons m moves ih =>
    obtain ⟨t', ht', hjob', hv'⟩ := seen_apply hi hjob hv k server m
    exact ih ht' hjob' hv'

/-- The build number `i` is behind the guard of the cell, in front of the verdict. -/
def AtSnapshot (s : Runtime σ γ τ θ κ δ ε) (i : Nat) (order : Order θ) : Prop :=
  s.tasks[i]? = some ⟨.call (.build order), .cell .reading⟩

theorem Kept.seen_of_atSnapshot (h : s.Kept) (hi : s.AtSnapshot i order)
    (k : Constructor γ τ θ κ δ ε) (server : Server σ) :
    ∃ t', (s.apply k server (.step i)).tasks[i]? = some t' ∧ t'.job = .call (.build order) ∧
      t'.stage.seen? = some (s.stored?.getD false) := by
  obtain ⟨hlt, -⟩ := List.getElem?_eq_some_iff.mp hi
  refine ⟨⟨.call (.build order), .cell (.leavingRead s.cell.inside)⟩, ?_, rfl, ?_⟩
  · show (s.step k i).tasks[i]? = _
    rw [step, hi]
    exact List.getElem?_set_self hlt
  · rw [← h.inside_of_reading hi rfl]
    rfl

/-- What a build saw it saw before, or with a step among the moves since then. -/
theorem Kept.snapshot_of_seen (h : s.Kept) (moves : List (Move σ θ))
    (hi : (s.run k server moves).tasks[i]? = some t) (hjob : t.job = .call (.build order))
    (hv : t.stage.seen? = some v) :
    (∃ u, s.tasks[i]? = some u ∧ u.job = .call (.build order) ∧ u.stage.seen? = some v) ∨
      ∃ before after, moves = before ++ .step i :: after ∧
        (s.run k server before).AtSnapshot i order ∧
        v = (s.run k server before).stored?.getD false := by
  induction moves generalizing s with
  | nil => exact .inl ⟨t, hi, hjob, hv⟩
  | cons m moves ih =>
    rcases ih (h.apply k server m) hi with
      ⟨u', hu', hjob', hseen⟩ | ⟨before, after, rfl, hat, hvalue⟩
    · rcases apply_origin k server hu' with hold | ⟨rfl, u, hu, hsteps⟩ |
        ⟨-, ⟨c, rfl⟩ | ⟨inside, -, rfl⟩⟩
      · exact .inl ⟨u', hold, hjob', hseen⟩
      · have hjob_u : u.job = .call (.build order) := hsteps.job_eq.symm.trans hjob'
        -- A build that saw nothing before its step took the snapshot with it.
        rcases hnone : u.stage.seen? with _ | w
        · obtain ⟨hstage, hvalue⟩ := h.snapshot_of_steps hu hjob_u hsteps hnone hseen
          obtain ⟨job, stage⟩ := u
          obtain rfl : job = .call (.build order) := hjob_u
          obtain rfl : stage = .cell .reading := hstage
          exact .inr ⟨[], moves, rfl, hu, hvalue⟩
        · have hsame : some w = some v := (hsteps.seen hjob_u hnone).symm.trans hseen
          exact .inl ⟨u, hu, hjob_u, hnone.trans hsame⟩
      · obtain rfl : c = .build order := Job.call.inj hjob'
        cases hseen
      · cases hjob'
    · exact .inr ⟨m :: before, after, rfl, hat, hvalue⟩

/-- What a build saw is what was stored in front of any step that took its snapshot. -/
theorem Kept.eq_of_atSnapshot (h : s.Kept) {before after : List (Move σ θ)}
    (hat : (s.run k server before).AtSnapshot i order)
    (hi : (s.run k server (before ++ .step i :: after)).tasks[i]? = some t)
    (hv : t.stage.seen? = some v) : v = (s.run k server before).stored?.getD false := by
  obtain ⟨u, hu, hjob, hseen⟩ := (h.run k server before).seen_of_atSnapshot hat k server
  obtain ⟨t', ht', -, hseen'⟩ := seen_run hu hjob hseen k server after
  rw [run_append, run_cons] at hi
  obtain rfl : t = t' := Option.some.inj (hi.symm.trans ht')
  exact Option.some.inj (hv.symm.trans hseen')

/-! ## Calls of the constructor -/

/-- The constructor has been called by a task, at the place number `i`, if and only if the task is
at the end of a build. It got the order and the arguments of the build, and the result is its. -/
def Task.Called (k : Constructor γ τ θ κ δ ε) (i : Nat) (made : List (Invocation γ τ θ κ)) :
    Task γ τ θ δ ε → Prop
  | ⟨.call (.build order), .built args result⟩ =>
    ∃ memory, made.filter (·.task = i) = [⟨i, memory, order.source, order.pipeline, args⟩] ∧
      result = (k.build memory order.source order.pipeline args).2
  | _ => made.filter (·.task = i) = []

/-- The constructor remembers in front of each call what the calls before have left. -/
def Follow (k : Constructor γ τ θ κ δ ε) : κ → List (Invocation γ τ θ κ) → κ → Prop
  | memory, [], after => after = memory
  | memory, call :: rest, after =>
    call.memory = memory ∧
      Follow k (k.build memory call.source call.pipeline call.args).1 rest after

/-- The calls of the constructor are those of the builds, with the collaborators of the plugin. -/
structure Recorded (k : Constructor γ τ θ κ δ ε) (memory : κ) (s : Runtime σ γ τ θ κ δ ε) :
    Prop where
  called : ∀ (i : Nat) (t : Task γ τ θ δ ε), s.tasks[i]? = some t → t.Called k i s.invocations
  callers : ∀ call ∈ s.invocations, ∃ t, s.tasks[call.task]? = some t
  follow : Follow k memory s.invocations s.memory
  args : ∀ t ∈ s.tasks, ∀ order args, t.job = .call (.build order) → t.stage.args? = some args →
    args = (s.snapshot args.inside).driverArgs order.queue

theorem Follow.concat {memory middle : κ} {made : List (Invocation γ τ θ κ)}
    (h : Follow k memory made middle) (call : Invocation γ τ θ κ) (hcall : call.memory = middle) :
    Follow k memory (made ++ [call])
      (k.build middle call.source call.pipeline call.args).1 := by
  induction made generalizing memory with
  | nil =>
    obtain rfl : middle = memory := h
    exact ⟨hcall, rfl⟩
  | cons first rest ih => exact ⟨h.1, ih h.2⟩

/-- Only a step of a build that is in front of the constructor calls it. -/
theorem apply_invocations_cases (k : Constructor γ τ θ κ δ ε) (server : Server σ)
    (s : Runtime σ γ τ θ κ δ ε) (m : Move σ θ) :
    (∃ i order args, m = .step i ∧ s.tasks[i]? = some ⟨.call (.build order), .accepted args⟩) ∨
      (∀ i order args, m = .step i →
        s.tasks[i]? ≠ some ⟨.call (.build order), .accepted args⟩) ∧
      (s.apply k server m).invocations = s.invocations ∧
      (s.apply k server m).memory = s.memory := by
  cases m with
  | step i =>
    by_cases h : ∃ order args, s.tasks[i]? = some ⟨.call (.build order), .accepted args⟩
    · obtain ⟨order, args, hi⟩ := h
      exact .inl ⟨i, order, args, rfl, hi⟩
    · right
      refine ⟨?_, ?_⟩
      · rintro _ order args ⟨⟩ hi
        exact h ⟨order, args, hi⟩
      · rcases hi : s.tasks[i]? with _ | t
        · rw [apply, step_of_none k hi]
          exact ⟨rfl, rfl⟩
        · rcases step_cases k hi with ⟨_, _, -, -, hstep⟩ | ⟨_, _, -, hstep⟩ |
            ⟨order, args, rfl, -⟩ | ⟨-, hstep⟩
          · rw [apply, hstep]
            exact ⟨rfl, rfl⟩
          · rw [apply, hstep]
            exact ⟨rfl, rfl⟩
          · exact absurd ⟨order, args, hi⟩ h
          · rw [apply, hstep]
            exact ⟨rfl, rfl⟩
  | detect =>
    rw [apply, detect]
    split <;> exact .inr ⟨by simp, rfl, rfl⟩
  | advance =>
    rw [apply, advance]
    split <;> exact .inr ⟨by simp, rfl, rfl⟩
  | _ => exact .inr ⟨by simp, rfl, rfl⟩

theorem plugin_apply (k : Constructor γ τ θ κ δ ε) (server : Server σ)
    (s : Runtime σ γ τ θ κ δ ε) (m : Move σ θ) : (s.apply k server m).plugin = s.plugin := by
  cases m with
  | step i => exact (step_frame k s i).1
  | detect =>
    rw [apply, detect]
    split <;> rfl
  | advance =>
    rw [apply, advance]
    split <;> rfl
  | _ => rfl

theorem Task.Called.congr {made made' : List (Invocation γ τ θ κ)} (h : t.Called k i made)
    (hmade : made'.filter (·.task = i) = made.filter (·.task = i)) : t.Called k i made' := by
  unfold Called at h ⊢
  rw [hmade]
  exact h

theorem Task.called_iff_of_result_none {made : List (Invocation γ τ θ κ)}
    (h : t.stage.result? = none) : t.Called k i made ↔ made.filter (·.task = i) = [] := by
  unfold Called
  split
  · cases h
  · exact Iff.rfl

theorem Recorded.filter_length {memory : κ} (h : Recorded k memory s) :
    s.invocations.filter (·.task = s.tasks.length) = [] := by
  rw [List.filter_eq_nil_iff]
  intro call hcall htask
  obtain ⟨t, ht⟩ := h.callers call hcall
  have hlt := (List.getElem?_eq_some_iff.mp ht).1
  have heq : call.task = s.tasks.length := by simpa using htask
  omega

theorem Recorded.called_invoke {memory : κ} {args : DriverArgs γ τ θ} (h : Recorded k memory s)
    (hi : s.tasks[i]? = some ⟨.call (.build order), .accepted args⟩)
    (hj : (s.invoke k i order args).tasks[j]? = some t) :
    t.Called k j (s.invoke k i order args).invocations := by
  obtain ⟨hlt, -⟩ := List.getElem?_eq_some_iff.mp hi
  have hmade : (s.invoke k i order args).invocations =
      s.invocations ++ [⟨i, s.memory, order.source, order.pipeline, args⟩] := rfl
  have htasks : (s.invoke k i order args).tasks = s.tasks.set i ⟨.call (.build order),
      .built args (k.build s.memory order.source order.pipeline args).2⟩ := rfl
  rw [hmade]
  rw [htasks] at hj
  by_cases hij : i = j
  · subst hij
    rw [List.getElem?_set_self hlt] at hj
    obtain rfl := Option.some.inj hj
    have hbefore : s.invocations.filter (·.task = i) = [] := h.called i _ hi
    refine ⟨s.memory, ?_, rfl⟩
    rw [List.filter_append, hbefore]
    simp
  · rw [List.getElem?_set_ne hij] at hj
    refine (h.called j t hj).congr ?_
    rw [List.filter_append]
    simp [hij]

/-- A move without a call of the constructor leaves the record of every task right. -/
theorem Recorded.called_apply {memory : κ} {m : Move σ θ} (h : Recorded k memory s)
    (hnot : ∀ i order args, m = .step i →
      s.tasks[i]? ≠ some ⟨.call (.build order), .accepted args⟩)
    (hj : (s.apply k server m).tasks[j]? = some t) : t.Called k j s.invocations := by
  rcases apply_origin k server hj with hold | ⟨hm, u, hu, hsteps⟩ | ⟨rfl, hstart⟩
  · exact h.called j t hold
  · have hbefore := h.called j u hu
    cases hsteps with
    | cell hcell =>
      rw [Task.called_iff_of_result_none rfl] at hbefore ⊢
      exact hbefore
    | accept =>
      rw [Task.called_iff_of_result_none rfl] at hbefore ⊢
      exact hbefore
    | invoke => exact absurd hu (hnot j _ _ hm)
  · refine (Task.called_iff_of_result_none ?_).mpr h.filter_length
    rcases hstart with ⟨c, rfl⟩ | ⟨inside, -, rfl⟩ <;> rfl

theorem Recorded.args_apply {memory : κ} {m : Move σ θ} {args : DriverArgs γ τ θ}
    (h : Recorded k memory s) (ht : t ∈ (s.apply k server m).tasks)
    (hjob : t.job = .call (.build order)) (hargs : t.stage.args? = some args) :
    args = (s.snapshot args.inside).driverArgs order.queue := by
  obtain ⟨j, hj⟩ := List.mem_iff_getElem?.mp ht
  rcases apply_origin k server hj with hold | ⟨-, u, hu, hsteps⟩ | ⟨-, ⟨c, rfl⟩ | ⟨inside, -, rfl⟩⟩
  · exact h.args t (List.mem_of_getElem? hold) order args hjob hargs
  · cases hsteps with
    | cell hcell => cases hargs
    | accept =>
      obtain rfl := Call.build.inj (Job.call.inj hjob)
      rw [← Option.some.inj hargs]
      rfl
    | invoke => exact h.args _ (List.mem_of_getElem? hu) order args hjob hargs
  · cases hargs
  · cases hargs

theorem Recorded.apply {memory : κ} (h : Recorded k memory s) (server : Server σ)
    (m : Move σ θ) : Recorded k memory (s.apply k server m) := by
  have hargs : ∀ t ∈ (s.apply k server m).tasks, ∀ order args, t.job = .call (.build order) →
      t.stage.args? = some args →
      args = ((s.apply k server m).snapshot args.inside).driverArgs order.queue := by
    intro t ht order args hjob hsome
    unfold snapshot
    rw [plugin_apply]
    exact h.args_apply ht hjob hsome
  have hcallers (call : Invocation γ τ θ κ) (hcall : call ∈ s.invocations) :
      ∃ t, (s.apply k server m).tasks[call.task]? = some t := by
    obtain ⟨t, ht⟩ := h.callers call hcall
    obtain ⟨t', ht', -⟩ := job_apply ht k server m
    exact ⟨t', ht'⟩
  rcases apply_invocations_cases k server s m with
    ⟨i, order, args, rfl, hi⟩ | ⟨hnot, hinvocations, hmemory⟩
  · have hinvoke : s.apply k server (.step i) = s.invoke k i order args := step_of_accepted hi k
    refine ⟨fun j t hj => ?_, fun call hcall => ?_, ?_, hargs⟩
    · rw [hinvoke] at hj ⊢
      exact h.called_invoke hi hj
    · rw [hinvoke] at hcall
      rcases List.mem_append.mp hcall with hold | hnew
      · exact hcallers call hold
      · rw [List.mem_singleton.mp hnew]
        obtain ⟨t', ht', -⟩ := job_apply hi k server (.step i)
        exact ⟨t', ht'⟩
    · rw [hinvoke]
      exact h.follow.concat ⟨i, s.memory, order.source, order.pipeline, args⟩ rfl
  · refine ⟨fun j t hj => ?_, fun call hcall => ?_, ?_, hargs⟩
    · rw [hinvocations]
      exact h.called_apply hnot hj
    · rw [hinvocations] at hcall
      exact hcallers call hcall
    · rw [hinvocations, hmemory]
      exact h.follow

theorem Recorded.run {memory : κ} (h : Recorded k memory s) (server : Server σ)
    (moves : List (Move σ θ)) : Recorded k memory (s.run k server moves) := by
  induction moves generalizing s with
  | nil => exact h
  | cons m moves ih => exact ih (h.apply server m)

theorem recorded_start (k : Constructor γ τ θ κ δ ε) (p : Plugin γ τ) (world : σ) (memory : κ) :
    Recorded k memory (start p world memory) where
  called i t ht := by cases ht
  callers call hcall := by cases hcall
  follow := rfl
  args t ht := by cases ht

/-- Every call of the constructor is the one of a build that is at its end. -/
theorem Recorded.built_of_mem {memory : κ} (h : Recorded k memory s)
    {call : Invocation γ τ θ κ} (hcall : call ∈ s.invocations) : ∃ order args result,
      s.tasks[call.task]? = some ⟨.call (.build order), .built args result⟩ := by
  obtain ⟨t, ht⟩ := h.callers call hcall
  have hmem : call ∈ s.invocations.filter (·.task = call.task) := by simpa using hcall
  have hcalled := h.called call.task t ht
  unfold Task.Called at hcalled
  split at hcalled
  · exact ⟨_, _, _, ht⟩
  · rw [hcalled] at hmem
    exact absurd hmem List.not_mem_nil

theorem Recorded.collaborators_of_mem {memory : κ} (h : Recorded k memory s)
    {call : Invocation γ τ θ κ} (hcall : call ∈ s.invocations) :
    call.args.config = s.plugin.state.config ∧ call.args.tracer = s.plugin.state.tracer ∧
      call.args.logger = s.plugin.state.logger := by
  obtain ⟨order, args, result, ht⟩ := h.built_of_mem hcall
  obtain ⟨memory', hmade, -⟩ := h.called _ _ ht
  have hmem : call ∈ s.invocations.filter (·.task = call.task) := by simpa using hcall
  rw [hmade] at hmem
  have hargs : args = (s.snapshot args.inside).driverArgs order.queue :=
    h.args _ (List.mem_of_getElem? ht) order args rfl rfl
  rw [List.mem_singleton.mp hmem, hargs]
  exact ⟨rfl, rfl, rfl⟩

end CloudQueue.Runtime
