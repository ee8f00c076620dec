import CloudQueue.Proofs.Plugin.Builds
import CloudQueue.Proofs.Verdict.Rounds

/-!
# Turns of the tasks

A build can be held back by the end of the detection alone, and that has only so many steps to
take. `Runtime.left` counts the steps that a build and the end of the detection have ahead of them;
no move adds to it, and a round in which every task has a turn takes one away, until the build is
at its end (`Kept.built_of_rounds`).
-/

namespace CloudQueue

open Http (Server)
open Verdict (Cell Phase System)

/-- How many steps an action has ahead of it at most that begins the end of the detection. -/
def Action.left : Action → Nat
  | .emit _ => 0
  | .settle _ => 7

theorem Action.left_ofDetection {σ : Type} (span : Option Span) (d : Metadata.Detection σ) :
    ((ofDetection span d).map left).sum = 7 := by
  have hevents : ((d.events.map fun e => Action.emit (e.within span)).map left).sum = 0 := by
    apply List.sum_eq_zero
    intro n hn
    simp only [List.map_map, List.mem_map, Function.comp_apply] at hn
    obtain ⟨e, -, rfl⟩ := hn
    rfl
  rw [ofDetection, List.map_append, List.sum_append, hevents]
  rfl

namespace Runtime

variable {σ γ τ θ κ δ ε : Type} {k : Constructor γ τ θ κ δ ε} {server : Server σ}
  {s s' s'' : Runtime σ γ τ θ κ δ ε} {t t' u : Task γ τ θ δ ε} {i j : Nat} {v : Bool}
  {order : Order θ}

/-- How many steps a task has ahead of it at most. -/
def Stage.left : Stage γ τ θ δ ε → Nat
  | .cell phase => phase.work + 2
  | .accepted _ => 1
  | .built _ _ => 0

/-- How many steps a task has ahead of it at most, if it is the end of the detection. -/
def Task.writeLeft (t : Task γ τ θ δ ε) : Nat :=
  match t.job with
  | .settle _ => t.stage.left
  | .call _ => 0

/-- How many steps the end of the detection has ahead of it at most. -/
def writeLeft (s : Runtime σ γ τ θ κ δ ε) : Nat :=
  (if s.detection?.isNone then 7 else 0) + (s.pending.map Action.left).sum +
    (s.tasks.map Task.writeLeft).sum

/-- How many steps the task number `i` and the end of the detection have ahead of them at most. -/
def left (s : Runtime σ γ τ θ κ δ ε) (i : Nat) : Nat :=
  ((s.tasks[i]?.map fun t => t.stage.left).getD 0) + s.writeLeft

/-- Between two moments the task number `i` and the end of the detection take no step, and the end
of the detection does not get anywhere if it begins. -/
structure Quiet (i : Nat) (s s' : Runtime σ γ τ θ κ δ ε) : Prop where
  stays : ∀ (j : Nat) (t : Task γ τ θ δ ε), s.tasks[j]? = some t →
    (j = i ∨ ∃ v, t.job = .settle v) → s'.tasks[j]? = some t
  jobs : ∀ (j : Nat) (t : Task γ τ θ δ ε), s.tasks[j]? = some t →
    ∃ t', s'.tasks[j]? = some t' ∧ t'.job = t.job
  begins : ∀ (j : Nat) (t : Task γ τ θ δ ε), s.tasks[j]? = none → s'.tasks[j]? = some t →
    ∀ v, t.job = .settle v → t = .start (.settle v)

/-! ## Steps ahead -/

theorem Stage.built_of_left {stage : Stage γ τ θ δ ε} (h : stage.left = 0) :
    ∃ args result, stage = .built args result := by
  cases stage with
  | cell phase => cases (Nat.add_eq_zero_iff.mp h).2
  | accepted args => cases h
  | built args result => exact ⟨args, result, rfl⟩

theorem Task.Steps.eq_or_left_lt (h : t.Steps k s t') :
    t' = t ∨ t'.stage.left < t.stage.left := by
  cases h with
  | @cell job phase hcell =>
    rcases phase.step_eq_or_work_lt job.onCell s.clock s.cell with heq | hless
    · exact .inl (by rw [heq])
    · exact .inr (Nat.add_lt_add_right hless 2)
  | accept =>
    right
    show 1 < 2
    decide
  | invoke =>
    right
    show 0 < 1
    decide

theorem writeLeft_set (hj : s.tasks[j]? = some u) (t : Task γ τ θ δ ε) :
    ((s.tasks.set j t).map Task.writeLeft).sum + u.writeLeft =
      (s.tasks.map Task.writeLeft).sum + t.writeLeft := by
  have hmap : (s.tasks.map Task.writeLeft)[j]? = some u.writeLeft := by
    rw [List.getElem?_map, hj, Option.map_some]
  rw [List.map_set]
  exact Verdict.sum_set_add hmap t.writeLeft

/-- No move adds to what the end of the detection has ahead of it. -/
theorem writeLeft_apply_le (k : Constructor γ τ θ κ δ ε) (server : Server σ)
    (s : Runtime σ γ τ θ κ δ ε) (m : Move σ θ) :
    (s.apply k server m).writeLeft ≤ s.writeLeft := by
  cases m with
  | step j =>
    obtain ⟨-, hdetection, hpending⟩ := step_frame k s j
    show (s.step k j).writeLeft ≤ s.writeLeft
    rcases hj : s.tasks[j]? with _ | u
    · rw [step_of_none k hj]
    rcases step_tasks k hj with hstay | ⟨u', hsteps, htasks⟩
    · rw [hstay]
    have hsum := writeLeft_set hj u'
    have hle : u'.writeLeft ≤ u.writeLeft := by
      unfold Task.writeLeft
      rw [hsteps.job_eq]
      rcases u.job with c | v
      · exact Nat.le_refl 0
      · rcases hsteps.eq_or_left_lt with rfl | hless
        · exact Nat.le_refl _
        · exact Nat.le_of_lt hless
    unfold writeLeft
    rw [hdetection, hpending, htasks]
    omega
  | call c =>
    show _ + _ + ((s.tasks ++ [Task.start (.call c)]).map Task.writeLeft).sum ≤ _
    rw [List.map_append, List.sum_append]
    exact Nat.le_refl _
  | detect =>
    rw [apply, detect]
    split
    · exact Nat.le_refl _
    · rename_i hnone
      show 0 + ((Action.ofDetection _ _).map Action.left).sum + (s.tasks.map Task.writeLeft).sum ≤ _
      rw [Action.left_ofDetection, writeLeft, hnone, Option.isNone_none, if_pos rfl]
      omega
  | advance =>
    rw [apply, advance]
    split
    · exact Nat.le_refl _
    · rename_i e rest hpending
      show (if s.detection?.isNone then 7 else 0) + (rest.map Action.left).sum +
        (s.tasks.map Task.writeLeft).sum ≤ _
      rw [writeLeft, hpending, List.map_cons, List.sum_cons]
      omega
    · rename_i inside rest hpending
      have hstart : ([Task.start (.settle inside)].map
          (Task.writeLeft : Task γ τ θ δ ε → Nat)).sum = 7 := rfl
      have hsettle : (Action.settle inside).left = 7 := rfl
      show (if s.detection?.isNone then 7 else 0) + (rest.map Action.left).sum +
        ((s.tasks ++ [Task.start (.settle inside)]).map Task.writeLeft).sum ≤ _
      rw [List.map_append, List.sum_append, hstart, writeLeft, hpending, List.map_cons,
        List.sum_cons, hsettle]
      omega
  | change world => exact Nat.le_refl _
  | pass milliseconds => exact Nat.le_refl _

theorem writeLeft_run_le (k : Constructor γ τ θ κ δ ε) (server : Server σ)
    (s : Runtime σ γ τ θ κ δ ε) (moves : List (Move σ θ)) :
    (s.run k server moves).writeLeft ≤ s.writeLeft := by
  induction moves generalizing s with
  | nil => exact Nat.le_refl _
  | cons m moves ih => exact Nat.le_trans (ih _) (writeLeft_apply_le k server s m)

/-! ## Quiet moves -/

theorem Quiet.of_tasks_eq (h : s'.tasks = s.tasks) : Quiet i s s' := by
  refine ⟨fun j t hj _ => h ▸ hj, fun j t hj => ⟨t, h ▸ hj, rfl⟩, fun j t hnone hj => ?_⟩
  rw [h, hnone] at hj
  cases hj

theorem Quiet.trans (h : Quiet i s s') (h' : Quiet i s' s'') : Quiet i s s'' := by
  refine ⟨fun j t hj ht => ?_, fun j t hj => ?_, fun j t hnone hj v hjob => ?_⟩
  · exact h'.stays j t (h.stays j t hj ht) ht
  · obtain ⟨t', ht', hjob'⟩ := h.jobs j t hj
    obtain ⟨t'', ht'', hjob''⟩ := h'.jobs j t' ht'
    exact ⟨t'', ht'', hjob''.trans hjob'⟩
  · rcases hmiddle : s'.tasks[j]? with _ | u
    · exact h'.begins j t hmiddle hj v hjob
    · obtain ⟨t', ht', hjob'⟩ := h'.jobs j u hmiddle
      obtain rfl : t = t' := Option.some.inj (hj.symm.trans ht')
      have hjob_u : u.job = .settle v := hjob'.symm.trans hjob
      have hstays := h'.stays j u hmiddle (.inr ⟨v, hjob_u⟩)
      rw [Option.some.inj (hj.symm.trans hstays)]
      exact h.begins j u hnone hmiddle v hjob_u

theorem Quiet.of_append (h : s'.tasks = s.tasks ++ [.start (job : Job θ)]) : Quiet i s s' := by
  refine ⟨fun j t hj _ => ?_, fun j t hj => ⟨t, ?_, rfl⟩, fun j t hnone hj v hjob => ?_⟩
  · rw [h, List.getElem?_append_left (List.getElem?_eq_some_iff.mp hj).1, hj]
  · rw [h, List.getElem?_append_left (List.getElem?_eq_some_iff.mp hj).1, hj]
  · rw [h] at hj
    rcases Verdict.getElem?_append_singleton_cases hj with hold | ⟨-, rfl⟩
    · cases hnone.symm.trans hold
    · obtain rfl : job = .settle v := hjob
      rfl

theorem Quiet.of_set {c : Call θ} (hj : s.tasks[j]? = some u) (hcall : u.job = .call c)
    (hne : j ≠ i) (htasks : s'.tasks = s.tasks.set j t') (hjob : t'.job = u.job) :
    Quiet i s s' := by
  obtain ⟨hlt, -⟩ := List.getElem?_eq_some_iff.mp hj
  refine ⟨fun n t hn ht => ?_, fun n t hn => ?_, fun n t hnone hn => ?_⟩
  · have hother : j ≠ n := by
      rintro rfl
      obtain rfl : u = t := Option.some.inj (hj.symm.trans hn)
      rcases ht with heq | ⟨v, hsettle⟩
      · exact hne heq
      · cases hcall.symm.trans hsettle
    rw [htasks, List.getElem?_set_ne hother, hn]
  · rw [htasks]
    by_cases hother : j = n
    · subst hother
      obtain rfl : u = t := Option.some.inj (hj.symm.trans hn)
      exact ⟨t', List.getElem?_set_self hlt, hjob⟩
    · exact ⟨t, by rw [List.getElem?_set_ne hother, hn], rfl⟩
  · have hother : j ≠ n := by
      rintro rfl
      cases hnone.symm.trans hj
    rw [htasks, List.getElem?_set_ne hother, hnone] at hn
    cases hn

/-- A step of a task is quiet, or the task number `i` or the end of the detection gets further. -/
theorem step_quiet_or_left_lt {c : Call θ} (hi : s.tasks[i]? = some t) (hcall : t.job = .call c)
    (k : Constructor γ τ θ κ δ ε) (j : Nat) :
    Quiet i s (s.step k j) ∨ (s.step k j).left i < s.left i := by
  obtain ⟨-, hdetection, hpending⟩ := step_frame k s j
  rcases hj : s.tasks[j]? with _ | u
  · rw [step_of_none k hj]
    exact .inl (.of_tasks_eq rfl)
  rcases step_tasks k hj with hstay | ⟨u', hsteps, htasks⟩
  · rw [hstay]
    exact .inl (.of_tasks_eq rfl)
  obtain ⟨hlt, hself⟩ := List.getElem?_eq_some_iff.mp hj
  have hjob := hsteps.job_eq
  rcases hsteps.eq_or_left_lt with rfl | hless
  · exact .inl (.of_tasks_eq (by rw [htasks, ← hself, List.set_getElem_self]))
  have hsum := writeLeft_set hj u'
  unfold left writeLeft
  rw [hdetection, hpending, htasks, hi]
  by_cases hji : j = i
  · -- The task number `i` itself gets further.
    subst hji
    obtain rfl : u = t := Option.some.inj (hj.symm.trans hi)
    right
    simp only [Task.writeLeft, hjob, hcall] at hsum
    rw [List.getElem?_set_self hlt, Option.map_some, Option.map_some, Option.getD_some,
      Option.getD_some]
    omega
  · rcases hu : u.job with c' | v
    · exact .inl (.of_set hj hu hji htasks hjob)
    · right
      simp only [Task.writeLeft, hjob, hu] at hsum
      rw [List.getElem?_set_ne hji, hi]
      omega

/-- A move is quiet, or it takes something away from what is ahead. -/
theorem apply_quiet_or_left_lt {c : Call θ} (hi : s.tasks[i]? = some t) (hcall : t.job = .call c)
    (k : Constructor γ τ θ κ δ ε) (server : Server σ) (m : Move σ θ) :
    Quiet i s (s.apply k server m) ∨ (s.apply k server m).left i < s.left i := by
  cases m with
  | step j => exact step_quiet_or_left_lt hi hcall k j
  | call c' => exact .inl (.of_append rfl)
  | detect =>
    rw [apply, detect]
    split <;> exact .inl (.of_tasks_eq rfl)
  | advance =>
    rw [apply, advance]
    split
    · exact .inl (.of_tasks_eq rfl)
    · exact .inl (.of_tasks_eq rfl)
    · exact .inl (.of_append rfl)
  | change world => exact .inl (.of_tasks_eq rfl)
  | pass milliseconds => exact .inl (.of_tasks_eq rfl)

theorem Quiet.left_le (h : Quiet i s s') (hi : s.tasks[i]? = some t)
    (hwrite : s'.writeLeft ≤ s.writeLeft) : s'.left i ≤ s.left i := by
  unfold left
  rw [h.stays i t hi (.inl rfl), hi]
  exact Nat.add_le_add_left hwrite _

theorem run_quiet_or_left_lt {c : Call θ} (hi : s.tasks[i]? = some t) (hcall : t.job = .call c)
    (k : Constructor γ τ θ κ δ ε) (server : Server σ) (moves : List (Move σ θ)) :
    Quiet i s (s.run k server moves) ∨ (s.run k server moves).left i < s.left i := by
  induction moves generalizing s t with
  | nil => exact .inl (.of_tasks_eq rfl)
  | cons m moves ih =>
    have hwrite := writeLeft_run_le k server (s.apply k server m) moves
    rcases apply_quiet_or_left_lt hi hcall k server m with hquiet | hless
    · have hi' := hquiet.stays i t hi (.inl rfl)
      have hle := hquiet.left_le hi (writeLeft_apply_le k server s m)
      rcases ih hi' hcall with hrest | hrest
      · exact .inl (hquiet.trans hrest)
      · exact .inr (Nat.lt_of_lt_of_le hrest hle)
    · right
      obtain ⟨t', hi', hjob⟩ := job_apply hi k server m
      rcases ih hi' (hjob.trans hcall) with hrest | hrest
      · exact Nat.lt_of_le_of_lt (hrest.left_le hi' hwrite) hless
      · exact Nat.lt_trans hrest hless

theorem left_run_le {c : Call θ} (hi : s.tasks[i]? = some t) (hcall : t.job = .call c)
    (k : Constructor γ τ θ κ δ ε) (server : Server σ) (moves : List (Move σ θ)) :
    (s.run k server moves).left i ≤ s.left i := by
  rcases run_quiet_or_left_lt hi hcall k server moves with hquiet | hless
  · exact hquiet.left_le hi (writeLeft_run_le k server s moves)
  · exact Nat.le_of_lt hless

/-! ## Rounds -/

/-- A round of moves: every task has a turn, and anything else may come in between. -/
def IsRound (s : Runtime σ γ τ θ κ δ ε) (round : List (Move σ θ)) : Prop :=
  ∀ j < s.tasks.length, .step j ∈ round

/-- Rounds, one after the other. -/
def AreRounds (k : Constructor γ τ θ κ δ ε) (server : Server σ) :
    Runtime σ γ τ θ κ δ ε → List (List (Move σ θ)) → Prop
  | _, [] => True
  | s, round :: rounds => s.IsRound round ∧ AreRounds k server (s.run k server round) rounds

theorem step_of_cell {job : Job θ} {phase : Phase} (hj : s.tasks[j]? = some ⟨job, .cell phase⟩)
    (hcell : ∀ order seen, job = .call (.build order) → phase ≠ .ended (.flag seen))
    (k : Constructor γ τ θ κ δ ε) : (s.step k j).tasks[j]? =
      some ⟨job, .cell (phase.step job.onCell s.clock s.cell).1⟩ := by
  obtain ⟨hlt, -⟩ := List.getElem?_eq_some_iff.mp hj
  rcases step_cases k hj with ⟨_, _, ⟨⟩, -, hstep⟩ | ⟨order, seen, ⟨⟩, -⟩ | ⟨_, _, ⟨⟩, -⟩ |
    ⟨hnot, -⟩
  · rw [hstep]
    exact List.getElem?_set_self hlt
  · exact absurd rfl (hcell order seen rfl)
  · exact absurd rfl (hnot job phase)

theorem step_ne_of_isWriting (hj : s.tasks[j]? = some u) (hwriting : u.stage.phase.isWriting = true)
    (k : Constructor γ τ θ κ δ ε) : (s.step k j).tasks[j]? ≠ some u := by
  obtain ⟨job, stage⟩ := u
  cases stage with
  | cell phase =>
    have hbehind : phase.isWriting = true := hwriting
    intro hstay
    rw [step_of_cell hj (by rintro _ _ - rfl; cases hbehind)] at hstay
    have hphase := congrArg (Stage.phase ∘ Task.stage) (Option.some.inj hstay)
    exact Phase.step_ne_of_behind (.inl hbehind) job.onCell s.clock s.cell hphase
  | accepted args => cases hwriting
  | built args result => cases hwriting

/-- Only somebody who writes holds back a build. -/
theorem Kept.writing_of_stuck (h : s.Kept) (hi : s.tasks[i]? = some t)
    (hjob : t.job = .call (.build order)) (hnone : t.stage.result? = none)
    (hstuck : (s.step k i).tasks[i]? = some t) : s.cell.writing = true := by
  have hbuild := h.builds t (List.mem_of_getElem? hi) order hjob
  obtain ⟨hlt, -⟩ := List.getElem?_eq_some_iff.mp hi
  obtain ⟨job, stage⟩ := t
  obtain rfl : job = .call (.build order) := hjob
  cases stage with
  | cell phase =>
    rcases hbuild with rfl | rfl | ⟨seen, rfl | rfl⟩
    · rw [step_of_cell hi (fun _ _ _ h => by cases h)] at hstuck
      cases hw : s.cell.writing with
      | true => rfl
      | false => simp [Phase.step, hw] at hstuck
    · rw [step_of_cell hi (fun _ _ _ h => by cases h)] at hstuck
      cases hstuck
    · rw [step_of_cell hi (fun _ _ _ h => by cases h)] at hstuck
      cases hstuck
    · have hset : (s.accept i order seen).tasks[i]? = _ := List.getElem?_set_self hlt
      rw [step_of_seen hi, hset] at hstuck
      cases hstuck
  | accepted args =>
    have hset : (s.invoke k i order args).tasks[i]? = _ := List.getElem?_set_self hlt
    rw [step_of_accepted hi, hset] at hstuck
    cases hstuck
  | built args result => cases hnone

/-- Somebody who writes is the end of the detection. -/
theorem Kept.exists_writer (h : s.Kept) (hwriting : s.cell.writing = true) :
    ∃ (j : Nat) (u : Task γ τ θ δ ε) (v : Bool), s.tasks[j]? = some u ∧ u.job = .settle v ∧
      u.stage.phase.isWriting = true := by
  obtain ⟨first, hkept, -⟩ := h.cell
  have hcount : s.onCell.tasks.countP (·.phase.isWriting) = 1 := by
    rw [hkept.guarded.writers]
    exact congrArg Bool.toNat hwriting
  obtain ⟨call, hcall, hbehind⟩ := List.countP_pos_iff.mp (hcount ▸ Nat.one_pos)
  obtain ⟨u, hu, rfl⟩ := List.mem_map.mp hcall
  obtain ⟨j, hj⟩ := List.mem_iff_getElem?.mp hu
  obtain ⟨v, hv⟩ := (hkept.calls j _ (onCell_getElem? hj)).settle_of_isWriting hbehind
  exact ⟨j, u, v, hj, Job.eq_settle_of_onCell hv, hbehind⟩

/-- A round takes something away from what is ahead of a build that is not at its end. -/
theorem Kept.left_round_lt (h : s.Kept) (hi : s.tasks[i]? = some t)
    (hjob : t.job = .call (.build order)) (hnone : t.stage.result? = none)
    (k : Constructor γ τ θ κ δ ε) (server : Server σ) {round : List (Move σ θ)}
    (hround : s.IsRound round) : (s.run k server round).left i < s.left i := by
  by_contra hnot
  -- If nothing is taken away, the moves are quiet up to any of them.
  have hquiet (before after : List (Move σ θ)) (hsplit : round = before ++ after) :
      Quiet i s (s.run k server before) := by
    rcases run_quiet_or_left_lt hi hjob k server before with hquiet | hless
    · exact hquiet
    · refine absurd ?_ hnot
      obtain ⟨t', ht', hjob'⟩ := job_run hi k server before
      rw [hsplit, run_append]
      exact Nat.lt_of_le_of_lt (left_run_le ht' (hjob'.trans hjob) k server after) hless
  -- So the tasks that count have turns in which they stay where they are.
  have hturn (j : Nat) (u : Task γ τ θ δ ε) (hj : s.tasks[j]? = some u)
      (hcounts : j = i ∨ ∃ v, u.job = .settle v) : ∃ before, Quiet i s (s.run k server before) ∧
        (s.run k server before).tasks[j]? = some u ∧
        ((s.run k server before).step k j).tasks[j]? = some u := by
    obtain ⟨hlt, -⟩ := List.getElem?_eq_some_iff.mp hj
    obtain ⟨before, after, hsplit⟩ := List.append_of_mem (hround j hlt)
    have hfront := hquiet before (.step j :: after) hsplit
    have hbehind := hquiet (before ++ [.step j]) after (by rw [hsplit, List.append_assoc]; rfl)
    rw [run_append] at hbehind
    exact ⟨before, hfront, hfront.stays j u hj hcounts, hbehind.stays j u hj hcounts⟩
  obtain ⟨before, hfront, hi', hstuck⟩ := hturn i t hi (.inl rfl)
  have hkept := h.run k server before
  obtain ⟨j, u, v, hj, hsettle, hwriting⟩ :=
    hkept.exists_writer (hkept.writing_of_stuck hi' hjob hnone hstuck)
  -- Who holds the build back then either has just begun, and does not write yet, or was there from
  -- the start, and has a turn in which nothing holds it back.
  rcases hj' : s.tasks[j]? with _ | w
  · rw [hfront.begins j u hj' hj v hsettle] at hwriting
    cases hwriting
  · obtain ⟨u', hu', hsame⟩ := hfront.jobs j w hj'
    obtain rfl : u = u' := Option.some.inj (hj.symm.trans hu')
    have hw : w.job = .settle v := hsame.symm.trans hsettle
    obtain rfl : u = w :=
      Option.some.inj (hj.symm.trans (hfront.stays j w hj' (.inr ⟨v, hw⟩)))
    obtain ⟨before', -, hj'', hstuck'⟩ := hturn j u hj' (.inr ⟨v, hw⟩)
    exact step_ne_of_isWriting hj'' hwriting k hstuck'

theorem built_run {args : DriverArgs γ τ θ} {result : Except ε δ}
    (hi : s.tasks[i]? = some ⟨.call (.build order), .built args result⟩)
    (k : Constructor γ τ θ κ δ ε) (server : Server σ) (moves : List (Move σ θ)) :
    (s.run k server moves).tasks[i]? = some ⟨.call (.build order), .built args result⟩ := by
  induction moves generalizing s with
  | nil => exact hi
  | cons m moves ih =>
    rcases apply_task_cases k server hi m with hstay | ⟨-, t', ⟨⟩, -⟩
    exact ih hstay

/-- **Builds end.** With as many rounds as there are steps ahead of it a build comes to its end,
however many calls there are and whatever happens in between. -/
theorem Kept.built_of_rounds (h : s.Kept) (hi : s.tasks[i]? = some t)
    (hjob : t.job = .call (.build order)) {rounds : List (List (Move σ θ))}
    (hrounds : s.AreRounds k server rounds) (hlength : s.left i ≤ rounds.length) :
    ∃ args result, (s.run k server rounds.flatten).tasks[i]? =
      some ⟨.call (.build order), .built args result⟩ := by
  induction rounds generalizing s t with
  | nil =>
    obtain ⟨job, stage⟩ := t
    obtain rfl : job = .call (.build order) := hjob
    have hnone : s.left i = 0 := Nat.le_zero.mp hlength
    unfold left at hnone
    rw [hi] at hnone
    obtain ⟨args, result, rfl⟩ := Stage.built_of_left (Nat.add_eq_zero_iff.mp hnone).1
    exact ⟨args, result, hi⟩
  | cons round rounds ih =>
    obtain ⟨hround, hrest⟩ := hrounds
    rw [List.flatten_cons, run_append]
    rcases hresult : t.stage.result? with _ | result
    · obtain ⟨t', ht', hjob'⟩ := job_run hi k server round
      have hless := h.left_round_lt hi hjob hresult k server hround
      rw [List.length_cons] at hlength
      exact ih (h.run k server round) ht' (hjob'.trans hjob) hrest (by omega)
    · obtain ⟨job, stage⟩ := t
      obtain rfl : job = .call (.build order) := hjob
      cases stage with
      | built args result => exact ⟨args, result, built_run (built_run hi k server _) k server _⟩
      | _ => cases hresult

theorem Kept.left_le (h : s.Kept) (hi : s.tasks[i]? = some t)
    (hjob : t.job = .call (.build order)) (hwrite : s.writeLeft ≤ 7) : s.left i ≤ 12 := by
  have hbuild := h.builds t (List.mem_of_getElem? hi) order hjob
  have hstage : t.stage.left ≤ 5 := by
    rcases ht : t.stage with phase | args | ⟨args, result⟩
    · rw [ht] at hbuild
      rcases hbuild with rfl | rfl | ⟨seen, rfl | rfl⟩ <;> simp [Stage.left, Phase.work]
    · simp [Stage.left]
    · simp [Stage.left]
  unfold left
  rw [hi, Option.map_some, Option.getD_some]
  omega

end Runtime

end CloudQueue
