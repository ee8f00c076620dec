import CloudQueue.Proofs.Plugin.Tasks

/-!
# What the cell of a runtime holds

Only the end of the detection settles the verdict, so the first value of the cell is the verdict of
the one detection. `Runtime.Kept` says this of a runtime, and `Kept.run` that all moves keep it so;
`Kept.inside_eq` is what a task finds that reads the cell.
-/

namespace CloudQueue.Runtime

open Http (Server)
open Metadata (Detection)
open Verdict (Cell Phase System)

variable {σ γ τ θ κ δ ε : Type} {k : Constructor γ τ θ κ δ ε} {server : Server σ}
  {s : Runtime σ γ τ θ κ δ ε} {t t' : Task γ τ θ δ ε} {i j : Nat} {v : Bool}

def verdict? (s : Runtime σ γ τ θ κ δ ε) : Option Bool := s.detection?.map Detection.verdict

/-- The value that a task has stored in the cell, if it settles and the step that stores is past. -/
def Task.stored? (t : Task γ τ θ δ ε) : Option Bool :=
  match t.job, t.stage with
  | .settle inside, .cell .announcing => some inside
  | .settle inside, .cell .leavingWrite => some inside
  | .settle inside, .cell (.ended _) => some inside
  | _, _ => none

/-- The value that the end of the detection has stored in the cell, if it has. -/
def stored? (s : Runtime σ γ τ θ κ δ ε) : Option Bool := s.tasks.findSome? Task.stored?

/-- The places of a build on the cell are those of a snapshot. -/
def Stage.IsBuild : Stage γ τ θ δ ε → Prop
  | .cell phase => phase = .enteringRead ∨ phase = .reading ∨
    ∃ seen, phase = .leavingRead seen ∨ phase = .ended (.flag seen)
  | .accepted _ | .built _ _ => True

/-- The cell is kept, its first value is the verdict of the detection, and nothing else is ever
stored. -/
structure Kept (s : Runtime σ γ τ θ κ δ ε) : Prop where
  cell : ∃ first, s.onCell.Kept first ∧ ∀ v, first = some v → s.verdict? = some v
  pending : ∀ v, .settle v ∈ s.pending → s.verdict? = some v
  settles : ∀ t ∈ s.tasks, ∀ v, t.job = .settle v → s.verdict? = some v
  stores : s.cell.ready = true → ∃ t ∈ s.tasks, ∃ v, t.stored? = some v
  builds : ∀ t ∈ s.tasks, ∀ order, t.job = .call (.build order) → t.stage.IsBuild

/-! ## Small facts -/

theorem Job.eq_settle_of_onCell {job : Job θ} (h : job.onCell = .settle v) : job = .settle v := by
  cases job with
  | call c => cases c <;> simp [onCell] at h
  | settle inside => rw [Verdict.Call.settle.inj h]

theorem Task.job_of_stored (h : t.stored? = some v) : t.job = .settle v := by
  unfold stored? at h
  split at h
  · exact ‹t.job = _›.trans (congrArg Job.settle (Option.some.inj h))
  · exact ‹t.job = _›.trans (congrArg Job.settle (Option.some.inj h))
  · exact ‹t.job = _›.trans (congrArg Job.settle (Option.some.inj h))
  · cases h

theorem Task.Steps.stored (hsteps : t.Steps k s t') (h : t.stored? = some v) :
    t'.stored? = some v := by
  cases hsteps with
  | @cell job phase _ =>
    obtain rfl : job = .settle v := job_of_stored h
    cases phase with
    | announcing => exact h
    | leavingWrite => exact h
    | ended a => exact h
    | _ => cases h
  | accept => cases h
  | invoke => cases h

theorem Task.Steps.isBuild {order : Order θ} (hsteps : t.Steps k s t')
    (hjob : t.job = .call (.build order)) (h : t.stage.IsBuild) : t'.stage.IsBuild := by
  cases hsteps with
  | @cell job phase hcell =>
    obtain rfl : job = .call (.build order) := hjob
    rcases h with rfl | rfl | ⟨seen, rfl | rfl⟩
    · by_cases hw : s.cell.writing = true <;> simp [Stage.IsBuild, Phase.step, hw]
    · exact .inr (.inr ⟨_, .inl rfl⟩)
    · exact .inr (.inr ⟨seen, .inr rfl⟩)
    · exact absurd rfl (hcell order seen rfl)
  | accept => trivial
  | invoke => trivial

theorem detection?_apply (k : Constructor γ τ θ κ δ ε) (server : Server σ) {d : Detection σ}
    (h : s.detection? = some d) (m : Move σ θ) : (s.apply k server m).detection? = some d := by
  cases m with
  | call c => exact h
  | step i => exact (step_frame k s i).2.1.trans h
  | detect =>
    rw [apply, detect, h]
    exact h
  | advance =>
    rw [apply, advance]
    split <;> exact h
  | change world => exact h
  | pass milliseconds => exact h

theorem verdict?_apply (k : Constructor γ τ θ κ δ ε) (server : Server σ)
    (h : s.verdict? = some v) (m : Move σ θ) : (s.apply k server m).verdict? = some v := by
  obtain ⟨d, hd, hv⟩ := Option.map_eq_some_iff.mp h
  exact Option.map_eq_some_iff.mpr ⟨d, detection?_apply k server hd m, hv⟩

/-- The value of a call that gets the guard to write with moves of a runtime is the one that a task
settles the verdict with. -/
theorem settles_of_firstGrant (m : Move σ θ) (h : s.onCell.firstGrant? (s.cellMoves m) = some v) :
    ∃ t ∈ s.tasks, t.job = .settle v := by
  cases m with
  | call c => cases h
  | step i =>
    have hgrant : s.onCell.grant? (.step i) = some v := by
      simpa [cellMoves, System.firstGrant?] using h
    obtain ⟨call, hmem, hcall⟩ := System.settle_of_grant hgrant
    obtain ⟨t, ht, rfl⟩ := List.mem_map.mp hmem
    exact ⟨t, ht, Job.eq_settle_of_onCell hcall⟩
  | detect => cases h
  | advance =>
    rw [cellMoves] at h
    split at h <;> cases h
  | change world => cases h
  | pass milliseconds => cases h

/-! ## What every run keeps -/

/-- A task that settles behind a move did so before, or its value was pending. -/
theorem Kept.settles_apply (h : s.Kept) (m : Move σ θ) (ht : t ∈ (s.apply k server m).tasks)
    (hjob : t.job = .settle v) : s.verdict? = some v := by
  obtain ⟨j, hj⟩ := List.mem_iff_getElem?.mp ht
  rcases apply_origin k server hj with hold | ⟨-, u, hu, hsteps⟩ |
    ⟨-, ⟨c, rfl⟩ | ⟨inside, hmem, rfl⟩⟩
  · exact h.settles t (List.mem_of_getElem? hold) v hjob
  · exact h.settles u (List.mem_of_getElem? hu) v (hsteps.job_eq.symm.trans hjob)
  · cases hjob
  · obtain rfl : inside = v := Job.settle.inj hjob
    exact h.pending inside hmem

theorem Kept.pending_apply (h : s.Kept) (m : Move σ θ)
    (hmem : .settle v ∈ (s.apply k server m).pending) :
    (s.apply k server m).verdict? = some v := by
  have hkeep (hold : .settle v ∈ s.pending) : (s.apply k server m).verdict? = some v :=
    verdict?_apply k server (h.pending v hold) m
  cases m with
  | call c => exact hkeep hmem
  | step i =>
    rw [apply, (step_frame k s i).2.2] at hmem
    exact hkeep hmem
  | detect =>
    rw [apply, detect] at hmem
    split at hmem
    · exact hkeep hmem
    · rename_i hnone
      rw [apply, detect, hnone]
      -- The one action that settles is the last one, with the verdict.
      rcases List.mem_append.mp hmem with hevent | hlast
      · obtain ⟨e, -, he⟩ := List.mem_map.mp hevent
        cases he
      · rw [Action.settle.inj (List.mem_singleton.mp hlast)]
        rfl
  | advance =>
    rw [apply, advance] at hmem
    split at hmem
    · exact hkeep hmem
    · rename_i hpending
      exact hkeep (hpending ▸ List.mem_cons_of_mem _ hmem)
    · rename_i hpending
      exact hkeep (hpending ▸ List.mem_cons_of_mem _ hmem)
  | change world => exact hkeep hmem
  | pass milliseconds => exact hkeep hmem

/-- A flag that is up behind a move was up before, or a task is about to raise it. -/
theorem Kept.stores_apply (h : s.Kept) (m : Move σ θ)
    (hready : (s.apply k server m).cell.ready = true) :
    ∃ t ∈ s.tasks, ∃ v, t.stored? = some v := by
  by_cases hup : s.cell.ready = true
  · exact h.stores hup
  · have hready : (s.apply k server m).onCell.cell.ready = true := hready
    rw [onCell_apply] at hready
    cases m with
    | step i =>
      rcases hi : s.onCell.tasks[i]? with _ | call
      · rw [cellMoves, System.run_cons, System.apply_step_of_none hi] at hready
        exact absurd hready hup
      · rw [cellMoves, System.run_cons, System.apply_step hi] at hready
        have hphase : call.phase = .announcing := Verdict.Phase.eq_announcing_of_step hup hready
        obtain ⟨first, hkept, -⟩ := h.cell
        have hagrees := hkept.calls i call hi
        rw [hphase] at hagrees
        obtain ⟨⟨v, hcall⟩, -, -⟩ := hagrees
        obtain ⟨⟨job, stage⟩, ht, rfl⟩ : ∃ t ∈ s.tasks, t.onCell = call :=
          List.mem_map.mp (List.mem_of_getElem? hi)
        obtain rfl : job = .settle v := Job.eq_settle_of_onCell hcall
        refine ⟨_, ht, v, ?_⟩
        cases stage with
        | cell phase =>
          obtain rfl : phase = .announcing := hphase
          rfl
        | accepted args => cases hphase
        | built args result => cases hphase
    | call c => exact absurd hready hup
    | detect => exact absurd hready hup
    | advance =>
      rw [cellMoves] at hready
      split at hready <;> exact absurd hready hup
    | change world => exact absurd hready hup
    | pass milliseconds => exact absurd hready hup

theorem Kept.apply (h : s.Kept) (k : Constructor γ τ θ κ δ ε) (server : Server σ)
    (m : Move σ θ) : (s.apply k server m).Kept := by
  refine ⟨?_, fun v => h.pending_apply m, fun t ht v hjob => ?_, fun hready => ?_,
    fun t ht order hjob => ?_⟩
  · obtain ⟨first, hkept, hfirst⟩ := h.cell
    refine ⟨first.or (s.onCell.firstGrant? (s.cellMoves m)), ?_, fun v hv => ?_⟩
    · rw [onCell_apply]
      exact hkept.run _
    · rcases Option.or_eq_some_iff.mp hv with hold | ⟨-, hnew⟩
      · exact verdict?_apply k server (hfirst v hold) m
      · obtain ⟨t, ht, hjob⟩ := settles_of_firstGrant m hnew
        exact verdict?_apply k server (h.settles t ht v hjob) m
  · exact verdict?_apply k server (h.settles_apply m ht hjob) m
  · obtain ⟨t, ht, v, hv⟩ := h.stores_apply m hready
    obtain ⟨j, hj⟩ := List.mem_iff_getElem?.mp ht
    rcases apply_task_cases k server hj m with hstay | ⟨-, t', hsteps, ht'⟩
    · exact ⟨t, List.mem_of_getElem? hstay, v, hv⟩
    · exact ⟨t', List.mem_of_getElem? ht', v, hsteps.stored hv⟩
  · obtain ⟨j, hj⟩ := List.mem_iff_getElem?.mp ht
    rcases apply_origin k server hj with hold | ⟨-, u, hu, hsteps⟩ |
      ⟨-, ⟨c, rfl⟩ | ⟨inside, -, rfl⟩⟩
    · exact h.builds t (List.mem_of_getElem? hold) order hjob
    · have hjob_u := hsteps.job_eq.symm.trans hjob
      exact hsteps.isBuild hjob_u (h.builds u (List.mem_of_getElem? hu) order hjob_u)
    · obtain rfl : c = .build order := Job.call.inj hjob
      exact .inl rfl
    · cases hjob

theorem Kept.run (h : s.Kept) (k : Constructor γ τ θ κ δ ε) (server : Server σ)
    (moves : List (Move σ θ)) : (s.run k server moves).Kept := by
  induction moves generalizing s with
  | nil => exact h
  | cons m moves ih => exact ih (h.apply k server m)

theorem kept_start {p : Plugin γ τ} (hp : p.state.verdict = .pending) (world : σ) (memory : κ) :
    (start p world memory : Runtime σ γ τ θ κ δ ε).Kept where
  cell := by
    have hcell : (start p world memory : Runtime σ γ τ θ κ δ ε).onCell = {} := by
      show System.mk (.ofVerdict p.state.verdict) 0 [] = _
      rw [hp]
      rfl
    exact ⟨none, hcell ▸ System.kept_fresh, by simp⟩
  pending v hv := by cases hv
  settles t ht := by cases ht
  stores hready := by
    have hfresh : (Cell.ofVerdict p.state.verdict).ready = false := by rw [hp]; rfl
    cases hfresh.symm.trans hready
  builds t ht := by cases ht

/-! ## What the cell holds -/

theorem Kept.verdict_of_stored (h : s.Kept) (hv : s.stored? = some v) : s.verdict? = some v := by
  obtain ⟨t, ht, hstored⟩ := List.exists_of_findSome?_eq_some hv
  exact h.settles t ht v (Task.job_of_stored hstored)

theorem Kept.ready_of_stored (h : s.Kept) (hfree : s.cell.writing = false)
    (hj : s.tasks[j]? = some t) (hv : t.stored? = some v) : s.cell.ready = true := by
  obtain ⟨first, hkept, -⟩ := h.cell
  have hcall := onCell_getElem? hj
  have hagrees := hkept.calls j _ hcall
  have hout : t.onCell.phase.isWriting = false := by
    cases hw : t.onCell.phase.isWriting with
    | false => rfl
    | true => cases hfree.symm.trans (hkept.guarded.writing_of_isWriting hcall hw)
  obtain ⟨job, stage⟩ := t
  obtain rfl : job = .settle v := Task.job_of_stored hv
  cases stage with
  | cell phase =>
    cases phase with
    | ended a => exact hagrees
    | announcing => cases hout
    | leavingWrite => cases hout
    | _ => cases hv
  | accepted args => cases hv
  | built args result => cases hv

/-- While nobody writes, the cell holds what the end of the detection has stored, and `false` if
it has not yet. -/
theorem Kept.inside_eq (h : s.Kept) (hfree : s.cell.writing = false) :
    s.cell.inside = s.stored?.getD false := by
  obtain ⟨first, hkept, hfirst⟩ := h.cell
  have hready : s.cell.ready = first.isSome := hkept.cell.free hfree
  rcases hstored : s.stored? with _ | v
  · rcases hf : first with _ | w
    · exact (hkept.cell.fresh hf).2
    · rw [hf] at hready
      obtain ⟨t, ht, v, hv⟩ := h.stores hready
      cases (List.findSome?_eq_none_iff.mp hstored t ht).symm.trans hv
  · obtain ⟨t, ht, hv⟩ := List.exists_of_findSome?_eq_some hstored
    obtain ⟨j, hj⟩ := List.mem_iff_getElem?.mp ht
    have hup : s.cell.ready = true := h.ready_of_stored hfree hj hv
    have hinside : s.verdict? = some s.cell.inside := hfirst _ (hkept.cell.ready hup)
    exact Option.some.inj (hinside.symm.trans (h.verdict_of_stored hstored))

theorem Kept.inside_of_reading (h : s.Kept) (hi : s.tasks[i]? = some t)
    (hphase : t.stage.phase = .reading) : s.cell.inside = s.stored?.getD false := by
  obtain ⟨first, hkept, -⟩ := h.cell
  have hreading : t.onCell.phase.isReading = true := by
    show t.stage.phase.isReading = true
    rw [hphase]
    rfl
  exact h.inside_eq (hkept.guarded.not_writing_of_isReading (onCell_getElem? hi) hreading)

end CloudQueue.Runtime
