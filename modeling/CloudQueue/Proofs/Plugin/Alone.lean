import CloudQueue.Proofs.Plugin.Kept

/-!
# Undisturbed turns

A runtime in which a task takes all its steps in one go does what a session does in one operation:
it starts like a session, and a build or an action of the detection that nobody disturbs leaves the
session behind that it leaves there (`Kept.build_alone`, `advance_alone`).
-/

namespace CloudQueue.Runtime

open Http (Server)
open Verdict (Cell Phase)

variable {σ γ τ θ κ δ ε : Type} {s : Runtime σ γ τ θ κ δ ε} {i : Nat}

/-- The session that a runtime is when all its tasks stand still. -/
def session (s : Runtime σ γ τ θ κ δ ε) : Session γ τ :=
  ⟨{ s.plugin.state with verdict := s.cell.verdict }, s.pending, s.log⟩

/-- The moves of a task that begins with a move and takes its steps in one go. -/
def inOneGo (s : Runtime σ γ τ θ κ δ ε) (m : Move σ θ) : List (Move σ θ) :=
  m :: List.replicate 5 (.step s.tasks.length)

/-- A runtime whose detection is run is a session that has started with it. -/
theorem session_detect (p : Plugin γ τ) (server : Server σ) (world : σ) (memory : κ) :
    ((start p world memory : Runtime σ γ τ θ κ δ ε).detect server).session =
      Session.start p (Metadata.detect p.detector server world) := by
  show Session.mk { p.state with verdict := (Cell.ofVerdict p.state.verdict).verdict } _ _ = _
  rw [Verdict.Cell.verdict_ofVerdict]
  rfl

theorem Kept.inside_verdict (h : s.Kept) (hfree : s.cell.writing = false) :
    s.cell.verdict.inside = s.cell.inside := by
  obtain ⟨first, hkept, -⟩ := h.cell
  unfold Cell.verdict
  by_cases hready : s.cell.ready = true
  · rw [if_pos hready]
    rfl
  · have hnone : first = none := by
      have hfirst := hkept.cell.free hfree
      rcases first with _ | v
      · rfl
      · exact absurd hfirst hready
    rw [if_neg hready]
    exact (hkept.cell.fresh hnone).2.symm

def withTask (s : Runtime σ γ τ θ κ δ ε) (cell : Cell) (t : Task γ τ θ δ ε) :
    Runtime σ γ τ θ κ δ ε :=
  { s with cell, tasks := s.tasks ++ [t] }

variable {cell : Cell} {order : Order θ}

theorem withTask_getElem? (s : Runtime σ γ τ θ κ δ ε) (cell : Cell) (t : Task γ τ θ δ ε) :
    (s.withTask cell t).tasks[s.tasks.length]? = some t := List.getElem?_concat_length

theorem withTask_step_cell (s : Runtime σ γ τ θ κ δ ε) (cell : Cell) (job : Job θ) (phase : Phase)
    (k : Constructor γ τ θ κ δ ε)
    (hcell : ∀ order seen, job = .call (.build order) → phase ≠ .ended (.flag seen)) :
    (s.withTask cell ⟨job, .cell phase⟩).step k s.tasks.length =
      s.withTask (phase.step job.onCell s.clock cell).2
        ⟨job, .cell (phase.step job.onCell s.clock cell).1⟩ := by
  rcases step_cases k (withTask_getElem? s cell ⟨job, .cell phase⟩) with
    ⟨_, _, ⟨⟩, -, hstep⟩ | ⟨order, seen, ⟨⟩, -⟩ | ⟨_, _, ⟨⟩, -⟩ | ⟨hnot, -⟩
  · rw [hstep, stepCell]
    simp [withTask]
  · exact absurd rfl (hcell order seen rfl)
  · exact absurd rfl (hnot job phase)

theorem withTask_snapshot (s : Runtime σ γ τ θ κ δ ε) (order : Order θ)
    (k : Constructor γ τ θ κ δ ε) (hfree : cell.writing = false) :
    (((s.withTask cell ⟨.call (.build order), .cell .enteringRead⟩).step k s.tasks.length).step k
      s.tasks.length).step k s.tasks.length =
        s.withTask cell ⟨.call (.build order), .cell (.ended (.flag cell.inside))⟩ := by
  obtain ⟨inside, ready, readers, writing⟩ := cell
  obtain rfl : writing = false := hfree
  rw [withTask_step_cell s _ _ .enteringRead k fun _ _ _ h => by cases h]
  simp only [Phase.step, Bool.false_eq_true, if_false]
  rw [withTask_step_cell s _ _ .reading k fun _ _ _ h => by cases h]
  simp only [Phase.step]
  rw [withTask_step_cell s _ _ (.leavingRead inside) k fun _ _ _ h => by cases h]
  rfl

theorem withTask_set (s : Runtime σ γ τ θ κ δ ε) (cell : Cell) (t t' : Task γ τ θ δ ε) :
    (s.withTask cell t).tasks.set s.tasks.length t' = s.tasks ++ [t'] := by
  simp [withTask]

/-- **A build that nobody disturbs** leaves the session, the memory of the constructor and the
result behind that it leaves in a session. -/
theorem Kept.build_alone (h : s.Kept) (hfree : s.cell.writing = false)
    (k : Constructor γ τ θ κ δ ε) (server : Server σ) (order : Order θ) :
    let after := s.run k server (s.inOneGo (.call (.build order)))
    let (session, memory, result) := s.session.build k s.memory order
    after.session = session ∧ after.memory = memory ∧ ∃ args,
      after.tasks = s.tasks ++ [⟨.call (.build order), .built args result⟩] := by
  have hargs : (s.snapshot s.cell.inside).driverArgs order.queue =
      s.session.state.driverArgs order.queue := by
    rw [← h.inside_verdict hfree]
    rfl
  have hrun : s.run k server (s.inOneGo (.call (.build order))) =
      ((s.withTask s.cell ⟨.call (.build order), .cell (.ended (.flag s.cell.inside))⟩).step k
        s.tasks.length).step k s.tasks.length := by
    rw [← withTask_snapshot s order k hfree]
    rfl
  rw [step_of_seen (withTask_getElem? s s.cell _) k] at hrun
  -- In front of the constructor, with the arguments that a session hands out.
  have haccept : ((s.withTask s.cell
      ⟨.call (.build order), .cell (.ended (.flag s.cell.inside))⟩).accept s.tasks.length order
        s.cell.inside).tasks = s.tasks ++
          [⟨.call (.build order), .accepted (s.session.state.driverArgs order.queue)⟩] := by
    rw [← hargs]
    exact withTask_set s s.cell _ _
  rw [step_of_accepted (by rw [haccept, List.getElem?_concat_length]) k] at hrun
  intro after
  have hafter : after = _ := hrun
  rw [hafter]
  refine ⟨?_, rfl, s.session.state.driverArgs order.queue, ?_⟩
  · show Session.mk _ _ (_ ++ [(order.event s.cell.inside).within s.plugin.state.logger]) =
      Session.mk _ _ (_ ++ [(order.event s.cell.verdict.inside).within s.plugin.state.logger])
    rw [h.inside_verdict hfree]
    rfl
  · show (_ : List _).set _ _ = _
    rw [haccept]
    simp
    rfl

theorem withTask_settle (s : Runtime σ γ τ θ κ δ ε) (v : Bool) (k : Constructor γ τ θ κ δ ε)
    (server : Server σ) (hfree : cell.writing = false) (hunread : cell.readers = 0) :
    ((s.withTask cell (.start (.settle v))).run k server
      (List.replicate 5 (.step s.tasks.length))).session =
        { s with cell := .ofVerdict (cell.verdict.settle v) }.session := by
  obtain ⟨inside, ready, readers, writing⟩ := cell
  obtain rfl : writing = false := hfree
  obtain rfl : readers = 0 := hunread
  have hstep (cell : Cell) (phase : Phase) := withTask_step_cell s cell (.settle v) phase k
    fun _ _ hjob => by cases hjob
  show (((((s.withTask _ ⟨.settle v, .cell (.enteringWrite v)⟩).step k _).step k _).step k _).step
    k _ |>.step k _).session = _
  simp only [hstep, Phase.step]
  cases ready with
  | false => rfl
  | true => rfl

theorem run_steps_of_none (hnone : s.tasks[i]? = none) (k : Constructor γ τ θ κ δ ε)
    (server : Server σ) (n : Nat) : s.run k server (List.replicate n (.step i)) = s := by
  induction n with
  | zero => rfl
  | succ n ih =>
    rw [List.replicate_succ, run_cons, apply, step_of_none k hnone, ih]

theorem session_advance_nil (h : s.pending = []) : s.session.advance = s.session := by
  have hsession : s.session.pending = [] := h
  unfold Session.advance
  rw [hsession]

theorem session_advance_cons {a : Action} {rest : List Action} (h : s.pending = a :: rest) :
    s.session.advance = { s with pending := rest }.session.perform a := by
  have hsession : s.session.pending = a :: rest := h
  unfold Session.advance
  rw [hsession]
  rfl

/-- **An action of the detection that nobody disturbs** leaves the session behind that it leaves in
a session. -/
theorem advance_alone (hfree : s.cell.writing = false) (hunread : s.cell.readers = 0)
    (k : Constructor γ τ θ κ δ ε) (server : Server σ) :
    (s.run k server (s.inOneGo .advance)).session = s.session.advance := by
  have hstill (s' : Runtime σ γ τ θ κ δ ε) (htasks : s'.tasks = s.tasks) :
      s'.run k server (List.replicate 5 (.step s.tasks.length)) = s' := by
    apply run_steps_of_none
    rw [htasks]
    exact List.getElem?_eq_none (Nat.le_refl _)
  rw [inOneGo, run_cons, apply, advance]
  split
  · rename_i hpending
    rw [hstill s rfl, session_advance_nil hpending]
  · rename_i e rest hpending
    rw [hstill { s with pending := rest, log := s.log ++ [e] } rfl, session_advance_cons hpending]
    rfl
  · rename_i v rest hpending
    have hsettle := withTask_settle { s with pending := rest } v k server hfree hunread
    rw [session_advance_cons hpending]
    refine hsettle.trans ?_
    show Session.mk { s.plugin.state with verdict := (Cell.ofVerdict _).verdict } _ _ = _
    rw [Verdict.Cell.verdict_ofVerdict]
    rfl

end CloudQueue.Runtime
