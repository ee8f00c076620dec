import CloudQueue.Verdict.Cell

/-!
# Schedules

A schedule is a list of moves: a call begins, a call in progress takes a step, or time passes.
Every interleaving of any number of calls is a schedule.
-/

namespace CloudQueue.Verdict

structure Task where
  call : Call
  phase : Phase
  deriving DecidableEq, Repr

/-- The cell, the time, and the calls in the order in which they began. -/
structure System where
  cell : Cell := {}
  clock : Nat := 0
  tasks : List Task := []
  deriving DecidableEq, Repr

/-- A move of a schedule. Calls are counted from zero. -/
inductive Move where
  | call (c : Call)
  | step (task : Nat)
  | pass (milliseconds : Nat)
  deriving DecidableEq, Repr

namespace System

def apply (s : System) : Move → System
  | .call c => { s with tasks := s.tasks ++ [⟨c, c.start⟩] }
  | .step i =>
    match s.tasks[i]? with
    | none => s
    | some t =>
      let (phase, cell) := t.phase.step t.call s.clock s.cell
      { s with cell, tasks := s.tasks.set i { t with phase } }
  | .pass milliseconds => { s with clock := s.clock + milliseconds }

def run (s : System) (moves : List Move) : System := moves.foldl apply s

@[simp] theorem run_nil (s : System) : s.run [] = s := rfl

@[simp] theorem run_cons (s : System) (m : Move) (moves : List Move) :
    s.run (m :: moves) = (s.apply m).run moves := rfl

theorem run_append (s : System) (first second : List Move) :
    s.run (first ++ second) = (s.run first).run second := List.foldl_append

end System

/-- Several steps of one call. Five are enough for a call that nothing holds back. -/
def steps (task : Nat) : List Move := List.replicate 5 (.step task)

end CloudQueue.Verdict
