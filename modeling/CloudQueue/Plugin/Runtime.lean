import CloudQueue.Plugin.Session
import CloudQueue.Verdict.Schedule

/-!
# A plugin in its runtime

In a runtime the calls on a plugin and its detection take their steps in any order. Every call goes
through the cell of the verdict first; a build then leaves its event and calls the constructor. The
detection is run once, and behind its events it begins a task of its own that settles the verdict.
What the metadata service would answer may change at any time.
-/

namespace CloudQueue

open Http (Server)
open Metadata (Detection)
open Verdict (Cell Phase)

namespace Runtime

/-- A call on a plugin. A wait lasts a number of milliseconds. -/
inductive Call (θ : Type) where
  | build (order : Order θ)
  | inside
  | isReady
  | wait (timeout : Nat)

inductive Job (θ : Type) where
  | call (c : Call θ)
  | settle (inside : Bool)

/-- What a job asks of the cell of the verdict. A build takes a snapshot. -/
def Job.onCell {θ : Type} : Job θ → Verdict.Call
  | .call (.build _) => .snapshot
  | .call .inside => .inside
  | .call .isReady => .isReady
  | .call (.wait timeout) => .wait timeout
  | .settle inside => .settle inside

/-- Where a task stands. -/
inductive Stage (γ τ θ δ ε : Type) where
  /-- On the cell of the verdict, or with its answer. -/
  | cell (phase : Phase)
  /-- In front of the constructor, with the arguments of the driver. -/
  | accepted (args : DriverArgs γ τ θ)
  /-- At the end of a build. -/
  | built (args : DriverArgs γ τ θ) (result : Except ε δ)

structure Task (γ τ θ δ ε : Type) where
  job : Job θ
  stage : Stage γ τ θ δ ε

def Task.start {γ τ θ δ ε : Type} (job : Job θ) : Task γ τ θ δ ε := ⟨job, .cell job.onCell.start⟩

/-- What a constructor was called with, by which task, and what it remembered then. -/
structure Invocation (γ τ θ κ : Type) where
  task : Nat
  memory : κ
  source : Source
  pipeline : Pipeline
  args : DriverArgs γ τ θ

/-- A move of a runtime. Tasks are counted from zero. -/
inductive Move (σ θ : Type) where
  | call (c : Call θ)
  | step (task : Nat)
  | detect
  | advance
  | change (world : σ)
  | pass (milliseconds : Nat)

end Runtime

/-- A plugin with its tasks in the order in which they began: the server of the metadata service,
what the constructor remembers, the detection and what it has yet to do, the cell of the verdict,
the time, the calls of the constructor and the events so far. -/
structure Runtime (σ γ τ θ κ δ ε : Type) where
  plugin : Plugin γ τ
  world : σ
  memory : κ
  detection? : Option (Detection σ) := none
  pending : List Action := []
  cell : Cell := .ofVerdict plugin.state.verdict
  clock : Nat := 0
  tasks : List (Runtime.Task γ τ θ δ ε) := []
  invocations : List (Runtime.Invocation γ τ θ κ) := []
  log : List Event := []

namespace Runtime

variable {σ γ τ θ κ δ ε : Type}

def start (p : Plugin γ τ) (world : σ) (memory : κ) : Runtime σ γ τ θ κ δ ε :=
  { plugin := p, world, memory }

def snapshot (s : Runtime σ γ τ θ κ δ ε) (seen : Bool) : Snapshot γ τ :=
  { s.plugin.state.snapshot with inside := seen }

def stepCell (s : Runtime σ γ τ θ κ δ ε) (i : Nat) (job : Job θ) (phase : Phase) :
    Runtime σ γ τ θ κ δ ε :=
  let (phase, cell) := phase.step job.onCell s.clock s.cell
  { s with cell, tasks := s.tasks.set i ⟨job, .cell phase⟩ }

/-- A build that saw the verdict leaves its event. -/
def accept (s : Runtime σ γ τ θ κ δ ε) (i : Nat) (order : Order θ) (seen : Bool) :
    Runtime σ γ τ θ κ δ ε :=
  let args := (s.snapshot seen).driverArgs order.queue
  { s with
    tasks := s.tasks.set i ⟨.call (.build order), .accepted args⟩
    log := s.log ++ [(order.event args.inside).within args.logger] }

def invoke (k : Constructor γ τ θ κ δ ε) (s : Runtime σ γ τ θ κ δ ε) (i : Nat) (order : Order θ)
    (args : DriverArgs γ τ θ) : Runtime σ γ τ θ κ δ ε :=
  let (memory, result) := k.build s.memory order.source order.pipeline args
  { s with
    memory
    tasks := s.tasks.set i ⟨.call (.build order), .built args result⟩
    invocations := s.invocations ++ [⟨i, s.memory, order.source, order.pipeline, args⟩] }

def step (k : Constructor γ τ θ κ δ ε) (s : Runtime σ γ τ θ κ δ ε) (i : Nat) :
    Runtime σ γ τ θ κ δ ε :=
  match s.tasks[i]? with
  | some ⟨.call (.build order), .cell (.ended (.flag seen))⟩ => s.accept i order seen
  | some ⟨.call (.build order), .accepted args⟩ => s.invoke k i order args
  | some ⟨job, .cell phase⟩ => s.stepCell i job phase
  | _ => s

/-- The detection is run, unless it has been. -/
def detect (server : Server σ) (s : Runtime σ γ τ θ κ δ ε) : Runtime σ γ τ θ κ δ ε :=
  match s.detection? with
  | some _ => s
  | none =>
    let d := Metadata.detect s.plugin.detector server s.world
    { s with
      world := d.state
      detection? := some d
      pending := Action.ofDetection s.plugin.state.logger d }

/-- The detection performs its next action; the last one begins the task that settles the
verdict. -/
def advance (s : Runtime σ γ τ θ κ δ ε) : Runtime σ γ τ θ κ δ ε :=
  match s.pending with
  | [] => s
  | .emit e :: rest => { s with pending := rest, log := s.log ++ [e] }
  | .settle inside :: rest =>
    { s with pending := rest, tasks := s.tasks ++ [.start (.settle inside)] }

def apply (k : Constructor γ τ θ κ δ ε) (server : Server σ) (s : Runtime σ γ τ θ κ δ ε) :
    Move σ θ → Runtime σ γ τ θ κ δ ε
  | .call c => { s with tasks := s.tasks ++ [.start (.call c)] }
  | .step i => s.step k i
  | .detect => s.detect server
  | .advance => s.advance
  | .change world => { s with world }
  | .pass milliseconds => { s with clock := s.clock + milliseconds }

def run (k : Constructor γ τ θ κ δ ε) (server : Server σ) (s : Runtime σ γ τ θ κ δ ε)
    (moves : List (Move σ θ)) : Runtime σ γ τ θ κ δ ε :=
  moves.foldl (apply k server) s

variable (k : Constructor γ τ θ κ δ ε) (server : Server σ) (s : Runtime σ γ τ θ κ δ ε)

@[simp] theorem run_nil : s.run k server [] = s := rfl

@[simp] theorem run_cons (m : Move σ θ) (moves : List (Move σ θ)) :
    s.run k server (m :: moves) = (s.apply k server m).run k server moves := rfl

theorem run_append (first second : List (Move σ θ)) :
    s.run k server (first ++ second) = (s.run k server first).run k server second :=
  List.foldl_append

end Runtime

end CloudQueue
