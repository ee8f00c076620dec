import CloudQueue.Plugin.Builder

/-!
# A plugin at work

While a plugin is at work its detection goes on in the background, one action after the other: the
events of the detection, then the verdict. Builds, reads and waits come in between. A build takes
a snapshot, leaves an event in the plugin's span, and calls the constructor once; it changes
nothing else.
-/

namespace CloudQueue

open Metadata (Detection)

inductive Action where
  | emit (e : Event)
  | settle (inside : Bool)
  deriving DecidableEq, Repr

def Action.ofDetection {σ : Type} (span : Option Span) (d : Detection σ) : List Action :=
  d.events.map (fun e => .emit (e.within span)) ++ [.settle d.verdict]

/-- A plugin at work: its state, what its detection has yet to do, and the events so far. -/
structure Session (γ τ : Type) where
  state : PluginState γ τ
  pending : List Action
  log : List Event := []

namespace Session

variable {γ τ θ κ δ ε σ : Type}

/-- A plugin that has started, with the detection that its server answers. -/
def start (p : Plugin γ τ) (d : Detection σ) : Session γ τ :=
  { state := p.state, pending := Action.ofDetection p.state.logger d }

def perform (s : Session γ τ) : Action → Session γ τ
  | .emit e => { s with log := s.log ++ [e] }
  | .settle inside => { s with state := s.state.settle inside }

def advance (s : Session γ τ) : Session γ τ :=
  match s.pending with
  | [] => s
  | a :: rest => { s with pending := rest }.perform a

/-- Take an order: the arguments of its driver are a snapshot, and its event tells what they say of
the environment. -/
def accept (s : Session γ τ) (order : Order θ) : Session γ τ × DriverArgs γ τ θ :=
  let args := s.state.driverArgs order.queue
  let event := (order.event args.inside).within args.logger
  ({ s with log := s.log ++ [event] }, args)

def build (s : Session γ τ) (k : Constructor γ τ θ κ δ ε) (memory : κ) (order : Order θ) :
    Session γ τ × κ × Except ε δ :=
  let (s, args) := s.accept order
  let (memory, result) := k.build memory order.source order.pipeline args
  (s, memory, result)

end Session

end CloudQueue
