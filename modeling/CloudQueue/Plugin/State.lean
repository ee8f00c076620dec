import CloudQueue.Plugin.Driver
import CloudQueue.Verdict.Basic

/-!
# The state of a plugin

The state holds the verdict and the collaborators that every driver needs. A snapshot is a copy of
all of it at one moment.
-/

namespace CloudQueue

structure PluginState (γ τ : Type) where
  verdict : Verdict := .pending
  tracer : Option τ
  logger : Option Span
  config : γ

/-- The state at one moment. -/
structure Snapshot (γ τ : Type) where
  inside : Bool
  tracer : Option τ
  logger : Option Span
  config : γ

def Snapshot.driverArgs {γ τ θ : Type} (now : Snapshot γ τ) (queue : θ) : DriverArgs γ τ θ :=
  ⟨now.tracer, now.inside, now.logger, now.config, queue⟩

namespace PluginState

variable {γ τ θ : Type}

def settle (s : PluginState γ τ) (inside : Bool) : PluginState γ τ :=
  { s with verdict := s.verdict.settle inside }

def snapshot (s : PluginState γ τ) : Snapshot γ τ :=
  ⟨s.verdict.inside, s.tracer, s.logger, s.config⟩

def driverArgs (s : PluginState γ τ) (queue : θ) : DriverArgs γ τ θ :=
  s.snapshot.driverArgs queue

end PluginState

end CloudQueue
