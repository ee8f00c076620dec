import CloudQueue.Metadata.Detection
import CloudQueue.Plugin.State

/-!
# Setting up a plugin

A `Builder` collects the collaborators of a plugin; of two calls for one collaborator the later
counts. Starting the plugin needs a configuration and a runtime, in this order, and only a start
that succeeds asks the logger for a span and begins a detection.
-/

namespace CloudQueue

open Metadata (Client)

def pluginName : String := "sqs"

inductive InitError where
  | missingConfig
  | noRuntime
  deriving DecidableEq, Repr

def InitError.message : InitError → String
  | .missingConfig => "configuration reader is not set"
  | .noRuntime => "no tokio runtime available to spawn environment detection"

structure Builder (γ τ : Type) where
  logger : Option Logger := none
  config : Option γ := none
  tracer : Option τ := none
  detector : Option Client := none

/-- A call that gives one collaborator. A tracing provider may be given as none. -/
inductive Builder.Call (γ τ : Type) where
  | logger (l : Logger)
  | config (c : γ)
  | tracer (t : Option τ)
  | detector (d : Client)

/-- A plugin that has started: its state, and the client of the detection that begins with it. -/
structure Plugin (γ τ : Type) where
  state : PluginState γ τ
  detector : Client

/-- What an attempt to start did: the loggers it asked, each with the name, and its result. -/
structure Launch (γ τ : Type) where
  asked : List (Logger × String)
  result : Except InitError (Plugin γ τ)

namespace Builder

variable {γ τ : Type}

def apply (b : Builder γ τ) : Call γ τ → Builder γ τ
  | .logger l => { b with logger := some l }
  | .config c => { b with config := some c }
  | .tracer t => { b with tracer := t }
  | .detector d => { b with detector := some d }

def ofCalls (calls : List (Call γ τ)) : Builder γ τ := calls.foldl apply {}

def init (b : Builder γ τ) (inRuntime : Bool) : Launch γ τ :=
  match b.config with
  | none => ⟨[], .error .missingConfig⟩
  | some config =>
    if inRuntime then
      let detector := b.detector.getD .forDetection
      let logger := b.logger.getD .standard
      ⟨[(logger, pluginName)],
        .ok ⟨{ tracer := b.tracer, logger := logger.span? pluginName, config }, detector⟩⟩
    else ⟨[], .error .noRuntime⟩

end Builder

end CloudQueue
