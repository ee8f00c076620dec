import CloudQueue.Event
import CloudQueue.Pipeline.Basic

/-!
# Building drivers

A driver is built from a section of the configuration or from a pipeline that embeds its settings.
The constructor gets the arguments that the plugin hands out. Nothing here looks into the
configuration, the tracing provider or the queue, so their types are left open.
-/

namespace CloudQueue

inductive Source where
  | config (key : String)
  | pipeline
  deriving DecidableEq, Repr

/-- What a driver is to be built from, and the queue it is to feed. -/
structure Order (θ : Type) where
  source : Source
  pipeline : Pipeline
  queue : θ

/-- What the plugin hands to a constructor. There is no tracing provider unless one was given. -/
structure DriverArgs (γ τ θ : Type) where
  tracer : Option τ
  inside : Bool
  logger : Option Span
  config : γ
  queue : θ

/-- The display text of arguments with a disabled logger; other loggers have no fixed text. -/
def DriverArgs.display? {γ τ θ : Type} (args : DriverArgs γ τ θ) : Option String :=
  match args.logger with
  | some _ => none
  | none =>
    some ("DriverArgs \x7b tracer: " ++ (if args.tracer.isSome then "true" else "false") ++
      ", inside_aws: " ++ (if args.inside then "true" else "false") ++
      ", logger: Span \x7b none: true \x7d, .. \x7d")

/-- Builds drivers `δ`, or fails with `ε`. A constructor may remember things between builds. -/
structure Constructor (γ τ θ κ δ ε : Type) where
  build : κ → Source → Pipeline → DriverArgs γ τ θ → κ × Except ε δ

def Order.event {θ : Type} (order : Order θ) (inside : Bool) : Event :=
  let common := [("pipeline", FieldValue.text order.pipeline.name), ("inside_aws", .flag inside)]
  match order.source with
  | .config key =>
    { level := .debug
      message := "building driver from config"
      fields := ("config_key", .text key) :: common }
  | .pipeline =>
    { level := .debug, message := "building driver from pipeline", fields := common }

end CloudQueue
