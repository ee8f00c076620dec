import CloudQueue.Plugin.Builder

/-!
# The host of a plugin

A plugin is started by a process, its host. The start goes step by step: it wants a configuration
first and a runtime second, then asks the logger, and hands the detection to the runtime last. What
the steps before an error have done to the host stays done.
-/

namespace CloudQueue

open Http (Server Hop)
open Metadata (Client)

/-- A detection that has been handed to a runtime: its client, and the span of its events. -/
structure Handover where
  client : Client
  span : Option Span

/-- A process: whether it is inside a runtime, the server of the metadata service, the loggers that
were asked, each with the name, the detections that the runtime has yet to run, and the events and
the hops so far. -/
structure Host (σ : Type) where
  inRuntime : Bool
  world : σ
  asked : List (Logger × String) := []
  waiting : List Handover := []
  log : List Event := []
  hops : List Hop := []

namespace Host

variable {ε σ : Type}

def ask (logger : Logger) (name : String) : EStateM ε (Host σ) (Option Span) :=
  modifyGet fun host => (logger.span? name, { host with asked := host.asked ++ [(logger, name)] })

def handOver (h : Handover) : EStateM ε (Host σ) Unit :=
  modify fun host => { host with waiting := host.waiting ++ [h] }

/-- The runtime runs the detection that has waited longest. -/
def work (server : Server σ) (host : Host σ) : Host σ :=
  match host.waiting with
  | [] => host
  | h :: rest =>
    let d := Metadata.detect h.client server host.world
    { host with
      world := d.state
      waiting := rest
      log := host.log ++ d.events.map (Event.within h.span)
      hops := host.hops ++ d.hops }

end Host

def Builder.start {γ τ σ : Type} (b : Builder γ τ) : EStateM InitError (Host σ) (Plugin γ τ) := do
  let some config := b.config | throw .missingConfig
  unless (← get).inRuntime do throw .noRuntime
  let detector := b.detector.getD .forDetection
  let span ← Host.ask (b.logger.getD .standard) pluginName
  Host.handOver ⟨detector, span⟩
  return ⟨{ tracer := b.tracer, logger := span, config }, detector⟩

end CloudQueue
