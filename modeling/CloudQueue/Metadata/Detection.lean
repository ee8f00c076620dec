import CloudQueue.Event
import CloudQueue.Metadata.Probe

/-!
# Detecting the environment

The process runs inside the cloud if either generation of the metadata service answers. The second
generation is probed only if the first probe failed, and nothing is tried twice. Every failed probe
and the verdict leave an event.
-/

namespace CloudQueue.Metadata

open Http (Server Hop)

def Probe.failed (probe : Probe) (e : ProbeError) : Event :=
  { level := .debug
    message := match probe with
      | .identity => "IMDSv1 probe failed"
      | .token => "IMDSv2 probe failed"
    fields := [("error", .text e.message), ("path", .text probe.path)] }

def detected (client : Client) (verdict : Bool) : Event :=
  { level := .info
    message := "environment detected"
    fields := [("inside_aws", .flag verdict), ("base_url", .text client.baseUrl)] }

/-- A finished detection: its verdict, its events and hops in order, and the server afterwards. -/
structure Detection (σ : Type) where
  verdict : Bool
  events : List Event
  hops : List Hop
  state : σ

def detect {σ : Type} (client : Client) (server : Server σ) (state : σ) : Detection σ :=
  let first := Probe.identity.run client server state
  match first.result with
  | .ok () => ⟨true, [detected client true], first.hops, first.state⟩
  | .error e =>
    let second := Probe.token.run client server first.state
    let hops := first.hops ++ second.hops
    match second.result with
    | .ok () => ⟨true, [Probe.identity.failed e, detected client true], hops, second.state⟩
    | .error e' =>
      ⟨false, [Probe.identity.failed e, Probe.token.failed e', detected client false], hops,
        second.state⟩

def detectTimes {σ : Type} (client : Client) (server : Server σ) : Nat → σ → List (Detection σ)
  | 0, _ => []
  | n + 1, state =>
    let d := detect client server state
    d :: detectTimes client server n d.state

structure Detector where
  client : Client
  deriving DecidableEq, Repr

namespace Detector

def withOptions (baseUrl : String) (timeout : Nat) : Detector := ⟨.new timeout baseUrl⟩

def withBaseUrl (baseUrl : String) : Detector := withOptions baseUrl probeTimeout

def new : Detector := withOptions defaultBaseUrl probeTimeout

end Detector

end CloudQueue.Metadata
