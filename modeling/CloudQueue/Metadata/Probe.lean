import CloudQueue.Http.Exchange
import CloudQueue.Metadata.Client

/-!
# Probes of the metadata service

Both generations of the service are probed for reachability alone: a probe succeeds if its exchange
ends in status 200, whatever the body.
-/

namespace CloudQueue.Metadata

open Http (Server Request SendError Hop)

def identityPath : String := "/latest/dynamic/instance-identity/"

def tokenPath : String := "/latest/api/token"

def ttlHeader : String := "X-aws-ec2-metadata-token-ttl-seconds"

/-- The lifetime that a probe asks for, in seconds. -/
def ttlSeconds : String := "10"

inductive Probe where
  | identity
  | token
  deriving DecidableEq, Repr

def Probe.path : Probe → String
  | .identity => identityPath
  | .token => tokenPath

def Probe.method : Probe → Http.Method
  | .identity => .get
  | .token => .put

/-- The headers of a probe's request. Only a token is asked for with a lifetime. -/
def Probe.headers : Probe → List (String × String)
  | .identity => []
  | .token => [(ttlHeader, ttlSeconds)]

inductive ProbeError where
  | timeout
  | status (n : Nat)
  | request (e : SendError)
  deriving DecidableEq, Repr

def ProbeError.message : ProbeError → String
  | .timeout => "request timeout"
  | .status n => "http " ++ String.ofList (Text.digits n)
  | .request e => "request failed: " ++ e.message

def ProbeError.hasSource : ProbeError → Bool
  | .request _ => true
  | _ => false

/-- The request of a probe, unless its text is no URL that requests can be sent to. Credentials in
the URL are no part of the address. -/
def Probe.request (probe : Probe) (client : Client) : Except SendError Request :=
  match (Url.parse? (client.url probe.path)).map Url.withoutCredentials with
  | none => .error (.unusable none)
  | some url =>
    if Http.isUsable url then .ok { method := probe.method, url, headers := probe.headers }
    else .error (.unusable (some url))

def ProbeError.ofOutcome : Http.Outcome → Except ProbeError Unit
  | .status n => if n = 200 then .ok () else .error (.status n)
  | .timeout => .error .timeout
  | .failed e => .error (.request e)

/-- A finished probe: its result, its hops in order, and the server afterwards. -/
structure ProbeRun (σ : Type) where
  result : Except ProbeError Unit
  hops : List Hop
  state : σ

def Probe.run {σ : Type} (probe : Probe) (client : Client) (server : Server σ) (state : σ) :
    ProbeRun σ :=
  match probe.request client with
  | .error e => ⟨.error (.request e), [], state⟩
  | .ok request =>
    let x := Http.exchange server client.timeout state request
    ⟨ProbeError.ofOutcome x.outcome, x.hops, x.state⟩

end CloudQueue.Metadata
