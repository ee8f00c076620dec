import CloudQueue.Url.Parser

/-!
# Requests, replies and servers

A `Server` is any state machine that takes requests and answers each with a reply after a latency.
It may answer with a status, keep silent, close the connection, answer something that is not HTTP,
or refuse the connection, and its later replies may depend on all requests before.
-/

namespace CloudQueue.Http

inductive Method where
  | get
  | put
  deriving DecidableEq, Repr

def Method.text : Method → String
  | .get => "GET"
  | .put => "PUT"

/-- A request without a body. Its headers have a name and a value each. -/
structure Request where
  method : Method
  url : Url
  headers : List (String × String) := []
  deriving DecidableEq, Repr

def Request.target (r : Request) : String := String.ofList r.url.target

inductive Reply where
  | response (status : Nat) (location : Option String)
  /-- Nothing, ever. -/
  | silence
  /-- The end of the connection, after the request is read. -/
  | closed
  /-- Something that is no response. -/
  | garbled
  /-- No connection at all; the request is never read. -/
  | refused
  deriving DecidableEq, Repr

/-- A reply and the milliseconds it takes. -/
structure Delivery where
  reply : Reply
  latency : Nat := 0
  deriving DecidableEq, Repr

/-- A state machine that answers requests. -/
structure Server (σ : Type) where
  receive : σ → Request → σ × Delivery

def Server.unreachable {σ : Type} : Server σ := ⟨fun state _ => (state, ⟨.refused, 0⟩)⟩

end CloudQueue.Http
