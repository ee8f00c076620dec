import CloudQueue.Http.Message

/-!
# Exchanges

An exchange is one request with the redirects that follow from it, under one timeout. It ends in a
status, in a timeout or in a failure, and records every request it sent together with what came
back.
-/

namespace CloudQueue.Http

inductive SendError where
  /-- The text is no URL, or not one that requests can be sent to. -/
  | unusable (url : Option Url)
  | connection (url : Url)
  | tooManyRedirects (url : Url)
  deriving DecidableEq, Repr

def SendError.message : SendError → String
  | .unusable none => "builder error"
  | .unusable (some u) => "builder error for url (" ++ u.toString ++ ")"
  | .connection u => "error sending request for url (" ++ u.toString ++ ")"
  | .tooManyRedirects u => "error following redirect for url (" ++ u.toString ++ ")"

inductive Outcome where
  | status (n : Nat)
  | timeout
  | failed (e : SendError)
  deriving DecidableEq, Repr

structure Hop where
  request : Request
  delivery : Delivery
  deriving DecidableEq, Repr

def Hop.isRead (h : Hop) : Bool := h.delivery.reply ≠ .refused

/-- A finished exchange: how it ended, its hops in order, and the server afterwards. -/
structure Exchange (σ : Type) where
  outcome : Outcome
  hops : List Hop
  state : σ

/-- The characters that a host may have in a URL but not in a request. -/
def refusedInHost : List Char := ['"', '\x60', '\x7b', '\x7d']

def isPlainHost (u : Url) : Bool :=
  match u.host with
  | some host => host.text.all fun c => c ∉ refusedInHost
  | none => false

/-- The longest URL that a request can name, in characters. -/
def urlLimit : Nat := 65534

def isUsable (u : Url) : Bool := u.isWeb && isPlainHost u && u.text.length ≤ urlLimit

def isRedirect (status : Nat) : Bool :=
  status == 301 || status == 302 || status == 303 || status == 307 || status == 308

/-- The request that follows a response, if the response is a redirect to a URL. Only status 303
changes the method. -/
def Request.redirected? (r : Request) (status : Nat) (location : Option String) :
    Option Request :=
  if isRedirect status then
    match location.bind r.url.join? with
    | some url => some { r with method := if status = 303 then .get else r.method, url }
    | none => none
  else none

def redirectLimit : Nat := 10

/-- An exchange that may still follow `redirects` redirects, after `elapsed` milliseconds. -/
def exchangeFrom {σ : Type} (server : Server σ) (timeout : Nat) :
    (redirects elapsed : Nat) → σ → Request → Exchange σ
  | redirects, elapsed, state, request =>
    let (state, delivery) := server.receive state request
    let ends (outcome : Outcome) : Exchange σ := ⟨outcome, [⟨request, delivery⟩], state⟩
    match delivery.reply with
    | .silence => ends .timeout
    | .response status location =>
      if timeout < elapsed + delivery.latency then ends .timeout
      else
        match request.redirected? status location with
        | none => ends (.status status)
        | some next =>
          match redirects with
          -- The response is a redirect with a place to go to, so its status does not count.
          | 0 => ends (.failed (.tooManyRedirects request.url))
          | redirects + 1 =>
            if isUsable next.url then
              let rest := exchangeFrom server timeout redirects (elapsed + delivery.latency) state
                next
              { rest with hops := ⟨request, delivery⟩ :: rest.hops }
            else ends (.failed (.unusable (some next.url)))
    | _ =>
      if timeout < elapsed + delivery.latency then ends .timeout
      else ends (.failed (.connection request.url))

def exchange {σ : Type} (server : Server σ) (timeout : Nat) (state : σ) (request : Request) :
    Exchange σ :=
  exchangeFrom server timeout redirectLimit 0 state request

end CloudQueue.Http
