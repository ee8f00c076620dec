import CloudQueue.Http.Message

/-!
# Scripted servers

A script lists routes. A request goes to the first route that it matches, and successive requests
to a route take successive replies, the last of which repeats. What matches no route is answered
with status 404. A script answers for one host and port; nobody listens elsewhere.
-/

namespace CloudQueue.Http

structure Route where
  method : String
  target : String
  headers : List (String × String) := []
  replies : List Reply
  deriving DecidableEq, Repr

/-- Whether a request goes to a route. It may have more headers than the route wants. -/
def Route.accepts (route : Route) (r : Request) : Bool :=
  route.method == r.method.text && route.target == r.target &&
    route.headers.all fun h => r.headers.contains h

/-- The routes of a server, at its host and port. -/
structure Script where
  host : Option Url.Host
  port : Option Nat
  routes : List Route
  deriving DecidableEq, Repr

def Route.reply (route : Route) (count : Nat) : Reply :=
  (route.replies[count]?.or route.replies.getLast?).getD (.response 404 none)

abbrev Script.Counts := List Nat

def Script.server (script : Script) : Server Script.Counts where
  receive counts r :=
    if r.url.host = script.host ∧ r.url.port = script.port then
      match script.routes.findIdx? fun route => route.accepts r with
      | none => (counts, ⟨.response 404 none, 0⟩)
      | some i =>
        let count := counts.getD i 0
        let reply := match script.routes[i]? with
          | some route => route.reply count
          | none => .response 404 none
        ((counts ++ List.replicate (i + 1 - counts.length) 0).set i (count + 1), ⟨reply, 0⟩)
    else (counts, ⟨.refused, 0⟩)

end CloudQueue.Http
