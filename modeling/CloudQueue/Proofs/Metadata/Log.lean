import CloudQueue.Proofs.Metadata.Protocol

/-!
# Servers with a log

A server can write down every request that it reads. That changes nothing about what it answers, so
a detection against it is the same detection, and behind it the log holds the requests of the hops
that were read (`detect_logged`).
-/

namespace CloudQueue

namespace Http

variable {σ : Type}

/-- The server, together with a log of the requests that it has read. -/
def Server.logged (server : Server σ) : Server (σ × List Request) where
  receive := fun (state, log) r =>
    let (after, d) := server.receive state r
    ((after, if d.reply = .refused then log else log ++ [r]), d)

/-- The requests of hops that the server has read, in order. -/
def requestsRead (hops : List Hop) : List Request := (hops.filter Hop.isRead).map Hop.request

theorem requestsRead_append (first second : List Hop) :
    requestsRead (first ++ second) = requestsRead first ++ requestsRead second := by
  rw [requestsRead, List.filter_append, List.map_append]
  rfl

theorem requestsRead_cons (h : Hop) (hops : List Hop) : requestsRead (h :: hops) =
    (if h.delivery.reply = .refused then [] else [h.request]) ++ requestsRead hops := by
  by_cases hrefused : h.delivery.reply = .refused <;>
    simp [requestsRead, Hop.isRead, hrefused]

theorem Served.logged {server : Server σ} {state after : σ} {hops : List Hop}
    (h : Served server state hops after) (log : List Request) :
    Served server.logged (state, log) hops (after, log ++ requestsRead hops) := by
  induction hops generalizing state log with
  | nil =>
    obtain rfl : state = after := (Prod.mk.inj h).1
    show Served server.logged (state, log) [] (state, log ++ [])
    rw [List.append_nil]
    exact .nil _ _
  | cons first rest ih =>
    obtain ⟨hdelivery, hrest⟩ := served_cons_iff.mp h
    refine served_cons_iff.mpr ⟨hdelivery, ?_⟩
    have hnext := ih hrest
      (if first.delivery.reply = .refused then log else log ++ [first.request])
    have hlog : (if first.delivery.reply = .refused then log else log ++ [first.request]) ++
        requestsRead rest = log ++ requestsRead (first :: rest) := by
      rw [requestsRead_cons, ← List.append_assoc]
      split
      · rw [List.append_nil]
      · rfl
    rw [hlog, ← hdelivery] at hnext
    exact hnext

theorem exchange_logged (server : Server σ) (timeout : Nat) (state : σ) (log : List Request)
    (request : Request) : exchange server.logged timeout (state, log) request =
      let x := exchange server timeout state request
      ⟨x.outcome, x.hops, (x.state, log ++ requestsRead x.hops)⟩ := by
  have hx := (isExchange_iff server timeout state request _).mpr rfl
  refine ((isExchange_iff server.logged timeout (state, log) request _).mp ?_).symm
  exact ⟨hx.starts, hx.served.logged log, hx.linked, hx.timely, hx.short, hx.ends⟩

end Http

namespace Metadata

open Http

variable {σ : Type}

theorem Probe.run_logged (probe : Probe) (client : Client) (server : Server σ) (state : σ)
    (log : List Request) : probe.run client server.logged (state, log) =
      let run := probe.run client server state
      ⟨run.result, run.hops, (run.state, log ++ requestsRead run.hops)⟩ := by
  unfold run
  rcases probe.request client with e | request
  · show ProbeRun.mk _ _ _ = ProbeRun.mk _ _ (state, log ++ [])
    rw [List.append_nil]
  · simp only [exchange_logged]

/-- **A detection with a log** is the detection. -/
theorem detect_logged (client : Client) (server : Server σ) (state : σ) (log : List Request) :
    detect client server.logged (state, log) =
      let d := detect client server state
      ⟨d.verdict, d.events, d.hops, (d.state, log ++ requestsRead d.hops)⟩ := by
  unfold detect
  simp only [Probe.run_logged]
  rcases hfirst : (Probe.identity.run client server state).result with e | ⟨⟩
  · simp only [List.append_assoc, ← requestsRead_append]
    rcases (Probe.token.run client server
      (Probe.identity.run client server state).state).result with e' | ⟨⟩ <;> rfl
  · rfl

end Metadata

end CloudQueue
