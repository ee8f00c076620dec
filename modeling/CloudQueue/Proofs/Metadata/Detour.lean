import CloudQueue.Http.Script
import CloudQueue.Proofs.Metadata.Protocol

/-!
# What makes a verdict positive

A probe succeeds in two ways: the server answers its request itself with status 200
(`Probe.Direct`), or it points the request elsewhere and the chain that follows ends in status 200
(`Probe.Detoured`). A positive verdict therefore needs a direct answer only where no redirect is
given (`positive_verdict`): a portal that points to a page of its own is taken for the metadata
service.
-/

namespace CloudQueue.Metadata

open Http

variable {σ : Type}

namespace Probe

/-- The server answers the request of a probe itself, in time and with a status. -/
def Direct (probe : Probe) (client : Client) (server : Server σ) (state : σ) (status : Nat) :
    Prop :=
  ∃ request location, probe.Begins client request ∧
    (server.receive state request).2.reply = .response status location ∧
    (server.receive state request).2.latency ≤ client.timeout

/-- The server answers the request of a probe by pointing elsewhere. -/
def Redirected (probe : Probe) (client : Client) (server : Server σ) (state : σ) : Prop :=
  ∃ request status location, probe.Begins client request ∧
    (server.receive state request).2.reply = .response status (some location) ∧
    status ∈ [301, 302, 303, 307, 308]

/-- The server points the request of a probe elsewhere, and the requests that follow end in time in
status 200. -/
def Detoured (probe : Probe) (client : Client) (server : Server σ) (state : σ) : Prop :=
  probe.Redirected client server state ∧
    2 ≤ (probe.run client server state).hops.length ∧
    Answered client.timeout (probe.run client server state).hops 200

end Probe

/-! ## One probe -/

theorem redirected?_eq_some_cases {r next : Request} {status : Nat} {location : Option String}
    (h : r.redirected? status location = some next) :
    (∃ place, location = some place) ∧ status ∈ [301, 302, 303, 307, 308] := by
  unfold Request.redirected? at h
  split at h
  · rename_i hredirect
    constructor
    · rcases location with _ | place
      · cases h
      · exact ⟨place, rfl⟩
    · simpa [isRedirect, or_assoc] using hredirect
  · cases h

theorem next?_of_ok {h : Hop} {location : Option String}
    (hreply : h.delivery.reply = .response 200 location) : h.next? = none :=
  Hop.next?_eq_none hreply (.inr (by decide))

variable {probe : Probe} {client : Client} {server : Server σ} {state : σ}

namespace Probe

/-- The chain of a probe with a request: its first hop is the answer to that request, and a hop
behind it is there only if that answer is a redirect. -/
theorem run_hops_of_begins {request : Request} (server : Server σ) (state : σ)
    (hbegins : probe.Begins client request) :
    ∃ rest, (probe.run client server state).hops =
        ⟨request, (server.receive state request).2⟩ :: rest ∧
      (rest ≠ [] → ∃ next, Hop.next? ⟨request, (server.receive state request).2⟩ = some next) := by
  obtain ⟨x, hx, hrun⟩ := run_of_begins server state hbegins
  have hreceive : server.receive state request =
      ((server.receive state request).1, (server.receive state request).2) := rfl
  obtain ⟨rest, hhops⟩ := hx.hops_eq hreceive
  rw [hrun]
  refine ⟨rest, hhops, fun hrest => ?_⟩
  obtain ⟨second, later, rfl⟩ := List.exists_cons_of_ne_nil hrest
  have hlinked := hx.linked
  rw [hhops] at hlinked
  obtain ⟨⟨hnext, -⟩, -⟩ := List.isChain_cons_cons.mp hlinked
  exact ⟨_, hnext⟩

theorem Direct.unique {status status' : Nat} (h : probe.Direct client server state status)
    (h' : probe.Direct client server state status') : status = status' := by
  obtain ⟨request, location, hbegins, hreply, -⟩ := h
  obtain ⟨request', location', hbegins', hreply', -⟩ := h'
  obtain rfl : request = request' := Except.ok.inj
    (((request_eq_ok_iff probe client request).mpr hbegins).symm.trans
      ((request_eq_ok_iff probe client request').mpr hbegins'))
  exact (Reply.response.inj (hreply.symm.trans hreply')).1

theorem Direct.answered (h : probe.Direct client server state 200) :
    Answered client.timeout (probe.run client server state).hops 200 := by
  obtain ⟨request, location, hbegins, hreply, htime⟩ := h
  obtain ⟨rest, hhops, hrest⟩ := run_hops_of_begins server state hbegins
  have hnone : Hop.next? ⟨request, (server.receive state request).2⟩ = none := next?_of_ok hreply
  obtain rfl : rest = [] := by
    by_contra hne
    obtain ⟨next, hnext⟩ := hrest hne
    cases hnone.symm.trans hnext
  rw [hhops]
  exact ⟨_, location, rfl, htime, hreply, hnone⟩

/-- **When a probe succeeds.** -/
theorem result_eq_ok_iff : (probe.run client server state).result = .ok () ↔
    probe.Direct client server state 200 ∨ probe.Detoured client server state := by
  rw [(probe.run_tells client server state).ok_iff]
  constructor
  · intro hanswered
    rcases probe.run_isChain client server state with ⟨request, -, hbegins, -⟩ | ⟨-, hnil, -⟩
    · obtain ⟨rest, hhops, hrest⟩ := run_hops_of_begins server state hbegins
      by_cases hsingle : rest = []
      · subst hsingle
        rw [hhops] at hanswered
        obtain ⟨last, location, hlast, htime, hreply, -⟩ := hanswered
        obtain rfl := Option.some.inj hlast
        exact .inl ⟨request, location, hbegins, hreply, htime⟩
      · obtain ⟨next, hnext⟩ := hrest hsingle
        obtain ⟨status, location, hreply, hsome⟩ := Hop.reply_of_next? hnext
        obtain ⟨⟨place, rfl⟩, hstatus⟩ := redirected?_eq_some_cases hsome
        refine .inr ⟨⟨request, status, place, hbegins, hreply, hstatus⟩, ?_, hanswered⟩
        rw [hhops]
        exact Nat.succ_le_succ (List.length_pos_iff.mpr hsingle)
    · rw [hnil] at hanswered
      exact absurd hanswered (not_answered_nil _ _)
  · rintro (hdirect | ⟨-, -, hanswered⟩)
    · exact hdirect.answered
    · exact hanswered

end Probe

/-! ## The verdict -/

theorem verdict_eq_true_iff : (detect client server state).verdict = true ↔
    (Probe.identity.run client server state).result = .ok () ∨
      (Probe.token.run client server (Probe.identity.run client server state).state).result =
        .ok () := by
  rw [(detect_tells client server state).true_iff]
  rcases hfirst : (Probe.identity.run client server state).result with e | ⟨⟩
  · rw [Block.of_error hfirst]
    simp [Block.last]
  · rw [Block.of_ok hfirst]
    simp [Block.last, hfirst]

/-- **When a verdict is positive.** The request of the identity probe, or that of the token probe
behind it, is answered directly with status 200, or it is redirected and the chain that follows
ends in status 200. So where neither request is redirected, a verdict is positive if and only if one
of them is answered directly with status 200. -/
theorem positive_verdict (timeout : Nat) (base : String) (server : Server σ) (state : σ) :
    let client := Client.new timeout base
    let verdict := (detect client server state).verdict
    let probes := [(Probe.identity, state),
      (Probe.token, (Probe.identity.run client server state).state)]
    (verdict = true ↔ ∃ p ∈ probes,
      p.1.Direct client server p.2 200 ∨ p.1.Detoured client server p.2) ∧
    ((∀ p ∈ probes, ¬p.1.Redirected client server p.2) →
      (verdict = true ↔ ∃ p ∈ probes, p.1.Direct client server p.2 200)) := by
  intro client verdict probes
  have hiff : verdict = true ↔ ∃ p ∈ probes,
      p.1.Direct client server p.2 200 ∨ p.1.Detoured client server p.2 := by
    rw [verdict_eq_true_iff, Probe.result_eq_ok_iff, Probe.result_eq_ok_iff]
    simp [probes]
  refine ⟨hiff, fun hnone => hiff.trans (exists_congr fun p => and_congr_right fun hp => ?_)⟩
  exact or_iff_left fun hdetoured => hnone p hp hdetoured.1

/-- A portal: it points the request of the identity probe to a page of its own, and knows no
tokens. -/
def portal : Script where
  host := some (.name ['a'])
  port := none
  routes := [
    { method := "GET", target := identityPath, replies := [.response 302 (some "/portal")] },
    { method := "PUT", target := tokenPath, replies := [.response 404 none] },
    { method := "GET", target := "/portal", replies := [.response 200 none] }]

/-- At a portal the verdict is positive, though neither request is answered with status 200. -/
theorem positive_verdict_at_portal :
    let client := Client.new 2000 "http://a"
    let after := (Probe.identity.run client portal.server []).state
    (detect client portal.server []).verdict = true ∧
      Probe.identity.Direct client portal.server [] 302 ∧
      ¬Probe.identity.Direct client portal.server [] 200 ∧
      Probe.token.Direct client portal.server after 404 ∧
      ¬Probe.token.Direct client portal.server after 200 := by
  intro client after
  have hget : Probe.identity.request client = .ok
      { method := .get
        url :=
          { scheme := "http".toList, host := some (.name ['a'])
            path := .segments
              ["latest".toList, "dynamic".toList, "instance-identity".toList, []] } } := by
    cbv
  have hput : Probe.token.request client = .ok
      { method := .put
        url :=
          { scheme := "http".toList, host := some (.name ['a'])
            path := .segments ["latest".toList, "api".toList, "token".toList] }
        headers := [(ttlHeader, ttlSeconds)] } := by
    cbv
  have hidentity : Probe.identity.Direct client portal.server [] 302 :=
    ⟨_, some "/portal", (Probe.request_eq_ok_iff _ _ _).mp hget, by decide +kernel,
      by decide +kernel⟩
  have htoken : Probe.token.Direct client portal.server after 404 :=
    ⟨_, none, (Probe.request_eq_ok_iff _ _ _).mp hput, by decide +kernel, by decide +kernel⟩
  refine ⟨by decide +kernel, hidentity, fun h => ?_, htoken, fun h => ?_⟩
  · cases hidentity.unique h
  · cases htoken.unique h

end CloudQueue.Metadata
