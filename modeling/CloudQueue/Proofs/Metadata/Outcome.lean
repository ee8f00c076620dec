import CloudQueue.Metadata.Probe
import CloudQueue.Proofs.Http.Ending

/-!
# What a probe comes to

A probe sends one chain of requests, or none if its text is no URL to send requests to
(`Probe.IsChain`). Its result is read off the way the chain ends: success for status 200 alone, the
status for every other response that is not followed, a timeout for a chain that is still open when
the time is over, and a request error for everything else.
-/

namespace CloudQueue.Metadata

open Http

variable {σ : Type}

/-- The request is the one that a probe begins with: to the path behind the base URL, without the
credentials in it, and of the method and with the headers of the probe. -/
def Probe.Begins (probe : Probe) (client : Client) (request : Request) : Prop :=
  ∃ url, Url.parse? (client.baseUrl ++ probe.path) = some url ∧
    request = ⟨probe.method, url.withoutCredentials, probe.headers⟩ ∧ isUsable request.url = true

/-- The hops are what a probe sends, and the server is in `after` behind them: the chain of the
request that the probe begins with, or nothing if there is no such request. -/
def Probe.IsChain (probe : Probe) (client : Client) (server : Server σ) (state : σ)
    (hops : List Hop) (after : σ) : Prop :=
  (∃ request outcome, probe.Begins client request ∧
    IsExchange server client.timeout redirectLimit state request ⟨outcome, hops, after⟩) ∨
  (¬∃ request, probe.Begins client request) ∧ hops = [] ∧ after = state

theorem not_answered_nil (time status : Nat) : ¬Answered time [] status := by
  rintro ⟨last, location, hlast, -⟩
  cases hlast

theorem not_unanswered_nil (time : Nat) : ¬Unanswered time [] := by
  rintro ⟨last, hlast, -⟩
  cases hlast

namespace Probe

variable {probe : Probe} {client : Client} {server : Server σ} {state after : σ}
  {request : Request} {hops : List Hop}

theorem request_eq_ok_iff (probe : Probe) (client : Client) (request : Request) :
    probe.request client = .ok request ↔ probe.Begins client request := by
  unfold Probe.request Begins Client.url
  rcases hurl : Url.parse? (client.baseUrl ++ probe.path) with _ | url
  · simp
  · by_cases husable : isUsable url.withoutCredentials = true
    · simp only [Option.map_some, husable, if_true, Except.ok.injEq]
      constructor
      · rintro rfl
        exact ⟨url, rfl, rfl, husable⟩
      · rintro ⟨url', hsome, rfl, -⟩
        obtain rfl : url = url' := Option.some.inj hsome
        rfl
    · simp only [Option.map_some, husable]
      constructor
      · exact fun h => by cases h
      · rintro ⟨url', hsome, rfl, husable'⟩
        obtain rfl : url = url' := Option.some.inj hsome
        exact absurd husable' husable

theorem run_of_begins (server : Server σ) (state : σ) (h : probe.Begins client request) :
    ∃ x, IsExchange server client.timeout redirectLimit state request x ∧
      probe.run client server state = ⟨ProbeError.ofOutcome x.outcome, x.hops, x.state⟩ := by
  refine ⟨exchange server client.timeout state request, ?_, ?_⟩
  · exact (isExchange_iff server client.timeout state request _).mpr rfl
  · rw [run, (request_eq_ok_iff probe client request).mpr h]

theorem run_of_not_begins (server : Server σ) (state : σ)
    (h : ¬∃ request, probe.Begins client request) :
    ∃ e, probe.run client server state = ⟨.error (.request e), [], state⟩ := by
  rcases hrequest : probe.request client with e | request
  · exact ⟨e, by rw [run, hrequest]⟩
  · exact absurd ⟨request, (request_eq_ok_iff probe client request).mp hrequest⟩ h

theorem run_isChain (probe : Probe) (client : Client) (server : Server σ) (state : σ) :
    probe.IsChain client server state (probe.run client server state).hops
      (probe.run client server state).state := by
  by_cases h : ∃ request, probe.Begins client request
  · obtain ⟨request, hbegins⟩ := h
    obtain ⟨x, hx, hrun⟩ := run_of_begins server state hbegins
    rw [hrun]
    exact .inl ⟨request, x.outcome, hbegins, hx⟩
  · obtain ⟨e, hrun⟩ := run_of_not_begins server state h
    rw [hrun]
    exact .inr ⟨h, rfl, rfl⟩

/-- The number of requests is one more than the number of redirects that are followed. -/
theorem IsChain.length_le (h : probe.IsChain client server state hops after) :
    hops.length ≤ redirectLimit + 1 := by
  rcases h with ⟨request, outcome, -, hx⟩ | ⟨-, rfl, -⟩
  · exact hx.short
  · exact Nat.zero_le _

theorem IsChain.served (h : probe.IsChain client server state hops after) :
    Served server state hops after := by
  rcases h with ⟨request, outcome, -, hx⟩ | ⟨-, rfl, rfl⟩
  · exact hx.served
  · exact .nil server after

/-- The first request of a chain goes to the path behind the base URL. -/
theorem IsChain.head?_request {h : Hop} (hchain : probe.IsChain client server state hops after)
    (hfirst : hops.head? = some h) :
    ∃ url, Url.parse? (client.baseUrl ++ probe.path) = some url ∧
      h.request = ⟨probe.method, url.withoutCredentials, probe.headers⟩ := by
  rcases hchain with ⟨request, outcome, hbegins, hx⟩ | ⟨-, rfl, -⟩
  · obtain ⟨url, hurl, rfl, -⟩ := hbegins
    have hstarts := hx.starts
    rw [hfirst] at hstarts
    exact ⟨url, hurl, Option.some.inj hstarts⟩
  · cases hfirst

/-- Every request of a chain has the headers of its probe, and the probe's method as long as no
response of status 303 came before it. -/
theorem IsChain.request_eq {earlier later : List Hop} {h : Hop}
    (hchain : probe.IsChain client server state (earlier ++ h :: later) after) :
    h.request.headers = probe.headers ∧
      h.request.method = if ∃ g ∈ earlier, g.status? = some 303 then .get else probe.method := by
  rcases hchain with ⟨request, outcome, hbegins, hx⟩ | ⟨-, hnil, -⟩
  · obtain ⟨url, -, rfl, -⟩ := hbegins
    exact request_of_linked hx.linked hx.starts rfl
  · exact absurd hnil (by simp)

end Probe

/-! ## Results -/

/-- How a result goes with the hops that were sent for it, in a time. -/
structure ProbeRun.Tells (time : Nat) (run : ProbeRun σ) : Prop where
  ok_iff : run.result = .ok () ↔ Answered time run.hops 200
  status_iff : ∀ n, run.result = .error (.status n) ↔ Answered time run.hops n ∧ n ≠ 200
  timeout_iff : run.result = .error .timeout ↔ Unanswered time run.hops
  request_iff : (∃ e, run.result = .error (.request e)) ↔ run.hops = [] ∨ Broken time run.hops

namespace ProbeError

variable {outcome : Outcome} {status : Nat} {e : SendError}

theorem ofOutcome_eq_ok_iff : ofOutcome outcome = .ok () ↔ outcome = .status 200 := by
  cases outcome with
  | status n => by_cases hn : n = 200 <;> simp [ofOutcome, hn]
  | timeout => simp [ofOutcome]
  | failed e => simp [ofOutcome]

theorem ofOutcome_eq_status_iff :
    ofOutcome outcome = .error (.status status) ↔ outcome = .status status ∧ status ≠ 200 := by
  cases outcome with
  | status n =>
    by_cases hn : n = 200
    · subst hn
      simp [ofOutcome, eq_comm]
    · simp only [ofOutcome, hn, if_false, Except.error.injEq, ProbeError.status.injEq,
        Outcome.status.injEq]
      constructor
      · rintro rfl
        exact ⟨rfl, hn⟩
      · exact fun h => h.1
  | timeout => simp [ofOutcome]
  | failed e => simp [ofOutcome]

theorem ofOutcome_eq_timeout_iff : ofOutcome outcome = .error .timeout ↔ outcome = .timeout := by
  cases outcome with
  | status n => by_cases hn : n = 200 <;> simp [ofOutcome, hn]
  | timeout => simp [ofOutcome]
  | failed e => simp [ofOutcome]

theorem ofOutcome_eq_request_iff :
    ofOutcome outcome = .error (.request e) ↔ outcome = .failed e := by
  cases outcome with
  | status n => by_cases hn : n = 200 <;> simp [ofOutcome, hn]
  | timeout => simp [ofOutcome]
  | failed e => simp [ofOutcome]

theorem hasSource_iff (e : ProbeError) : e.hasSource = true ↔ ∃ cause, e = .request cause := by
  cases e <;> simp [hasSource]

end ProbeError

/-- A result that is made of the outcome of an exchange goes with the hops of the exchange. -/
theorem tells_of_isExchange {server : Server σ} {time : Nat} {state : σ} {request : Request}
    {x : Exchange σ} (hx : IsExchange server time redirectLimit state request x) :
    ProbeRun.Tells time ⟨ProbeError.ofOutcome x.outcome, x.hops, x.state⟩ := by
  have hhops : x.hops ≠ [] := by
    intro hnil
    have hstarts := hx.starts
    rw [hnil] at hstarts
    cases hstarts
  refine ⟨?_, fun n => ?_, ?_, ?_⟩
  · exact ProbeError.ofOutcome_eq_ok_iff.trans (hx.status_iff 200)
  · exact ProbeError.ofOutcome_eq_status_iff.trans (and_congr_left' (hx.status_iff n))
  · exact ProbeError.ofOutcome_eq_timeout_iff.trans hx.timeout_iff
  · show (∃ e, ProbeError.ofOutcome x.outcome = .error (.request e)) ↔ x.hops = [] ∨ _
    rw [or_iff_right hhops, ← hx.failed_iff]
    exact exists_congr fun e => ProbeError.ofOutcome_eq_request_iff

theorem Probe.run_tells (probe : Probe) (client : Client) (server : Server σ) (state : σ) :
    (probe.run client server state).Tells client.timeout := by
  by_cases h : ∃ request, probe.Begins client request
  · obtain ⟨request, hbegins⟩ := h
    obtain ⟨x, hx, hrun⟩ := Probe.run_of_begins server state hbegins
    rw [hrun]
    exact tells_of_isExchange hx
  · obtain ⟨e, hrun⟩ := Probe.run_of_not_begins server state h
    rw [hrun]
    refine ⟨?_, fun n => ?_, ?_, ?_⟩
    · simp [not_answered_nil]
    · simp [not_answered_nil]
    · simp [not_unanswered_nil]
    · simp

namespace ProbeRun.Tells

variable {time : Nat} {run : ProbeRun σ}

theorem result_of_answered {status : Nat} (h : run.Tells time)
    (hanswered : Answered time run.hops status) :
    run.result = if status = 200 then .ok () else .error (.status status) := by
  by_cases hstatus : status = 200
  · subst hstatus
    rw [if_pos rfl]
    exact h.ok_iff.mpr hanswered
  · rw [if_neg hstatus]
    exact (h.status_iff status).mpr ⟨hanswered, hstatus⟩

/-- A request error is what is left if the chain neither ends in a response that is not followed
nor is open when the time is over. -/
theorem request_iff_else (h : run.Tells time) :
    (∃ e, run.result = .error (.request e)) ↔
      (∀ n, ¬Answered time run.hops n) ∧ ¬Unanswered time run.hops := by
  constructor
  · rintro ⟨e, hresult⟩
    constructor
    · intro n hanswered
      have hstatus := h.result_of_answered hanswered
      rw [hresult] at hstatus
      split at hstatus
      · cases hstatus
      · cases Except.error.inj hstatus
    · intro hopen
      have htimeout := h.timeout_iff.mpr hopen
      cases Except.error.inj (hresult.symm.trans htimeout)
  · rintro ⟨hanswered, hopen⟩
    rcases hresult : run.result with (_ | n | e) | ⟨⟩
    · exact absurd (h.timeout_iff.mp hresult) hopen
    · exact absurd ((h.status_iff n).mp hresult).1 (hanswered n)
    · exact ⟨e, rfl⟩
    · exact absurd (h.ok_iff.mp hresult) (hanswered 200)

end ProbeRun.Tells

/-- **What one probe comes to.** It sends the chain of the request that it begins with, of at most
eleven requests, or nothing. It succeeds if and only if the chain ends in a response of status 200;
it fails with the status of every other response that is not followed, such as a redirect status
without a place to go to; with a timeout if the chain is still open when the time is over; and with
a request error, the only one that has a cause of its own, in every other case. Requests of the
identity probe are GET requests without headers; those of the token probe have the lifetime of a
token in a header and are PUT requests up to the first response of status 303, and GET requests
behind it. -/
theorem probe_outcome (probe : Probe) (client : Client) (server : Server σ) (state : σ) :
    let run := probe.run client server state
    probe.IsChain client server state run.hops run.state ∧ run.hops.length ≤ 11 ∧
      run.Tells client.timeout ∧
      ((∃ e, run.result = .error (.request e)) ↔
        (∀ n, ¬Answered client.timeout run.hops n) ∧ ¬Unanswered client.timeout run.hops) ∧
      (∀ last n location, run.hops.getLast? = some last → latency run.hops ≤ client.timeout →
        last.delivery.reply = .response n location →
        (location = none ∨ n ∉ [301, 302, 303, 307, 308]) →
          run.result = if n = 200 then .ok () else .error (.status n)) ∧
      (∀ e, run.result = .error e → (e.hasSource = true ↔ ∃ cause, e = .request cause)) ∧
      ∀ earlier h later, run.hops = earlier ++ h :: later →
        (probe = .identity → h.request.method = .get ∧ h.request.headers = []) ∧
          (probe = .token →
            h.request.headers = [("X-aws-ec2-metadata-token-ttl-seconds", "10")] ∧
            h.request.method = if ∃ g ∈ earlier, g.status? = some 303 then .get else .put) := by
  intro run
  have hchain : probe.IsChain client server state run.hops run.state :=
    probe.run_isChain client server state
  have htells : run.Tells client.timeout := probe.run_tells client server state
  refine ⟨hchain, hchain.length_le, htells, htells.request_iff_else, ?_, ?_, ?_⟩
  · intro last n location hlast htime hreply hlone
    exact htells.result_of_answered
      ⟨last, location, hlast, htime, hreply, Hop.next?_eq_none hreply hlone⟩
  · exact fun e _ => e.hasSource_iff
  · intro earlier h later hsplit
    rw [hsplit] at hchain
    obtain ⟨hheaders, hmethod⟩ := hchain.request_eq
    constructor
    · rintro rfl
      refine ⟨?_, hheaders⟩
      rw [hmethod]
      exact ite_self _
    · rintro rfl
      exact ⟨hheaders, hmethod⟩

/-- A server that points everybody back to its root. -/
def circle : Server Unit := ⟨fun state _ => (state, ⟨.response 302 (some "/"), 1⟩)⟩

/-- In a circle of redirects a probe breaks off at the eleventh response. -/
theorem probe_outcome_in_circle :
    let run := Probe.token.run ⟨"http://a", 2000⟩ circle ()
    run.hops.length = 11 ∧ Broken 2000 run.hops := by
  have hlength : (Probe.token.run ⟨"http://a", 2000⟩ circle ()).hops.length = 11 := by
    decide +kernel
  have hresult : (Probe.token.run ⟨"http://a", 2000⟩ circle ()).result =
      .error (.request (.tooManyRedirects
        { scheme := "http".toList, host := some (.name ['a']), path := .segments [[]] })) := by
    cbv
  obtain ⟨-, -, htells, -⟩ := probe_outcome .token ⟨"http://a", 2000⟩ circle ()
  generalize Probe.token.run ⟨"http://a", 2000⟩ circle () = run at hlength hresult htells
  refine ⟨hlength, (htells.request_iff.mp ⟨_, hresult⟩).resolve_left ?_⟩
  intro hempty
  rw [hempty] at hlength
  cases hlength

end CloudQueue.Metadata
