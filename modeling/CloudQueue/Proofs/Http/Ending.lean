import CloudQueue.Proofs.Http.Chain

/-!
# How a chain ends

A chain of hops is answered by a response that is not followed, or it is still open when the time is
over, or it breaks off (`Answered`, `Unanswered`, `Broken`). The three exclude each other, and which
one holds decides how the exchange ends (`IsExchange.status_iff` and its companions).
-/

namespace CloudQueue.Http

variable {σ : Type}

/-- The hops end in time, with a response of a status that is not followed. -/
def Answered (time : Nat) (hops : List Hop) (status : Nat) : Prop :=
  ∃ last location, hops.getLast? = some last ∧ latency hops ≤ time ∧
    last.delivery.reply = .response status location ∧ last.next? = none

/-- The last request of the hops is still open when the time is over. -/
def Unanswered (time : Nat) (hops : List Hop) : Prop :=
  ∃ last, hops.getLast? = some last ∧ (last.delivery.reply = .silence ∨ time < latency hops)

/-- The hops end in time, with a connection that is refused, closed or carries no response, or with
a redirect that is one too many or leads to a URL that requests cannot be sent to. -/
def Broken (time : Nat) (hops : List Hop) : Prop :=
  ∃ last, hops.getLast? = some last ∧ latency hops ≤ time ∧
    (last.delivery.reply ∈ [.closed, .garbled, .refused] ∨
      ∃ next, last.next? = some next ∧
        (hops.length = redirectLimit + 1 ∨ isUsable next.url = false))

variable {time status status' : Nat} {hops : List Hop}

theorem Answered.unique (h : Answered time hops status) (h' : Answered time hops status') :
    status = status' := by
  obtain ⟨last, location, hlast, -, hreply, -⟩ := h
  obtain ⟨last', location', hlast', -, hreply', -⟩ := h'
  obtain rfl : last = last' := Option.some.inj (hlast.symm.trans hlast')
  exact (Reply.response.inj (hreply.symm.trans hreply')).1

theorem Answered.not_unanswered (h : Answered time hops status) : ¬Unanswered time hops := by
  obtain ⟨last, location, hlast, htime, hreply, -⟩ := h
  rintro ⟨last', hlast', hsilence | hlong⟩
  · obtain rfl : last = last' := Option.some.inj (hlast.symm.trans hlast')
    cases hreply.symm.trans hsilence
  · omega

theorem Answered.not_broken (h : Answered time hops status) : ¬Broken time hops := by
  obtain ⟨last, location, hlast, -, hreply, hnone⟩ := h
  rintro ⟨last', hlast', -, hbroken | ⟨next, hnext, -⟩⟩ <;>
    obtain rfl : last = last' := Option.some.inj (hlast.symm.trans hlast')
  · simp [hreply] at hbroken
  · cases hnone.symm.trans hnext

theorem Unanswered.not_broken (h : Unanswered time hops) : ¬Broken time hops := by
  obtain ⟨last, hlast, hopen⟩ := h
  rintro ⟨last', hlast', htime, hbroken⟩
  obtain rfl : last = last' := Option.some.inj (hlast.symm.trans hlast')
  rcases hopen with hsilence | hlong
  · rcases hbroken with hbroken | ⟨next, hnext, -⟩
    · simp [hsilence] at hbroken
    · obtain ⟨status, location, hreply, -⟩ := Hop.reply_of_next? hnext
      cases hsilence.symm.trans hreply
  · omega

namespace IsExchange

variable {server : Server σ} {state : σ} {request : Request} {x : Exchange σ}

theorem outcome_cases (hx : IsExchange server time redirectLimit state request x) :
    (∃ n, x.outcome = .status n ∧ Answered time x.hops n) ∨
      (x.outcome = .timeout ∧ Unanswered time x.hops) ∨
      ∃ e, x.outcome = .failed e ∧ Broken time x.hops := by
  obtain ⟨last, hlast, hends⟩ := hx.ends
  generalize x.outcome = outcome at hends
  cases hends with
  | timeout hopen => exact .inr (.inl ⟨rfl, last, hlast, hopen⟩)
  | status htime hreply hnext => exact .inl ⟨_, rfl, last, _, hlast, htime, hreply, hnext⟩
  | connection htime hreply => exact .inr (.inr ⟨_, rfl, last, hlast, htime, .inl hreply⟩)
  | exhausted htime hnext hlength =>
    exact .inr (.inr ⟨_, rfl, last, hlast, htime, .inr ⟨_, hnext, .inl hlength⟩⟩)
  | lost htime hnext _ hunusable =>
    exact .inr (.inr ⟨_, rfl, last, hlast, htime, .inr ⟨_, hnext, .inr hunusable⟩⟩)

theorem status_iff (hx : IsExchange server time redirectLimit state request x) (n : Nat) :
    x.outcome = .status n ↔ Answered time x.hops n := by
  constructor
  · intro houtcome
    rcases hx.outcome_cases with ⟨m, hm, hanswered⟩ | ⟨htimeout, -⟩ | ⟨e, hfailed, -⟩
    · rwa [← Outcome.status.inj (hm.symm.trans houtcome)]
    · cases htimeout.symm.trans houtcome
    · cases hfailed.symm.trans houtcome
  · intro hanswered
    rcases hx.outcome_cases with ⟨m, hm, hanswered'⟩ | ⟨-, hopen⟩ | ⟨e, -, hbroken⟩
    · rw [hm, hanswered.unique hanswered']
    · exact absurd hopen hanswered.not_unanswered
    · exact absurd hbroken hanswered.not_broken

theorem timeout_iff (hx : IsExchange server time redirectLimit state request x) :
    x.outcome = .timeout ↔ Unanswered time x.hops := by
  constructor
  · intro houtcome
    rcases hx.outcome_cases with ⟨m, hm, -⟩ | ⟨-, hopen⟩ | ⟨e, hfailed, -⟩
    · cases hm.symm.trans houtcome
    · exact hopen
    · cases hfailed.symm.trans houtcome
  · intro hopen
    rcases hx.outcome_cases with ⟨m, -, hanswered⟩ | ⟨htimeout, -⟩ | ⟨e, -, hbroken⟩
    · exact absurd hopen hanswered.not_unanswered
    · exact htimeout
    · exact absurd hbroken hopen.not_broken

theorem failed_iff (hx : IsExchange server time redirectLimit state request x) :
    (∃ e, x.outcome = .failed e) ↔ Broken time x.hops := by
  constructor
  · rintro ⟨e, houtcome⟩
    rcases hx.outcome_cases with ⟨m, hm, -⟩ | ⟨htimeout, -⟩ | ⟨e, -, hbroken⟩
    · cases hm.symm.trans houtcome
    · cases htimeout.symm.trans houtcome
    · exact hbroken
  · intro hbroken
    rcases hx.outcome_cases with ⟨m, -, hanswered⟩ | ⟨-, hopen⟩ | ⟨e, hfailed, -⟩
    · exact absurd hbroken hanswered.not_broken
    · exact absurd hbroken hopen.not_broken
    · exact ⟨e, hfailed⟩

end IsExchange

end CloudQueue.Http
