import CloudQueue.Http.Exchange
import Mathlib

/-!
# Chains of requests

The hops of an exchange, described as a whole: they start with the request, every hop is answered
by the server in the state that the hops before left behind, every hop but the last is a redirect
to the next, and the last one ends the exchange (`IsExchange`). An exchange is the only one that
fits this description of its server and its request (`isExchange_iff`).
-/

namespace CloudQueue.Http

variable {σ : Type}

def Hop.status? (h : Hop) : Option Nat :=
  match h.delivery.reply with
  | .response status _ => some status
  | _ => none

/-- The request that a hop's response leads to, if the response is a redirect to a URL. -/
def Hop.next? (h : Hop) : Option Request :=
  match h.delivery.reply with
  | .response status location => h.request.redirected? status location
  | _ => none

def latency (hops : List Hop) : Nat := (hops.map (·.delivery.latency)).sum

/-- The server after requests, and what it delivers for each. -/
def Server.serve (server : Server σ) (state : σ) : List Request → σ × List Delivery
  | [] => (state, [])
  | r :: rs =>
    let (state, d) := server.receive state r
    let (state, ds) := server.serve state rs
    (state, d :: ds)

/-- The server takes the requests of hops in order, answers with what they hold, and is in `after`
behind them. -/
def Served (server : Server σ) (state : σ) (hops : List Hop) (after : σ) : Prop :=
  server.serve state (hops.map Hop.request) = (after, hops.map Hop.delivery)

def Exchange.cons (h : Hop) (x : Exchange σ) : Exchange σ := { x with hops := h :: x.hops }

/-- How hops end with their last one, within a time and a number of redirects. -/
inductive Ends (time redirects : Nat) (hops : List Hop) (last : Hop) : Outcome → Prop
  /-- The last request is still open when the time is over. -/
  | timeout (h : last.delivery.reply = .silence ∨ time < latency hops) :
    Ends time redirects hops last .timeout
  /-- The last response is none to be followed. -/
  | status {status : Nat} {location : Option String} (htime : latency hops ≤ time)
    (hreply : last.delivery.reply = .response status location) (hnext : last.next? = none) :
    Ends time redirects hops last (.status status)
  /-- Nothing that is a response comes over the connection. -/
  | connection (htime : latency hops ≤ time)
    (hreply : last.delivery.reply ∈ [.closed, .garbled, .refused]) :
    Ends time redirects hops last (.failed (.connection last.request.url))
  /-- The last response is a redirect, and all redirects are used up. -/
  | exhausted {next : Request} (htime : latency hops ≤ time) (hnext : last.next? = some next)
    (hlength : hops.length = redirects + 1) :
    Ends time redirects hops last (.failed (.tooManyRedirects last.request.url))
  /-- The last response is a redirect to a URL that requests cannot be sent to. -/
  | lost {next : Request} (htime : latency hops ≤ time) (hnext : last.next? = some next)
    (hlength : hops.length ≤ redirects) (husable : isUsable next.url = false) :
    Ends time redirects hops last (.failed (.unusable (some next.url)))

/-- What an exchange is that a request starts, within a time and a number of redirects. -/
structure IsExchange (server : Server σ) (time redirects : Nat) (state : σ) (request : Request)
    (x : Exchange σ) : Prop where
  starts : x.hops.head?.map Hop.request = some request
  served : Served server state x.hops x.state
  linked : x.hops.IsChain fun h next => h.next? = some next.request ∧ isUsable next.request.url
  timely : latency x.hops.dropLast ≤ time
  short : x.hops.length ≤ redirects + 1
  ends : ∃ last, x.hops.getLast? = some last ∧ Ends time redirects x.hops last x.outcome

/-! ## Small facts -/

@[simp] theorem latency_nil : latency [] = 0 := rfl

@[simp] theorem latency_cons (h : Hop) (hops : List Hop) :
    latency (h :: hops) = h.delivery.latency + latency hops := rfl

theorem Served.nil (server : Server σ) (state : σ) : Served server state [] state := rfl

theorem served_cons_iff {server : Server σ} {state final : σ} {h : Hop} {hops : List Hop} :
    Served server state (h :: hops) final ↔
      (server.receive state h.request).2 = h.delivery ∧
        Served server (server.receive state h.request).1 hops final := by
  unfold Served
  show ((server.serve _ _).1, _ :: (server.serve _ _).2) = (final, _ :: _) ↔ _
  simp only [Prod.ext_iff, List.cons.injEq]
  tauto

theorem Served.append {server : Server σ} {state middle after : σ} {hops hops' : List Hop}
    (h : Served server state hops middle) (h' : Served server middle hops' after) :
    Served server state (hops ++ hops') after := by
  induction hops generalizing state with
  | nil =>
    obtain rfl : state = middle := (Prod.mk.inj h).1
    exact h'
  | cons first rest ih =>
    obtain ⟨hfirst, hrest⟩ := served_cons_iff.mp h
    exact served_cons_iff.mpr ⟨hfirst, ih hrest⟩

theorem Hop.next?_of_response {h : Hop} {status : Nat} {location : Option String}
    (hreply : h.delivery.reply = .response status location) :
    h.next? = h.request.redirected? status location := by
  simp only [next?, hreply]

theorem Hop.reply_of_next? {h : Hop} {r : Request} (hnext : h.next? = some r) :
    ∃ status location, h.delivery.reply = .response status location ∧
      h.request.redirected? status location = some r := by
  unfold next? at hnext
  split at hnext
  · exact ⟨_, _, ‹_›, hnext⟩
  · cases hnext

theorem Request.redirected?_eq_some {r next : Request} {status : Nat} {location : Option String}
    (h : r.redirected? status location = some next) :
    next.headers = r.headers ∧ next.method = if status = 303 then .get else r.method := by
  unfold redirected? at h
  split at h
  · split at h
    · obtain rfl := Option.some.inj h
      exact ⟨rfl, rfl⟩
    · cases h
  · cases h

/-- A hop that leads on keeps the headers, and the method unless its status is 303. -/
theorem Hop.of_next? {h : Hop} {next : Request} (hnext : h.next? = some next) :
    next.headers = h.request.headers ∧
      next.method = if h.status? = some 303 then .get else h.request.method := by
  obtain ⟨status, location, hreply, hsome⟩ := h.reply_of_next? hnext
  obtain ⟨hheaders, hmethod⟩ := Request.redirected?_eq_some hsome
  have hstatus : h.status? = some status := by simp only [status?, hreply]
  refine ⟨hheaders, ?_⟩
  rw [hstatus, hmethod]
  simp only [Option.some.injEq]

/-- A response without a place to go to, or of another status than a redirect, ends the chain. -/
theorem Hop.next?_eq_none {h : Hop} {status : Nat} {location : Option String}
    (hreply : h.delivery.reply = .response status location)
    (hlone : location = none ∨ status ∉ [301, 302, 303, 307, 308]) : h.next? = none := by
  rw [next?_of_response hreply]
  rcases hlone with rfl | hother
  · by_cases hr : isRedirect status = true <;> simp [Request.redirected?, hr]
  · have hr : isRedirect status = false := by simpa [isRedirect, and_assoc] using hother
    simp [Request.redirected?, hr]

/-! ## One hop -/

variable {server : Server σ} {time timeout redirects elapsed : Nat} {state after : σ}
  {request next : Request} {d : Delivery} {outcome : Outcome}

theorem ends_or_leads_on (h : Hop) (time redirects : Nat) :
    (∃ outcome, Ends time redirects [h] h outcome) ∨
      ∃ left next, redirects = left + 1 ∧ h.next? = some next ∧ isUsable next.url = true ∧
        h.delivery.latency ≤ time := by
  by_cases hopen : h.delivery.reply = .silence ∨ time < latency [h]
  · exact .inl ⟨_, .timeout hopen⟩
  obtain ⟨hsilence, hlong⟩ := not_or.mp hopen
  have htime : latency [h] ≤ time := Nat.not_lt.mp hlong
  rcases hnext : h.next? with _ | next
  · left
    rcases hreply : h.delivery.reply with ⟨status, location⟩ | _ | _ | _ | _
    · exact ⟨_, .status htime hreply hnext⟩
    · exact absurd hreply hsilence
    all_goals exact ⟨_, .connection htime (by simp [hreply])⟩
  · cases redirects with
    | zero => exact .inl ⟨_, .exhausted htime hnext rfl⟩
    | succ left =>
      by_cases husable : isUsable next.url = true
      · exact .inr ⟨left, next, rfl, rfl, husable, by simpa using htime⟩
      · exact .inl ⟨_, .lost htime hnext (by simp) (by simpa using husable)⟩

theorem exchangeFrom_of_ends (hreceive : server.receive state request = (after, d))
    (helapsed : elapsed ≤ timeout)
    (hends : Ends (timeout - elapsed) redirects [⟨request, d⟩] ⟨request, d⟩ outcome) :
    exchangeFrom server timeout redirects elapsed state request =
      ⟨outcome, [⟨request, d⟩], after⟩ := by
  have hlatency : latency [⟨request, d⟩] = d.latency := by simp
  rw [exchangeFrom, hreceive]
  cases hends with
  | timeout hopen =>
    rcases hopen with hsilence | hlong
    · have hsilence : d.reply = .silence := hsilence
      simp only [hsilence]
    · have hlate : timeout < elapsed + d.latency := by omega
      simp only [hlate, if_true]
      split <;> rfl
  | status htime hreply hnext =>
    have hnot : ¬timeout < elapsed + d.latency := by omega
    have hnone := (Hop.next?_of_response hreply).symm.trans hnext
    have hreply : d.reply = _ := hreply
    have hnone : request.redirected? _ _ = none := hnone
    simp only [hreply, hnot, hnone, if_false]
  | connection htime hreply =>
    have hnot : ¬timeout < elapsed + d.latency := by omega
    simp only [List.mem_cons, List.not_mem_nil, or_false] at hreply
    rcases hreply with hreply | hreply | hreply <;> simp only [hreply, hnot, if_false]
  | exhausted htime hnext hlength =>
    have hnot : ¬timeout < elapsed + d.latency := by omega
    obtain ⟨status, location, hreply, hsome⟩ := Hop.reply_of_next? hnext
    have hreply : d.reply = _ := hreply
    have hsome : request.redirected? _ _ = some _ := hsome
    obtain rfl : redirects = 0 := (Nat.succ.inj hlength).symm
    simp only [hreply, hnot, hsome, if_false]
  | lost htime hnext hlength hunusable =>
    have hnot : ¬timeout < elapsed + d.latency := by omega
    obtain ⟨status, location, hreply, hsome⟩ := Hop.reply_of_next? hnext
    have hreply : d.reply = _ := hreply
    have hsome : request.redirected? _ _ = some _ := hsome
    obtain ⟨left, rfl⟩ := Nat.exists_eq_succ_of_ne_zero (Nat.pos_iff_ne_zero.mp hlength)
    simp only [hreply, hnot, hsome, hunusable, if_false, Bool.false_eq_true]

theorem exchangeFrom_of_leads_on {left : Nat} (hreceive : server.receive state request = (after, d))
    (hnext : Hop.next? ⟨request, d⟩ = some next) (husable : isUsable next.url = true)
    (htime : elapsed + d.latency ≤ timeout) :
    exchangeFrom server timeout (left + 1) elapsed state request =
      (exchangeFrom server timeout left (elapsed + d.latency) after next).cons ⟨request, d⟩ := by
  obtain ⟨status, location, hreply, hsome⟩ := Hop.reply_of_next? hnext
  have hreply : d.reply = _ := hreply
  have hsome : request.redirected? _ _ = some _ := hsome
  have hnot : ¬timeout < elapsed + d.latency := Nat.not_lt.mpr htime
  rw [exchangeFrom, hreceive]
  simp only [hreply, hnot, hsome, husable, if_false, if_true]
  rfl

/-! ## Whole chains -/

/-- Hops end the same way with one more hop in front, which takes its part of the time and one
redirect. -/
theorem ends_cons_iff {time left : Nat} {h last : Hop} {hops : List Hop} {outcome : Outcome}
    (htime : h.delivery.latency ≤ time) :
    Ends time (left + 1) (h :: hops) last outcome ↔
      Ends (time - h.delivery.latency) left hops last outcome := by
  have hle : latency (h :: hops) ≤ time ↔ latency hops ≤ time - h.delivery.latency := by
    rw [latency_cons]
    omega
  constructor
  · intro hends
    cases hends with
    | timeout hopen =>
      refine .timeout (hopen.imp_right fun hlong => ?_)
      rw [latency_cons] at hlong
      omega
    | status hlatency hreply hnext => exact .status (hle.mp hlatency) hreply hnext
    | connection hlatency hreply => exact .connection (hle.mp hlatency) hreply
    | exhausted hlatency hnext hlength =>
      exact .exhausted (hle.mp hlatency) hnext (by simpa using hlength)
    | lost hlatency hnext hlength husable =>
      exact .lost (hle.mp hlatency) hnext (by simpa using hlength) husable
  · intro hends
    cases hends with
    | timeout hopen =>
      refine .timeout (hopen.imp_right fun hlong => ?_)
      rw [latency_cons]
      omega
    | status hlatency hreply hnext => exact .status (hle.mpr hlatency) hreply hnext
    | connection hlatency hreply => exact .connection (hle.mpr hlatency) hreply
    | exhausted hlatency hnext hlength =>
      exact .exhausted (hle.mpr hlatency) hnext (by simpa using hlength)
    | lost hlatency hnext hlength husable =>
      exact .lost (hle.mpr hlatency) hnext (by simpa using hlength) husable

/-- Hops of which the first is no redirect that is followed are an exchange if they end with it. -/
theorem IsExchange.single {time : Nat} {outcome : Outcome}
    (hreceive : server.receive state request = (after, d))
    (hends : Ends time redirects [⟨request, d⟩] ⟨request, d⟩ outcome) :
    IsExchange server time redirects state request ⟨outcome, [⟨request, d⟩], after⟩ where
  starts := rfl
  served := by
    rw [served_cons_iff, hreceive]
    exact ⟨rfl, .nil server after⟩
  linked := List.isChain_singleton _
  timely := Nat.zero_le _
  short := by simp
  ends := ⟨_, rfl, hends⟩

/-- A hop in front of other hops makes an exchange with them if and only if it leads on to the
first of them and they are an exchange for the rest of the time, with one redirect less. -/
theorem isExchange_cons_iff {time left : Nat} {first : Hop} {rest : List Hop} {outcome : Outcome}
    {final : σ} (hreceive : server.receive state request = (after, d)) (htime : d.latency ≤ time) :
    IsExchange server time (left + 1) state request
        ⟨outcome, ⟨request, d⟩ :: first :: rest, final⟩ ↔
      Hop.next? ⟨request, d⟩ = some first.request ∧ isUsable first.request.url = true ∧
        IsExchange server (time - d.latency) left after first.request
          ⟨outcome, first :: rest, final⟩ := by
  have hserved_iff : Served server state (⟨request, d⟩ :: first :: rest) final ↔
      Served server after (first :: rest) final := by
    rw [served_cons_iff]
    simp only [hreceive, true_and]
  constructor
  · rintro ⟨-, hserved, hlinked, htimely, hshort, last, hlast, hends⟩
    obtain ⟨⟨hnext, husable⟩, hlinked⟩ := List.isChain_cons_cons.mp hlinked
    refine ⟨hnext, husable, rfl, hserved_iff.mp hserved, hlinked, ?_, ?_, last, hlast,
      (ends_cons_iff htime).mp hends⟩
    · have hsum : d.latency + latency (first :: rest).dropLast ≤ time := htimely
      show latency (first :: rest).dropLast ≤ time - d.latency
      omega
    · exact Nat.le_of_succ_le_succ hshort
  · rintro ⟨hnext, husable, -, hserved, hlinked, htimely, hshort, last, hlast, hends⟩
    refine ⟨rfl, hserved_iff.mpr hserved,
      List.isChain_cons_cons.mpr ⟨⟨hnext, husable⟩, hlinked⟩, ?_, Nat.succ_le_succ hshort, last,
      hlast, (ends_cons_iff htime).mpr hends⟩
    · have hsum : latency (first :: rest).dropLast ≤ time - d.latency := htimely
      show d.latency + latency (first :: rest).dropLast ≤ time
      omega

/-- What an exchange does after a time fits the description with the time that is left. -/
theorem exchangeFrom_isExchange (server : Server σ) {timeout elapsed : Nat} (redirects : Nat)
    (state : σ) (request : Request) (helapsed : elapsed ≤ timeout) :
    IsExchange server (timeout - elapsed) redirects state request
      (exchangeFrom server timeout redirects elapsed state request) := by
  -- The time that a hop takes is given away twice: added to what has elapsed for the recursion, and
  -- taken from what is left for the description of the rest.
  induction redirects generalizing elapsed state request with
  | zero =>
    obtain ⟨⟨after, d⟩, hreceive⟩ : ∃ r, server.receive state request = r := ⟨_, rfl⟩
    rcases ends_or_leads_on ⟨request, d⟩ (timeout - elapsed) 0 with
      ⟨outcome, hends⟩ | ⟨left, -, h, -⟩
    · rw [exchangeFrom_of_ends hreceive helapsed hends]
      exact .single hreceive hends
    · cases h
  | succ redirects ih =>
    obtain ⟨⟨after, d⟩, hreceive⟩ : ∃ r, server.receive state request = r := ⟨_, rfl⟩
    rcases ends_or_leads_on ⟨request, d⟩ (timeout - elapsed) (redirects + 1) with
      ⟨outcome, hends⟩ | ⟨left, next, -, hnext, husable, htime⟩
    · rw [exchangeFrom_of_ends hreceive helapsed hends]
      exact .single hreceive hends
    · have hsum : elapsed + d.latency ≤ timeout := Nat.add_le_of_le_sub' helapsed htime
      have hx := ih after next hsum
      rw [exchangeFrom_of_leads_on hreceive hnext husable hsum]
      rw [← Nat.sub_sub] at hx
      generalize exchangeFrom server timeout redirects _ _ next = x at hx
      obtain ⟨outcome, _ | ⟨first, rest⟩, final⟩ := x
      · cases hx.starts
      · obtain rfl : first.request = next := Option.some.inj hx.starts
        exact (isExchange_cons_iff hreceive htime).mpr ⟨hnext, husable, hx⟩

theorem IsExchange.hops_eq {x : Exchange σ}
    (hx : IsExchange server time redirects state request x)
    (hreceive : server.receive state request = (after, d)) :
    ∃ rest, x.hops = ⟨request, d⟩ :: rest := by
  obtain ⟨outcome, _ | ⟨first, rest⟩, final⟩ := x
  · cases hx.starts
  · refine ⟨rest, ?_⟩
    have hrequest : first.request = request := Option.some.inj hx.starts
    obtain ⟨hdelivery, -⟩ := served_cons_iff.mp hx.served
    rw [hrequest, hreceive] at hdelivery
    have hdelivery : d = first.delivery := hdelivery
    show first :: rest = _
    rw [← hrequest, hdelivery]

theorem IsExchange.eq_exchangeFrom {x : Exchange σ} (helapsed : elapsed ≤ timeout)
    (hx : IsExchange server (timeout - elapsed) redirects state request x) :
    x = exchangeFrom server timeout redirects elapsed state request := by
  obtain ⟨⟨after, d⟩, hreceive⟩ : ∃ r, server.receive state request = r := ⟨_, rfl⟩
  obtain ⟨rest, hhops⟩ := hx.hops_eq hreceive
  obtain ⟨outcome, hops, final⟩ := x
  obtain rfl : hops = ⟨request, d⟩ :: rest := hhops
  -- Induction on the hops behind the first; each of them stands for one redirect.
  induction rest generalizing elapsed redirects state request after d with
  | nil =>
    obtain ⟨last, hlast, hends⟩ := hx.ends
    obtain rfl : ⟨request, d⟩ = last := Option.some.inj hlast
    obtain ⟨-, hrest⟩ := served_cons_iff.mp hx.served
    simp only [hreceive] at hrest
    obtain rfl : after = final := (Prod.mk.inj hrest).1
    exact (exchangeFrom_of_ends hreceive helapsed hends).symm
  | cons first rest ih =>
    have htime : d.latency ≤ timeout - elapsed :=
      Nat.le_trans (Nat.le_add_right _ _) hx.timely
    obtain ⟨left, rfl⟩ : ∃ left, redirects = left + 1 :=
      Nat.exists_eq_succ_of_ne_zero fun h => by simpa [h] using hx.short
    obtain ⟨hnext, husable, hrest⟩ := (isExchange_cons_iff hreceive htime).mp hx
    have hsum : elapsed + d.latency ≤ timeout := Nat.add_le_of_le_sub' helapsed htime
    rw [Nat.sub_sub] at hrest
    obtain ⟨next, d'⟩ := first
    obtain ⟨⟨after', d''⟩, hreceive'⟩ : ∃ r, server.receive after next = r := ⟨_, rfl⟩
    obtain ⟨rest', hfirst⟩ := hrest.hops_eq hreceive'
    obtain rfl : d' = d'' := congrArg Hop.delivery (List.cons.inj hfirst).1
    rw [exchangeFrom_of_leads_on hreceive hnext husable hsum, ← ih hsum after' d' hreceive' hrest]
    rfl

/-- Along a chain the headers stay, and so does the method up to the first response of status 303;
requests behind it are GET requests. -/
theorem request_of_linked {hops before rest : List Hop} {h : Hop}
    (hlinked : hops.IsChain fun h next => h.next? = some next.request ∧ isUsable next.request.url)
    (hstart : hops.head?.map Hop.request = some request) (hsplit : hops = before ++ h :: rest) :
    h.request.headers = request.headers ∧
      h.request.method =
        if ∃ g ∈ before, g.status? = some 303 then .get else request.method := by
  induction before generalizing hops request with
  | nil =>
    subst hsplit
    obtain rfl : h.request = request := Option.some.inj hstart
    exact ⟨rfl, by simp⟩
  | cons g before ih =>
    subst hsplit
    obtain rfl : g.request = request := Option.some.inj hstart
    obtain ⟨second, hsecond⟩ : ∃ second, (before ++ h :: rest).head? = some second := by
      cases before <;> exact ⟨_, rfl⟩
    obtain ⟨hfirst, htail⟩ := List.isChain_cons.mp hlinked
    obtain ⟨hnext, -⟩ := hfirst second hsecond
    obtain ⟨hheaders, hmethod⟩ := Hop.of_next? hnext
    obtain ⟨hheaders', hmethod'⟩ := ih htail (congrArg (Option.map Hop.request) hsecond) rfl
    refine ⟨hheaders'.trans hheaders, ?_⟩
    rw [hmethod', hmethod]
    by_cases hg : g.status? = some 303 <;> by_cases hb : ∃ g ∈ before, g.status? = some 303 <;>
      simp [hg, hb]

/-- **An exchange is what its description says.** Nothing else fits it. -/
theorem isExchange_iff (server : Server σ) (timeout : Nat) (state : σ) (request : Request)
    (x : Exchange σ) :
    IsExchange server timeout redirectLimit state request x ↔
      x = exchange server timeout state request := by
  constructor
  · exact fun hx => hx.eq_exchangeFrom (Nat.zero_le timeout)
  · rintro rfl
    exact exchangeFrom_isExchange server redirectLimit state request (Nat.zero_le timeout)

end CloudQueue.Http
