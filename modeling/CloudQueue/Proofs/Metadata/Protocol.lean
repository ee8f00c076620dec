import CloudQueue.Metadata.Detection
import CloudQueue.Proofs.Metadata.Outcome

/-!
# The protocol of detections

A detection is a block of probes: the identity probe, and the token probe behind it if and only if
the identity probe failed. Detections one after the other are blocks one after the other
(`AreBlocks`), each of which meets the server as the block before left it, so all of them together
are one conversation with one server.
-/

namespace CloudQueue.Metadata

open Http

variable {σ : Type}

/-- The probes of one detection. -/
structure Block (σ : Type) where
  identity : ProbeRun σ
  token? : Option (ProbeRun σ)

namespace Block

def last (b : Block σ) : ProbeRun σ := b.token?.getD b.identity

/-- The hops of the identity probe, then those of the token probe. -/
def hops (b : Block σ) : List Hop :=
  b.identity.hops ++ (b.token?.map ProbeRun.hops).getD []

/-- The block is what a client runs against a server in a state. -/
structure Fits (client : Client) (server : Server σ) (state : σ) (b : Block σ) : Prop where
  identity_eq : b.identity = Probe.identity.run client server state
  identity_isChain :
    Probe.identity.IsChain client server state b.identity.hops b.identity.state
  token_iff : (∃ run, b.token? = some run) ↔ ∃ e, b.identity.result = .error e
  token_eq : ∀ run, b.token? = some run → run = Probe.token.run client server b.identity.state
  token_isChain : ∀ run, b.token? = some run →
    Probe.token.IsChain client server b.identity.state run.hops run.state

/-- What a detection reports, and how it leaves the server, is read off the block. -/
structure Tells (b : Block σ) (d : Detection σ) : Prop where
  hops_eq : d.hops = b.hops
  state_eq : d.state = b.last.state
  true_iff : d.verdict = true ↔ b.last.result = .ok ()
  false_iff : d.verdict = false ↔
    (∃ e, b.identity.result = .error e) ∧ ∃ run e, b.token? = some run ∧ run.result = .error e

end Block

/-- The blocks follow each other, the first of them with the server in a state. -/
def AreBlocks (client : Client) (server : Server σ) : σ → List (Block σ) → Prop
  | _, [] => True
  | state, b :: bs => b.Fits client server state ∧ AreBlocks client server b.last.state bs

/-- The server behind blocks. -/
def stateAfter (state : σ) (blocks : List (Block σ)) : σ :=
  (blocks.getLast?.map fun b => b.last.state).getD state

/-! ## One block -/

/-- The block that a client runs against a server in a state. -/
def Block.of (client : Client) (server : Server σ) (state : σ) : Block σ :=
  let first := Probe.identity.run client server state
  ⟨first, match first.result with
    | .ok () => none
    | .error _ => some (Probe.token.run client server first.state)⟩

section

variable {client : Client} {server : Server σ} {state after : σ} {b : Block σ}

theorem Block.of_ok (h : (Probe.identity.run client server state).result = .ok ()) :
    Block.of client server state = ⟨Probe.identity.run client server state, none⟩ := by
  rw [Block.of, h]

theorem Block.of_error {e : ProbeError}
    (h : (Probe.identity.run client server state).result = .error e) :
    Block.of client server state = ⟨Probe.identity.run client server state,
      some (Probe.token.run client server (Probe.identity.run client server state).state)⟩ := by
  rw [Block.of, h]

theorem Block.of_fits (client : Client) (server : Server σ) (state : σ) :
    (Block.of client server state).Fits client server state := by
  rcases hresult : (Probe.identity.run client server state).result with e | ⟨⟩
  · rw [Block.of_error hresult]
    refine ⟨rfl, Probe.run_isChain _ _ _ _, ⟨fun _ => ⟨e, hresult⟩, fun _ => ⟨_, rfl⟩⟩, ?_, ?_⟩
    · rintro run ⟨⟩
      rfl
    · rintro run ⟨⟩
      exact Probe.run_isChain _ _ _ _
  · rw [Block.of_ok hresult]
    refine ⟨rfl, Probe.run_isChain _ _ _ _, ⟨?_, ?_⟩, ?_, ?_⟩
    · rintro ⟨run, ⟨⟩⟩
    · rintro ⟨e, herror⟩
      cases hresult.symm.trans herror
    · rintro run ⟨⟩
    · rintro run ⟨⟩

theorem Block.Fits.eq_of (h : b.Fits client server state) : b = Block.of client server state := by
  obtain ⟨identity, token?⟩ := b
  obtain ⟨hidentity, -, hiff, htoken, -⟩ := h
  obtain rfl : identity = Probe.identity.run client server state := hidentity
  rcases hresult : (Probe.identity.run client server state).result with e | ⟨⟩
  · obtain ⟨run, hrun⟩ := hiff.mpr ⟨e, hresult⟩
    obtain rfl : token? = some run := hrun
    have htoken_eq : run = Probe.token.run client server
        (Probe.identity.run client server state).state := htoken run rfl
    rw [htoken_eq, Block.of_error hresult]
  · rw [Block.of_ok hresult]
    rcases token? with _ | run
    · rfl
    · obtain ⟨e, herror⟩ := hiff.mp ⟨run, rfl⟩
      cases hresult.symm.trans herror

theorem detect_tells (client : Client) (server : Server σ) (state : σ) :
    (Block.of client server state).Tells (detect client server state) := by
  rcases hfirst : (Probe.identity.run client server state).result with e | ⟨⟩
  · rw [Block.of_error hfirst]
    unfold detect
    rcases hsecond : (Probe.token.run client server
      (Probe.identity.run client server state).state).result with e' | ⟨⟩
    · simp only [hfirst, hsecond]
      refine ⟨rfl, rfl, ⟨by simp, fun hok => ?_⟩, ⟨fun _ => ?_, fun _ => rfl⟩⟩
      · cases hsecond.symm.trans hok
      · exact ⟨⟨e, hfirst⟩, _, e', rfl, hsecond⟩
    · simp only [hfirst, hsecond]
      refine ⟨rfl, rfl, ⟨fun _ => hsecond, fun _ => rfl⟩, ⟨by simp, ?_⟩⟩
      rintro ⟨-, run, e', ⟨⟩, herror⟩
      cases hsecond.symm.trans herror
  · rw [Block.of_ok hfirst]
    unfold detect
    simp only [hfirst]
    refine ⟨(List.append_nil _).symm, rfl, ⟨fun _ => hfirst, fun _ => rfl⟩, ⟨by simp, ?_⟩⟩
    rintro ⟨-, run, e, ⟨⟩, -⟩

theorem Block.Fits.served (h : b.Fits client server state) :
    Served server state b.hops b.last.state := by
  obtain ⟨identity, token?⟩ := b
  rcases token? with _ | run
  · show Served server state (identity.hops ++ []) identity.state
    rw [List.append_nil]
    exact h.identity_isChain.served
  · exact h.identity_isChain.served.append (h.token_isChain run rfl).served

/-! ## Blocks in a row -/

variable {blocks other : List (Block σ)}

theorem AreBlocks.eq_of_length (h : AreBlocks client server state blocks)
    (h' : AreBlocks client server state other) (hlength : blocks.length = other.length) :
    blocks = other := by
  induction blocks generalizing state other with
  | nil => exact (List.length_eq_zero_iff.mp hlength.symm).symm
  | cons b bs ih =>
    obtain _ | ⟨b', bs'⟩ := other
    · cases hlength
    · obtain ⟨hfits, hrest⟩ := h
      obtain ⟨hfits', hrest'⟩ := h'
      obtain rfl : b = b' := hfits.eq_of.trans hfits'.eq_of.symm
      rw [ih hrest hrest' (Nat.succ.inj hlength)]

theorem AreBlocks.fits_of_mem (h : AreBlocks client server state blocks) (hb : b ∈ blocks) :
    ∃ before, b.Fits client server before := by
  induction blocks generalizing state with
  | nil => exact absurd hb List.not_mem_nil
  | cons first rest ih =>
    rcases List.mem_cons.mp hb with rfl | hmem
    · exact ⟨state, h.1⟩
    · exact ih h.2 hmem

theorem stateAfter_cons (state : σ) (b : Block σ) (blocks : List (Block σ)) :
    stateAfter state (b :: blocks) = stateAfter b.last.state blocks := by
  obtain _ | ⟨second, rest⟩ := blocks
  · rfl
  · simp [stateAfter, List.getLast?_cons]

/-- All blocks together are one conversation with the server. -/
theorem AreBlocks.served (h : AreBlocks client server state blocks) :
    Served server state (blocks.flatMap Block.hops) (stateAfter state blocks) := by
  induction blocks generalizing state with
  | nil => exact .nil server state
  | cons b bs ih =>
    rw [List.flatMap_cons, stateAfter_cons]
    exact h.1.served.append (ih h.2)

theorem detectTimes_blocks (client : Client) (server : Server σ) (n : Nat) (state : σ) :
    ∃ blocks, AreBlocks client server state blocks ∧ blocks.length = n ∧
      List.Forall₂ Block.Tells blocks (detectTimes client server n state) := by
  induction n generalizing state with
  | zero => exact ⟨[], trivial, rfl, .nil⟩
  | succ n ih =>
    have htells := detect_tells client server state
    obtain ⟨blocks, hblocks, hlength, hall⟩ := ih (detect client server state).state
    rw [htells.state_eq] at hblocks
    exact ⟨_ :: blocks, ⟨Block.of_fits client server state, hblocks⟩,
      congrArg Nat.succ hlength, .cons htells hall⟩

theorem flatMap_hops_of_tells {runs : List (Detection σ)}
    (h : List.Forall₂ Block.Tells blocks runs) :
    runs.flatMap Detection.hops = blocks.flatMap Block.hops := by
  induction h with
  | nil => rfl
  | cons htells _ ih => rw [List.flatMap_cons, List.flatMap_cons, htells.hops_eq, ih]

end

/-! ## Base URLs -/

/-- A normalized base URL lacks the slashes at the end of the text, and nothing else. -/
theorem Client.normalize_spec (base : String) :
    (∃ k, base.toList = (Client.normalize base).toList ++ List.replicate k '/') ∧
      (Client.normalize base).toList.getLast? ≠ some '/' := by
  have htext : (Client.normalize base).toList = base.toList.rdropWhile (· == '/') :=
    String.toList_ofList
  rw [htext]
  constructor
  · refine ⟨(base.toList.rtakeWhile (· == '/')).length, ?_⟩
    have hslashes : base.toList.rtakeWhile (· == '/') =
        List.replicate (base.toList.rtakeWhile (· == '/')).length '/' := by
      rw [List.eq_replicate_iff]
      refine ⟨rfl, fun c hc => ?_⟩
      have hslash := List.mem_rtakeWhile_imp hc
      exact eq_of_beq hslash
    rw [← hslashes, List.rdropWhile_append_rtakeWhile]
  · intro hlast
    have hne : base.toList.rdropWhile (· == '/') ≠ [] := by
      rintro hnil
      rw [hnil] at hlast
      cases hlast
    have heq : (base.toList.rdropWhile (· == '/')).getLast hne = '/' :=
      List.getLast_of_getLast?_eq_some hlast
    exact List.rdropWhile_last_not _ _ hne (beq_iff_eq.mpr heq)

/-- **The protocol of detections.** The slashes at the end of a base URL do not count. However
often a client detects its environment, and whatever the server does, the hops are those of one
block for each detection. A block is the chain of the identity probe, which starts with a GET
request without headers, and the chain of the token probe, which starts with a PUT request with the
lifetime of a token, if and only if the identity probe failed. Each block meets the server as the
one before left it, and the server takes all these requests in order and no others. A verdict is
positive if and only if the last probe of its block succeeded, and negative if and only if both
probes failed. -/
theorem detection_protocol (timeout : Nat) (base : String) (server : Server σ) (state : σ)
    (n : Nat) :
    let client := Client.new timeout base
    let runs := detectTimes client server n state
    ((∃ k, base.toList = client.baseUrl.toList ++ List.replicate k '/') ∧
      client.baseUrl.toList.getLast? ≠ some '/') ∧
    ∃ blocks : List (Block σ), blocks.length = n ∧
      (∀ other, other.length = n → (AreBlocks client server state other ↔ other = blocks)) ∧
      List.Forall₂ Block.Tells blocks runs ∧
      runs.flatMap Detection.hops = blocks.flatMap Block.hops ∧
      Served server state (runs.flatMap Detection.hops) (stateAfter state blocks) ∧
      ∀ b ∈ blocks,
        (∀ h, b.identity.hops.head? = some h →
          ∃ url, Url.parse? (client.baseUrl ++ "/latest/dynamic/instance-identity/") = some url ∧
            h.request = ⟨.get, url.withoutCredentials, []⟩) ∧
        ∀ run h, b.token? = some run → run.hops.head? = some h →
          ∃ url, Url.parse? (client.baseUrl ++ "/latest/api/token") = some url ∧
            h.request = ⟨.put, url.withoutCredentials,
              [("X-aws-ec2-metadata-token-ttl-seconds", "10")]⟩ := by
  intro client runs
  refine ⟨Client.normalize_spec base, ?_⟩
  obtain ⟨blocks, hblocks, hlength, htells⟩ := detectTimes_blocks client server n state
  have hhops : runs.flatMap Detection.hops = blocks.flatMap Block.hops :=
    flatMap_hops_of_tells htells
  refine ⟨blocks, hlength, ?_, htells, hhops, ?_, ?_⟩
  · intro other hother
    constructor
    · exact fun h => h.eq_of_length hblocks (hother.trans hlength.symm)
    · rintro rfl
      exact hblocks
  · rw [hhops]
    exact hblocks.served
  · intro b hb
    obtain ⟨before, hfits⟩ := hblocks.fits_of_mem hb
    constructor
    · exact fun h hfirst => hfits.identity_isChain.head?_request hfirst
    · exact fun run h hrun hfirst => (hfits.token_isChain run hrun).head?_request hfirst

/-- A server that answers with status 200 from its third request on meets two probes of the first
detection and one of the second. -/
example :
    let server : Server Nat :=
      ⟨fun count _ => (count + 1, ⟨.response (if count < 2 then 404 else 200) none, 1⟩)⟩
    (detectTimes (Client.new 2000 "http://a//") server 2 0).map
      (fun d => (d.verdict, d.hops.length)) = [(false, 2), (true, 1)] := by
  decide +kernel

end CloudQueue.Metadata
