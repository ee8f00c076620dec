import CloudQueue.Command.Run
import CloudQueue.Proofs.Metadata.Log
import CloudQueue.Proofs.Plugin.Settled

/-!
# Three ways to a verdict

A verdict comes from a detection, from a plugin that has one in the background, and from the
command `detect`. `Runtime.three_ways_agree` says that they come to the same verdict, and that the
server reads the same requests for each of them: a plugin sends those of its one detection, whatever
calls it gets.
-/

namespace CloudQueue

open Http (Server Request requestsRead)
open Metadata (Client detect_logged)

namespace Runtime

variable {σ γ τ θ κ δ ε : Type}

/-- What else changes the server between moves leaves its log alone. -/
def KeepsLog (k : Constructor γ τ θ κ δ ε) (server : Server (σ × List Request))
    (s : Runtime (σ × List Request) γ τ θ κ δ ε) (moves : List (Move (σ × List Request) θ)) :
    Prop :=
  ∀ before w after, moves = before ++ .change w :: after →
    w.2 = (s.run k server before).world.2

theorem world_step (k : Constructor γ τ θ κ δ ε) (s : Runtime σ γ τ θ κ δ ε) (i : Nat) :
    (s.step k i).world = s.world := by
  rcases hi : s.tasks[i]? with _ | t
  · rw [step_of_none k hi]
  · rcases step_cases k hi with ⟨_, _, -, -, hstep⟩ | ⟨_, _, -, hstep⟩ | ⟨_, _, -, hstep⟩ |
      ⟨-, hstep⟩ <;> rw [hstep] <;> rfl

/-- Only the detection and what else changes the server touch it: all else keeps what is true of
it. -/
theorem world_run_of {q : σ → Prop} {s : Runtime σ γ τ θ κ δ ε} (hs : q s.world)
    (k : Constructor γ τ θ κ δ ε) (server : Server σ) {moves : List (Move σ θ)}
    (hdetect : .detect ∉ moves ∨ ∃ d, s.detection? = some d)
    (hchange : ∀ before w after, moves = before ++ .change w :: after →
      q (s.run k server before).world → q w) : q (s.run k server moves).world := by
  induction moves generalizing s with
  | nil => exact hs
  | cons m moves ih =>
    refine ih ?_ ?_ fun before w after hsplit hq =>
      hchange (m :: before) w after (congrArg (m :: ·) hsplit) hq
    · cases m with
      | step i => exact (world_step k s i).symm ▸ hs
      | detect =>
        obtain hnot | ⟨d, hd⟩ := hdetect
        · exact absurd List.mem_cons_self hnot
        · rw [apply, Runtime.detect, hd]
          exact hs
      | advance =>
        rw [apply, advance]
        split <;> exact hs
      | change w => exact hchange [] w moves rfl hs
      | call c => exact hs
      | pass milliseconds => exact hs
    · obtain hnot | ⟨d, hd⟩ := hdetect
      · exact .inl fun hmem => hnot (List.mem_cons_of_mem m hmem)
      · exact .inr ⟨d, detection?_apply k server hd m⟩

section

variable {k : Constructor γ τ θ κ δ ε} {server : Server (σ × List Request)}
  {s : Runtime (σ × List Request) γ τ θ κ δ ε}
  {moves before after : List (Move (σ × List Request) θ)}

theorem keepsLog_of_unchanged (h : ∀ w, .change w ∉ moves) : KeepsLog k server s moves := by
  rintro before w after rfl
  exact absurd (List.mem_append_right before List.mem_cons_self) (h w)

theorem KeepsLog.left (h : KeepsLog k server s (before ++ after)) : KeepsLog k server s before := by
  rintro first w second rfl
  exact h first w (second ++ after) (by rw [List.append_assoc, List.cons_append])

theorem KeepsLog.right (h : KeepsLog k server s (before ++ after)) :
    KeepsLog k server (s.run k server before) after := by
  rintro first w second rfl
  rw [← run_append]
  exact h (before ++ first) w second (List.append_assoc ..).symm

theorem KeepsLog.tail {m : Move (σ × List Request) θ} (h : KeepsLog k server s (m :: moves)) :
    KeepsLog k server (s.apply k server m) moves := by
  rintro first w second rfl
  exact h (m :: first) w second rfl

/-- Without a detection nothing is read, and so it is when the detection has been run. -/
theorem KeepsLog.log_run (h : KeepsLog k server s moves)
    (hdetect : .detect ∉ moves ∨ ∃ d, s.detection? = some d) :
    (s.run k server moves).world.2 = s.world.2 :=
  world_run_of (q := fun w => w.2 = s.world.2) rfl k server hdetect
    fun before w after hsplit hbefore => (h before w after hsplit).trans hbefore

end

theorem detect_of_none {s : Runtime σ γ τ θ κ δ ε} (h : s.detection? = none) (server : Server σ) :
    let d := Metadata.detect s.plugin.detector server s.world
    (s.detect server).world = d.state ∧ (s.detect server).detection? = some d := by
  rw [Runtime.detect, h]
  exact ⟨rfl, rfl⟩

/-- A plugin with a log has the verdict of the detection that meets the server as it is when it is
run first, and in the log are the requests of this one detection. -/
theorem KeepsLog.of_detect {k : Constructor γ τ θ κ δ ε} {server : Server σ}
    {s : Runtime (σ × List Request) γ τ θ κ δ ε} {before after : List (Move (σ × List Request) θ)}
    (h : KeepsLog k server.logged s (before ++ .detect :: after)) (hnone : s.detection? = none)
    (hnot : .detect ∉ before) :
    let d := Metadata.detect s.plugin.detector server (s.run k server.logged before).world.1
    let s' := s.run k server.logged (before ++ .detect :: after)
    s'.verdict? = some d.verdict ∧ s'.world.2 = s.world.2 ++ requestsRead d.hops := by
  have hbefore := detection?_run_none hnone k server.logged hnot
  obtain ⟨hworld, hrun⟩ := detect_of_none hbefore server.logged
  have hunread := h.left.log_run (.inl hnot)
  rw [plugin_run] at hworld hrun
  rcases hstate : (s.run k server.logged before).world with ⟨state, log⟩
  rw [hstate, detect_logged] at hworld hrun
  rw [hstate] at hunread
  have hafter : ((s.run k server.logged before).apply k server.logged .detect).detection? = _ :=
    hrun
  have hlog := h.right.tail.log_run (.inr ⟨_, hafter⟩)
  intro d s'
  have hs' : s' = ((s.run k server.logged before).apply k server.logged .detect).run k
      server.logged after := by
    rw [← run_cons, ← run_append]
  rw [hs', hlog, verdict?, detection?_run hafter k server.logged after, ← hunread]
  exact ⟨rfl, congrArg Prod.snd hworld⟩

/-- **Three ways to a verdict.** Take any base URL and timeout, and any server with a log. The
command `detect` prints the verdict of a detection in a line, ends with code 0 whatever becomes of
the probes, and leaves the server as the detection does. A plugin with that detector asks nothing
of the server until its detection is run, and then, whatever builds, reads and waits there are, the
requests of this one detection. Its verdict is the one of the detection that meets the server as it
is then: every wait that has answered a verdict has answered this one, and once the detection has
ended every read and every wait ends with it. And it does end, when it has performed its actions and
all tasks are given enough turns. -/
theorem three_ways_agree (base : String) (timeout : Nat) (server : Server σ)
    (files : String → Except FileError String) (b : Builder γ τ)
    (hdetector : b.detector = some (.new timeout base)) (inRuntime : Bool) (p : Plugin γ τ)
    (hinit : (b.init inRuntime).result = .ok p) (k : Constructor γ τ θ κ δ ε) (world : σ)
    (memory : κ) (moves : List (Move (σ × List Request) θ))
    (hlog : KeepsLog k server.logged (start p (world, []) memory) moves) :
    let run := (start p (world, []) memory : Runtime _ γ τ θ κ δ ε).run k server.logged
    let s := run moves
    (∀ state log,
      let direct := Metadata.detect (.new timeout base) server state
      let logged := Metadata.detect (.new timeout base) server.logged (state, log)
      let command := Command.run files server.logged (state, log) (.detect base timeout)
      logged.verdict = direct.verdict ∧
        logged.state = (direct.state, log ++ requestsRead direct.hops) ∧
        command.result = { code := 0, stdout := if direct.verdict then "true\n" else "false\n" } ∧
        command.state = logged.state) ∧
    (.detect ∉ moves → s.cell.ready = false ∧ s.world.2 = []) ∧
    ∀ before after, moves = before ++ .detect :: after → .detect ∉ before →
      let direct := Metadata.detect (.new timeout base) server (run before).world.1
      ((∀ w, .change w ∉ before) → (run before).world.1 = world) ∧
      s.verdict? = some direct.verdict ∧
      s.world.2 = requestsRead direct.hops ∧
      (∀ (i n : Nat) v, s.tasks[i]? = some ⟨.call (.wait n), .cell (.ended (.waited (some v)))⟩ →
        v = direct.verdict) ∧
      (∀ v a, ⟨.settle v, .cell (.ended a)⟩ ∈ s.tasks → s.cell.ready = true) ∧
      (s.cell.ready = true → s.Yields k server.logged .inside (.flag direct.verdict) ∧
        ∀ n, s.Yields k server.logged (.wait n) (.waited (some direct.verdict))) ∧
      let performed := s.run k server.logged (List.replicate s.pending.length .advance)
      ∀ rounds : List (List Nat), (∀ turns ∈ rounds, ∀ i < performed.tasks.length, i ∈ turns) →
        5 * performed.tasks.length ≤ rounds.length →
        (performed.run k server.logged (rounds.flatten.map .step)).cell.ready = true := by
  intro run s
  obtain ⟨config, -, hp⟩ := Builder.init_eq_ok hinit
  have hclient : p.detector = .new timeout base := by rw [hp, hdetector]; rfl
  have hstart : (start p (world, []) memory : Runtime (σ × List Request) γ τ θ κ δ ε).Kept :=
    kept_start (by rw [hp]) (world, []) memory
  have hnone : (start p (world, []) memory :
    Runtime (σ × List Request) γ τ θ κ δ ε).detection? = none := rfl
  have hkept : s.Kept := hstart.run k server.logged moves
  refine ⟨fun state log => ?_, fun hnot => ⟨?_, hlog.log_run (.inl hnot)⟩, ?_⟩
  · simp only [Command.run, detect_logged]
    exact ⟨trivial, trivial, rfl, trivial⟩
  · cases hready : s.cell.ready with
    | false => rfl
    | true =>
      have hverdict := hkept.verdict_of_ready hready
      rw [verdict?, detection?_run_none hnone k server.logged hnot] at hverdict
      cases hverdict
  · rintro before after rfl hnot direct
    obtain ⟨hverdict, hread⟩ := hlog.of_detect hnone hnot
    rw [show (start p (world, []) memory : Runtime _ γ τ θ κ δ ε).plugin = p from rfl, hclient]
      at hverdict hread
    refine ⟨fun hunchanged => ?_, hverdict, hread.trans (List.nil_append _), ?_,
      fun v a => hkept.ready_of_settled, ?_, ?_⟩
    · have hsame := world_run_of (q := fun w => w = (world, [])) rfl k server.logged
        (s := start p (world, []) memory) (.inl hnot) fun before' w after' hsplit' _ => absurd
          (hsplit' ▸ List.mem_append_right before' List.mem_cons_self) (hunchanged w)
      exact congrArg Prod.fst hsame
    · intro i n v hi
      exact Option.some.inj ((hkept.of_waited hi).2.symm.trans hverdict)
    · intro hready
      exact ⟨hkept.yields hready hverdict (fun _ h => by cases h) k server.logged,
        fun n => hkept.yields hready hverdict (fun _ h => by cases h) k server.logged⟩
    · intro performed rounds hrounds hlength
      have hpending : performed.pending = [] := by
        rw [pending_run_advance, List.drop_length]
      have hends := ((endsDetection_start p (world, []) memory).run k server.logged
        (before ++ .detect :: after)).run k server.logged
          (List.replicate s.pending.length .advance)
      exact (hkept.run k server.logged _).ready_of_rounds hends
        (verdict?_run hverdict k server.logged _) hpending hrounds hlength k server.logged

/-- A read before the detection, and the detection to its end, with a server that does not know the
first generation of its service. -/
theorem three_ways_agree_on_token :
    let b : Builder Unit Unit :=
      { config := some (), detector := some (.new 2000 "http://a//") }
    let server : Server Unit :=
      ⟨fun _ r => ((), ⟨.response (if r.method = .put then 200 else 404) none, 1⟩)⟩
    let moves : List (Move (Unit × List Request) Unit) :=
      [.call .inside, .step 0, .detect, .advance, .advance, .advance] ++
        List.replicate 5 (.step 1)
    ∃ p, (b.init true).result = .ok p ∧
      let s := (start p ((), []) 0).run numbering server.logged moves
      s.world.2.map (fun r => (r.method, r.target, r.headers)) =
          [(.get, "/latest/dynamic/instance-identity/", []),
            (.put, "/latest/api/token", [("X-aws-ec2-metadata-token-ttl-seconds", "10")])] ∧
        s.verdict? = some true := by
  intro b server moves
  obtain ⟨p, hinit⟩ : ∃ p, (b.init true).result = .ok p := ⟨_, rfl⟩
  refine ⟨p, hinit, ?_⟩
  have hunchanged : ∀ w, .change w ∉ moves := by
    intro w hw
    simp [moves] at hw
  obtain ⟨-, -, hplugin⟩ := three_ways_agree "http://a//" 2000 server (fun _ => .error .notFound) b
    rfl true p hinit numbering () 0 moves (keepsLog_of_unchanged hunchanged)
  obtain ⟨hsame, hverdict, hread, -⟩ := hplugin [.call .inside, .step 0] _ rfl (by simp)
  rw [hsame (by simp)] at hverdict hread
  refine ⟨(congrArg (List.map _) hread).trans ?_, hverdict.trans ?_⟩
  · decide +kernel
  · decide +kernel

end Runtime

end CloudQueue
