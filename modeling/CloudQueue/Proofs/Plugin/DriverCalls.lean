import CloudQueue.Proofs.Plugin.Turns

/-!
# Driver calls

`Runtime.driver_calls` says what the driver calls on a plugin do that a builder has started, however
calls, waits and the detection get between each other's steps.
-/

namespace CloudQueue

open Http (Server)
open Metadata (Client)

theorem Builder.init_eq_ok {γ τ : Type} {b : Builder γ τ} {inRuntime : Bool} {p : Plugin γ τ}
    (h : (b.init inRuntime).result = .ok p) : ∃ config, b.config = some config ∧
      p = ⟨{ tracer := b.tracer, logger := (b.logger.getD .standard).span? pluginName, config },
        b.detector.getD .forDetection⟩ := by
  unfold init at h
  split at h
  · cases h
  · rename_i config hconfig
    split at h
    · exact ⟨config, hconfig, (Except.ok.inj h).symm⟩
    · cases h

namespace Runtime

variable {σ γ τ θ κ δ ε : Type} {k : Constructor γ τ θ κ δ ε} {server : Server σ}
  {s : Runtime σ γ τ θ κ δ ε} {t : Task γ τ θ δ ε} {i j : Nat} {v : Bool} {order : Order θ}

/-! ## The detection -/

theorem detection?_run {d : Metadata.Detection σ} (h : s.detection? = some d)
    (k : Constructor γ τ θ κ δ ε) (server : Server σ) (moves : List (Move σ θ)) :
    (s.run k server moves).detection? = some d := by
  induction moves generalizing s with
  | nil => exact h
  | cons m moves ih => exact ih (detection?_apply k server h m)

theorem verdict?_run (h : s.verdict? = some v) (k : Constructor γ τ θ κ δ ε) (server : Server σ)
    (moves : List (Move σ θ)) : (s.run k server moves).verdict? = some v := by
  obtain ⟨d, hd, hv⟩ := Option.map_eq_some_iff.mp h
  exact Option.map_eq_some_iff.mpr ⟨d, detection?_run hd k server moves, hv⟩

theorem plugin_run (k : Constructor γ τ θ κ δ ε) (server : Server σ)
    (s : Runtime σ γ τ θ κ δ ε) (moves : List (Move σ θ)) :
    (s.run k server moves).plugin = s.plugin := by
  induction moves generalizing s with
  | nil => rfl
  | cons m moves ih => exact (ih _).trans (plugin_apply k server s m)

theorem detection?_run_none (h : s.detection? = none) (k : Constructor γ τ θ κ δ ε)
    (server : Server σ) {moves : List (Move σ θ)} (hnot : .detect ∉ moves) :
    (s.run k server moves).detection? = none := by
  induction moves generalizing s with
  | nil => exact h
  | cons m moves ih =>
    obtain ⟨hm, hrest⟩ := List.ne_and_not_mem_of_not_mem_cons hnot
    refine ih ?_ hrest
    cases m with
    | call c => exact h
    | step i => exact (step_frame k s i).2.1.trans h
    | detect => exact absurd rfl hm
    | advance =>
      rw [apply, advance]
      split <;> exact h
    | change world => exact h
    | pass milliseconds => exact h

/-- The detection is the one of the first move that runs it, with the server as it is then. -/
theorem detection?_run_detect (h : s.detection? = none) (k : Constructor γ τ θ κ δ ε)
    (server : Server σ) {before : List (Move σ θ)} (hnot : .detect ∉ before)
    (after : List (Move σ θ)) : (s.run k server (before ++ .detect :: after)).detection? =
      some (Metadata.detect s.plugin.detector server (s.run k server before).world) := by
  have hnone := detection?_run_none h k server hnot
  rw [run_append, run_cons, ← plugin_run k server s before]
  refine detection?_run ?_ k server after
  rw [apply, detect, hnone]

/-! ## The cell when the flag is up -/

theorem ready_run (hready : s.cell.ready = true) (k : Constructor γ τ θ κ δ ε)
    (server : Server σ) (moves : List (Move σ θ)) : (s.run k server moves).cell.ready = true := by
  induction moves generalizing s with
  | nil => exact hready
  | cons m moves ih =>
    refine ih ?_
    show (s.apply k server m).onCell.cell.ready = true
    rw [onCell_apply]
    exact Verdict.System.ready_run hready _

theorem Kept.verdict_of_ready (h : s.Kept) (hready : s.cell.ready = true) :
    s.verdict? = some s.cell.inside := by
  obtain ⟨first, hkept, hfirst⟩ := h.cell
  exact hfirst _ (hkept.cell.ready hready)

theorem Kept.of_waited {timeout : Nat} {w : Bool} (h : s.Kept) (hi : s.tasks[i]? =
    some ⟨.call (.wait timeout), .cell (.ended (.waited (some w)))⟩) :
    s.cell.ready = true ∧ s.verdict? = some w := by
  obtain ⟨first, hkept, hfirst⟩ := h.cell
  have htold : ∀ v, Verdict.Answer.waited (some w) = .waited (some v) →
      s.cell.ready = true ∧ first = some v := hkept.calls i _ (onCell_getElem? hi)
  obtain ⟨hready, hw⟩ := htold w rfl
  exact ⟨hready, hfirst w hw⟩

theorem Kept.seen_of_ready {w : Bool} (h : s.Kept) (hready : s.cell.ready = true)
    (hw : s.verdict? = some w) (more : List (Move σ θ)) (hnew : s.tasks.length ≤ j)
    (hj : (s.run k server more).tasks[j]? = some t) (hjob : t.job = .call (.build order))
    (hseen : t.stage.seen? = some v) : v = w := by
  rcases h.snapshot_of_seen more hj hjob hseen with ⟨u, hu, -, -⟩ | ⟨before, after, -, hat, hv⟩
  · cases (List.getElem?_eq_none hnew).symm.trans hu
  · have hthen := h.run k server before
    have hverdict := hthen.verdict_of_ready (ready_run hready k server before)
    rw [hthen.inside_of_reading hat rfl, ← hv] at hverdict
    exact Option.some.inj (hverdict.symm.trans (verdict?_run hw k server before))

/-! ## All together -/

/-- The task number `i` is a driver call for an order, in the run of moves from a start. What it
has for the constructor it has from the builder and the caller, but for the verdict: that is what
the end of the detection had stored when the call took its snapshot. -/
structure HandsOn (b : Builder γ τ) (run : List (Move σ θ) → Runtime σ γ τ θ κ δ ε)
    (moves : List (Move σ θ)) (i : Nat) (order : Order θ) (args : DriverArgs γ τ θ) : Prop where
  config : some args.config = b.config
  tracer : args.tracer = b.tracer
  logger : args.logger = (b.logger.getD .standard).span? pluginName
  queue : args.queue = order.queue
  snapshot : ∃ before after, moves = before ++ .step i :: after ∧ (run before).AtSnapshot i order
  inside : ∀ before after, moves = before ++ .step i :: after → (run before).AtSnapshot i order →
    match (run before).stored? with
    | some v => args.inside = v ∧ (run moves).verdict? = some v
    | none => args.inside = false

theorem handsOn (b : Builder γ τ) {inRuntime : Bool} {p : Plugin γ τ}
    (hinit : (b.init inRuntime).result = .ok p) (k : Constructor γ τ θ κ δ ε) (server : Server σ)
    (world : σ) (memory : κ) {moves : List (Move σ θ)} {args : DriverArgs γ τ θ}
    (hi : ((start p world memory).run k server moves).tasks[i]? = some t)
    (hjob : t.job = .call (.build order)) (hargs : t.stage.args? = some args) :
    HandsOn b ((start p world memory).run k server) moves i order args := by
  obtain ⟨config, hconfig, hp⟩ := Builder.init_eq_ok hinit
  have hpending : p.state.verdict = .pending := by rw [hp]
  have hkept : (start p world memory : Runtime σ γ τ θ κ δ ε).Kept :=
    kept_start hpending world memory
  have hrecorded := (recorded_start k p world memory).run server moves
  have hcopy := hrecorded.args t (List.mem_of_getElem? hi) order args hjob hargs
  rw [snapshot, plugin_run] at hcopy
  have hseen := Stage.seen_of_args hargs
  subst hp
  refine ⟨?_, ?_, ?_, ?_, ?_, fun before after hsplit hat => ?_⟩
  · rw [hcopy, hconfig]
    rfl
  · rw [hcopy]
    rfl
  · rw [hcopy]
    rfl
  · rw [hcopy]
    rfl
  · rcases hkept.snapshot_of_seen moves hi hjob hseen with
      ⟨u, hu, -, -⟩ | ⟨before, after, h, hat, -⟩
    · cases hu
    · exact ⟨before, after, h, hat⟩
  · subst hsplit
    have hinside := hkept.eq_of_atSnapshot hat hi hseen
    split
    · rename_i v hstored
      rw [hstored] at hinside
      have hverdict := (hkept.run k server before).verdict_of_stored hstored
      refine ⟨hinside, ?_⟩
      rw [run_append]
      exact verdict?_run hverdict k server _
    · rename_i hstored
      rw [hstored] at hinside
      exact hinside

/-- **Driver calls.** Take a plugin that a builder has started, any constructor, any server, and
any calls, waits and moves of the one detection between each other's steps. The detection is the
one that is run first, or there is none. A driver call that is at its end has called the
constructor once, with the source and the pipeline of the caller and the arguments that it hands
on, and has its result; one that is not has not called it, and nobody else calls it. Every driver
call comes to its end within twelve rounds. Once a wait has answered a verdict, that is the verdict
of the detection, and every driver call that begins later hands it on, whatever the server would
answer by then. -/
theorem driver_calls (b : Builder γ τ) (inRuntime : Bool) (p : Plugin γ τ)
    (hinit : (b.init inRuntime).result = .ok p) (k : Constructor γ τ θ κ δ ε) (server : Server σ)
    (world : σ) (memory : κ) (moves : List (Move σ θ)) :
    let run : List (Move σ θ) → Runtime σ γ τ θ κ δ ε := (start p world memory).run k server
    let s := run moves
    (.detect ∉ moves → s.detection? = none) ∧
    (∀ before after, moves = before ++ .detect :: after → .detect ∉ before → s.detection? =
      some (Metadata.detect (b.detector.getD .forDetection) server (run before).world)) ∧
    (∀ (i : Nat) order stage args, s.tasks[i]? = some ⟨.call (.build order), stage⟩ →
      stage.args? = some args → HandsOn b run moves i order args) ∧
    (∀ (i : Nat) order args result,
      s.tasks[i]? = some ⟨.call (.build order), .built args result⟩ →
      ∃ memory, s.invocations.filter (·.task = i) =
          [⟨i, memory, order.source, order.pipeline, args⟩] ∧
        result = (k.build memory order.source order.pipeline args).2) ∧
    (∀ (i : Nat) order stage, s.tasks[i]? = some ⟨.call (.build order), stage⟩ →
      stage.result? = none → s.invocations.filter (·.task = i) = []) ∧
    (∀ call ∈ s.invocations, ∃ order args result,
      s.tasks[call.task]? = some ⟨.call (.build order), .built args result⟩) ∧
    Follow k memory s.invocations s.memory ∧
    (∀ (i : Nat) order stage rounds, s.tasks[i]? = some ⟨.call (.build order), stage⟩ →
      s.AreRounds k server rounds → 12 ≤ rounds.length → ∃ args result,
        (s.run k server rounds.flatten).tasks[i]? =
          some ⟨.call (.build order), .built args result⟩) ∧
    ∀ (i timeout : Nat) w,
      s.tasks[i]? = some ⟨.call (.wait timeout), .cell (.ended (.waited (some w)))⟩ →
      s.verdict? = some w ∧ ∀ more (j : Nat) order stage args, s.tasks.length ≤ j →
        (s.run k server more).tasks[j]? = some ⟨.call (.build order), stage⟩ →
        stage.args? = some args → args.inside = w := by
  intro run s
  obtain ⟨config, hconfig, hp⟩ := Builder.init_eq_ok hinit
  have hdetector : p.detector = b.detector.getD .forDetection := by rw [hp]
  have hstart : (start p world memory : Runtime σ γ τ θ κ δ ε).Kept :=
    kept_start (by rw [hp]) world memory
  have hkept : s.Kept := hstart.run k server moves
  have hrecorded : Recorded k memory s := (recorded_start k p world memory).run server moves
  refine ⟨fun hnot => ?_, ?_, ?_, fun i order args result hi => hrecorded.called i _ hi, ?_,
    fun call => hrecorded.built_of_mem, hrecorded.follow, ?_, ?_⟩
  · have hnone : (start p world memory : Runtime σ γ τ θ κ δ ε).detection? = none := rfl
    exact detection?_run_none hnone k server hnot
  · rintro before after hsplit hnot
    have hnone : (start p world memory : Runtime σ γ τ θ κ δ ε).detection? = none := rfl
    have hdetect := detection?_run_detect hnone k server hnot after
    rw [← hsplit] at hdetect
    rw [← hdetector]
    exact hdetect
  · intro i order stage args hi hargs
    exact handsOn b hinit k server world memory hi rfl hargs
  · intro i order stage hi hnone
    exact (Task.called_iff_of_result_none hnone).mp (hrecorded.called i _ hi)
  · intro i order stage rounds hi hrounds hlength
    have hwrite : s.writeLeft ≤ 7 := writeLeft_run_le k server (start p world memory) moves
    exact hkept.built_of_rounds hi rfl hrounds (Nat.le_trans (hkept.left_le hi rfl hwrite) hlength)
  · intro i timeout w hi
    obtain ⟨hready, hw⟩ := hkept.of_waited hi
    refine ⟨hw, fun more j order stage args hnew hj hargs => ?_⟩
    exact hkept.seen_of_ready hready hw more hnew hj rfl (Stage.seen_of_args hargs)

/-- A constructor that numbers the drivers it builds. -/
def numbering : Constructor Unit Unit Unit Nat Nat Empty := ⟨fun n _ _ _ => (n + 1, .ok n)⟩

def welcoming : Server Unit := ⟨fun state _ => (state, ⟨.response 200 none, 1⟩)⟩

/-- A driver call, the detection to its end, a wait, and another driver call. -/
def aroundDetection (order : Order Unit) : List (Move Unit Unit) :=
  Move.call (.build order) :: List.replicate 5 (Move.step 0) ++
    [.detect, .advance, .advance] ++ List.replicate 5 (Move.step 1) ++
    Move.call (.wait 0) :: List.replicate 5 (Move.step 2) ++
    Move.call (.build order) :: List.replicate 5 (Move.step 3)

/-- The driver call before the detection hands on `false`, the one behind it the verdict. -/
theorem driver_calls_around_detection :
    let b : Builder Unit Unit := { config := some (), detector := some ⟨"http://a", 2000⟩ }
    let order : Order Unit := ⟨.config "queue", .new "late" "sqs", ()⟩
    ∃ p, (b.init true).result = .ok p ∧
      let s := (start p () 0).run numbering welcoming (aroundDetection order)
      s.invocations.map (fun call => (call.task, call.args.inside)) = [(0, false), (3, true)] ∧
        s.verdict? = some true := by
  intro b order
  refine ⟨⟨{ tracer := none, logger := Logger.standard.span? pluginName, config := () },
    ⟨"http://a", 2000⟩⟩, rfl, by decide +kernel, ?_⟩
  obtain ⟨-, -, -, -, -, -, -, -, hwaits⟩ :=
    driver_calls b true _ rfl numbering welcoming () 0 (aroundDetection order)
  refine (hwaits 2 0 true ?_).1
  cbv

end Runtime

end CloudQueue
