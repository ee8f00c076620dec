import CloudQueue.Proofs.Metadata.Story
import CloudQueue.Proofs.Plugin.SnapshotOrder

/-!
# The events of a plugin

`Runtime.event_log` says what a plugin that a builder has started leaves in the log: the events of
its one detection and one event for each driver call, all in the span that the logger answers. The
detection settles its verdict behind its events (`SettlesLast`), so the event of a driver call that
saw a positive verdict comes behind the event that tells it.
-/

namespace CloudQueue

open Http (Server)
open Metadata (Client IsStory told detect_story)

/-- The event of a driver call, told in full. -/
def announcement (span : Option Span) (source : Source) (pipeline : Pipeline) (inside : Bool) :
    Event :=
  match source with
  | .config key =>
    { level := .debug
      message := "building driver from config"
      fields := [("config_key", .text key), ("pipeline", .text pipeline.name),
        ("inside_aws", .flag inside)]
      spans := span.toList }
  | .pipeline =>
    { level := .debug
      message := "building driver from pipeline"
      fields := [("pipeline", .text pipeline.name), ("inside_aws", .flag inside)]
      spans := span.toList }

theorem Order.event_within {θ : Type} (order : Order θ) (inside : Bool) (span : Option Span) :
    (order.event inside).within span =
      announcement span order.source order.pipeline inside := by
  rcases order with ⟨key | _, pipeline, queue⟩ <;>
    simp [event, Event.within, announcement]

theorem spans_announcement (span : Option Span) (source : Source) (pipeline : Pipeline)
    (inside : Bool) : (announcement span source pipeline inside).spans = span.toList := by
  cases source <;> rfl

theorem inside_of_announcement {span span' : Option Span} {source source' : Source}
    {pipeline pipeline' : Pipeline} {inside inside' : Bool}
    (h : announcement span source pipeline inside =
      announcement span' source' pipeline' inside') : inside = inside' := by
  have hfields := congrArg Event.fields h
  cases source <;> cases source' <;> simp_all [announcement]

/-- Nothing comes behind an action that settles the verdict. -/
def Action.SettleLast : List Action → Prop
  | [] => True
  | .emit _ :: rest => SettleLast rest
  | .settle _ :: rest => rest = []

theorem Action.settleLast_ofDetection {σ : Type} (span : Option Span)
    (d : Metadata.Detection σ) : SettleLast (ofDetection span d) := by
  unfold ofDetection
  induction d.events with
  | nil => rfl
  | cons e events ih => exact ih

namespace Runtime

variable {σ γ τ θ κ δ ε : Type} {k : Constructor γ τ θ κ δ ε} {server : Server σ}
  {s s' : Runtime σ γ τ θ κ δ ε} {t : Task γ τ θ δ ε} {m : Move σ θ} {i j : Nat} {order : Order θ}

/-! ## The verdict is settled behind the events -/

/-- Nothing is pending behind the action that settles the verdict, and once that has begun nothing
is pending at all. -/
structure SettlesLast (s : Runtime σ γ τ θ κ δ ε) : Prop where
  pending : Action.SettleLast s.pending
  settles : ∀ t ∈ s.tasks, ∀ v, t.job = .settle v → s.pending = []

/-- Whatever a move does to the tasks, it begins no end of the detection but with the action that
settles the verdict. -/
theorem SettlesLast.of_tasks (h : s.SettlesLast) (hpending : s'.pending = s.pending)
    (htasks : ∀ t' ∈ s'.tasks, ∀ v, t'.job = .settle v → ∃ t ∈ s.tasks, t.job = .settle v) :
    s'.SettlesLast := by
  refine ⟨hpending ▸ h.pending, fun t' ht' v hjob => ?_⟩
  obtain ⟨t, ht, hjob⟩ := htasks t' ht' v hjob
  exact hpending.trans (h.settles t ht v hjob)

theorem SettlesLast.apply (h : s.SettlesLast) (hkept : s.Kept) (k : Constructor γ τ θ κ δ ε)
    (server : Server σ) (m : Move σ θ) : (s.apply k server m).SettlesLast := by
  cases m with
  | call c =>
    refine h.of_tasks rfl fun t' ht' v hjob => ?_
    rcases List.mem_append.mp ht' with hold | hnew
    · exact ⟨t', hold, hjob⟩
    · rw [List.mem_singleton.mp hnew] at hjob
      cases hjob
  | step i =>
    have hpending : (s.step k i).pending = s.pending := (step_frame k s i).2.2
    refine h.of_tasks hpending fun t' ht' v hjob => ?_
    obtain ⟨j, hj⟩ := List.mem_iff_getElem?.mp ht'
    rcases apply_origin k server hj with hold | ⟨-, u, hu, hsteps⟩ | ⟨hj', -⟩
    · exact ⟨t', List.mem_of_getElem? hold, hjob⟩
    · exact ⟨u, List.mem_of_getElem? hu, hsteps.job_eq.symm.trans hjob⟩
    · obtain ⟨hlt, -⟩ := List.getElem?_eq_some_iff.mp hj
      rw [hj'] at hlt
      exact absurd hlt (by simp [Runtime.apply])
  | detect =>
    rw [Runtime.apply, detect]
    split
    · exact h
    · rename_i hnone
      refine ⟨Action.settleLast_ofDetection _ _, fun t ht v hjob => ?_⟩
      -- No task settles a verdict that is not there yet.
      have hv : s.verdict? = some v := hkept.settles t ht v hjob
      rw [verdict?, hnone] at hv
      cases hv
  | advance =>
    rw [Runtime.apply, advance]
    split
    · exact h
    · rename_i e rest hpending
      have hlast : Action.SettleLast (.emit e :: rest) := hpending ▸ h.pending
      refine ⟨hlast, fun t ht v hjob => ?_⟩
      cases hpending.symm.trans (h.settles t ht v hjob)
    · rename_i inside rest hpending
      have hlast : Action.SettleLast (.settle inside :: rest) := hpending ▸ h.pending
      obtain rfl : rest = [] := hlast
      exact ⟨trivial, fun _ _ _ _ => rfl⟩
  | change world => exact ⟨h.pending, h.settles⟩
  | pass milliseconds => exact ⟨h.pending, h.settles⟩

theorem SettlesLast.run (h : s.SettlesLast) (hkept : s.Kept) (k : Constructor γ τ θ κ δ ε)
    (server : Server σ) (moves : List (Move σ θ)) : (s.run k server moves).SettlesLast := by
  induction moves generalizing s with
  | nil => exact h
  | cons m moves ih => exact ih (h.apply hkept k server m) (hkept.apply k server m)

theorem settlesLast_start (p : Plugin γ τ) (world : σ) (memory : κ) :
    (start p world memory : Runtime σ γ τ θ κ δ ε).SettlesLast :=
  ⟨trivial, fun t ht => by cases ht⟩

/-- **The verdict comes behind the events.** Once a value is stored in the cell, the detection has
left all of its events, and the one of a verdict tells that value. -/
theorem told_of_stored {p : Plugin γ τ} (hp : p.state.verdict = .pending)
    (k : Constructor γ τ θ κ δ ε) (server : Server σ) (world : σ) (memory : κ)
    {moves : List (Move σ θ)} {v : Bool}
    (hv : ((start p world memory).run k server moves).stored? = some v) :
    ⟨.detection, (told p.detector.baseUrl v).within p.state.logger⟩ ∈
      (start p world memory).journal k server moves := by
  have hstart : (start p world memory : Runtime σ γ τ θ κ δ ε).Kept := kept_start hp world memory
  have hsettled : ((start p world memory).run k server moves).verdict? = some v :=
    (hstart.run k server moves).verdict_of_stored hv
  have hpending : ((start p world memory).run k server moves).pending = [] := by
    obtain ⟨t, ht, hstored⟩ := List.exists_of_findSome?_eq_some hv
    exact ((settlesLast_start p world memory).run hstart k server moves).settles t ht v
      (Task.job_of_stored hstored)
  have hmem : .detect ∈ moves := by
    by_contra hnot
    rw [verdict?, detection?_run_none rfl k server hnot] at hsettled
    cases hsettled
  obtain ⟨before, after, rfl, hnot⟩ := List.eq_append_cons_of_mem hmem
  have hevents := detection_events rfl rfl k server hnot after (s := start p world memory)
  rw [hpending, List.filterMap_nil, List.append_nil] at hevents
  rw [verdict?, detection?_run_detect rfl k server hnot after] at hsettled
  obtain rfl := Option.some.inj hsettled
  refine mem_eventsOf_iff.mp ?_
  rw [hevents]
  exact List.mem_map.mpr ⟨_, (detect_story _ server _).told_mem, rfl⟩

/-! ## All together -/

theorem Recorded.announced_eq {memory : κ} {stage : Stage γ τ θ δ ε} (h : Recorded k memory s)
    (hi : s.tasks[i]? = some ⟨.call (.build order), stage⟩) :
    s.announced i = (stage.args?.map fun args =>
      announcement s.plugin.state.logger order.source order.pipeline args.inside).toList := by
  rw [announced_of_getElem? hi, Task.announced]
  rcases hargs : stage.args? with _ | args
  · rfl
  · have hlogger : args.logger = s.plugin.state.logger := by
      rw [h.args _ (List.mem_of_getElem? hi) order args rfl hargs]
      rfl
    rw [Option.map_some, Option.map_some, hlogger, Order.event_within]

theorem exists_build_of_announced {e : Event} (he : e ∈ s.announced i) :
    ∃ order stage, s.tasks[i]? = some ⟨.call (.build order), stage⟩ := by
  rcases hi : s.tasks[i]? with _ | ⟨job, stage⟩
  · rw [announced, hi] at he
    cases he
  · rw [announced_of_getElem? hi] at he
    rcases job with (order | _ | _ | _) | inside
    · exact ⟨order, stage, rfl⟩
    all_goals cases he

theorem Recorded.spans_of_announced {memory : κ} {e : Event} (h : Recorded k memory s)
    (he : e ∈ s.announced i) : e.spans = s.plugin.state.logger.toList := by
  obtain ⟨order, stage, hi⟩ := exists_build_of_announced he
  rw [h.announced_eq hi] at he
  obtain ⟨args, -, rfl⟩ := Option.map_eq_some_iff.mp (Option.mem_toList.mp he)
  exact spans_announcement _ _ _ _

theorem spans_of_detection (hnone : s.detection? = none) (hpending : s.pending = [])
    {moves : List (Move σ θ)} {e : Event}
    (he : e ∈ eventsOf .detection (s.journal k server moves)) :
    e.spans = s.plugin.state.logger.toList := by
  by_cases hmem : .detect ∈ moves
  · obtain ⟨before, after, rfl, hnot⟩ := List.eq_append_cons_of_mem hmem
    have hall := detection_events hnone hpending k server hnot after ▸ List.mem_append_left _ he
    obtain ⟨own, hown, rfl⟩ := List.mem_map.mp hall
    rw [Event.spans_within, (detect_story _ server _).isStory.spans_eq_nil own hown]
    exact List.append_nil _
  · rw [detection_silent hpending k server hmem] at he
    cases he

/-- A build that saw a positive verdict leaves its event behind the one of the detection that tells
the verdict. -/
theorem told_of_announced {p : Plugin γ τ} (hp : p.state.verdict = .pending)
    {world : σ} {memory : κ} {moves : List (Move σ θ)} {past later : List Entry}
    {span : Option Span} {source : Source} {pipeline : Pipeline}
    (h : (start p world memory).journal k server moves =
      past ++ ⟨.build i, announcement span source pipeline true⟩ :: later) :
    ⟨.detection, (told p.detector.baseUrl true).within p.state.logger⟩ ∈ past := by
  obtain ⟨before, m, after, -, rfl, hm⟩ := exists_move_of_journal h
  rcases entry_cases hm with ⟨j, order, seen, -, hj, hentry⟩ | ⟨e, rest, -, -, hentry⟩
  · have hevent := congrArg Entry.event hentry
    rw [Order.event_within] at hevent
    obtain rfl : true = seen := inside_of_announcement hevent
    rcases (kept_start hp world memory).snapshot_of_seen before hj rfl rfl with
      ⟨u, hu, -, -⟩ | ⟨first, second, rfl, -, hvalue⟩
    · cases hu
    · have hstored : ((start p world memory).run k server first).stored? = some true := by
        rcases hs : ((start p world memory).run k server first).stored? with _ | v
        · rw [hs] at hvalue
          cases hvalue
        · rw [hs] at hvalue
          exact congrArg some hvalue.symm
      rw [journal_append]
      exact List.mem_append_left _ (told_of_stored hp k server world memory hstored)
  · cases congrArg Entry.author hentry

/-- **The events of a plugin.** Of a plugin that a builder has started, however driver calls, reads,
waits and the detection get between each other's steps, and whether the constructor succeeds or
fails, the log is the events of the one detection and of the driver calls. All of them lie in the
span that the logger answers for the name of the plugin, and in no other. Without a detection there
are no events of it; those that it has not left yet are pending, and when its verdict is settled
nothing is. Each driver call has left one event when it has the arguments of its driver, and none
before; the event tells the key, the name of the pipeline and the very value that the constructor is
called with. When each snapshot and its event are one step, the events come in the order of the
snapshots. And an event that tells of a driver call with a positive verdict comes behind the event
of the detection that tells this verdict. -/
theorem event_log (b : Builder γ τ) (inRuntime : Bool) (p : Plugin γ τ)
    (hinit : (b.init inRuntime).result = .ok p) (k : Constructor γ τ θ κ δ ε) (server : Server σ)
    (world : σ) (memory : κ) (moves : List (Move σ θ)) :
    let client := b.detector.getD .forDetection
    let span := (b.logger.getD .standard).span? "sqs"
    let started := (start p world memory : Runtime σ γ τ θ κ δ ε)
    let s := started.run k server moves
    let journal := started.journal k server moves
    s.log = journal.map Entry.event ∧ (∀ e ∈ s.log, e.spans = span.toList) ∧
    (b.logger = none → span = some ⟨"plugin", [("name", "sqs")]⟩) ∧
    (.detect ∉ moves → eventsOf .detection journal = []) ∧
    (∀ before after, moves = before ++ .detect :: after → .detect ∉ before →
      eventsOf .detection journal ++ s.pending.filterMap Action.event? =
        (Metadata.detect client server (started.run k server before).world).events.map
          (·.within span)) ∧
    (s.cell.ready = true → s.pending = []) ∧
    (∀ entry ∈ journal, ∀ i, entry.author = .build i →
      ∃ order stage, s.tasks[i]? = some ⟨.call (.build order), stage⟩) ∧
    (∀ (i : Nat) order stage, s.tasks[i]? = some ⟨.call (.build order), stage⟩ →
      eventsOf (.build i) journal = (stage.args?.map fun args =>
        announcement span order.source order.pipeline args.inside).toList) ∧
    (∀ call ∈ s.invocations, eventsOf (.build call.task) journal =
      [announcement span call.source call.pipeline call.args.inside]) ∧
    (AtOnce k server started moves → buildsIn journal = started.snapshots k server moves) ∧
    ∀ past i source pipeline later,
      journal = past ++ ⟨.build i, announcement span source pipeline true⟩ :: later →
        ⟨.detection, (told client.baseUrl true).within span⟩ ∈ past := by
  intro client span started s journal
  obtain ⟨config, -, hp⟩ := Builder.init_eq_ok hinit
  have hfresh : p.state.verdict = .pending := by rw [hp]
  have hclient : p.detector = client := by rw [hp]
  have hspan : p.state.logger = span := by rw [hp]; rfl
  have hstart : started.Kept := kept_start hfresh world memory
  have hkept : s.Kept := hstart.run k server moves
  have hrecorded : Recorded k memory s := (recorded_start k p world memory).run server moves
  have hplugin : s.plugin = p := plugin_run k server started moves
  have hlog : s.log = journal.map Entry.event := log_run k server started moves
  have hleft (i : Nat) : s.announced i = eventsOf (.build i) journal :=
    announced_run k server started moves i
  have hbuild (i : Nat) (order : Order θ) (stage : Stage γ τ θ δ ε)
      (hi : s.tasks[i]? = some ⟨.call (.build order), stage⟩) :
      eventsOf (.build i) journal = (stage.args?.map fun args =>
        announcement span order.source order.pipeline args.inside).toList := by
    rw [← hleft, hrecorded.announced_eq hi, hplugin, hspan]
  have hprompt : started.Prompt := fun t ht => by cases ht
  refine ⟨hlog, fun e he => ?_, fun hlogger => ?_, detection_silent rfl k server, ?_,
    fun hready => ?_, ?_, hbuild, fun call hcall => ?_,
    fun honce => honce.buildsIn_journal hstart hprompt, ?_⟩
  · obtain ⟨⟨author, e⟩, hentry, rfl⟩ := List.mem_map.mp (hlog ▸ he)
    have hmem := mem_eventsOf_iff.mpr hentry
    cases author with
    | detection =>
      rw [← hspan]
      exact spans_of_detection (s := started) rfl rfl hmem
    | build i =>
      rw [← hleft] at hmem
      rw [← hspan, ← hplugin]
      exact hrecorded.spans_of_announced hmem
  · show (b.logger.getD .standard).span? "sqs" = _
    rw [hlogger]
    rfl
  · rintro before after rfl hnot
    rw [← hclient, ← hspan]
    exact detection_events rfl rfl k server hnot after
  · obtain ⟨t, ht, v, hv⟩ := hkept.stores hready
    exact ((settlesLast_start p world memory).run hstart k server moves).settles t ht v
      (Task.job_of_stored hv)
  · rintro ⟨author, e⟩ hentry i rfl
    refine exists_build_of_announced (e := e) ?_
    rw [hleft]
    exact mem_eventsOf_iff.mpr hentry
  · -- The one call of the constructor that the task has made is this one.
    obtain ⟨order, args, result, ht⟩ := hrecorded.built_of_mem hcall
    obtain ⟨memory', hmade, -⟩ := hrecorded.called _ _ ht
    have hmem : call ∈ s.invocations.filter (·.task = call.task) := by simpa using hcall
    rw [hmade] at hmem
    rw [hbuild _ _ _ ht, List.mem_singleton.mp hmem]
    rfl
  · intro past i source pipeline later hsplit
    rw [← hclient, ← hspan]
    exact told_of_announced hfresh hsplit

/-- Two driver calls behind the end of the detection: the second one takes its snapshot first. -/
def overtaking (order : Order Unit) : List (Move Unit Unit) :=
  [.detect, .advance, .advance] ++ List.replicate 5 (Move.step 0) ++
    [.call (.build order), .call (.build order), .step 1, .step 2] ++
    List.replicate 3 (Move.step 2) ++ List.replicate 3 (Move.step 1)

/-- The second driver call leaves its event first. -/
theorem event_log_of_overtaking :
    let b : Builder Unit Unit := { config := some (), detector := some ⟨"http://a", 2000⟩ }
    let order : Order Unit := ⟨.config "queue", .new "late" "sqs", ()⟩
    ∃ p, (b.init true).result = .ok p ∧
      let started : Runtime Unit Unit Unit Unit Nat Nat Empty := start p () 0
      buildsIn (started.journal numbering welcoming (overtaking order)) = [2, 1] ∧
        ∀ e ∈ (started.run numbering welcoming (overtaking order)).log,
          e.spans = [⟨"plugin", [("name", "sqs")]⟩] := by
  intro b order
  refine ⟨⟨{ tracer := none, logger := Logger.standard.span? pluginName, config := () },
    ⟨"http://a", 2000⟩⟩, rfl, ?_⟩
  obtain ⟨-, hspans, -, -, -, -, -, -, -, hbuilds, -⟩ :=
    event_log b true _ rfl numbering welcoming () 0 (overtaking order)
  refine ⟨(hbuilds ?_).trans (by decide +kernel), hspans⟩
  -- Twelve moves take no snapshot, and each of the builds takes the next three in one go.
  refine .other ?_ (.other ?_ (.other ?_ (.other ?_ (.other ?_ (.other ?_ (.other ?_ (.other ?_
    (.other ?_ (.other ?_ (.other ?_ (.other ?_ (.snapshot ?_ (.snapshot ?_ .nil)))))))))))))
  all_goals decide +kernel

end Runtime

end CloudQueue
