import CloudQueue.Plugin.Host
import CloudQueue.Proofs.Plugin.DriverCalls

/-!
# Starting a plugin

Of the calls for one collaborator the last one counts (`Builder.ofCalls_eq`). A start in a host
either fails and leaves the host as it was, or asks one logger once and hands one detection to the
runtime (`Builder.start_cases`). `Builder.start_outcome` says what comes of any calls.
-/

namespace CloudQueue

open Http (Server)
open Metadata (Client)

/-! ## The host at work -/

namespace Host

variable {σ : Type} {host : Host σ}

theorem iterate_work_of_idle (h : host.waiting = []) (server : Server σ) (n : Nat) :
    (work server)^[n] host = host := by
  refine Function.iterate_fixed ?_ n
  rw [work, h]

/-- A host whose runtime has one detection to run runs it, and then stays as it is. -/
theorem iterate_work_of_single {detection : Handover} (h : host.waiting = [detection])
    (server : Server σ) (n : Nat) :
    let d := Metadata.detect detection.client server host.world
    (work server)^[n + 1] host = { host with
      world := d.state
      waiting := []
      log := host.log ++ d.events.map (Event.within detection.span)
      hops := host.hops ++ d.hops } := by
  rw [Function.iterate_succ_apply, work, h]
  exact iterate_work_of_idle rfl server n

end Host

/-! ## Drivers -/

theorem Runtime.collaborators_run {σ γ τ θ κ δ ε : Type} (k : Constructor γ τ θ κ δ ε)
    (server : Server σ) (p : Plugin γ τ) (world : σ) (memory : κ) (moves : List (Move σ θ))
    {call : Invocation γ τ θ κ}
    (hcall : call ∈ ((start p world memory).run k server moves).invocations) :
    call.args.config = p.state.config ∧ call.args.tracer = p.state.tracer ∧
      call.args.logger = p.state.logger := by
  have hrecorded := (recorded_start k p world memory).run server moves
  have hplugin := plugin_run k server (start p world memory) moves
  obtain ⟨hconfig, htracer, hlogger⟩ := hrecorded.collaborators_of_mem hcall
  rw [hplugin] at hconfig htracer hlogger
  exact ⟨hconfig, htracer, hlogger⟩

namespace Builder

variable {α β γ τ σ : Type} {calls calls' : List (Call γ τ)} {b : Builder γ τ} {host : Host σ}

/-! ## The last calls -/

def Call.logger? : Call γ τ → Option Logger
  | .logger l => some l
  | _ => none

def Call.config? : Call γ τ → Option γ
  | .config c => some c
  | _ => none

/-- What a call says of the tracing provider: which one it is, or that there is none. -/
def Call.tracer? : Call γ τ → Option (Option τ)
  | .tracer t => some t
  | _ => none

def Call.detector? : Call γ τ → Option Client
  | .detector d => some d
  | _ => none

/-- What the last of the calls gives that give anything of a kind. -/
def last? (given? : Call γ τ → Option α) (calls : List (Call γ τ)) : Option α :=
  (calls.filterMap given?).getLast?

/-- The last calls for each collaborator are the same. -/
structure LastAlike (calls calls' : List (Call γ τ)) : Prop where
  logger : last? Call.logger? calls = last? Call.logger? calls'
  config : last? Call.config? calls = last? Call.config? calls'
  tracer : last? Call.tracer? calls = last? Call.tracer? calls'
  detector : last? Call.detector? calls = last? Call.detector? calls'

theorem last?_concat (given? : Call γ τ → Option α) (calls : List (Call γ τ)) (c : Call γ τ) :
    last? given? (calls ++ [c]) = (given? c).or (last? given? calls) := by
  rcases hc : given? c with _ | a <;> simp [last?, List.filterMap_append, hc]

theorem last?_config_eq_none_iff : last? Call.config? calls = none ↔ ∀ c, .config c ∉ calls := by
  rw [last?, List.getLast?_eq_none_iff, List.filterMap_eq_nil_iff]
  constructor
  · intro hnone c hc
    cases hnone _ hc
  · intro hnot call hcall
    cases call with
    | config c => exact absurd hcall (hnot c)
    | _ => rfl

theorem ofCalls_concat (calls : List (Call γ τ)) (c : Call γ τ) :
    ofCalls (calls ++ [c]) = (ofCalls calls).apply c :=
  List.foldl_concat ..

/-- What a builder holds in a field that every call either sets or leaves alone. -/
theorem ofCalls_field (field : Builder γ τ → β) (given? : Call γ τ → Option α) (set : α → β)
    (happly : ∀ b c, field (apply b c) = ((given? c).map set).getD (field b))
    (calls : List (Call γ τ)) :
    field (ofCalls calls) = ((last? given? calls).map set).getD (field {}) := by
  induction calls using List.reverseRecOn with
  | nil => rfl
  | append_singleton calls c ih =>
    rw [ofCalls_concat, happly, last?_concat, ih]
    cases given? c <;> rfl

theorem ofCalls_field_some (field : Builder γ τ → Option α) (given? : Call γ τ → Option α)
    (hempty : field {} = none)
    (happly : ∀ b c, field (apply b c) = ((given? c).map some).getD (field b))
    (calls : List (Call γ τ)) : field (ofCalls calls) = last? given? calls := by
  rw [ofCalls_field field given? some happly, hempty]
  cases last? given? calls <;> rfl

/-- **The last calls count**, and no others. -/
theorem ofCalls_eq (calls : List (Call γ τ)) : ofCalls calls =
    { logger := last? Call.logger? calls
      config := last? Call.config? calls
      tracer := (last? Call.tracer? calls).getD none
      detector := last? Call.detector? calls } := by
  have hlogger : (ofCalls calls).logger = last? Call.logger? calls :=
    ofCalls_field_some logger Call.logger? rfl (fun b c => by cases c <;> rfl) calls
  have hconfig : (ofCalls calls).config = last? Call.config? calls :=
    ofCalls_field_some config Call.config? rfl (fun b c => by cases c <;> rfl) calls
  have htracer : (ofCalls calls).tracer = ((last? Call.tracer? calls).map id).getD none :=
    ofCalls_field tracer Call.tracer? id (fun b c => by cases c <;> rfl) calls
  have hdetector : (ofCalls calls).detector = last? Call.detector? calls :=
    ofCalls_field_some detector Call.detector? rfl (fun b c => by cases c <;> rfl) calls
  rw [Option.map_id] at htracer
  rw [← hlogger, ← hconfig, ← hdetector]
  exact congrArg (Builder.mk _ _ · _) htracer

/-- A provider that was given is gone if there is to be none. -/
example : (ofCalls [.tracer (some 1), .config (), .tracer none]).tracer = none := rfl

theorem LastAlike.ofCalls_eq_ofCalls (h : LastAlike calls calls') :
    ofCalls calls = ofCalls calls' := by
  rw [ofCalls_eq, ofCalls_eq, h.logger, h.config, h.tracer, h.detector]

/-! ## Starting in a host -/

/-- **A start**, by the configuration and the runtime: it fails without the one, fails without the
other, or asks the logger and hands over the detection. `init` tells the same in one go. -/
theorem start_cases (b : Builder γ τ) (host : Host σ) :
    b.config = none ∧ b.start.run host = .error .missingConfig host ∧
      b.init host.inRuntime = ⟨[], .error .missingConfig⟩ ∨
    (∃ config, b.config = some config) ∧ host.inRuntime = false ∧
      b.start.run host = .error .noRuntime host ∧
      b.init host.inRuntime = ⟨[], .error .noRuntime⟩ ∨
    ∃ config, b.config = some config ∧ host.inRuntime = true ∧
      let logger := b.logger.getD .standard
      let detector := b.detector.getD .forDetection
      let span := logger.span? pluginName
      let p : Plugin γ τ := ⟨{ tracer := b.tracer, logger := span, config }, detector⟩
      b.start.run host = .ok p { host with
        asked := host.asked ++ [(logger, pluginName)]
        waiting := host.waiting ++ [⟨detector, span⟩] } ∧
      b.init host.inRuntime = ⟨[(logger, pluginName)], .ok p⟩ := by
  obtain ⟨logger?, config?, tracer?, detector?⟩ := b
  obtain ⟨inRuntime, world, asked, waiting, log, hops⟩ := host
  rcases config? with _ | config
  · exact .inl ⟨rfl, rfl, rfl⟩
  · cases inRuntime with
    | false => exact .inr (.inl ⟨⟨config, rfl⟩, rfl, rfl, rfl⟩)
    | true => exact .inr (.inr ⟨config, rfl, rfl, rfl, rfl⟩)

theorem start_iff (b : Builder γ τ) (host : Host σ) :
    ((∃ after, b.start.run host = .error .missingConfig after) ↔ b.config = none) ∧
    ((∃ after, b.start.run host = .error .noRuntime after) ↔
      (∃ config, b.config = some config) ∧ host.inRuntime = false) ∧
    ((∃ p after, b.start.run host = .ok p after) ↔
      (∃ config, b.config = some config) ∧ host.inRuntime = true) := by
  rcases start_cases b host with ⟨hnone, hrun, -⟩ | ⟨⟨config, hsome⟩, hout, hrun, -⟩ |
    ⟨config, hsome, hin, hrun, -⟩
  · simp [hrun, hnone]
  · simp [hrun, hsome, hout]
  · simp [hrun, hsome, hin]

theorem of_start_error {e : InitError} {after : Host σ}
    (h : b.start.run host = .error e after) :
    after = host ∧ b.init host.inRuntime = ⟨[], .error e⟩ := by
  rcases start_cases b host with ⟨-, hrun, hinit⟩ | ⟨-, -, hrun, hinit⟩ | ⟨config, -, -, hrun, -⟩
  · cases hrun.symm.trans h
    exact ⟨rfl, hinit⟩
  · cases hrun.symm.trans h
    exact ⟨rfl, hinit⟩
  · cases hrun.symm.trans h

/-- A start that succeeds has the collaborators of the builder; it has asked the logger once, and
handed over one detection. -/
theorem of_start_ok {p : Plugin γ τ} {after : Host σ} (h : b.start.run host = .ok p after) :
    let logger := b.logger.getD .standard
    let detector := b.detector.getD .forDetection
    b.config = some p.state.config ∧ p.state.tracer = b.tracer ∧
      p.state.logger = logger.span? pluginName ∧
      after = { host with
        asked := host.asked ++ [(logger, pluginName)]
        waiting := host.waiting ++ [⟨detector, logger.span? pluginName⟩] } ∧
      b.init host.inRuntime = ⟨[(logger, pluginName)], .ok p⟩ := by
  rcases start_cases b host with ⟨-, hrun, -⟩ | ⟨-, -, hrun, -⟩ | ⟨config, hconfig, -, hrun, hinit⟩
  · cases hrun.symm.trans h
  · cases hrun.symm.trans h
  · cases hrun.symm.trans h
    exact ⟨hconfig, rfl, rfl, rfl, hinit⟩

theorem config_ofCalls_eq_none_iff : (ofCalls calls).config = none ↔ ∀ c, .config c ∉ calls := by
  rw [ofCalls_eq]
  exact last?_config_eq_none_iff

theorem exists_config_ofCalls_iff :
    (∃ config, (ofCalls calls).config = some config) ↔ ∃ c, .config c ∈ calls := by
  rw [← Option.ne_none_iff_exists', ne_eq, config_ofCalls_eq_none_iff, not_forall_not]

variable {θ κ δ ε : Type}

/-- **Starting a plugin.** Take any calls on a builder, and a host inside a runtime or not. The
start fails for want of a configuration if and only if no call gives one, else for want of a runtime
if and only if there is none, and else it succeeds; `init` tells the same in one go. A start that
fails leaves its host as it was: no logger is asked, no detection is handed to the runtime, and no
event and no request is there now or comes later, unless the host has something else to run. A start
that succeeds asks the logger of the last call for one, or the standard logger, once and for `sqs`,
and hands over one detection, with the detector of the last call for one; the host runs it once.
Every driver that is built later gets the configuration of the last call for one and the tracing
provider that the last call for one says, which may be none. Calls of which the last ones are the
same come to the same. -/
theorem start_outcome (calls : List (Call γ τ)) (host : Host σ) :
    let logger := (last? Call.logger? calls).getD .standard
    let detector := (last? Call.detector? calls).getD .forDetection
    let result := (ofCalls calls).start.run host
    let told := (ofCalls calls).init host.inRuntime
    ((∃ after, result = .error .missingConfig after) ↔ ∀ c, .config c ∉ calls) ∧
    ((∃ after, result = .error .noRuntime after) ↔
      (∃ c, .config c ∈ calls) ∧ host.inRuntime = false) ∧
    ((∃ p after, result = .ok p after) ↔
      (∃ c, .config c ∈ calls) ∧ host.inRuntime = true) ∧
    (∀ e after, result = .error e after → after = host ∧ told = ⟨[], .error e⟩ ∧
      (host.waiting = [] → ∀ server n, (Host.work server)^[n] after = host)) ∧
    (∀ p after, result = .ok p after →
      after = { host with
        asked := host.asked ++ [(logger, "sqs")]
        waiting := host.waiting ++ [⟨detector, logger.span? "sqs"⟩] } ∧
      told = ⟨[(logger, "sqs")], .ok p⟩ ∧
      (host.waiting = [] → ∀ server n,
        let d := Metadata.detect detector server host.world
        (Host.work server)^[n + 1] after = { after with
          world := d.state
          waiting := []
          log := host.log ++ d.events.map (Event.within (logger.span? "sqs"))
          hops := host.hops ++ d.hops }) ∧
      ∀ (k : Constructor γ τ θ κ δ ε) (server : Server σ) world memory moves,
        ∀ call ∈ ((Runtime.start p world memory).run k server moves).invocations,
          some call.args.config = last? Call.config? calls ∧
            call.args.tracer = (last? Call.tracer? calls).getD none ∧
            call.args.logger = logger.span? "sqs") ∧
    ∀ calls', LastAlike calls calls' → (ofCalls calls').start.run host = result := by
  intro logger detector result told
  have hlogger : (ofCalls calls).logger.getD .standard = logger := by rw [ofCalls_eq]
  have hdetector : (ofCalls calls).detector.getD .forDetection = detector := by rw [ofCalls_eq]
  obtain ⟨hmissing, houtside, hok⟩ := start_iff (ofCalls calls) host
  refine ⟨hmissing.trans config_ofCalls_eq_none_iff,
    houtside.trans (and_congr_left' exists_config_ofCalls_iff),
    hok.trans (and_congr_left' exists_config_ofCalls_iff), fun e after h => ?_,
    fun p after h => ?_, fun calls' halike => ?_⟩
  · obtain ⟨rfl, htold⟩ := of_start_error h
    exact ⟨rfl, htold, fun hidle server n => Host.iterate_work_of_idle hidle server n⟩
  · obtain ⟨hconfig, htracer, hspan, hafter, htold⟩ := of_start_ok h
    rw [hlogger] at hspan hafter htold
    rw [hdetector] at hafter
    rw [ofCalls_eq] at hconfig htracer
    refine ⟨hafter, htold, fun hidle server n => ?_,
      fun k server world memory moves call hcall => ?_⟩
    · have hwaiting : after.waiting = [⟨detector, logger.span? "sqs"⟩] := by
        rw [hafter, hidle]
        rfl
      rw [Host.iterate_work_of_single hwaiting server n, hafter]
    · obtain ⟨hconfig', htracer', hlogger'⟩ :=
        Runtime.collaborators_run k server p world memory moves hcall
      refine ⟨?_, htracer'.trans htracer, hlogger'.trans hspan⟩
      rw [hconfig']
      exact hconfig.symm
  · rw [← halike.ofCalls_eq_ofCalls]

end Builder

end CloudQueue
