import CloudQueue.Proofs.Plugin.DriverCalls

/-!
# The journal of a run

The journal of a run is its log with the authors of the events (`log_run`). What one author has left
in it is read off the state: a build its one event, once it has the arguments of its driver
(`announced_run`), and the detection all of its events but those that are still pending
(`detection_run`).
-/

namespace CloudQueue

open Http (Server)
open Verdict (Phase)

def Action.event? : Action → Option Event
  | .emit e => some e
  | .settle _ => none

theorem Action.events_ofDetection {σ : Type} (span : Option Span) (d : Metadata.Detection σ) :
    (ofDetection span d).filterMap event? = d.events.map (·.within span) := by
  rw [ofDetection, List.filterMap_append, List.filterMap_map, ← List.filterMap_eq_map]
  exact List.append_nil _

namespace Runtime

variable {σ γ τ θ κ δ ε : Type} {k : Constructor γ τ θ κ δ ε} {server : Server σ}
  {s s' : Runtime σ γ τ θ κ δ ε} {t : Task γ τ θ δ ε} {m : Move σ θ} {i j : Nat}

/-- Who leaves an event: the detection, or the build with a number. -/
inductive Author where
  | detection
  | build (task : Nat)
  deriving DecidableEq

/-- An event and its author. -/
structure Entry where
  author : Author
  event : Event

/-- The events of one author, in order. -/
def eventsOf (author : Author) (journal : List Entry) : List Event :=
  (journal.filter (·.author = author)).map Entry.event

def Author.build? : Author → Option Nat
  | .detection => none
  | .build i => some i

/-- The builds that left the events of a journal, in order. -/
def buildsIn (journal : List Entry) : List Nat := journal.filterMap (·.author.build?)

/-- The event that a move leaves, with its author. -/
def entryBy? (s : Runtime σ γ τ θ κ δ ε) : Move σ θ → Option Entry
  | .step i =>
    match s.tasks[i]? with
    | some ⟨.call (.build order), .cell (.ended (.flag seen))⟩ =>
      some ⟨.build i, (order.event seen).within s.plugin.state.logger⟩
    | _ => none
  | .advance =>
    match s.pending with
    | .emit e :: _ => some ⟨.detection, e⟩
    | _ => none
  | _ => none

/-- The events that moves leave, with their authors. -/
def journal (k : Constructor γ τ θ κ δ ε) (server : Server σ) :
    Runtime σ γ τ θ κ δ ε → List (Move σ θ) → List Entry
  | _, [] => []
  | s, m :: moves => (s.entryBy? m).toList ++ journal k server (s.apply k server m) moves

def Task.announced : Task γ τ θ δ ε → List Event
  | ⟨.call (.build order), stage⟩ =>
    (stage.args?.map fun args => (order.event args.inside).within args.logger).toList
  | _ => []

/-- The events that the task number `i` has left. -/
def announced (s : Runtime σ γ τ θ κ δ ε) (i : Nat) : List Event :=
  s.tasks[i]?.elim [] Task.announced

/-! ## Moves that leave an event -/

theorem entryBy?_step_of_seen {order : Order θ} {seen : Bool}
    (hi : s.tasks[i]? = some ⟨.call (.build order), .cell (.ended (.flag seen))⟩) :
    s.entryBy? (.step i) = some ⟨.build i, (order.event seen).within s.plugin.state.logger⟩ := by
  rw [entryBy?, hi]

theorem entryBy?_step_eq_none (h : ∀ order seen,
    s.tasks[i]? ≠ some ⟨.call (.build order), .cell (.ended (.flag seen))⟩) :
    s.entryBy? (.step i) = none := by
  rw [entryBy?]
  split
  · rename_i order seen hi
    exact absurd hi (h order seen)
  · rfl

/-- A build leaves an event with the step that accepts its order, and the detection with an
action. -/
theorem entry_cases {entry : Entry} (h : s.entryBy? m = some entry) :
    (∃ i order seen, m = .step i ∧
      s.tasks[i]? = some ⟨.call (.build order), .cell (.ended (.flag seen))⟩ ∧
      entry = ⟨.build i, (order.event seen).within s.plugin.state.logger⟩) ∨
    ∃ e rest, m = .advance ∧ s.pending = .emit e :: rest ∧ entry = ⟨.detection, e⟩ := by
  unfold entryBy? at h
  split at h
  · rename_i i
    split at h
    · rename_i order seen hi
      exact .inl ⟨i, order, seen, rfl, hi, (Option.some.inj h).symm⟩
    · cases h
  · split at h
    · rename_i e rest hpending
      exact .inr ⟨e, rest, rfl, hpending, (Option.some.inj h).symm⟩
    · cases h
  · cases h

/-! ## Journals -/

theorem eventsOf_append (author : Author) (first second : List Entry) :
    eventsOf author (first ++ second) = eventsOf author first ++ eventsOf author second := by
  simp [eventsOf]

theorem mem_eventsOf_iff {author : Author} {journal : List Entry} {e : Event} :
    e ∈ eventsOf author journal ↔ ⟨author, e⟩ ∈ journal := by
  constructor
  · intro h
    obtain ⟨entry, hentry, rfl⟩ := List.mem_map.mp h
    obtain ⟨hmem, hauthor⟩ := List.mem_filter.mp hentry
    obtain rfl : entry.author = author := by simpa using hauthor
    exact hmem
  · intro h
    exact List.mem_map.mpr ⟨_, List.mem_filter.mpr ⟨h, by simp⟩, rfl⟩

theorem journal_append (k : Constructor γ τ θ κ δ ε) (server : Server σ)
    (s : Runtime σ γ τ θ κ δ ε) (first second : List (Move σ θ)) :
    s.journal k server (first ++ second) =
      s.journal k server first ++ (s.run k server first).journal k server second := by
  induction first generalizing s with
  | nil => rfl
  | cons m first ih => rw [List.cons_append, journal, ih, journal, run_cons, List.append_assoc]

/-- Every entry of a journal is left by one of the moves, behind the entries of the moves in front
of it. -/
theorem exists_move_of_journal {past later : List Entry} {entry : Entry} {moves : List (Move σ θ)}
    (h : s.journal k server moves = past ++ entry :: later) : ∃ before m after,
      moves = before ++ m :: after ∧ s.journal k server before = past ∧
      (s.run k server before).entryBy? m = some entry := by
  induction moves generalizing s past with
  | nil => simp [journal] at h
  | cons m moves ih =>
    rw [journal] at h
    rcases hm : s.entryBy? m with _ | first
    · rw [hm] at h
      obtain ⟨before, m', after, rfl, hpast, hentry⟩ := ih h
      exact ⟨m :: before, m', after, rfl, by rw [journal, hm, hpast]; rfl, hentry⟩
    · rw [hm] at h
      -- The first entry is the one that is looked for, or the first of those in front of it.
      cases past with
      | nil =>
        obtain rfl : first = entry := List.head_eq_of_cons_eq h
        exact ⟨[], m, moves, rfl, rfl, hm⟩
      | cons other past =>
        obtain rfl : first = other := List.head_eq_of_cons_eq h
        obtain ⟨before, m', after, rfl, hpast, hentry⟩ := ih (List.tail_eq_of_cons_eq h)
        exact ⟨m :: before, m', after, rfl, by rw [journal, hm, hpast]; rfl, hentry⟩

/-! ## The events of builds -/

theorem announced_of_getElem? (hi : s.tasks[i]? = some t) : s.announced i = t.announced := by
  rw [announced, hi]
  rfl

theorem announced_congr (h : s'.tasks[i]? = s.tasks[i]?) : s'.announced i = s.announced i := by
  rw [announced, announced, h]

theorem announced_of_append {job : Job θ} (h : s'.tasks = s.tasks ++ [.start job]) (i : Nat) :
    s'.announced i = s.announced i := by
  rcases hi : s.tasks[i]? with _ | t
  · rw [announced, announced, hi]
    rcases hi' : s'.tasks[i]? with _ | t'
    · rfl
    · rw [h] at hi'
      rcases Verdict.getElem?_append_singleton_cases hi' with hold | ⟨-, rfl⟩
      · cases hi.symm.trans hold
      · rcases job with (order | _ | _ | _) | inside <;> rfl
  · obtain ⟨hlt, -⟩ := List.getElem?_eq_some_iff.mp hi
    exact announced_congr (by rw [h, List.getElem?_append_left hlt])

@[simp] theorem Task.announced_cell (job : Job θ) (phase : Phase) :
    (⟨job, .cell phase⟩ : Task γ τ θ δ ε).announced = [] := by
  rcases job with (order | _ | _ | _) | inside <;> rfl

theorem announced_of_set {t' : Task γ τ θ δ ε} (hj : s.tasks[j]? = some t)
    (htasks : s'.tasks = s.tasks.set j t') (hsame : t'.announced = t.announced) (i : Nat) :
    s'.announced i = s.announced i := by
  by_cases hij : j = i
  · subst hij
    have hj' : s'.tasks[j]? = some t' := by
      rw [htasks, List.getElem?_set_self (List.getElem?_eq_some_iff.mp hj).1]
    rw [announced_of_getElem? hj', announced_of_getElem? hj, hsame]
  · exact announced_congr (by rw [htasks, List.getElem?_set_ne hij])

theorem announced_accept {order : Order θ} {seen : Bool}
    (hj : s.tasks[j]? = some ⟨.call (.build order), .cell (.ended (.flag seen))⟩) (i : Nat) :
    (s.accept j order seen).announced i = s.announced i ++ eventsOf (.build i)
      [⟨.build j, (order.event seen).within s.plugin.state.logger⟩] := by
  by_cases hij : j = i
  · subst hij
    have hj' : (s.accept j order seen).tasks[j]? = some ⟨.call (.build order),
        .accepted ((s.snapshot seen).driverArgs order.queue)⟩ :=
      List.getElem?_set_self (List.getElem?_eq_some_iff.mp hj).1
    have hown (e : Event) : eventsOf (.build j) [⟨.build j, e⟩] = [e] := by simp [eventsOf]
    rw [announced_of_getElem? hj', announced_of_getElem? hj, Task.announced_cell, hown]
    rfl
  · have hstay : (s.accept j order seen).announced i = s.announced i :=
      announced_congr (List.getElem?_set_ne hij)
    rw [hstay]
    simp [eventsOf, hij]

theorem accept_or_silent (k : Constructor γ τ θ κ δ ε) (s : Runtime σ γ τ θ κ δ ε) (j : Nat) :
    (∃ order seen, s.tasks[j]? = some ⟨.call (.build order), .cell (.ended (.flag seen))⟩ ∧
      s.step k j = s.accept j order seen) ∨
    s.entryBy? (.step j) = none ∧ (s.step k j).log = s.log ∧
      ∀ i, (s.step k j).announced i = s.announced i := by
  rcases hj : s.tasks[j]? with _ | t
  · exact .inr ⟨entryBy?_step_eq_none (by simp [hj]), by rw [step_of_none k hj],
      fun i => by rw [step_of_none k hj]⟩
  · rcases step_cases k hj with ⟨job, phase, rfl, hcell, hstep⟩ | ⟨order, seen, rfl, hstep⟩ |
      ⟨order, args, rfl, hstep⟩ | ⟨hbehind, hstep⟩
    · refine .inr ⟨entryBy?_step_eq_none ?_, by rw [hstep]; rfl, fun i => ?_⟩
      · rintro order seen hj'
        cases hj.symm.trans hj'
        exact hcell order seen rfl rfl
      · rw [hstep]
        exact announced_of_set hj rfl (by rw [Task.announced_cell, Task.announced_cell]) i
    · exact .inl ⟨order, seen, rfl, hstep⟩
    · refine .inr ⟨entryBy?_step_eq_none (by simp [hj]), by rw [hstep]; rfl, fun i => ?_⟩
      have htasks : (s.invoke k j order args).tasks = s.tasks.set j ⟨.call (.build order),
          .built args (k.build s.memory order.source order.pipeline args).2⟩ := rfl
      rw [hstep]
      exact announced_of_set hj htasks rfl i
    · refine .inr ⟨entryBy?_step_eq_none ?_, by rw [hstep], fun i => by rw [hstep]⟩
      rintro order seen hj'
      exact hbehind _ _ (Option.some.inj (hj.symm.trans hj'))

theorem announced_apply (k : Constructor γ τ θ κ δ ε) (server : Server σ)
    (s : Runtime σ γ τ θ κ δ ε) (m : Move σ θ) (i : Nat) : (s.apply k server m).announced i =
      s.announced i ++ eventsOf (.build i) (s.entryBy? m).toList := by
  cases m with
  | call c => exact (announced_of_append rfl i).trans (List.append_nil _).symm
  | step j =>
    rw [apply]
    rcases accept_or_silent k s j with ⟨order, seen, hj, hstep⟩ | ⟨hnone, -, hstay⟩
    · rw [hstep, entryBy?_step_of_seen hj]
      exact announced_accept hj i
    · rw [hstay, hnone]
      exact (List.append_nil _).symm
  | detect =>
    rw [apply, detect]
    split <;> exact (List.append_nil _).symm
  | advance =>
    rw [apply, advance, entryBy?]
    rcases s.pending with _ | ⟨e | inside, rest⟩
    · exact (List.append_nil _).symm
    · exact (List.append_nil _).symm
    · exact (announced_of_append rfl i).trans (List.append_nil _).symm
  | change world => exact (List.append_nil _).symm
  | pass milliseconds => exact (List.append_nil _).symm

/-- What a build has left in a journal is what the state says that it has left. -/
theorem announced_run (k : Constructor γ τ θ κ δ ε) (server : Server σ)
    (s : Runtime σ γ τ θ κ δ ε) (moves : List (Move σ θ)) (i : Nat) :
    (s.run k server moves).announced i =
      s.announced i ++ eventsOf (.build i) (s.journal k server moves) := by
  induction moves generalizing s with
  | nil => exact (List.append_nil _).symm
  | cons m moves ih =>
    rw [run_cons, ih, announced_apply, journal, eventsOf_append, List.append_assoc]

/-! ## The log -/

theorem log_apply (k : Constructor γ τ θ κ δ ε) (server : Server σ)
    (s : Runtime σ γ τ θ κ δ ε) (m : Move σ θ) :
    (s.apply k server m).log = s.log ++ (s.entryBy? m).toList.map Entry.event := by
  cases m with
  | step j =>
    rw [apply]
    rcases accept_or_silent k s j with ⟨order, seen, hj, hstep⟩ | ⟨hnone, hlog, -⟩
    · rw [hstep, entryBy?_step_of_seen hj]
      rfl
    · rw [hlog, hnone]
      exact (List.append_nil _).symm
  | detect =>
    rw [apply, detect]
    split <;> exact (List.append_nil _).symm
  | advance =>
    rw [apply, advance, entryBy?]
    rcases s.pending with _ | ⟨e | inside, rest⟩
    · exact (List.append_nil _).symm
    · rfl
    · exact (List.append_nil _).symm
  | call c => exact (List.append_nil _).symm
  | change world => exact (List.append_nil _).symm
  | pass milliseconds => exact (List.append_nil _).symm

/-- The log of a run is its journal. -/
theorem log_run (k : Constructor γ τ θ κ δ ε) (server : Server σ) (s : Runtime σ γ τ θ κ δ ε)
    (moves : List (Move σ θ)) :
    (s.run k server moves).log = s.log ++ (s.journal k server moves).map Entry.event := by
  induction moves generalizing s with
  | nil => exact (List.append_nil _).symm
  | cons m moves ih =>
    rw [run_cons, ih, log_apply, journal, List.map_append, List.append_assoc]

/-! ## The events of the detection -/

theorem detection_apply (k : Constructor γ τ θ κ δ ε) (server : Server σ)
    (hm : m = .detect → s.detection? ≠ none) :
    eventsOf .detection (s.entryBy? m).toList ++
      (s.apply k server m).pending.filterMap Action.event? =
        s.pending.filterMap Action.event? := by
  cases m with
  | call c => rfl
  | step i =>
    -- What a task does is not the detection's, and nothing of the detection is gone with it.
    have hnot : eventsOf .detection (s.entryBy? (.step i)).toList = [] := by
      rw [entryBy?]
      split <;> rfl
    rw [hnot, apply, (step_frame k s i).2.2]
    rfl
  | detect =>
    obtain ⟨d, hd⟩ := Option.ne_none_iff_exists'.mp (hm rfl)
    rw [apply, detect, hd]
    rfl
  | advance =>
    rw [apply, advance, entryBy?]
    rcases hpending : s.pending with _ | ⟨e | inside, rest⟩
    · exact congrArg (List.filterMap Action.event?) hpending
    · rfl
    · rfl
  | change world => rfl
  | pass milliseconds => rfl

/-- While the detection is not run anew, it leaves what was pending at the start, and what it has
not left is pending at the end. -/
theorem detection_run (k : Constructor γ τ θ κ δ ε) (server : Server σ)
    (s : Runtime σ γ τ θ κ δ ε) (moves : List (Move σ θ))
    (hmoves : .detect ∈ moves → s.detection? ≠ none) :
    eventsOf .detection (s.journal k server moves) ++
      (s.run k server moves).pending.filterMap Action.event? =
        s.pending.filterMap Action.event? := by
  induction moves generalizing s with
  | nil => rfl
  | cons m moves ih =>
    have hm : m = .detect → s.detection? ≠ none := fun h => hmoves (h ▸ List.mem_cons_self)
    have hrest : .detect ∈ moves → (s.apply k server m).detection? ≠ none := by
      intro hmem
      obtain ⟨d, hd⟩ := Option.ne_none_iff_exists'.mp (hmoves (List.mem_cons_of_mem m hmem))
      rw [detection?_apply k server hd m]
      exact Option.some_ne_none d
    rw [journal, eventsOf_append, List.append_assoc, run_cons, ih _ hrest,
      detection_apply k server hm]

theorem detection_silent (hpending : s.pending = []) (k : Constructor γ τ θ κ δ ε)
    (server : Server σ) {moves : List (Move σ θ)} (hnot : .detect ∉ moves) :
    eventsOf .detection (s.journal k server moves) = [] := by
  have hevents := detection_run k server s moves fun h => absurd h hnot
  rw [hpending] at hevents
  exact (List.append_eq_nil_iff.mp hevents).1

/-- The one detection leaves its events one after the other: those that it has not left are
pending. -/
theorem detection_events (hnone : s.detection? = none) (hpending : s.pending = [])
    (k : Constructor γ τ θ κ δ ε) (server : Server σ) {before : List (Move σ θ)}
    (hnot : .detect ∉ before) (after : List (Move σ θ)) :
    eventsOf .detection (s.journal k server (before ++ .detect :: after)) ++
      (s.run k server (before ++ .detect :: after)).pending.filterMap Action.event? =
        (Metadata.detect s.plugin.detector server (s.run k server before).world).events.map
          (·.within s.plugin.state.logger) := by
  have hstill : (s.run k server before).detection? = none := detection?_run_none hnone k server hnot
  have hrun : ((s.run k server before).apply k server .detect).pending =
      Action.ofDetection s.plugin.state.logger
        (Metadata.detect s.plugin.detector server (s.run k server before).world) := by
    rw [apply, detect, hstill, plugin_run]
  have hafter := detection_run k server ((s.run k server before).apply k server .detect) after
    fun _ => by simp [apply, detect, hstill]
  rw [hrun, Action.events_ofDetection] at hafter
  rw [run_append, run_cons, journal_append, eventsOf_append,
    detection_silent hpending k server hnot, ← hafter]
  rfl

end Runtime

end CloudQueue
