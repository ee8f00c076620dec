import CloudQueue.Proofs.Plugin.Alone
import CloudQueue.Proofs.Plugin.DriverCalls

/-!
# Independent builds

Builds only read. Whatever calls come and go while the detection stands still, the cell keeps all
but the number of its readers, and the plugin and the server keep everything
(`Untouched`, `Kept.untouched_run`). So with a constructor that has no effects a driver call answers
what it answers alone, in any order and in any interleaving (`Runtime.builds_independent`).
-/

namespace CloudQueue

open Http (Server)
open Verdict (Cell Phase System)

/-- A constructor without effects: its result is a function of its arguments. -/
def Constructor.ofFunction {γ τ θ κ δ ε : Type}
    (f : Source → Pipeline → DriverArgs γ τ θ → Except ε δ) : Constructor γ τ θ κ δ ε :=
  ⟨fun memory source pipeline args => (memory, f source pipeline args)⟩

/-- A call that does not settle changes nothing of the cell but the number of its readers. -/
theorem Verdict.Phase.Agrees.step_of_not_settle {first : Option Bool} {c : Cell}
    {call : Verdict.Call} {ph : Phase} (h : ph.Agrees first c call)
    (hcall : ∀ v, call ≠ .settle v) (now : Nat) :
    let after := (ph.step call now c).2
    after.inside = c.inside ∧ after.ready = c.ready ∧ after.writing = c.writing := by
  cases ph with
  | enteringWrite v => exact absurd h (hcall v)
  | deciding v => exact absurd h.1 (hcall v)
  | storing v => exact absurd h.1 (hcall v)
  | announcing =>
    obtain ⟨v, hv⟩ := h.1
    exact absurd hv (hcall v)
  | leavingWrite =>
    obtain ⟨v, hv⟩ := h.1
    exact absurd hv (hcall v)
  | enteringRead => by_cases hfree : c.writing = true <;> simp [step, hfree]
  | watching deadline =>
    by_cases hready : c.ready = true
    · simp [step, hready]
    · by_cases hd : deadline ≤ now <;> simp [step, hready, hd]
  | _ => exact ⟨rfl, rfl, rfl⟩

namespace Runtime

variable {σ γ τ θ κ δ ε : Type} {k : Constructor γ τ θ κ δ ε} {server : Server σ}
  {s s' : Runtime σ γ τ θ κ δ ε} {t : Task γ τ θ δ ε} {i j n : Nat} {v : Bool} {order : Order θ}
  {f : Source → Pipeline → DriverArgs γ τ θ → Except ε δ} {moves : List (Move σ θ)}

/-- A move that is no step of the detection: a call begins, or a task takes a step that is not the
end of the detection, or time passes. -/
def Spares (s : Runtime σ γ τ θ κ δ ε) : Move σ θ → Prop
  | .call _ | .pass _ => True
  | .step i => ∀ t, s.tasks[i]? = some t → ∀ v, t.job ≠ .settle v
  | .detect | .advance | .change _ => False

/-- From one moment to another nothing has happened to the plugin, the server, the detection and
what the constructor remembers, and to the cell only that its readers have come and gone. -/
structure Untouched (s s' : Runtime σ γ τ θ κ δ ε) : Prop where
  plugin : s'.plugin = s.plugin
  world : s'.world = s.world
  detection : s'.detection? = s.detection?
  pending : s'.pending = s.pending
  memory : s'.memory = s.memory
  inside : s'.cell.inside = s.cell.inside
  ready : s'.cell.ready = s.cell.ready
  writing : s'.cell.writing = s.cell.writing
  settles : ∀ (i : Nat) (t : Task γ τ θ δ ε), s'.tasks[i]? = some t → ∀ v, t.job = .settle v →
    s.tasks[i]? = some t

def answer? (s : Runtime σ γ τ θ κ δ ε) (i : Nat) : Option (Except ε δ) :=
  s.tasks[i]?.bind fun t => t.stage.result?

/-- The answer of a driver call that nobody disturbs. -/
def alone? (k : Constructor γ τ θ κ δ ε) (server : Server σ) (s : Runtime σ γ τ θ κ δ ε)
    (order : Order θ) : Option (Except ε δ) :=
  (s.run k server (s.inOneGo (.call (.build order)))).answer? s.tasks.length

/-- What there is to answer to an order as the runtime stands: nothing while somebody writes the
verdict, otherwise what the function says of the snapshot. -/
def outcome? (f : Source → Pipeline → DriverArgs γ τ θ → Except ε δ)
    (s : Runtime σ γ τ θ κ δ ε) (order : Order θ) : Option (Except ε δ) :=
  if s.cell.writing then none
  else some (f order.source order.pipeline ((s.snapshot s.cell.inside).driverArgs order.queue))

/-- Driver calls one after the other, each in one go. The first one is the task number `i`. -/
def oneByOne : Nat → List (Order θ) → List (Move σ θ)
  | _, [] => []
  | i, order :: rest => .call (.build order) :: List.replicate 5 (.step i) ++ oneByOne (i + 1) rest

/-! ## What builds leave alone -/

theorem Untouched.refl (s : Runtime σ γ τ θ κ δ ε) : Untouched s s :=
  ⟨rfl, rfl, rfl, rfl, rfl, rfl, rfl, rfl, fun _ _ hi _ _ => hi⟩

theorem Untouched.state_eq (h : Untouched s s') : s'.session.state = s.session.state := by
  show { s'.plugin.state with verdict := s'.cell.verdict } = _
  rw [h.plugin, Cell.verdict, h.ready, h.inside]
  rfl

theorem settle_of_step (hi : s.tasks[i]? = some t) (hcall : ∀ v, t.job ≠ .settle v)
    (k : Constructor γ τ θ κ δ ε) {u : Task γ τ θ δ ε} (hj : (s.step k i).tasks[j]? = some u)
    (hu : u.job = .settle v) : s.tasks[j]? = some u := by
  rcases step_tasks k hi with hstay | ⟨t', hsteps, htasks⟩
  · rwa [hstay] at hj
  · obtain ⟨hlt, -⟩ := List.getElem?_eq_some_iff.mp hi
    rw [htasks] at hj
    by_cases hij : i = j
    · subst hij
      rw [List.getElem?_set_self hlt] at hj
      obtain rfl := Option.some.inj hj
      exact absurd (hsteps.job_eq.symm.trans hu) (hcall v)
    · rwa [List.getElem?_set_ne hij] at hj

theorem Kept.untouched_step (h : s.Kept) (hpure : k = .ofFunction f) (hi : s.tasks[i]? = some t)
    (hcall : ∀ v, t.job ≠ .settle v) : Untouched s (s.step k i) := by
  have hsettles (j : Nat) (u : Task γ τ θ δ ε) (hj : (s.step k i).tasks[j]? = some u) (v : Bool)
      (hu : u.job = .settle v) : s.tasks[j]? = some u := settle_of_step hi hcall k hj hu
  subst hpure
  rcases step_cases (.ofFunction f) hi with ⟨job, phase, rfl, -, hstep⟩ |
    ⟨order, seen, rfl, hstep⟩ | ⟨order, args, rfl, hstep⟩ | ⟨-, hstep⟩
  · obtain ⟨first, hkept, -⟩ := h.cell
    have hagrees : phase.Agrees first s.cell job.onCell := hkept.calls i _ (onCell_getElem? hi)
    have honCell : ∀ v, job.onCell ≠ .settle v := fun v hv =>
      hcall v (Job.eq_settle_of_onCell hv)
    obtain ⟨hinside, hready, hwriting⟩ := hagrees.step_of_not_settle honCell s.clock
    rw [hstep]
    exact ⟨rfl, rfl, rfl, rfl, rfl, hinside, hready, hwriting, hstep ▸ hsettles⟩
  · rw [hstep]
    exact ⟨rfl, rfl, rfl, rfl, rfl, rfl, rfl, rfl, hstep ▸ hsettles⟩
  · rw [hstep]
    exact ⟨rfl, rfl, rfl, rfl, rfl, rfl, rfl, rfl, hstep ▸ hsettles⟩
  · rw [hstep]
    exact .refl s

theorem Untouched.trans {s'' : Runtime σ γ τ θ κ δ ε} (h : Untouched s s')
    (h' : Untouched s' s'') : Untouched s s'' where
  plugin := h'.plugin.trans h.plugin
  world := h'.world.trans h.world
  detection := h'.detection.trans h.detection
  pending := h'.pending.trans h.pending
  memory := h'.memory.trans h.memory
  inside := h'.inside.trans h.inside
  ready := h'.ready.trans h.ready
  writing := h'.writing.trans h.writing
  settles i t hi v hv := h.settles i t (h'.settles i t hi v hv) v hv

theorem Kept.untouched_apply (h : s'.Kept) (hs : Untouched s s') (hpure : k = .ofFunction f)
    {m : Move σ θ} (hm : s.Spares m) (server : Server σ) : Untouched s (s'.apply k server m) := by
  refine hs.trans ?_
  cases m with
  | call c =>
    refine ⟨rfl, rfl, rfl, rfl, rfl, rfl, rfl, rfl, fun j u hj v hu => ?_⟩
    rcases Verdict.getElem?_append_singleton_cases hj with hold | ⟨-, rfl⟩
    · exact hold
    · cases hu
  | step i =>
    rcases hi : s'.tasks[i]? with _ | t
    · show Untouched s' (s'.step k i)
      rw [step_of_none k hi]
      exact .refl s'
    · exact h.untouched_step hpure hi fun v hv => hm t (hs.settles i t hi v hv) v hv
  | pass milliseconds => exact ⟨rfl, rfl, rfl, rfl, rfl, rfl, rfl, rfl, fun _ _ hi _ _ => hi⟩
  | _ => exact hm.elim

/-- **Builds leave everything alone**, and so do reads and waits. -/
theorem Kept.untouched_run (h : s'.Kept) (hs : Untouched s s') (hpure : k = .ofFunction f)
    (hmoves : ∀ m ∈ moves, s.Spares m) (server : Server σ) :
    Untouched s (s'.run k server moves) := by
  induction moves generalizing s' with
  | nil => exact hs
  | cons m moves ih =>
    obtain ⟨hm, hrest⟩ := List.forall_mem_cons.mp hmoves
    exact ih (h.apply k server m) (h.untouched_apply hs hpure hm server) hrest

theorem Untouched.cell_eq (h : Untouched s s') (hkept : s.Kept) (hkept' : s'.Kept)
    {new : List (Task γ τ θ δ ε)} (htasks : s'.tasks = s.tasks ++ new)
    (hnew : ∀ t ∈ new, t.stage.result?.isSome = true) : s'.cell = s.cell := by
  obtain ⟨_, hcell, -⟩ := hkept.cell
  obtain ⟨_, hcell', -⟩ := hkept'.cell
  have hcalls : s'.onCell.tasks = s.onCell.tasks ++ new.map Task.onCell := by
    show s'.tasks.map Task.onCell = _
    rw [htasks, List.map_append]
    rfl
  have hnobody : (new.map Task.onCell).countP (·.phase.isReading) = 0 := by
    refine List.countP_eq_zero.mpr fun call hcall => ?_
    obtain ⟨⟨job, stage⟩, ht, rfl⟩ := List.mem_map.mp hcall
    cases stage with
    | built args result => exact Bool.false_ne_true
    | _ => cases hnew _ ht
  have hreaders : s'.cell.readers = s.cell.readers := by
    have hcount := hcell'.guarded.readers
    rw [hcalls, List.countP_append, hnobody, Nat.add_zero, hcell.guarded.readers] at hcount
    exact hcount.symm
  show Cell.mk s'.cell.inside s'.cell.ready s'.cell.readers s'.cell.writing = _
  rw [h.inside, h.ready, hreaders, h.writing]

/-! ## What builds answer -/

theorem Kept.seen_of_spares (h : s.Kept) (hpure : k = .ofFunction f)
    (hmoves : ∀ m ∈ moves, s.Spares m) (hnew : s.tasks.length ≤ i)
    (hi : (s.run k server moves).tasks[i]? = some t) (hjob : t.job = .call (.build order))
    (hseen : t.stage.seen? = some v) : s.cell.writing = false ∧ v = s.cell.inside := by
  rcases h.snapshot_of_seen moves hi hjob hseen with
    ⟨u, hu, -, -⟩ | ⟨before, after, rfl, hat, hv⟩
  · cases (List.getElem?_eq_none hnew).symm.trans hu
  · have hkept := h.run k server before
    have huntouched := h.untouched_run (.refl s) hpure
      (fun m hm => hmoves m (List.mem_append_left _ hm)) server
    obtain ⟨_, hcell, -⟩ := hkept.cell
    have hfree : (s.run k server before).cell.writing = false :=
      hcell.guarded.not_writing_of_isReading (onCell_getElem? hat) rfl
    rw [← hkept.inside_of_reading hat rfl, huntouched.inside] at hv
    exact ⟨huntouched.writing.symm.trans hfree, hv⟩

theorem Kept.args_of_spares {memory : κ} {args : DriverArgs γ τ θ} (h : s.Kept)
    (hrecorded : Recorded k memory s) (hpure : k = .ofFunction f)
    (hmoves : ∀ m ∈ moves, s.Spares m) (hnew : s.tasks.length ≤ i)
    (hi : (s.run k server moves).tasks[i]? = some t) (hjob : t.job = .call (.build order))
    (hargs : t.stage.args? = some args) :
    s.cell.writing = false ∧ args = (s.snapshot s.cell.inside).driverArgs order.queue := by
  obtain ⟨hfree, hinside⟩ :=
    h.seen_of_spares hpure hmoves hnew hi hjob (Stage.seen_of_args hargs)
  have hcopy := (hrecorded.run server moves).args t (List.mem_of_getElem? hi) order args hjob hargs
  rw [snapshot, plugin_run, hinside] at hcopy
  exact ⟨hfree, hcopy⟩

theorem Kept.result_of_spares {memory : κ} {result : Except ε δ} (h : s.Kept)
    (hrecorded : Recorded k memory s) (hpure : k = .ofFunction f)
    (hmoves : ∀ m ∈ moves, s.Spares m) (hnew : s.tasks.length ≤ i)
    (hi : (s.run k server moves).tasks[i]? = some t) (hjob : t.job = .call (.build order))
    (hresult : t.stage.result? = some result) : s.outcome? f order = some result := by
  have hcalled := (hrecorded.run server moves).called i t hi
  obtain ⟨job, stage⟩ := t
  obtain rfl : job = .call (.build order) := hjob
  cases stage with
  | built args result' =>
    obtain rfl : result' = result := Option.some.inj hresult
    obtain ⟨hfree, hargs⟩ := h.args_of_spares hrecorded hpure hmoves hnew hi rfl rfl
    obtain ⟨_, -, hbuilt⟩ := hcalled
    subst hpure
    rw [outcome?, hfree, if_neg Bool.false_ne_true, ← hargs, hbuilt]
    rfl
  | _ => cases hresult

/-! ## Turns of a build -/

theorem left_apply (hi : s.tasks[i]? = some t) (k : Constructor γ τ θ κ δ ε) (server : Server σ)
    (m : Move σ θ) : ∃ t', (s.apply k server m).tasks[i]? = some t' ∧ t'.job = t.job ∧
      (t' = t ∨ t'.stage.left < t.stage.left) := by
  rcases apply_task_cases k server hi m with hstay | ⟨-, t', hsteps, ht'⟩
  · exact ⟨t, hstay, rfl, .inl rfl⟩
  · exact ⟨t', ht', hsteps.job_eq, hsteps.eq_or_left_lt⟩

/-- While nobody writes, a build comes to its end with as many turns as there are steps ahead. -/
theorem Kept.built_of_turns (h : s'.Kept) (hs : Untouched s s') (hpure : k = .ofFunction f)
    (hfree : s.cell.writing = false) (hmoves : ∀ m ∈ moves, s.Spares m)
    (hturns : (List.replicate n (.step i)).Sublist moves) (hi : s'.tasks[i]? = some t)
    (hjob : t.job = .call (.build order)) (hleft : t.stage.left ≤ n) :
    ∃ args result, (s'.run k server moves).tasks[i]? =
      some ⟨.call (.build order), .built args result⟩ := by
  induction moves generalizing s' t n with
  | nil =>
    obtain rfl : n = 0 := by simpa using hturns
    obtain ⟨args, result, hbuilt⟩ := Stage.built_of_left (Nat.le_zero.mp hleft)
    refine ⟨args, result, ?_⟩
    rw [run_nil, hi, ← hjob, ← hbuilt]
  | cons m moves ih =>
    obtain ⟨hm, hrest⟩ := List.forall_mem_cons.mp hmoves
    obtain ⟨t', hi', hjob', hless⟩ := left_apply hi k server m
    have hnext {n : Nat} (hturns : (List.replicate n (.step i)).Sublist moves)
        (hleft : t'.stage.left ≤ n) := ih (h.apply k server m)
      (h.untouched_apply hs hpure hm server) hrest hturns hi' (hjob'.trans hjob) hleft
    rcases List.sublist_cons_iff.mp hturns with hlater | ⟨turns, hnow, hlater⟩
    · refine hnext hlater ?_
      rcases hless with rfl | hless
      · exact hleft
      · exact (Nat.le_of_lt hless).trans hleft
    · rcases n with _ | n
      · cases hnow
      rw [List.replicate_succ] at hnow
      obtain ⟨rfl, rfl⟩ := List.cons.inj hnow
      refine hnext hlater ?_
      rcases hless with rfl | hless
      · -- A build that has a turn and stays where it is, is at its end.
        rcases hstage : t'.stage with phase | args | ⟨args, result⟩
        · have hwriting := h.writing_of_stuck hi hjob (by rw [hstage]; rfl) hi'
          cases (hs.writing.trans hfree).symm.trans hwriting
        · have hwriting := h.writing_of_stuck hi hjob (by rw [hstage]; rfl) hi'
          cases (hs.writing.trans hfree).symm.trans hwriting
        · exact Nat.zero_le n
      · omega

theorem length_le_run (k : Constructor γ τ θ κ δ ε) (server : Server σ)
    (s : Runtime σ γ τ θ κ δ ε) (moves : List (Move σ θ)) :
    s.tasks.length ≤ (s.run k server moves).tasks.length := by
  by_contra hlt
  have hi := List.getElem?_eq_getElem (Nat.lt_of_not_le hlt)
  obtain ⟨t, ht, -⟩ := job_run hi k server moves
  exact absurd (List.getElem?_eq_some_iff.mp ht).1 (Nat.lt_irrefl _)

/-- A driver call with five turns answers what there is to answer to its order. -/
theorem Kept.answer_eq_outcome {memory : κ} (h : s.Kept) (hrecorded : Recorded k memory s)
    (hpure : k = .ofFunction f) (server : Server σ) {before later : List (Move σ θ)}
    (hmoves : ∀ m ∈ before ++ .call (.build order) :: later, s.Spares m)
    (hturns : (List.replicate 5 (.step (s.run k server before).tasks.length)).Sublist later) :
    (s.run k server (before ++ .call (.build order) :: later)).answer?
      (s.run k server before).tasks.length = s.outcome? f order := by
  have hnew := length_le_run k server s before
  obtain ⟨hbefore, hrest⟩ := List.forall_mem_append.mp hmoves
  obtain ⟨hcall, hlater⟩ := List.forall_mem_cons.mp hrest
  have hkept := h.run k server before
  have hbegun : ((s.run k server before).apply k server (.call (.build order))).tasks[
      (s.run k server before).tasks.length]? = some (.start (.call (.build order))) :=
    List.getElem?_concat_length
  obtain ⟨t, ht, hjob⟩ := job_run hbegun k server later
  have hi := ht
  rw [← run_cons, ← run_append] at hi
  rw [answer?, hi, Option.bind_some]
  rcases hresult : t.stage.result? with _ | result
  · -- Only somebody who writes can have held it back.
    cases hfree : s.cell.writing with
    | true => rw [outcome?, hfree, if_pos rfl]
    | false =>
      have huntouched := h.untouched_run (.refl s) hpure hbefore server
      obtain ⟨args, result, hbuilt⟩ := (hkept.apply k server (.call (.build order))).built_of_turns
        (hkept.untouched_apply huntouched hpure hcall server) hpure hfree hlater hturns hbegun rfl
        (Nat.le_refl 5)
      rw [Option.some.inj (ht.symm.trans hbuilt)] at hresult
      cases hresult
  · exact (h.result_of_spares hrecorded hpure hmoves hnew hi hjob hresult).symm

theorem spares_step_of_le (h : s.tasks.length ≤ i) :
    s.Spares (.step i : Move σ θ) := by
  intro t hi
  cases (List.getElem?_eq_none h).symm.trans hi

theorem Kept.alone_eq_outcome {memory : κ} (h : s.Kept) (hrecorded : Recorded k memory s)
    (hpure : k = .ofFunction f) (server : Server σ) (order : Order θ) :
    s.alone? k server order = s.outcome? f order := by
  have hmoves : ∀ m ∈ [] ++ s.inOneGo (.call (.build order)), s.Spares m := by
    intro m hm
    rcases List.mem_cons.mp hm with rfl | hstep
    · trivial
    · rw [List.eq_of_mem_replicate hstep]
      exact spares_step_of_le (Nat.le_refl _)
  exact h.answer_eq_outcome hrecorded hpure server hmoves (List.Sublist.refl _)

/-! ## One after the other -/

theorem oneByOne_append (i : Nat) (first second : List (Order θ)) :
    (oneByOne i (first ++ second) : List (Move σ θ)) =
      oneByOne i first ++ oneByOne (i + first.length) second := by
  induction first generalizing i with
  | nil => rfl
  | cons order rest ih =>
    rw [List.cons_append, oneByOne, oneByOne, ih, List.append_assoc, List.length_cons,
      Nat.add_right_comm, Nat.add_assoc]

theorem spares_oneByOne (h : s.tasks.length ≤ i) (orders : List (Order θ)) :
    ∀ m ∈ (oneByOne i orders : List (Move σ θ)), s.Spares m := by
  induction orders generalizing i with
  | nil => exact fun m hm => absurd hm List.not_mem_nil
  | cons order rest ih =>
    refine List.forall_mem_append.mpr ⟨List.forall_mem_cons.mpr ⟨trivial, fun m hm => ?_⟩,
      ih (h.trans (Nat.le_succ i))⟩
    rw [List.eq_of_mem_replicate hm]
    exact spares_step_of_le h

theorem length_run_steps (k : Constructor γ τ θ κ δ ε) (server : Server σ)
    (s : Runtime σ γ τ θ κ δ ε) (i n : Nat) :
    (s.run k server (List.replicate n (.step i))).tasks.length = s.tasks.length := by
  induction n generalizing s with
  | zero => rfl
  | succ n ih => rw [List.replicate_succ, run_cons, ih, apply, length_step]

theorem length_run_oneByOne (k : Constructor γ τ θ κ δ ε) (server : Server σ)
    (s : Runtime σ γ τ θ κ δ ε) (i : Nat) (orders : List (Order θ)) :
    (s.run k server (oneByOne i orders)).tasks.length = s.tasks.length + orders.length := by
  induction orders generalizing s i with
  | nil => rfl
  | cons order rest ih =>
    rw [oneByOne, run_append, ih, run_cons, length_run_steps, apply, List.length_append,
      List.length_cons, List.length_cons, List.length_nil]
    omega

theorem Kept.oneByOne_eq_outcome {memory : κ} (h : s.Kept) (hrecorded : Recorded k memory s)
    (hpure : k = .ofFunction f) (server : Server σ) {orders : List (Order θ)}
    (horder : orders[n]? = some order) :
    (s.run k server (oneByOne s.tasks.length orders)).answer? (s.tasks.length + n) =
      s.outcome? f order := by
  obtain ⟨first, rest, rfl, rfl⟩ : ∃ first rest, orders = first ++ order :: rest ∧
      first.length = n := by
    obtain ⟨hlt, rfl⟩ := List.getElem?_eq_some_iff.mp horder
    exact ⟨orders.take n, orders.drop (n + 1), by simp, List.length_take_of_le (Nat.le_of_lt hlt)⟩
  have hmoves := spares_oneByOne (s := s) (Nat.le_refl _) (first ++ order :: rest)
  have hlength : (s.run k server (oneByOne s.tasks.length first)).tasks.length =
      s.tasks.length + first.length := length_run_oneByOne k server s _ first
  rw [oneByOne_append] at hmoves ⊢
  rw [← hlength] at hmoves ⊢
  exact h.answer_eq_outcome hrecorded hpure server hmoves (List.sublist_append_left _ _)

/-! ## All together -/

/-- **Driver calls are independent.** Take a plugin that a builder has started, in any state that
it gets into, and a constructor without effects. A driver call alone answers what the constructor
says of the snapshot, unless the end of the detection is just writing; then it has to wait. Driver
calls one after the other, in any order, each answer what they answer alone. And so they do in any
interleaving with each other and with other calls, as long as the detection makes no step: those
that are at their end have that answer, and whoever has had five turns has it too. Whether they
fail or not, the plugin, its verdict, flag, tracing provider, logger and configuration, the server
and the detection are what they were, the queue goes on as the caller gave it, and once the calls
are at their end the cell is what it was. -/
theorem builds_independent (b : Builder γ τ) (inRuntime : Bool) (p : Plugin γ τ)
    (hinit : (b.init inRuntime).result = .ok p)
    (f : Source → Pipeline → DriverArgs γ τ θ → Except ε δ) (server : Server σ) (world : σ)
    (memory : κ) (history : List (Move σ θ)) :
    let k : Constructor γ τ θ κ δ ε := .ofFunction f
    let s := (start p world memory).run k server history
    (∀ order, s.alone? k server order = if s.cell.writing then none else
      some (f order.source order.pipeline ((s.snapshot s.cell.inside).driverArgs order.queue))) ∧
    (∀ (orders : List (Order θ)) (n : Nat) order, orders[n]? = some order →
      (s.run k server (oneByOne s.tasks.length orders)).answer? (s.tasks.length + n) =
        s.alone? k server order) ∧
    ∀ moves, (∀ m ∈ moves, s.Spares m) →
      let after := s.run k server moves
      (∀ (i : Nat) order stage, s.tasks.length ≤ i →
        after.tasks[i]? = some ⟨.call (.build order), stage⟩ →
        (∀ result, stage.result? = some result → s.alone? k server order = some result) ∧
        ∀ args, stage.args? = some args →
          args = (s.snapshot s.cell.inside).driverArgs order.queue ∧ args.queue = order.queue) ∧
      (∀ before order later, moves = before ++ .call (.build order) :: later →
        let i := (s.run k server before).tasks.length
        (List.replicate 5 (.step i)).Sublist later →
          after.answer? i = s.alone? k server order) ∧
      Untouched s after ∧ after.session.state = s.session.state ∧
      ∀ new, after.tasks = s.tasks ++ new → (∀ t ∈ new, t.stage.result?.isSome = true) →
        after.cell = s.cell := by
  intro k s
  obtain ⟨config, -, hp⟩ := Builder.init_eq_ok hinit
  have h : s.Kept := (kept_start (by rw [hp]) world memory).run k server history
  have hrecorded : Recorded k memory s := (recorded_start k p world memory).run server history
  have hpure : k = .ofFunction f := rfl
  have halone := h.alone_eq_outcome hrecorded hpure server
  refine ⟨halone, fun orders n order horder => ?_, fun moves hmoves => ?_⟩
  · rw [halone]
    exact h.oneByOne_eq_outcome hrecorded hpure server horder
  · have huntouched := h.untouched_run (.refl s) hpure hmoves server
    refine ⟨fun i order stage hnew hi => ⟨fun result hresult => ?_, fun args hargs => ?_⟩, ?_,
      huntouched, huntouched.state_eq, fun new htasks hnew => ?_⟩
    · rw [halone]
      exact h.result_of_spares hrecorded hpure hmoves hnew hi rfl hresult
    · obtain ⟨-, heq⟩ := h.args_of_spares hrecorded hpure hmoves hnew hi rfl hargs
      exact ⟨heq, by rw [heq]; rfl⟩
    · rintro before order later rfl i hturns
      rw [halone]
      exact h.answer_eq_outcome hrecorded hpure server hmoves hturns
    · exact huntouched.cell_eq h (h.run k server moves) htasks hnew

/-- A function that fails for every pipeline with settings of its own. -/
def configOnly : Source → Pipeline → DriverArgs Unit Unit Unit → Except String String
  | .config key, pipeline, args =>
    .ok (key ++ "/" ++ pipeline.name ++ (if args.inside then " inside" else ""))
  | .pipeline, pipeline, _ => .error pipeline.name

/-- While somebody reads, two driver calls are polled in turns. One of them fails. -/
theorem builds_independent_in_turns :
    let b : Builder Unit Unit := { config := some (), detector := some ⟨"http://a", 2000⟩ }
    let orders : List (Order Unit) :=
      [⟨.pipeline, .new "early" "sqs", ()⟩, ⟨.config "queue", .new "late" "sqs", ()⟩]
    let inTurns := orders.map (fun order => Move.call (.build order)) ++
      (List.replicate 5 [Move.step 1, Move.step 2]).flatten
    ∃ p, (b.init true).result = .ok p ∧
      let k : Constructor Unit Unit Unit Unit String String := .ofFunction configOnly
      let s := (start p () ()).run k welcoming [.call .inside, .step 0]
      let after := s.run k welcoming inTurns
      after.answer? 1 = some (.error "early") ∧ after.answer? 2 = some (.ok "queue/late") ∧
        after.session.state = s.session.state := by
  intro b orders inTurns
  refine ⟨⟨{ tracer := none, logger := Logger.standard.span? pluginName, config := () },
    ⟨"http://a", 2000⟩⟩, rfl, ?_⟩
  intro k s after
  obtain ⟨halone, -, hrun⟩ := builds_independent b true _ rfl configOnly welcoming () ()
    [.call .inside, .step 0]
  have hspares : ∀ m ∈ inTurns, s.Spares m := by
    intro m hm
    rcases List.mem_append.mp hm with hcall | hstep
    · obtain ⟨order, -, rfl⟩ := List.mem_map.mp hcall
      trivial
    · obtain ⟨turns, hturns, hmem⟩ := List.mem_flatten.mp hstep
      rw [List.eq_of_mem_replicate hturns] at hmem
      rcases List.mem_pair.mp hmem with rfl | rfl
      · exact spares_step_of_le (Nat.le_refl 1)
      · exact spares_step_of_le (Nat.le_succ 1)
  obtain ⟨-, hanswer, -, hstate, -⟩ := hrun inTurns hspares
  have hturns (i : Nat) (later : List (Move Unit Unit)) (hlater : later.filter
      (fun | .step j => j == i | _ => false) = List.replicate 5 (.step i)) :
      (List.replicate 5 (.step i)).Sublist later := hlater ▸ List.filter_sublist
  have hearly := hanswer [] _ _ rfl (hturns 1 _ rfl)
  have hlate := hanswer [_] _ _ rfl (hturns 2 _ rfl)
  refine ⟨hearly.trans ?_, hlate.trans ?_, hstate⟩
  · rw [halone]
    cbv
  · rw [halone]
    cbv

end Runtime

end CloudQueue
