import CloudQueue.Proofs.Verdict.Values
import CloudQueue.Proofs.Verdict.WriteOnce

/-!
# Waits

A wait subscribes with its first step, and from then on looks at the flag before it looks at the
time. So it ends without a verdict if and only if it has a step after its time while the flag is
still down (`System.timesOut_iff`), and every other wait ends with the first value once the flag
is up, which it is as soon as a call that settles has ended. `System.waits_agree` says this of any
number of waits and of calls that settle, in any interleaving of their steps.
-/

namespace CloudQueue.Verdict

/-- The time of the call number `i`, a wait of `timeout` milliseconds, is over: that long has passed
since a step of it. -/
def Overdue (moves : List Move) (i timeout : Nat) : Prop :=
  ∃ first last ph, moves = first ++ .step i :: last ∧
    (System.run {} first).tasks[i]? = some ⟨.wait timeout, ph⟩ ∧
    (System.run {} first).clock + timeout ≤ (System.run {} moves).clock

/-- The call number `i`, a wait of `timeout` milliseconds, has a step when its time is over and the
flag is still down. -/
def TimesOut (moves : List Move) (i timeout : Nat) : Prop :=
  ∃ before after, moves = before ++ .step i :: after ∧ Overdue before i timeout ∧
    (System.run {} before).cell.ready = false

/-- Where a wait of `timeout` milliseconds may stand at a time. -/
def Phase.Waits (timeout now : Nat) : Phase → Prop
  | .subscribing n => n = timeout
  | .watching deadline => deadline ≤ now + timeout
  | .enteringRead | .reading | .leavingRead _ | .ended (.waited _) => True
  | _ => False

def System.Waiting (s : System) : Prop :=
  ∀ t ∈ s.tasks, ∀ n, t.call = .wait n → t.phase.Waits n s.clock

/-! ## Where waits stand -/

section

variable {ph : Phase} {n now later deadline : Nat} {c : Cell} {call : Call}

theorem Phase.Waits.mono (h : ph.Waits n now) (hle : now ≤ later) : ph.Waits n later := by
  cases ph with
  | watching d => exact Nat.le_trans h (Nat.add_le_add_right hle n)
  | ended a => cases a <;> exact h
  | _ => exact h

theorem Phase.Waits.step (h : ph.Waits n now) (c : Cell) :
    (ph.step (.wait n) now c).1.Waits n now := by
  cases ph with
  | subscribing m =>
    obtain rfl : m = n := h
    exact Nat.le_refl _
  | watching d =>
    by_cases hready : c.ready = true
    · simp [Phase.step, hready, Waits]
    · by_cases hd : d ≤ now
      · simp [Phase.step, hready, hd, Waits]
      · simpa [Phase.step, hready, hd, Waits] using h
  | enteringRead => by_cases hfree : c.writing = true <;> simp [Phase.step, hfree, Waits]
  | reading => trivial
  | leavingRead seen => trivial
  | ended a => exact h
  | _ => exact h.elim

/-- Only a wait that looks at the time when its deadline is over and the flag is down ends without
a verdict. -/
theorem Phase.watching_of_step (h : (ph.step call now c).1 = .ended (.waited none))
    (hne : ph ≠ .ended (.waited none)) :
    ∃ d, ph = .watching d ∧ c.ready = false ∧ d ≤ now := by
  cases ph with
  | watching d =>
    refine ⟨d, rfl, ?_⟩
    by_cases hready : c.ready = true
    · simp [step, hready] at h
    · by_cases hd : d ≤ now
      · exact ⟨by simpa using hready, hd⟩
      · simp [step, hready, hd] at h
  | enteringWrite v => by_cases hfree : c.writing = true ∨ c.readers ≠ 0 <;> simp [step, hfree] at h
  | deciding v => by_cases hready : c.ready = true <;> simp [step, hready] at h
  | enteringRead => by_cases hfree : c.writing = true <;> simp [step, hfree] at h
  | leavingRead seen => cases call <;> simp [step, Call.answer] at h
  | ended a => exact absurd h hne
  | _ => simp [step] at h

theorem Phase.subscribing_of_step (h : (ph.step call now c).1 = .watching deadline)
    (hne : ph ≠ .watching deadline) : ∃ n, ph = .subscribing n ∧ deadline = now + n := by
  cases ph with
  | subscribing n => exact ⟨n, rfl, (Phase.watching.inj h).symm⟩
  | watching d =>
    by_cases hready : c.ready = true
    · simp [step, hready] at h
    · by_cases hd : d ≤ now
      · simp [step, hready, hd] at h
      · rw [step, if_neg hready, if_neg hd] at h
        exact absurd h hne
  | enteringWrite v => by_cases hfree : c.writing = true ∨ c.readers ≠ 0 <;> simp [step, hfree] at h
  | deciding v => by_cases hready : c.ready = true <;> simp [step, hready] at h
  | enteringRead => by_cases hfree : c.writing = true <;> simp [step, hfree] at h
  | _ => simp [step] at h

end

namespace System

variable {s : System} {i n deadline : Nat} {t t' : Task} {ph : Phase} {moves : List Move}

theorem apply_getElem?_of_none (hi : s.tasks[i]? = none) {m : Move}
    (h : (s.apply m).tasks[i]? = some t) : t.phase = t.call.start := by
  cases m with
  | call c =>
    rcases getElem?_append_singleton_cases h with hold | ⟨-, rfl⟩
    · cases hi.symm.trans hold
    · rfl
  | pass milliseconds => cases hi.symm.trans h
  | step j =>
    have hle : s.tasks.length ≤ i := List.getElem?_eq_none_iff.mp hi
    rw [← length_apply_step s j] at hle
    cases (List.getElem?_eq_none hle).symm.trans h

/-- A call that has moved on to its place got there with a step. -/
theorem exists_step_of_run (h : (s.run moves).tasks[i]? = some t') (hnot : s.tasks[i]? ≠ some t')
    (hstart : t'.phase ≠ t'.call.start) : ∃ before after t, moves = before ++ .step i :: after ∧
      (s.run before).tasks[i]? = some t ∧ t ≠ t' ∧
      t' = ⟨t.call, (t.phase.step t.call (s.run before).clock (s.run before).cell).1⟩ := by
  induction moves generalizing s with
  | nil => exact absurd h hnot
  | cons m moves ih =>
    by_cases hnow : (s.apply m).tasks[i]? = some t'
    · rcases hi : s.tasks[i]? with _ | t
      · exact absurd (apply_getElem?_of_none hi hnow) hstart
      · have hne : t ≠ t' := fun heq => hnot (heq ▸ hi)
        rcases apply_getElem?_cases hi m with hstay | ⟨rfl, hstep⟩
        · exact absurd (Option.some.inj (hstay.symm.trans hnow)) hne
        · exact ⟨[], moves, t, rfl, hi, hne, Option.some.inj (hnow.symm.trans hstep)⟩
    · obtain ⟨before, after, t, rfl, hbefore⟩ := ih h hnow
      exact ⟨m :: before, after, t, rfl, hbefore⟩

theorem clock_le_apply (s : System) (m : Move) : s.clock ≤ (s.apply m).clock := by
  cases m with
  | call c => exact Nat.le_refl _
  | pass milliseconds => exact Nat.le_add_right _ _
  | step j =>
    rcases hj : s.tasks[j]? with _ | t
    · rw [apply_step_of_none hj]
    · rw [apply_step hj]

theorem Waiting.apply (h : s.Waiting) (m : Move) : (s.apply m).Waiting := by
  intro t' ht' n hcall
  obtain ⟨i, hi'⟩ := List.mem_iff_getElem?.mp ht'
  refine Phase.Waits.mono ?_ (s.clock_le_apply m)
  rcases hi : s.tasks[i]? with _ | t
  · rw [apply_getElem?_of_none hi hi', hcall]
    rfl
  · rcases apply_getElem?_cases hi m with hstay | ⟨-, hstep⟩
    · obtain rfl := Option.some.inj (hstay.symm.trans hi')
      exact h t (List.mem_of_getElem? hi) n hcall
    · obtain rfl := Option.some.inj (hstep.symm.trans hi')
      have hwait : t.call = .wait n := hcall
      rw [hwait]
      exact (h t (List.mem_of_getElem? hi) n hwait).step s.cell

theorem waiting_run (moves : List Move) : (run {} moves).Waiting := by
  suffices hrun : ∀ (moves : List Move) (s : System), s.Waiting → (s.run moves).Waiting from
    hrun moves {} fun t ht => absurd ht List.not_mem_nil
  intro moves
  induction moves with
  | nil => exact fun s h => h
  | cons m moves ih => exact fun s h => ih _ (h.apply m)

theorem down_of_run (h : (s.run moves).cell.ready = false) : s.cell.ready = false := by
  cases hready : s.cell.ready with
  | false => rfl
  | true => cases h.symm.trans (ready_run hready moves)

/-- While the flag is down a wait has not subscribed yet, or watches it, or has ended without a
verdict. -/
theorem Kept.wait_cases {first : Option Bool} (h : s.Kept first) (hwaiting : s.Waiting)
    (hdown : s.cell.ready = false) (hi : s.tasks[i]? = some ⟨.wait n, ph⟩) :
    ph = .subscribing n ∨ (∃ d, ph = .watching d ∧ d ≤ s.clock + n) ∨
      ph = .ended (.waited none) := by
  have hwaits : ph.Waits n s.clock := hwaiting _ (List.mem_of_getElem? hi) n rfl
  have hagrees : ph.Agrees first s.cell (.wait n) := h.calls i _ hi
  have hup : ¬s.cell.ready = true := fun hready => Bool.false_ne_true (hdown.symm.trans hready)
  cases ph with
  | subscribing m => exact .inl (congrArg Phase.subscribing hwaits)
  | watching d => exact .inr (.inl ⟨d, rfl, hwaits⟩)
  | enteringRead => exact absurd (hagrees.2 n rfl) hup
  | reading => exact absurd (hagrees.2 n rfl) hup
  | leavingRead seen => exact absurd (hagrees.2.2 n rfl) hup
  | ended a =>
    cases a with
    | waited inside =>
      cases inside with
      | none => exact .inr (.inr rfl)
      | some v => exact absurd (hagrees v rfl).1 hup
    | _ => exact hwaits.elim
  | _ => exact hwaits.elim

/-! ## Waits whose time is over -/

theorem ended_run {call : Call} {a : Answer} (hi : s.tasks[i]? = some ⟨call, .ended a⟩)
    (moves : List Move) : (s.run moves).tasks[i]? = some ⟨call, .ended a⟩ := by
  induction moves generalizing s with
  | nil => exact hi
  | cons m moves ih =>
    rcases apply_getElem?_cases hi m with hstay | ⟨-, hstep⟩
    · exact ih hstay
    · exact ih hstep

/-- The wait number `i` watches the flag up to a deadline, or has ended without a verdict. -/
def Watches (s : System) (i n deadline : Nat) : Prop :=
  s.tasks[i]? = some ⟨.wait n, .watching deadline⟩ ∨
    s.tasks[i]? = some ⟨.wait n, .ended (.waited none)⟩

theorem Watches.run (h : s.Watches i n deadline) (hdown : (s.run moves).cell.ready = false) :
    (s.run moves).Watches i n deadline := by
  induction moves generalizing s with
  | nil => exact h
  | cons m moves ih =>
    refine ih ?_ hdown
    have hnow : ¬s.cell.ready = true := fun hready =>
      Bool.false_ne_true (hdown.symm.trans (ready_run hready (m :: moves)))
    rcases h with hi | hi
    · rcases apply_getElem?_cases hi m with hstay | ⟨-, hstep⟩
      · exact .inl hstay
      · by_cases hd : deadline ≤ s.clock
        · exact .inr (by simpa [Phase.step, hnow, hd] using hstep)
        · exact .inl (by simpa [Phase.step, hnow, hd] using hstep)
    · exact .inr (ended_run hi [m])

/-- A wait that has a step when its deadline is over and the flag is down ends without a verdict,
for good. -/
theorem Watches.ended (h : s.Watches i n deadline) (hdown : s.cell.ready = false)
    (hover : deadline ≤ s.clock) (moves : List Move) :
    (s.run (.step i :: moves)).tasks[i]? = some ⟨.wait n, .ended (.waited none)⟩ := by
  refine ended_run ?_ moves
  rcases h with hi | hi
  · obtain ⟨hlt, -⟩ := List.getElem?_eq_some_iff.mp hi
    rw [apply_step hi]
    simp [Phase.step, hdown, hover, hlt]
  · exact ended_run hi [.step i]

/-- With its first step at the latest a wait sets the deadline up to which it watches the flag. -/
theorem Kept.watches_of_step {first : Option Bool} (h : s.Kept first) (hwaiting : s.Waiting)
    (hdown : s.cell.ready = false) (hi : s.tasks[i]? = some ⟨.wait n, ph⟩) :
    ∃ deadline ≤ s.clock + n, (s.apply (.step i)).Watches i n deadline := by
  obtain ⟨hlt, -⟩ := List.getElem?_eq_some_iff.mp hi
  rcases h.wait_cases hwaiting hdown hi with rfl | ⟨d, rfl, hd⟩ | rfl
  · refine ⟨s.clock + n, Nat.le_refl _, .inl ?_⟩
    rw [apply_step hi]
    exact List.getElem?_set_self hlt
  · refine ⟨d, hd, ?_⟩
    by_cases hover : d ≤ s.clock
    · exact .inr (Watches.ended (.inl hi) hdown hover [])
    · refine .inl ?_
      rw [apply_step hi]
      simp [Phase.step, hdown, hover, hlt]
  · exact ⟨0, Nat.zero_le _, .inr (ended_run hi [.step i])⟩

/-- A wait ends without a verdict if and only if it has a step when its time is over and the flag
is still down. -/
theorem timesOut_iff (moves : List Move) (i n : Nat) :
    (run {} moves).tasks[i]? = some ⟨.wait n, .ended (.waited none)⟩ ↔ TimesOut moves i n := by
  constructor
  · intro hended
    -- The step that ended the wait, and before it the step that set the deadline.
    obtain ⟨before, after, ⟨call, ph⟩, rfl, hbefore, hne, hto⟩ :=
      exists_step_of_run hended (by simp) (by simp [Call.start])
    obtain ⟨rfl, hphase⟩ := Task.mk.inj hto
    have hph : ph ≠ .ended (.waited none) := fun heq => hne (heq ▸ rfl)
    obtain ⟨deadline, rfl, hdown, hover⟩ := Phase.watching_of_step hphase.symm hph
    obtain ⟨first, last, ⟨call, ph⟩, rfl, hfirst, hne, hto⟩ :=
      exists_step_of_run hbefore (by simp) (by simp [Call.start])
    obtain ⟨rfl, hphase⟩ := Task.mk.inj hto
    have hph : ph ≠ .watching deadline := fun heq => hne (heq ▸ rfl)
    obtain ⟨timeout, rfl, rfl⟩ := Phase.subscribing_of_step hphase.symm hph
    obtain rfl : timeout = n := waiting_run first _ (List.mem_of_getElem? hfirst) n rfl
    exact ⟨_, after, rfl, ⟨first, last, _, rfl, hfirst, hover⟩, hdown⟩
  · rintro ⟨before, after, rfl, ⟨first, last, ph, rfl, hfirst, hover⟩, hdown⟩
    rw [run_append] at hdown hover
    obtain ⟨deadline, hdeadline, hwatches⟩ :=
      (kept_run first).watches_of_step (waiting_run first) (down_of_run hdown) hfirst
    rw [run_append, run_append, run_cons]
    exact (hwatches.run hdown).ended hdown (hdeadline.trans hover) after

theorem Kept.wait_tells {first : Option Bool} (h : s.Kept first) (hwaiting : s.Waiting)
    (hready : s.cell.ready = true) (hi : s.tasks[i]? = some ⟨.wait n, ph⟩)
    (hne : ph ≠ .ended (.waited none)) : ph.Tells s.cell.inside (.wait n) := by
  have hwaits : ph.Waits n s.clock := hwaiting _ (List.mem_of_getElem? hi) n rfl
  have hagrees : ph.Agrees first s.cell (.wait n) := h.calls i _ hi
  cases ph with
  | subscribing m => exact ⟨n, rfl⟩
  | watching d => exact ⟨n, rfl⟩
  | enteringRead => exact hagrees.1
  | reading => exact hagrees.1
  | leavingRead seen => exact ⟨hagrees.1, hagrees.2.1⟩
  | ended a =>
    rcases a with _ | _ | _ | v
    · exact hwaits.elim
    · exact hwaits.elim
    · exact absurd rfl hne
    · obtain ⟨-, hv⟩ := hagrees v rfl
      rw [← Option.some.inj ((h.cell.ready hready).symm.trans hv)]
      rfl
  | _ => exact hwaits.elim

/-- With as many turns as the calls need, a value that is set raises the flag, and all calls end. -/
theorem Kept.ended_of_rounds {first : Option Bool} (h : s.Kept first)
    (hset : ∃ t ∈ s.tasks, ∃ v, t.call = .settle v) {rounds : List (List Nat)}
    (hrounds : ∀ turns ∈ rounds, s.IsRound turns) (hlength : 5 * s.tasks.length ≤ rounds.length) :
    let later := s.run (rounds.flatten.map .step)
    later.cell.ready = true ∧ ∀ t ∈ later.tasks, ∃ a, t.phase = .ended a := by
  intro later
  have hlater := h.run (rounds.flatten.map .step)
  have hstuck := stuck_of_rounds hrounds ((work_le s).trans hlength)
  have hready : later.cell.ready = true := by
    obtain ⟨⟨call, ph⟩, ht, v, rfl⟩ := hset
    obtain ⟨i, hi⟩ := List.mem_iff_getElem?.mp ht
    obtain ⟨ph', hph'⟩ := task_run hi (rounds.flatten.map .step)
    have hagrees := hlater.calls i _ hph'
    -- The call that settles has ended: only waits watch the flag.
    rcases hlater.guarded.ended_or_watching_of_stuck hstuck (List.mem_of_getElem? hph') with
      ⟨a, rfl⟩ | ⟨-, deadline, rfl⟩
    · exact hagrees
    · obtain ⟨n, hn⟩ := hagrees
      cases hn
  refine ⟨hready, fun t ht => ?_⟩
  rcases hlater.guarded.ended_or_watching_of_stuck hstuck ht with hended | ⟨hdown, -⟩
  · exact hended
  · cases hdown.symm.trans hready

/-! ## All waits -/

/-- How waits have ended depends on a value only through the first one. -/
theorem waited_of_blank {other : List Move} (h : moves.map Move.blank = other.map Move.blank)
    (hfirst : ∀ v w, firstGrant? {} moves = some v → firstGrant? {} other = some w → v = w)
    {a : Answer} (hi : (run {} moves).tasks[i]? = some ⟨.wait n, .ended a⟩) :
    (run {} other).tasks[i]? = some ⟨.wait n, .ended a⟩ := by
  have hwaits := waiting_run moves _ (List.mem_of_getElem? hi) n rfl
  have hagrees := (kept_run moves).calls i _ hi
  have hblank : (run {} moves).blank.tasks[i]? = (run {} other).blank.tasks[i]? := by
    rw [blank_run rfl h]
  simp only [blank, List.getElem?_map, hi, Option.map_some] at hblank
  obtain ⟨⟨call, ph⟩, ht, htask⟩ := Option.map_eq_some_iff.mp hblank.symm
  obtain ⟨hcall, hphase⟩ := Task.mk.inj htask
  obtain rfl : call = .wait n := Call.eq_wait_of_blank hcall
  cases a with
  | waited inside =>
    obtain ⟨inside', rfl, hsome⟩ := Phase.eq_waited_of_blank hphase
    rcases inside with _ | v
    · obtain rfl : inside' = none := Option.not_isSome_iff_eq_none.mp (by simp [hsome])
      exact ht
    · obtain ⟨w, rfl⟩ := Option.isSome_iff_exists.mp hsome
      obtain ⟨-, hv⟩ := hagrees v rfl
      obtain ⟨-, hw⟩ := (kept_run other).calls i _ ht w rfl
      rw [hfirst v w hv hw]
      exact ht
  | _ => exact hwaits.elim

/-- **Waits agree.** Take any calls with any interleaving of their steps and of time. A wait that
has ended did so without a verdict because its time was over when the flag was still down, or with
the first value, and then its time was not over. A wait whose time is over keeps that answer.
Once a call that settles has ended the flag is up, and as soon as a value is set all calls end with
the flag up when they are given enough turns. Once the flag is up, a wait that begins then and a
wait in progress whose time was not over both end with the first value, which is one of those that
are set, and do end when all calls are given enough turns. As long as no value is set, a wait whose
time is over ends without a verdict with its next step. Of values that are set one after the other
the first one is the first, and the values that are not the first have no influence on how a wait
ends. -/
theorem waits_agree (moves : List Move) :
    let s := run {} moves
    let first := firstGrant? {} moves
    (∀ i n a, s.tasks[i]? = some ⟨.wait n, .ended a⟩ →
      a = .waited none ∧ TimesOut moves i n ∨
        ∃ v, a = .waited (some v) ∧ first = some v ∧ ¬TimesOut moves i n) ∧
    (∀ i n, TimesOut moves i n → ∀ more,
      (s.run more).tasks[i]? = some ⟨.wait n, .ended (.waited none)⟩) ∧
    (∀ v a, ⟨.settle v, .ended a⟩ ∈ s.tasks → s.cell.ready = true) ∧
    (values moves ≠ [] → ∀ rounds : List (List Nat), (∀ turns ∈ rounds, s.IsRound turns) →
      5 * s.tasks.length ≤ rounds.length →
        let later := s.run (rounds.flatten.map .step)
        later.cell.ready = true ∧ ∀ t ∈ later.tasks, ∃ a, t.phase = .ended a) ∧
    (s.cell.ready = true → ∃ v ∈ values moves, first = some v ∧
      (∀ n, s.Yields (.wait n) (.waited (some v))) ∧
      ∀ i n ph, s.tasks[i]? = some ⟨.wait n, ph⟩ → ¬TimesOut moves i n →
        s.EndsWith i (.wait n) (.waited (some v))) ∧
    (values moves = [] → ∀ before i n after, moves = before ++ .step i :: after →
      Overdue before i n → s.tasks[i]? = some ⟨.wait n, .ended (.waited none)⟩) ∧
    (OneByOne moves → ∀ v, first = some v → (values moves).head? = some v) ∧
    ∀ other, moves.map Move.blank = other.map Move.blank →
      first = firstGrant? {} other ∨
        OneByOne moves ∧ (values moves).head? = (values other).head? →
      ∀ (i n : Nat) (a : Answer), s.tasks[i]? = some ⟨.wait n, .ended a⟩ ↔
        (run {} other).tasks[i]? = some ⟨.wait n, .ended a⟩ := by
  intro s first
  have h : s.Kept first := kept_run moves
  have hwaiting : s.Waiting := waiting_run moves
  refine ⟨fun i n a hi => ?_, fun i n hto => ?_, fun v a hsettled => ?_, fun hset => ?_,
    fun hready => ?_, fun hnone => ?_, fun hone v hv => head?_values_of_oneByOne hone hv,
    fun other hblank hsame i n a => ?_⟩
  · have hwaits := hwaiting _ (List.mem_of_getElem? hi) n rfl
    rcases a with _ | _ | _ | v
    · exact hwaits.elim
    · exact hwaits.elim
    · exact .inl ⟨rfl, (timesOut_iff moves i n).mp hi⟩
    · refine .inr ⟨v, rfl, (h.calls i _ hi v rfl).2, fun hto => ?_⟩
      cases hi.symm.trans ((timesOut_iff moves i n).mpr hto)
  · exact ended_run ((timesOut_iff moves i n).mpr hto)
  · obtain ⟨i, hi⟩ := List.mem_iff_getElem?.mp hsettled
    exact h.calls i _ hi
  · exact fun rounds => h.ended_of_rounds (exists_settle_of_values_ne_nil hset)
  · have hfirst : first = some s.cell.inside := h.cell.ready hready
    refine ⟨s.cell.inside, mem_values_of_firstGrant? hfirst, hfirst,
      fun n => h.yields hready (.wait n), ?_⟩
    intro i n ph hi hnot
    have hne : ph ≠ .ended (.waited none) := fun heq =>
      hnot ((timesOut_iff moves i n).mp (heq ▸ hi))
    exact h.endsWith hready hi (h.wait_tells hwaiting hready hi hne)
  · rintro before i n after rfl hover
    have hdown : s.cell.ready = false := by
      cases hready : s.cell.ready with
      | false => rfl
      | true => cases (firstGrant?_of_values_nil hnone).symm.trans (h.cell.ready hready)
    rw [show s = (run {} before).run (.step i :: after) from run_append ..] at hdown
    exact (timesOut_iff _ i n).mpr ⟨before, after, rfl, hover, down_of_run hdown⟩
  · have hfirst (v w : Bool) (hv : first = some v) (hw : firstGrant? {} other = some w) :
        v = w := by
      rcases hsame with heq | ⟨hone, hhead⟩
      · exact Option.some.inj (hv.symm.trans (heq.trans hw))
      · have hother := head?_values_of_oneByOne (hone.of_blank hblank) hw
        have hmoves := head?_values_of_oneByOne hone hv
        exact Option.some.inj (hmoves.symm.trans (hhead.trans hother))
    exact ⟨waited_of_blank hblank hfirst,
      waited_of_blank hblank.symm fun v w hv hw => (hfirst w v hw hv).symm⟩

/-- Two waits without any time: the first looks at the flag and the time before a value is set; for
the second the flag goes up between its first step and its first look, and another value and some
time come in between. -/
theorem waits_agree_around_flag :
    let moves := [.call (.wait 0), .step 0, .step 0, .call (.wait 0), .step 1,
      .call (.settle true)] ++ steps 2 ++ .call (.settle false) :: .pass 7 :: steps 3 ++ steps 1
    let s := run {} moves
    s.tasks[0]? = some ⟨.wait 0, .ended (.waited none)⟩ ∧ TimesOut moves 0 0 ∧
      s.tasks[1]? = some ⟨.wait 0, .ended (.waited (some true))⟩ ∧ ¬TimesOut moves 1 0 ∧
      s.cell.ready = true ∧ ∀ n, s.Yields (.wait n) (.waited (some true)) := by
  intro moves s
  obtain ⟨hended, -, hsettled, -, hup, -⟩ := waits_agree moves
  have hnone : s.tasks[0]? = some ⟨.wait 0, .ended (.waited none)⟩ := by decide
  have htold : s.tasks[1]? = some ⟨.wait 0, .ended (.waited (some true))⟩ := by decide
  have hready : s.cell.ready = true := hsettled true .settled (by decide)
  have hto : TimesOut moves 0 0 := by
    rcases hended 0 0 _ hnone with ⟨-, hto⟩ | ⟨v, hv, -⟩
    · exact hto
    · cases hv
  rcases hended 1 0 _ htold with ⟨hv, -⟩ | ⟨v, hv, hfirst, hnot⟩
  · cases hv
  · obtain rfl : true = v := Option.some.inj (Answer.waited.inj hv)
    obtain ⟨w, -, hw, hyields, -⟩ := hup hready
    obtain rfl : true = w := Option.some.inj (hfirst.symm.trans hw)
    exact ⟨hnone, hto, htold, hnot, hready, hyields⟩

end System

end CloudQueue.Verdict
