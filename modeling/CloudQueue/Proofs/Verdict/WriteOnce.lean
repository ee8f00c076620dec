import CloudQueue.Proofs.Verdict.FirstGrant
import CloudQueue.Proofs.Verdict.Rounds

/-!
# A cell is written once

`System.written_once` says what any number of calls, in any interleaving of their steps, find in
the cell. While nobody writes, it is either fresh, or it holds the value of the first writer for
good. Whoever has seen the flag up finds that value from then on, and whoever has read `true` finds
the flag up from then on.
-/

namespace CloudQueue.Verdict

/-- The answer of a call to a cell that is settled with a value. -/
def Call.report (v : Bool) : Call → Answer
  | .settle _ => .settled
  | .isReady => .flag true
  | c => c.answer v

theorem Call.report_of_isRead {c : Call} (h : c.isRead = true) (v : Bool) :
    c.report v = c.answer v := by
  cases c <;> simp_all [isRead, report]

/-- A call that begins now can end with one answer only, whatever moves come in between, and it
does end when all calls are given enough turns. -/
def System.Yields (s : System) (call : Call) (a : Answer) : Prop :=
  ∀ moves, let later := (s.apply (.call call)).run moves
    (∀ b, later.tasks[s.tasks.length]? = some ⟨call, .ended b⟩ → b = a) ∧
      ∀ rounds : List (List Nat), (∀ turns ∈ rounds, later.IsRound turns) →
        5 * later.tasks.length ≤ rounds.length →
        (later.run (rounds.flatten.map .step)).tasks[s.tasks.length]? = some ⟨call, .ended a⟩

/-- A call in progress can end with one answer only, whatever moves come in between, and it does
end when all calls are given enough turns. -/
def System.EndsWith (s : System) (j : Nat) (call : Call) (a : Answer) : Prop :=
  ∀ moves, let later := s.run moves
    (∀ b, later.tasks[j]? = some ⟨call, .ended b⟩ → b = a) ∧
      ∀ rounds : List (List Nat), (∀ turns ∈ rounds, later.IsRound turns) →
        5 * later.tasks.length ≤ rounds.length →
        (later.run (rounds.flatten.map .step)).tasks[j]? = some ⟨call, .ended a⟩

/-! ## Calls in progress when the flag is up -/

/-- Where a call may stand, while the flag is up, that has not missed the value of the cell. -/
def Phase.Tells (v : Bool) (call : Call) : Phase → Prop
  | .enteringWrite _ | .deciding _ | .leavingWrite => ∃ u, call = .settle u
  | .storing _ | .announcing => False
  | .enteringRead | .reading => call.isRead = true
  | .leavingRead seen => call.isRead = true ∧ seen = v
  | .looking => call = .isReady
  | .subscribing _ | .watching _ => ∃ n, call = .wait n
  | .ended a => a = call.report v

theorem Call.tells_start (v : Bool) (call : Call) : call.start.Tells v call := by
  cases call <;> simp [start, Phase.Tells, isRead]

theorem Phase.Tells.step {c : Cell} {call : Call} {ph : Phase} (now : Nat)
    (hready : c.ready = true) (h : ph.Tells c.inside call) :
    (ph.step call now c).1.Tells c.inside call := by
  cases ph with
  | enteringWrite v =>
    by_cases hfree : c.writing = true ∨ c.readers ≠ 0 <;> simpa [Phase.step, hfree, Tells] using h
  | deciding v => simpa [Phase.step, hready, Tells] using h
  | storing v => exact h.elim
  | announcing => exact h.elim
  | leavingWrite =>
    obtain ⟨v, rfl⟩ := h
    rfl
  | enteringRead => by_cases hfree : c.writing = true <;> simpa [Phase.step, hfree, Tells] using h
  | reading => exact ⟨h, rfl⟩
  | leavingRead seen =>
    obtain ⟨hcall, rfl⟩ := h
    exact (call.report_of_isRead hcall c.inside).symm
  | looking =>
    obtain rfl : call = .isReady := h
    simp [Phase.step, Tells, hready, Call.report]
  | subscribing n => exact h
  | watching deadline =>
    obtain ⟨n, rfl⟩ := h
    simp [Phase.step, Tells, hready, Call.isRead]
  | ended a => exact h

namespace System

/-- While the flag is up a call that tells the value of the cell goes on doing so. -/
theorem Kept.tells_run {first : Option Bool} {s : System} (h : s.Kept first)
    (hready : s.cell.ready = true) {j : Nat} {call : Call} {ph : Phase}
    (hj : s.tasks[j]? = some ⟨call, ph⟩) (hph : ph.Tells s.cell.inside call) (moves : List Move) :
    ∃ ph', (s.run moves).tasks[j]? = some ⟨call, ph'⟩ ∧ ph'.Tells s.cell.inside call := by
  induction moves generalizing s ph first with
  | nil => exact ⟨ph, hj, hph⟩
  | cons m moves ih =>
    have hinside : (s.apply m).cell.inside = s.cell.inside := h.inside_run hready [m]
    rw [run_cons, ← hinside]
    rcases apply_getElem?_cases hj m with hstay | ⟨-, hstep⟩
    · exact ih (h.apply m) (ready_apply hready m) hstay (hinside ▸ hph)
    · exact ih (h.apply m) (ready_apply hready m) hstep (hinside ▸ hph.step s.clock hready)

theorem Kept.endsWith {first : Option Bool} {s : System} (h : s.Kept first)
    (hready : s.cell.ready = true) {j : Nat} {call : Call} {ph : Phase}
    (hj : s.tasks[j]? = some ⟨call, ph⟩) (hph : ph.Tells s.cell.inside call) :
    s.EndsWith j call (call.report s.cell.inside) := by
  intro moves
  have hlater := h.run moves
  have hup := ready_run hready moves
  refine ⟨fun b hb => ?_, fun rounds hrounds hlength => ?_⟩
  · obtain ⟨ph', hph', htells⟩ := h.tells_run hready hj hph moves
    obtain rfl : ph' = .ended b := by simpa [hb] using hph'.symm
    exact htells
  · obtain ⟨ph', hph', htells⟩ :=
      h.tells_run hready hj hph (moves ++ rounds.flatten.map .step)
    rw [run_append] at hph'
    have hwork := hlater.guarded.work_rounds hup hrounds ((work_le _).trans hlength)
    have hended : ph'.work = 0 := Nat.le_zero.mp (hwork ▸ work_phase_le hph')
    rw [hph']
    cases ph' with
    | ended a => rw [show a = call.report s.cell.inside from htells]
    | _ => simp [Phase.work] at hended

theorem Kept.yields {first : Option Bool} {s : System} (h : s.Kept first)
    (hready : s.cell.ready = true) (call : Call) : s.Yields call (call.report s.cell.inside) :=
  (h.apply (.call call)).endsWith (ready_apply hready _) List.getElem?_concat_length
    (call.tells_start _)

/-- Before there is a first value, every call that settles is still in front of the guard. -/
theorem Kept.entering_of_none {s : System} (h : s.Kept none) {t : Task} (ht : t ∈ s.tasks)
    {v : Bool} (hcall : t.call = .settle v) : t.phase = .enteringWrite v := by
  obtain ⟨hnw, -⟩ := h.cell.fresh rfl
  have hdown : s.cell.ready = false := h.cell.free hnw
  obtain ⟨i, hi⟩ := List.mem_iff_getElem?.mp ht
  have hagrees := h.calls i t hi
  have hfront : t.phase.isWriting = false := by
    cases hw : t.phase.isWriting with
    | false => rfl
    | true =>
      have hwriting := h.guarded.writing_of_isWriting hi hw
      exact absurd (hnw.symm.trans hwriting) Bool.false_ne_true
  obtain ⟨call, ph⟩ := t
  obtain rfl : call = .settle v := hcall
  cases ph with
  | enteringWrite u => rw [Call.settle.inj hagrees]
  | ended a => exact absurd (hdown.symm.trans hagrees) Bool.false_ne_true
  | enteringRead | reading | leavingRead => exact absurd hagrees.1 Bool.false_ne_true
  | looking | subscribing => cases hagrees
  | watching => cases hagrees.choose_spec
  | deciding | storing | announcing | leavingWrite => cases hfront

/-- **The cell is written once.** Take any calls with any interleaving of their steps.
While nobody holds the guard to write, either the flag is down, no call that settles got past the
guard and the cell is fresh, or the flag is up and the cell holds the value of the first call that
got the guard, from then on. Once a call has seen the flag up, every read that begins later answers
that value. Once a call has read `true`, that is the value, and the flag is up for good. -/
theorem written_once (moves : List Move) :
    let s := run {} moves
    (s.cell.writing = false →
      (s.cell.ready = false ∧ s.cell.inside = false ∧ firstGrant? {} moves = none ∧
        ∀ t ∈ s.tasks, ∀ v, t.call = .settle v → t.phase = .enteringWrite v) ∨
      (s.cell.ready = true ∧ ∃ v, firstGrant? {} moves = some v ∧
        ∀ more, (s.run more).cell.ready = true ∧ (s.run more).cell.inside = v)) ∧
    (⟨.isReady, .ended (.flag true)⟩ ∈ s.tasks →
      ∃ v, firstGrant? {} moves = some v ∧
        ∀ more call, call.isRead = true → (s.run more).Yields call (call.answer v)) ∧
    (⟨.inside, .ended (.flag true)⟩ ∈ s.tasks ∨ ⟨.snapshot, .ended (.flag true)⟩ ∈ s.tasks →
      firstGrant? {} moves = some true ∧
        ∀ more, (s.run more).cell.ready = true ∧ (s.run more).Yields .isReady (.flag true) ∧
          ∀ call, call.isRead = true → (s.run more).Yields call (call.answer true)) := by
  intro s
  have h : s.Kept (firstGrant? {} moves) := kept_run moves
  -- What a cell whose flag is up promises of all that comes later.
  have hlater (hready : s.cell.ready = true) (more : List Move) (call : Call) :
      (s.run more).Yields call (call.report s.cell.inside) := by
    have := (h.run more).yields (ready_run hready more) call
    rwa [h.inside_run hready more] at this
  refine ⟨fun hfree => ?_, fun hseen => ?_, fun hread => ?_⟩
  · rcases hfirst : firstGrant? {} moves with _ | v
    · left
      rw [hfirst] at h
      exact ⟨h.cell.free hfree, (h.cell.fresh rfl).2, rfl, fun t ht v => h.entering_of_none ht⟩
    · right
      have hready : s.cell.ready = true := by rw [h.cell.free hfree, hfirst]; rfl
      have hinside : s.cell.inside = v :=
        Option.some.inj ((h.cell.ready hready).symm.trans hfirst)
      exact ⟨hready, v, rfl, fun more =>
        ⟨ready_run hready more, (h.inside_run hready more).trans hinside⟩⟩
  · obtain ⟨i, hi⟩ := List.mem_iff_getElem?.mp hseen
    have hready : s.cell.ready = true := h.calls i _ hi rfl
    refine ⟨s.cell.inside, h.cell.ready hready, fun more call hcall => ?_⟩
    rw [← call.report_of_isRead hcall]
    exact hlater hready more call
  · have htold : s.cell.ready = true ∧ firstGrant? {} moves = some true := by
      rcases hread with hread | hread
      all_goals
        obtain ⟨i, hi⟩ := List.mem_iff_getElem?.mp hread
        exact h.calls i _ hi rfl
    obtain ⟨hready, hfirst⟩ := htold
    have hinside : s.cell.inside = true :=
      Option.some.inj ((h.cell.ready hready).symm.trans hfirst)
    rw [hinside] at hlater
    refine ⟨hfirst, fun more => ⟨ready_run hready more, hlater hready more .isReady, ?_⟩⟩
    intro call hcall
    rw [← call.report_of_isRead hcall]
    exact hlater hready more call

/-- Two calls settle, and the flag is seen up while the first is still behind the guard. -/
theorem written_once_behind_guard :
    let s := run {} ([.call (.settle true), .call (.settle false), .call .isReady] ++
      [.step 0, .step 1, .step 0, .step 0, .step 0, .step 2])
    s.cell.writing = true ∧ ⟨.isReady, .ended (.flag true)⟩ ∈ s.tasks ∧
      ∀ more call, call.isRead = true → (s.run more).Yields call (call.answer true) := by
  refine ⟨by decide, by decide, ?_⟩
  obtain ⟨v, hv, hlater⟩ := (written_once ([.call (.settle true), .call (.settle false),
    .call .isReady] ++ [.step 0, .step 1, .step 0, .step 0, .step 0, .step 2])).2.1 (by decide)
  obtain rfl : v = true := Option.some.inj (hv.symm.trans (by decide))
  exact hlater

end System

end CloudQueue.Verdict
