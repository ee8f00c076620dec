import CloudQueue.Proofs.Verdict.Guard

/-!
# The first writer

The call that gets the guard to write first decides what the cell holds from then on. `Kept` says
how the cell, and every call at its place, agree with the value of that call, and `Kept.run` that
every schedule keeps it so. Once the flag is up what the cell holds stays (`Kept.inside_run`).
-/

namespace CloudQueue.Verdict

/-- The value of a call that gets the guard to write on its way to the next place. -/
def Task.grant? (t : Task) (next : Phase) : Option Bool :=
  match t.call, t.phase, next with
  | .settle v, .enteringWrite _, .deciding _ => some v
  | _, _, _ => none

/-- The value of the call that gets the guard to write with a move, if one does. -/
def System.grant? (s : System) : Move → Option Bool
  | .step i => s.tasks[i]?.bind fun t => t.grant? (t.phase.step t.call s.clock s.cell).1
  | _ => none

/-- The value of the call that gets the guard to write first in a schedule. -/
def System.firstGrant? (s : System) : List Move → Option Bool
  | [] => none
  | m :: moves => (s.grant? m).or ((s.apply m).firstGrant? moves)

/-- Whether a call answers with the verdict. -/
def Call.isRead : Call → Bool
  | .inside | .snapshot | .wait _ => true
  | _ => false

/-- What the answer of a call tells of the cell and the first value. -/
def Answer.Agrees (first : Option Bool) (c : Cell) (a : Answer) : Call → Prop
  | .settle _ => c.ready = true
  | .inside | .snapshot => a = .flag true → c.ready = true ∧ first = some true
  | .isReady => a = .flag true → c.ready = true
  | .wait _ => ∀ v, a = .waited (some v) → c.ready = true ∧ first = some v

/-- What the place of a call tells of the cell and the first value. -/
def Phase.Agrees (first : Option Bool) (c : Cell) (call : Call) : Phase → Prop
  | .enteringWrite v => call = .settle v
  | .deciding v => call = .settle v ∧ (c.ready = false → first = some v)
  | .storing v => call = .settle v ∧ c.ready = false ∧ first = some v
  | .announcing => (∃ v, call = .settle v) ∧ c.ready = false ∧ first = some c.inside
  | .leavingWrite => (∃ v, call = .settle v) ∧ c.ready = true
  | .enteringRead | .reading => call.isRead = true ∧ (∀ n, call = .wait n → c.ready = true)
  | .leavingRead seen =>
    call.isRead = true ∧ seen = c.inside ∧ (∀ n, call = .wait n → c.ready = true)
  | .looking => call = .isReady
  | .subscribing n => call = .wait n
  | .watching _ => ∃ n, call = .wait n
  | .ended a => a.Agrees first c call

/-- The cell agrees with the first value. While nobody writes, the flag is up if and only if there
is a first value, and before there is one the cell is fresh. -/
structure Cell.Agrees (first : Option Bool) (c : Cell) : Prop where
  ready : c.ready = true → first = some c.inside
  free : c.writing = false → c.ready = first.isSome
  fresh : first = none → c.writing = false ∧ c.inside = false

/-- The guard is kept, and the cell and every call agree with the first value. -/
structure System.Kept (first : Option Bool) (s : System) : Prop where
  guarded : s.Guarded
  cell : s.cell.Agrees first
  calls : ∀ (i : Nat) (t : Task), s.tasks[i]? = some t → t.phase.Agrees first s.cell t.call

/-! ## What one step keeps -/

theorem Call.agrees_start (first : Option Bool) (c : Cell) (call : Call) :
    call.start.Agrees first c call := by
  cases call <;> simp [start, Phase.Agrees, isRead]

/-- What a call tells stays true while others move the cell forward, as long as they leave its
content alone when the call is behind the guard. -/
theorem Phase.Agrees.mono {first first' : Option Bool} {c c' : Cell} {call : Call} {ph : Phase}
    (h : ph.Agrees first c call) (hready : c.ready = true → c'.ready = true)
    (hfirst : ∀ v, first = some v → first' = some v)
    (hguard : ph.isWriting = true ∨ ph.isReading = true →
      c'.inside = c.inside ∧ c'.ready = c.ready) : ph.Agrees first' c' call := by
  cases ph with
  | enteringWrite v => exact h
  | deciding v =>
    obtain ⟨-, hr⟩ := hguard (.inl rfl)
    exact ⟨h.1, fun hc => hfirst v (h.2 (hr ▸ hc))⟩
  | storing v =>
    obtain ⟨-, hr⟩ := hguard (.inl rfl)
    exact ⟨h.1, hr ▸ h.2.1, hfirst v h.2.2⟩
  | announcing =>
    obtain ⟨hi, hr⟩ := hguard (.inl rfl)
    exact ⟨h.1, hr ▸ h.2.1, hi ▸ hfirst _ h.2.2⟩
  | leavingWrite => exact ⟨h.1, hready h.2⟩
  | enteringRead => exact ⟨h.1, fun n hn => hready (h.2 n hn)⟩
  | reading => exact ⟨h.1, fun n hn => hready (h.2 n hn)⟩
  | leavingRead seen =>
    obtain ⟨hi, -⟩ := hguard (.inr rfl)
    exact ⟨h.1, hi ▸ h.2.1, fun n hn => hready (h.2.2 n hn)⟩
  | looking => exact h
  | subscribing n => exact h
  | watching d => exact h
  | ended a =>
    cases call with
    | settle v => exact hready h
    | inside => exact fun ha => ⟨hready (h ha).1, hfirst true (h ha).2⟩
    | snapshot => exact fun ha => ⟨hready (h ha).1, hfirst true (h ha).2⟩
    | isReady => exact fun ha => hready (h ha)
    | wait n => exact fun v ha => ⟨hready (h v ha).1, hfirst v (h v ha).2⟩

theorem Phase.Agrees.settle_of_isWriting {first : Option Bool} {c : Cell} {call : Call}
    {ph : Phase} (h : ph.Agrees first c call) (hw : ph.isWriting = true) :
    ∃ v, call = .settle v := by
  cases ph with
  | deciding v => exact ⟨v, h.1⟩
  | storing v => exact ⟨v, h.1⟩
  | announcing => exact h.1
  | leavingWrite => exact h.1
  | _ => cases hw

theorem Answer.agrees_of_seen {first : Option Bool} {c : Cell} {call : Call}
    (hc : c.Agrees first) (hfree : c.writing = false) (hcall : call.isRead = true)
    (hwait : ∀ n, call = .wait n → c.ready = true) :
    (call.answer c.inside).Agrees first c call := by
  have htrue (hi : c.inside = true) : c.ready = true ∧ first = some true := by
    have hsome : first ≠ none := fun hn => by simp [(hc.fresh hn).2] at hi
    have hready : c.ready = true := (hc.free hfree).trans (Option.isSome_iff_ne_none.mpr hsome)
    exact ⟨hready, hi ▸ hc.ready hready⟩
  cases call with
  | settle v => simp [Call.isRead] at hcall
  | isReady => simp [Call.isRead] at hcall
  | inside => exact fun ha => htrue (by simpa [Call.answer] using ha)
  | snapshot => exact fun ha => htrue (by simpa [Call.answer] using ha)
  | wait n =>
    intro v ha
    obtain rfl : c.inside = v := by simpa [Call.answer] using ha
    exact ⟨hwait n rfl, hc.ready (hwait n rfl)⟩

/-- Getting the guard makes a value the first one, unless there is one already. -/
theorem Phase.step_agrees_enteringWrite {first : Option Bool} {c : Cell} (v : Bool) (now : Nat)
    (hc : c.Agrees first) :
    let after := step (.settle v) now c (.enteringWrite v)
    let first' := first.or (Task.grant? ⟨.settle v, .enteringWrite v⟩ after.1)
    after.2.Agrees first' ∧ after.1.Agrees first' after.2 (.settle v) := by
  by_cases hfree : c.writing = true ∨ c.readers ≠ 0
  · simpa [step, hfree, Task.grant?, Agrees] using hc
  · have hnw : c.writing = false := by simpa using (not_or.mp hfree).1
    have hopen : c.ready = false → first.or (some v) = some v := fun hr => by
      rw [hc.free hnw, Option.isSome_eq_false_iff, Option.isNone_iff_eq_none] at hr
      rw [hr, Option.none_or]
    simp only [step, hfree, if_false, Task.grant?]
    refine ⟨⟨fun hr => ?_, by simp, fun hn => ?_⟩, rfl, hopen⟩
    · rw [hc.ready hr, Option.some_or]
    · simp at hn

theorem Phase.step_agrees {first : Option Bool} {c : Cell} {call : Call} {ph : Phase} (now : Nat)
    (hne : ∀ v, ph ≠ .enteringWrite v) (hc : c.Agrees first) (h : ph.Agrees first c call)
    (hw : ph.isWriting = true → c.writing = true) (hr : ph.isReading = true → c.writing = false) :
    let after := ph.step call now c
    after.2.Agrees first ∧ after.1.Agrees first after.2 call := by
  cases ph with
  | enteringWrite v => exact absurd rfl (hne v)
  | deciding v =>
    obtain ⟨rfl, hv⟩ := h
    by_cases hready : c.ready = true
    · simpa [step, hready, Agrees] using hc
    · simpa [step, hready, Agrees] using ⟨hc, hv (by simpa using hready)⟩
  | storing v =>
    obtain ⟨rfl, hready, rfl⟩ := h
    refine ⟨⟨fun hup => ?_, fun hfree => ?_, by simp⟩, ⟨v, rfl⟩, hready, rfl⟩
    · exact absurd (hready.symm.trans hup) Bool.false_ne_true
    · exact absurd (hfree.symm.trans (hw rfl)) Bool.false_ne_true
  | announcing =>
    obtain ⟨hcall, -, rfl⟩ := h
    exact ⟨⟨fun _ => rfl, fun _ => rfl, by simp⟩, hcall, rfl⟩
  | leavingWrite =>
    obtain ⟨⟨v, rfl⟩, hready⟩ := h
    obtain rfl := hc.ready hready
    exact ⟨⟨fun _ => rfl, fun _ => hready, by simp⟩, hready⟩
  | enteringRead =>
    by_cases hfree : c.writing = true
    · simpa [step, hfree, Agrees] using ⟨hc, h⟩
    · simp only [step, if_neg hfree]
      exact ⟨⟨hc.ready, hc.free, hc.fresh⟩, h⟩
  | reading => exact ⟨hc, h.1, rfl, h.2⟩
  | leavingRead seen =>
    obtain ⟨hcall, rfl, hwait⟩ := h
    have htold : (Phase.ended (call.answer c.inside)).Agrees first c call :=
      Answer.agrees_of_seen hc (hr rfl) hcall hwait
    refine ⟨⟨hc.ready, hc.free, hc.fresh⟩, htold.mono id (fun _ => id) ?_⟩
    simp [isWriting, isReading]
  | looking =>
    obtain rfl : call = .isReady := h
    exact ⟨hc, Answer.flag.inj⟩
  | subscribing n => exact ⟨hc, n, h⟩
  | watching deadline =>
    obtain ⟨n, rfl⟩ := h
    by_cases hready : c.ready = true
    · simpa [step, hready, Agrees, Call.isRead] using hc
    · by_cases hd : deadline ≤ now
      · simpa [step, hready, hd, Agrees, Answer.Agrees] using hc
      · simpa [step, hready, hd, Agrees] using hc
  | ended a => exact ⟨hc, h⟩

theorem Task.grant?_eq_none {t : Task} (hne : ∀ v, t.phase ≠ .enteringWrite v) (next : Phase) :
    t.grant? next = none := by
  obtain ⟨call, ph⟩ := t
  cases ph with
  | enteringWrite v => exact absurd rfl (hne v)
  | _ => cases call <;> rfl

theorem Task.step_agrees {first : Option Bool} {c : Cell} {t : Task} (now : Nat)
    (hc : c.Agrees first) (ht : t.phase.Agrees first c t.call)
    (hw : t.phase.isWriting = true → c.writing = true)
    (hr : t.phase.isReading = true → c.writing = false) :
    let after := t.phase.step t.call now c
    let first' := first.or (t.grant? after.1)
    after.2.Agrees first' ∧ after.1.Agrees first' after.2 t.call := by
  by_cases hentering : ∃ v, t.phase = .enteringWrite v
  · obtain ⟨call, ph⟩ := t
    obtain ⟨v, rfl⟩ := hentering
    obtain rfl : call = .settle v := ht
    exact Phase.step_agrees_enteringWrite v now hc
  · have hne : ∀ v, t.phase ≠ .enteringWrite v := fun v h => hentering ⟨v, h⟩
    simp only [grant?_eq_none hne, Option.or_none]
    exact Phase.step_agrees now hne hc ht hw hr

/-! ## What every schedule keeps -/

namespace System

theorem kept_fresh : Kept none {} :=
  ⟨guarded_fresh, ⟨by simp, fun _ => rfl, fun _ => ⟨rfl, rfl⟩⟩, fun i t hi => by simp at hi⟩

/-- After a step of one call the others still agree: they are not behind the guard together with a
writer, and nobody else changes the content of the cell. -/
theorem Kept.step_others {first first' : Option Bool} {s : System} {i j : Nat} {t u : Task}
    (h : s.Kept first) (hi : s.tasks[i]? = some t) (hj : s.tasks[j]? = some u) (hij : i ≠ j)
    (hfirst : ∀ v, first = some v → first' = some v) :
    u.phase.Agrees first' (t.phase.step t.call s.clock s.cell).2 u.call := by
  obtain ⟨hready, hcontent⟩ := t.phase.step_content t.call s.clock s.cell
  refine (h.calls j u hj).mono hready hfirst fun hbehind => hcontent ?_
  cases ht : t.phase.isWriting with
  | false => rfl
  | true =>
    obtain ⟨hnw, hnr⟩ := h.guarded.alone hi ht hij hj
    simp [hnw, hnr] at hbehind

theorem settle_of_grant {s : System} {m : Move} {v : Bool} (h : s.grant? m = some v) :
    ∃ t ∈ s.tasks, t.call = .settle v := by
  cases m with
  | call c => cases h
  | pass milliseconds => cases h
  | step i =>
    obtain ⟨t, hi, hgrant⟩ := Option.bind_eq_some_iff.mp h
    refine ⟨t, List.mem_of_getElem? hi, ?_⟩
    unfold Task.grant? at hgrant
    split at hgrant
    · rename_i hcall _ _
      exact hcall.trans (congrArg _ (Option.some.inj hgrant))
    · cases hgrant

theorem Kept.apply {first : Option Bool} {s : System} (h : s.Kept first) (m : Move) :
    (s.apply m).Kept (first.or (s.grant? m)) := by
  cases m with
  | call c =>
    have hgrant : s.grant? (.call c) = none := rfl
    rw [hgrant, Option.or_none]
    refine ⟨h.guarded.apply _, h.cell, fun i t hi => ?_⟩
    rcases getElem?_append_singleton_cases hi with hold | ⟨-, rfl⟩
    · exact h.calls i t hold
    · exact c.agrees_start first s.cell
  | pass milliseconds =>
    have hgrant : s.grant? (.pass milliseconds) = none := rfl
    rw [hgrant, Option.or_none]
    exact ⟨h.guarded.apply _, h.cell, h.calls⟩
  | step i =>
    rcases hi : s.tasks[i]? with _ | t
    · rw [apply_step_of_none hi, grant?, hi, Option.bind_none, Option.or_none]
      exact h
    · have hgrant : s.grant? (.step i) = t.grant? (t.phase.step t.call s.clock s.cell).1 := by
        rw [grant?, hi, Option.bind_some]
      have hguarded := h.guarded.apply (.step i)
      obtain ⟨hcell, hcall⟩ := Task.step_agrees s.clock h.cell (h.calls i t hi)
        (h.guarded.writing_of_isWriting hi) (h.guarded.not_writing_of_isReading hi)
      rw [hgrant]
      rw [apply_step hi] at hguarded ⊢
      refine ⟨hguarded, hcell, fun j u hj => ?_⟩
      by_cases hij : i = j
      · subst hij
        obtain ⟨hlt, -⟩ := List.getElem?_eq_some_iff.mp hi
        rw [List.getElem?_set_self hlt] at hj
        obtain rfl := Option.some.inj hj
        exact hcall
      · rw [List.getElem?_set_ne hij] at hj
        exact h.step_others hi hj hij fun v hv => by rw [hv, Option.some_or]

theorem Kept.run {first : Option Bool} {s : System} (h : s.Kept first) (moves : List Move) :
    (s.run moves).Kept (first.or (s.firstGrant? moves)) := by
  -- The first value goes along: a later grant counts only as long as there is none.
  induction moves generalizing s first with
  | nil => simpa [firstGrant?] using h
  | cons m moves ih =>
    have := ih (h.apply m)
    rwa [Option.or_assoc] at this

/-- Every schedule of the fresh cell is kept with the value of its own first writer. -/
theorem kept_run (moves : List Move) : (run {} moves).Kept (firstGrant? {} moves) := by
  simpa using kept_fresh.run moves

theorem Kept.inside_run {first : Option Bool} {s : System} (h : s.Kept first)
    (hready : s.cell.ready = true) (moves : List Move) :
    (s.run moves).cell.inside = s.cell.inside := by
  have hlater := (h.run moves).cell.ready (ready_run hready moves)
  rw [h.cell.ready hready, Option.some_or] at hlater
  exact (Option.some.inj hlater).symm

end System

end CloudQueue.Verdict
