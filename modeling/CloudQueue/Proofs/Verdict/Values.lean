import CloudQueue.Proofs.Verdict.FirstGrant

/-!
# Values that are set

Which of the values that are set becomes the first one: a value that some call sets, and if the
calls come one after the other, the value of the call that begins first (`firstGrant?_of_all`,
`head?_values_of_oneByOne`). The other values leave no trace. `blank` forgets all values; it
commutes with every schedule (`System.blank_run`), so where calls stand depends on no value at all.
-/

namespace CloudQueue.Verdict

def Move.value? : Move → Option Bool
  | .call (.settle v) => some v
  | _ => none

/-- The values that are set in a schedule, in the order in which their calls begin. -/
def values (moves : List Move) : List Bool := moves.filterMap Move.value?

/-- Values are set one after the other: when a call begins to set one, the calls that have begun to
do so have ended. -/
def OneByOne (moves : List Move) : Prop :=
  ∀ before v after, moves = before ++ .call (.settle v) :: after →
    ∀ t ∈ (System.run {} before).tasks, ∀ u, t.call = .settle u → t.phase = .ended .settled

/-! ## The first value -/

namespace System

theorem firstGrant?_append (s : System) (first second : List Move) :
    s.firstGrant? (first ++ second) =
      (s.firstGrant? first).or ((s.run first).firstGrant? second) := by
  induction first generalizing s with
  | nil => rfl
  | cons m moves ih => rw [List.cons_append, firstGrant?, firstGrant?, ih, Option.or_assoc]; rfl

theorem settle_of_mem_apply {s : System} {m : Move} {t : Task} {v : Bool}
    (ht : t ∈ (s.apply m).tasks) (hcall : t.call = .settle v) :
    (∃ u ∈ s.tasks, u.call = .settle v) ∨ m = .call (.settle v) := by
  cases m with
  | call c =>
    rcases List.mem_append.mp ht with hold | hnew
    · exact .inl ⟨t, hold, hcall⟩
    · rw [List.mem_singleton.mp hnew] at hcall
      exact .inr (congrArg Move.call hcall)
  | pass milliseconds => exact .inl ⟨t, ht, hcall⟩
  | step i =>
    rcases hi : s.tasks[i]? with _ | u
    · rw [apply_step_of_none hi] at ht
      exact .inl ⟨t, ht, hcall⟩
    · rw [apply_step hi] at ht
      rcases List.mem_or_eq_of_mem_set ht with hold | rfl
      · exact .inl ⟨t, hold, hcall⟩
      · exact .inl ⟨u, List.mem_of_getElem? hi, hcall⟩

/-- What is true of all values that are set is true of the first one that gets the guard. -/
theorem firstGrant?_of_all {P : Bool → Prop} {s : System} {moves : List Move}
    (htasks : ∀ t ∈ s.tasks, ∀ v, t.call = .settle v → P v)
    (hmoves : ∀ v, .call (.settle v) ∈ moves → P v) {w : Bool}
    (h : s.firstGrant? moves = some w) : P w := by
  induction moves generalizing s with
  | nil => cases h
  | cons m moves ih =>
    rcases Option.or_eq_some_iff.mp h with hgrant | ⟨-, hlater⟩
    · obtain ⟨t, ht, hcall⟩ := settle_of_grant hgrant
      exact htasks t ht w hcall
    · refine ih (fun t ht v hcall => ?_) (fun v hv => hmoves v (List.mem_cons_of_mem m hv)) hlater
      rcases settle_of_mem_apply ht hcall with ⟨u, hu, hsettle⟩ | rfl
      · exact htasks u hu v hsettle
      · exact hmoves v List.mem_cons_self

/-- The first value is one of those that are set. -/
theorem mem_values_of_firstGrant? {moves : List Move} {w : Bool}
    (h : firstGrant? {} moves = some w) : w ∈ values moves := by
  have hset (v : Bool) (hv : .call (.settle v) ∈ moves) : v ∈ values moves :=
    List.mem_filterMap.mpr ⟨_, hv, rfl⟩
  exact firstGrant?_of_all (fun t ht => absurd ht List.not_mem_nil) hset h

theorem firstGrant?_of_values_nil {moves : List Move} (h : values moves = []) :
    firstGrant? {} moves = none := by
  rcases hfirst : firstGrant? {} moves with _ | w
  · rfl
  · have hw := mem_values_of_firstGrant? hfirst
    rw [h] at hw
    cases hw

theorem task_run {s : System} {j : Nat} {t : Task} (hj : s.tasks[j]? = some t)
    (moves : List Move) : ∃ ph, (s.run moves).tasks[j]? = some ⟨t.call, ph⟩ := by
  induction moves generalizing s t with
  | nil => exact ⟨t.phase, hj⟩
  | cons m moves ih =>
    rcases apply_getElem?_cases hj m with hstay | ⟨-, hstep⟩
    · exact ih hstay
    · obtain ⟨ph, hph⟩ := ih hstep
      exact ⟨ph, hph⟩

theorem task_call_run (s : System) (c : Call) (moves : List Move) :
    ∃ ph, ((s.apply (.call c)).run moves).tasks[s.tasks.length]? = some ⟨c, ph⟩ := by
  have hbegun : (s.apply (.call c)).tasks[s.tasks.length]? = some ⟨c, c.start⟩ :=
    List.getElem?_concat_length
  exact task_run hbegun moves

theorem settle_of_value? {m : Move} {v : Bool} (h : m.value? = some v) : m = .call (.settle v) := by
  unfold Move.value? at h
  split at h
  · rw [Option.some.inj h]
  · cases h

theorem exists_settle_of_values_ne_nil {moves : List Move} (h : values moves ≠ []) :
    ∃ t ∈ (run {} moves).tasks, ∃ v, t.call = .settle v := by
  obtain ⟨v, hv⟩ := List.exists_mem_of_ne_nil _ h
  obtain ⟨m, hm, hvalue⟩ := List.mem_filterMap.mp hv
  obtain rfl := settle_of_value? hvalue
  obtain ⟨before, after, rfl⟩ := List.append_of_mem hm
  obtain ⟨ph, hph⟩ := task_call_run (run {} before) (.settle v) after
  rw [← run_cons, ← run_append] at hph
  exact ⟨_, List.mem_of_getElem? hph, v, rfl⟩

/-- Of values that are set one after the other the first one is the first. -/
theorem head?_values_of_oneByOne {moves : List Move} (h : OneByOne moves) {w : Bool}
    (hfirst : firstGrant? {} moves = some w) : (values moves).head? = some w := by
  rcases hvalues : values moves with _ | ⟨v, rest⟩
  · cases (firstGrant?_of_values_nil hvalues).symm.trans hfirst
  have hhead : moves.findSome? Move.value? = some v := by
    rw [← List.head?_filterMap]
    exact congrArg List.head? hvalues
  obtain ⟨before, m, after, rfl, hm, hbefore⟩ := List.findSome?_eq_some_iff.mp hhead
  obtain rfl := settle_of_value? hm
  have hnone (u : Bool) : .call (.settle u) ∉ before := fun hu => by
    cases (hbefore _ hu)
  have hhas (l : List Move) (hl : ∀ u, .call (.settle u) ∉ l) :
      ∀ u, .call (.settle u) ∈ before ++ .call (.settle v) :: l → u = v := by
    intro u hu
    rcases List.mem_append.mp hu with hleft | hright
    · exact absurd hleft (hnone u)
    · rcases List.mem_cons.mp hright with heq | hmem
      · exact Call.settle.inj (Move.call.inj heq)
      · exact absurd hmem (hl u)
  suffices heq : w = v by rw [heq]; rfl
  rcases hsecond : after.findSome? Move.value? with _ | u
  · -- No other value is set.
    refine firstGrant?_of_all (fun t ht => absurd ht List.not_mem_nil) (hhas after fun u hu => ?_)
      hfirst
    cases (List.findSome?_eq_none_iff.mp hsecond _ hu)
  · -- When the second value comes the first call has ended, and the flag is up.
    obtain ⟨middle, m, last, rfl, hm, hmiddle⟩ := List.findSome?_eq_some_iff.mp hsecond
    obtain rfl := settle_of_value? hm
    have hsplit : before ++ .call (.settle v) :: (middle ++ .call (.settle u) :: last) =
        (before ++ .call (.settle v) :: middle) ++ .call (.settle u) :: last := by simp
    rw [hsplit] at h hfirst
    have hkept := kept_run (before ++ .call (.settle v) :: middle)
    have hready : (run {} (before ++ .call (.settle v) :: middle)).cell.ready = true := by
      obtain ⟨ph, hph⟩ := task_call_run (run {} before) (.settle v) middle
      rw [← run_cons, ← run_append] at hph
      have hended : ph = .ended .settled := h _ u last rfl _ (List.mem_of_getElem? hph) v rfl
      rw [hended] at hph
      exact hkept.calls _ _ hph
    rw [firstGrant?_append] at hfirst
    have hfront := hkept.cell.ready hready
    rw [hfront, Option.some_or] at hfirst
    rw [← Option.some.inj hfirst]
    refine firstGrant?_of_all (fun t ht => absurd ht List.not_mem_nil)
      (hhas middle fun u hu => ?_) hfront
    cases (hmiddle _ hu)

end System

/-! ## Forgetting values -/

def Call.blank : Call → Call
  | .settle _ => .settle false
  | c => c

def Move.blank : Move → Move
  | .call c => .call c.blank
  | m => m

/-- An answer with its value forgotten. Whether a wait has a value is kept. -/
def Answer.blank : Answer → Answer
  | .settled => .settled
  | .flag _ => .flag false
  | .waited inside => .waited (inside.map fun _ => false)

def Phase.blank : Phase → Phase
  | .enteringWrite _ => .enteringWrite false
  | .deciding _ => .deciding false
  | .storing _ => .storing false
  | .leavingRead _ => .leavingRead false
  | .ended a => .ended a.blank
  | ph => ph

def Cell.blank (c : Cell) : Cell := { c with inside := false }

def Task.blank (t : Task) : Task := ⟨t.call.blank, t.phase.blank⟩

def System.blank (s : System) : System := ⟨s.cell.blank, s.clock, s.tasks.map Task.blank⟩

@[simp] theorem Call.blank_blank (c : Call) : c.blank.blank = c.blank := by
  cases c <;> rfl

@[simp] theorem Answer.blank_blank (a : Answer) : a.blank.blank = a.blank := by
  rcases a with _ | _ | _ | _ <;> rfl

@[simp] theorem Phase.blank_blank (ph : Phase) : ph.blank.blank = ph.blank := by
  cases ph with
  | ended a => exact congrArg Phase.ended a.blank_blank
  | _ => rfl

@[simp] theorem Cell.blank_blank (c : Cell) : c.blank.blank = c.blank := rfl

@[simp] theorem Task.blank_blank (t : Task) : t.blank.blank = t.blank := by
  simp [blank]

@[simp] theorem System.blank_blank (s : System) : s.blank.blank = s.blank := by
  simp [blank, Function.comp_def]

theorem Call.blank_start (c : Call) : c.blank.start = c.start.blank := by
  cases c <;> rfl

theorem Call.eq_wait_of_blank {c : Call} {n : Nat} (h : c.blank = .wait n) : c = .wait n := by
  cases c with
  | settle v => cases h
  | _ => exact h

theorem Call.exists_settle_of_blank {c : Call} {v : Bool} (h : c.blank = .settle v) :
    ∃ u, c = .settle u := by
  cases c with
  | settle u => exact ⟨u, rfl⟩
  | _ => cases h

theorem Phase.eq_settled_of_blank {ph : Phase} (h : ph.blank = .ended .settled) :
    ph = .ended .settled := by
  cases ph with
  | ended a =>
    cases a with
    | settled => rfl
    | _ => cases h
  | _ => cases h

theorem Phase.eq_waited_of_blank {ph : Phase} {inside : Option Bool}
    (h : ph.blank = .ended (Answer.waited inside).blank) :
    ∃ inside', ph = .ended (.waited inside') ∧ inside'.isSome = inside.isSome := by
  cases ph with
  | ended a =>
    cases a with
    | waited inside' =>
      refine ⟨inside', rfl, ?_⟩
      have hmap := Answer.waited.inj (Phase.ended.inj h)
      simpa using congrArg Option.isSome hmap
    | _ => cases h
  | _ => cases h

/-- What a step does, values forgotten, it does to a call and a cell whose values are forgotten. -/
theorem Phase.blank_step (ph : Phase) (call : Call) (now : Nat) (c : Cell) :
    (ph.step call now c).1.blank = (ph.blank.step call.blank now c.blank).1.blank ∧
      (ph.step call now c).2.blank = (ph.blank.step call.blank now c.blank).2.blank := by
  cases ph with
  | enteringWrite v =>
    by_cases hfree : c.writing = true ∨ c.readers ≠ 0 <;> simp [step, blank, Cell.blank, hfree]
  | deciding v => by_cases hready : c.ready = true <;> simp [step, blank, Cell.blank, hready]
  | enteringRead => by_cases hfree : c.writing = true <;> simp [step, blank, Cell.blank, hfree]
  | leavingRead seen => cases call <;> exact ⟨rfl, rfl⟩
  | watching deadline =>
    by_cases hready : c.ready = true
    · simp [step, blank, Cell.blank, hready]
    · by_cases hd : deadline ≤ now <;> simp [step, blank, Cell.blank, hready, hd]
  | ended a =>
    refine ⟨?_, rfl⟩
    cases a with
    | waited inside => cases inside <;> rfl
    | _ => rfl
  | _ => exact ⟨rfl, rfl⟩

namespace System

theorem blank_apply (s : System) (m : Move) :
    (s.apply m).blank = (s.blank.apply m.blank).blank := by
  cases m with
  | call c => simp [apply, blank, Move.blank, Task.blank, Call.blank_start, Function.comp_def]
  | pass milliseconds => simp [apply, blank, Move.blank, Function.comp_def]
  | step i =>
    have hi : s.blank.tasks[i]? = s.tasks[i]?.map Task.blank := List.getElem?_map
    show (s.apply (.step i)).blank = (s.blank.apply (.step i)).blank
    rcases hsome : s.tasks[i]? with _ | t
    · rw [hsome, Option.map_none] at hi
      rw [apply_step_of_none hsome, apply_step_of_none hi, blank_blank]
    · rw [hsome, Option.map_some] at hi
      obtain ⟨hphase, hcell⟩ := t.phase.blank_step t.call s.clock s.cell
      have htask : Task.blank ⟨t.call, (t.phase.step t.call s.clock s.cell).1⟩ =
          Task.blank ⟨t.call.blank,
            (t.phase.blank.step t.call.blank s.clock s.cell.blank).1⟩ := by
        simp only [Task.blank, hphase, Call.blank_blank]
      have htasks : (s.tasks.map Task.blank).map Task.blank = s.tasks.map Task.blank := by simp
      rw [apply_step hsome, apply_step hi]
      simp only [blank, List.map_set, hcell, htask, htasks]
      rfl

theorem blank_run {s s' : System} (h : s.blank = s'.blank) {moves moves' : List Move}
    (hmoves : moves.map Move.blank = moves'.map Move.blank) :
    (s.run moves).blank = (s'.run moves').blank := by
  induction moves generalizing s s' moves' with
  | nil =>
    obtain rfl : moves' = [] := List.map_eq_nil_iff.mp hmoves.symm
    exact h
  | cons m moves ih =>
    obtain _ | ⟨m', moves'⟩ := moves'
    · cases hmoves
    · obtain ⟨hm, hrest⟩ := List.cons.inj hmoves
      have hnext : (s.apply m).blank = (s'.apply m').blank := by
        rw [blank_apply, h, hm, ← blank_apply]
      exact ih hnext hrest

end System

theorem OneByOne.of_blank {moves other : List Move} (h : OneByOne moves)
    (hblank : moves.map Move.blank = other.map Move.blank) : OneByOne other := by
  rintro before v after rfl t ht u hu
  rw [List.map_append, List.map_cons] at hblank
  obtain ⟨before', tail, rfl, hbefore, htail⟩ := List.map_eq_append_iff.mp hblank
  obtain ⟨m, after', rfl, hm, -⟩ := List.map_eq_cons_iff.mp htail
  obtain ⟨w, rfl⟩ : ∃ w, m = .call (.settle w) := by
    cases m with
    | call c =>
      obtain ⟨w, rfl⟩ := Call.exists_settle_of_blank (Move.call.inj hm)
      exact ⟨w, rfl⟩
    | _ => cases hm
  have htasks : (System.run {} before').tasks.map Task.blank =
      (System.run {} before).tasks.map Task.blank :=
    congrArg System.tasks (System.blank_run rfl hbefore)
  obtain ⟨t', ht', heq⟩ := List.mem_map.mp (htasks ▸ List.mem_map_of_mem ht)
  obtain ⟨hcall, hphase⟩ := Task.mk.inj heq
  rw [hu] at hcall
  obtain ⟨x, hx⟩ := Call.exists_settle_of_blank hcall
  rw [h before' w after' rfl t' ht' x hx] at hphase
  exact Phase.eq_settled_of_blank hphase.symm

end CloudQueue.Verdict
