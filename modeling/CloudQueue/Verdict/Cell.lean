import CloudQueue.Verdict.Basic

/-!
# The cell of a verdict

A cell holds a verdict behind a guard, which many readers or one writer may hold. Next to it stands
a flag that says whether the verdict is settled, and the flag is read without the guard. A call on
the cell takes several steps, so calls can get between the steps of each other.
-/

namespace CloudQueue.Verdict

/-- The verdict behind the guard, the flag next to it, and who holds the guard. -/
structure Cell where
  inside : Bool := false
  ready : Bool := false
  readers : Nat := 0
  writing : Bool := false
  deriving DecidableEq, Repr

def Cell.ofVerdict (v : Verdict) : Cell := { inside := v.inside, ready := v.isReady }

def Cell.verdict (c : Cell) : Verdict := if c.ready then ⟨some c.inside⟩ else .pending

@[simp] theorem Cell.verdict_ofVerdict (v : Verdict) : (Cell.ofVerdict v).verdict = v := by
  rcases v with ⟨_ | _⟩ <;> rfl

/-- A call on the cell. A wait lasts a number of milliseconds. -/
inductive Call where
  | settle (inside : Bool)
  | inside
  | snapshot
  | isReady
  | wait (timeout : Nat)
  deriving DecidableEq, Repr

/-- The answer of a call: settling has none of its own, and a wait may end without a verdict. -/
inductive Answer where
  | settled
  | flag (b : Bool)
  | waited (inside : Option Bool)
  deriving DecidableEq, Repr

inductive Phase where
  /-- In front of the guard, to write. -/
  | enteringWrite (inside : Bool)
  /-- Behind the guard, in front of a look at the flag. -/
  | deciding (inside : Bool)
  /-- Behind the guard of a verdict that is not settled. -/
  | storing (inside : Bool)
  /-- Behind the guard, with the verdict stored and the flag still down. -/
  | announcing
  /-- Behind the guard, with nothing left to write. -/
  | leavingWrite
  /-- In front of the guard, to read. -/
  | enteringRead
  /-- Behind the guard, in front of the verdict. -/
  | reading
  /-- Behind the guard, with the verdict seen. -/
  | leavingRead (seen : Bool)
  /-- In front of a look at the flag. -/
  | looking
  /-- In front of a wait that has not begun. -/
  | subscribing (timeout : Nat)
  /-- In a wait that ends at a deadline. -/
  | watching (deadline : Nat)
  | ended (a : Answer)
  deriving DecidableEq, Repr

def Call.start : Call → Phase
  | .settle value => .enteringWrite value
  | .inside | .snapshot => .enteringRead
  | .isReady => .looking
  | .wait timeout => .subscribing timeout

def Call.answer : Call → Bool → Answer
  | .wait _, seen => .waited (some seen)
  | _, seen => .flag seen

/-- The next step of a call at a time, and the cell after it. A call that the guard holds back, or
that waits, stays where it is. A wait looks at the flag before it looks at the time. -/
def Phase.step (call : Call) (now : Nat) (c : Cell) : Phase → Phase × Cell
  | .enteringWrite inside =>
    if c.writing ∨ c.readers ≠ 0 then (.enteringWrite inside, c)
    else (.deciding inside, { c with writing := true })
  | .deciding inside => if c.ready then (.leavingWrite, c) else (.storing inside, c)
  | .storing inside => (.announcing, { c with inside })
  | .announcing => (.leavingWrite, { c with ready := true })
  | .leavingWrite => (.ended .settled, { c with writing := false })
  | .enteringRead =>
    if c.writing then (.enteringRead, c) else (.reading, { c with readers := c.readers + 1 })
  | .reading => (.leavingRead c.inside, c)
  | .leavingRead seen => (.ended (call.answer seen), { c with readers := c.readers - 1 })
  | .looking => (.ended (.flag c.ready), c)
  | .subscribing timeout => (.watching (now + timeout), c)
  | .watching deadline =>
    -- The verdict is not taken along from the flag: it is read behind the guard like any other.
    if c.ready then (.enteringRead, c)
    else if deadline ≤ now then (.ended (.waited none), c)
    else (.watching deadline, c)
  | .ended a => (.ended a, c)

end CloudQueue.Verdict
