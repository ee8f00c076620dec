/-!
# The verdict of a detection

A verdict is pending until it is settled, and the first value it is settled with stays. Whoever
asks while it is pending is told `false`.
-/

namespace CloudQueue

structure Verdict where
  settled? : Option Bool := none
  deriving DecidableEq, Repr

namespace Verdict

def pending : Verdict := {}

/-- The verdict after an attempt to settle it. Only the first attempt has an effect. -/
def settle (v : Verdict) (inside : Bool) : Verdict :=
  match v.settled? with
  | some _ => v
  | none => ⟨some inside⟩

def isReady (v : Verdict) : Bool := v.settled?.isSome

/-- The value of a settled verdict, and `false` of a pending one. -/
def inside (v : Verdict) : Bool := v.settled?.getD false

end Verdict

end CloudQueue
