import CloudQueue.Json.Printer
import Mathlib.Data.List.Sort

/-!
# Members as finite maps, and their listings

Members are determined by what is found in them (`Members.eq_of_get?`), and every text of an object
is a listing of its members, each one once and in the order of their names.
-/

namespace CloudQueue.Json

/-! ## Members as finite maps -/

namespace Members

variable {α : Type} {bound : Option String}

theorem nodup_names (members : Members α bound) : (members.toList.map Prod.fst).Nodup := by
  rw [List.Nodup, List.pairwise_map]
  refine members.pairwise_toList.imp fun {p q} hlt heq => ?_
  rw [heq] at hlt
  exact String.lt_irrefl q.1 hlt

/-- Members in which the same is found under every name are equal. -/
theorem eq_of_get? {a b : Members α bound} (h : ∀ key, a.get? key = b.get? key) : a = b := by
  have hirrefl : Std.Irrefl fun p q : String × α => p.1 < q.1 := ⟨fun p => String.lt_irrefl p.1⟩
  have hantisymm : Std.Antisymm fun p q : String × α => p.1 < q.1 :=
    ⟨fun p q hpq hqp => absurd hqp (String.lt_asymm hpq)⟩
  refine toList_injective (a.pairwise_toList.eq_of_mem_iff b.pairwise_toList fun (key, value) => ?_)
  rw [← a.get?_eq_some_iff, ← b.get?_eq_some_iff, h]

end Members

/-! ## Values that are the same -/

theorem Number.same_self (n : Number) : n.same n = true := by
  cases n <;> simp [Number.same, Binary64.sameValue]

mutual

theorem same_self (j : Json) : j.same j = true := by
  cases j with
  | null => rfl
  | bool b => simp [same]
  | number n => exact n.same_self
  | string s => simp [same]
  | array items => exact sameItems_self items
  | object members => exact sameMembers_self members

theorem sameItems_self (items : List Json) : sameItems items items = true := by
  cases items with
  | nil => rfl
  | cons x xs => simp [sameItems, same_self x, sameItems_self xs]

theorem sameMembers_self {bound : Option String} (members : Members Json bound) :
    sameMembers members members = true := by
  cases members with
  | empty => rfl
  | member name above x rest => simp [sameMembers, same_self x, sameMembers_self rest]

end

/-! ## Listings -/

def entry (layout : Layout) (level : Nat) (e : String × Json) : List Char :=
  layout.newline level ++ quote e.1 ++ layout.colon ++ e.2.print layout level

def displayEntry (e : String × Json) : List Char :=
  Text.quoted e.1.toList ++ [':', ' '] ++ e.2.display

theorem printMembers_eq (layout : Layout) (level : Nat) {bound : Option String}
    (members : Members Json bound) (first : List Char) :
    first ++ printMembers layout level members =
      [','].intercalate (first :: members.toList.map (entry layout level)) := by
  induction members generalizing first with
  | empty => simp [printMembers]
  | member name above x rest ih =>
    rw [Members.toList_member, List.map_cons, List.intercalate_cons_cons, ← ih]
    simp [printMembers, entry]

/-- The text of an object lists its members. -/
theorem print_object (layout : Layout) (level : Nat) (members : Members Json none) :
    (object members).print layout level =
      '\x7b' :: [','].intercalate (members.toList.map (entry layout (level + 1))) ++
        (if members.toList = [] then [] else layout.newline level) ++ ['\x7d'] := by
  cases members with
  | empty => rfl
  | member name _ x rest =>
    rw [Members.toList_member, List.map_cons, ← printMembers_eq]
    simp [print, entry]

theorem displayMembers_eq {bound : Option String} (members : Members Json bound) :
    displayMembers members = [',', ' '].intercalate (members.toList.map displayEntry) := by
  induction members with
  | empty => rfl
  | member name above x rest ih =>
    cases rest with
    | empty => simp [displayMembers, displayEntry]
    | member next above y rest =>
      -- The second clause of the definition is for the last member only.
      simp only [Members.toList_member, List.map_cons] at ih ⊢
      rw [List.intercalate_cons_cons, ← ih]
      rfl

end CloudQueue.Json
