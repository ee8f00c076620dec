import CloudQueue.Binary64.Basic
import CloudQueue.Json.Members

/-!
# JSON values

Every `Json` is in canonical form by its type: the members of an object carry strictly ascending
names, an integer is one of the signed or unsigned 64-bit range, and every other number is a finite
`Binary64`. Equal documents are therefore equal values.
-/

namespace CloudQueue

/-- A number of a document. Integers of the signed and unsigned 64-bit ranges are exact. -/
inductive Json.Number where
  | integer (value : Int) (low : -9223372036854775808 ≤ value)
      (high : value ≤ 18446744073709551615)
  | float (value : Binary64)
  deriving DecidableEq

theorem Json.Number.low_le_nat (n : Nat) : -9223372036854775808 ≤ (n : Int) := by omega

theorem Json.Number.nat_le_high {n : Nat} (h : n ≤ 18446744073709551615) :
    (n : Int) ≤ 18446744073709551615 := by omega

theorem Json.Number.low_le_neg_nat {n : Nat} (h : n ≤ 9223372036854775808) :
    -9223372036854775808 ≤ -(n : Int) := by omega

theorem Json.Number.neg_nat_le_high (n : Nat) : -(n : Int) ≤ 18446744073709551615 := by omega

def Json.Number.ofNat (n : Nat) (h : n ≤ 18446744073709551615) : Number :=
  .integer n (low_le_nat n) (nat_le_high h)

def Json.Number.ofNegNat (n : Nat) (h : n ≤ 9223372036854775808) : Number :=
  .integer (-(n : Int)) (low_le_neg_nat h) (neg_nat_le_high n)

inductive Json where
  | null
  | bool (b : Bool)
  | number (n : Json.Number)
  | string (s : String)
  | array (items : List Json)
  | object (members : Json.Members Json none)

namespace Json

instance : Inhabited Json := ⟨.null⟩

mutual

def decEq : (a b : Json) → Decidable (a = b)
  | .null, .null => isTrue rfl
  | .bool a, .bool b => decidable_of_iff (a = b) (by simp)
  | .number a, .number b => decidable_of_iff (a = b) (by simp)
  | .string a, .string b => decidable_of_iff (a = b) (by simp)
  | .array a, .array b =>
    match itemsDecEq a b with
    | isTrue h => isTrue (by rw [h])
    | isFalse h => isFalse fun e => h (by injection e)
  | .object a, .object b =>
    match membersDecEq a b with
    | isTrue h => isTrue (by rw [h])
    | isFalse h => isFalse fun e => h (by injection e)
  | .null, .bool _ | .null, .number _ | .null, .string _ | .null, .array _ | .null, .object _
  | .bool _, .null | .bool _, .number _ | .bool _, .string _ | .bool _, .array _
  | .bool _, .object _
  | .number _, .null | .number _, .bool _ | .number _, .string _ | .number _, .array _
  | .number _, .object _
  | .string _, .null | .string _, .bool _ | .string _, .number _ | .string _, .array _
  | .string _, .object _
  | .array _, .null | .array _, .bool _ | .array _, .number _ | .array _, .string _
  | .array _, .object _
  | .object _, .null | .object _, .bool _ | .object _, .number _ | .object _, .string _
  | .object _, .array _ => isFalse nofun

def itemsDecEq : (a b : List Json) → Decidable (a = b)
  | [], [] => isTrue rfl
  | [], _ :: _ | _ :: _, [] => isFalse nofun
  | x :: xs, y :: ys =>
    match decEq x y with
    | isFalse h => isFalse fun e => h (List.cons.inj e).1
    | isTrue h =>
      match itemsDecEq xs ys with
      | isFalse h' => isFalse fun e => h' (List.cons.inj e).2
      | isTrue h' => isTrue (by rw [h, h'])

def membersDecEq : {bound : Option String} → (a b : Members Json bound) → Decidable (a = b)
  | _, .empty, .empty => isTrue rfl
  | _, .empty, .member .. | _, .member .., .empty => isFalse nofun
  | _, .member k _ x xs, .member l _ y ys =>
    if hk : k = l then
      match decEq x y with
      | isFalse h => isFalse fun e => h (by injection e)
      | isTrue h =>
        match membersDecEq xs (hk ▸ ys) with
        | isFalse h' => isFalse fun e => h' (by subst hk; injection e)
        | isTrue h' => isTrue (by subst hk; subst h; simp_all)
    else isFalse fun e => hk (by injection e)

end

instance : DecidableEq Json := decEq

/-- The value of a floating-point number, given as the finite number it is: null if it is not
finite. -/
def ofDouble : Option Binary64 → Json
  | some x => .number (.float x)
  | none => .null

def isNull : Json → Bool
  | .null => true
  | _ => false

/-- The member under a name, of an object. Nothing else has members. -/
def get? : Json → String → Option Json
  | .object members, key => members.get? key
  | _, _ => none

/-- An object with the given members; of two with one name the later counts. -/
def ofMembers (pairs : List (String × Json)) : Json := .object (Members.ofList pairs)

mutual

def depth : Json → Nat
  | .null | .bool _ | .number _ | .string _ => 0
  | .array items => itemsDepth items + 1
  | .object members => membersDepth members + 1

def itemsDepth : List Json → Nat
  | [] => 0
  | x :: xs => max x.depth (itemsDepth xs)

def membersDepth : {bound : Option String} → Members Json bound → Nat
  | _, .empty => 0
  | _, .member _ _ x rest => max x.depth (membersDepth rest)

end

/-- Equality of numbers by value within their kind: the two zeros are equal. -/
def Number.same : Number → Number → Bool
  | .integer a _ _, .integer b _ _ => a == b
  | .float a, .float b => a.sameValue b
  | _, _ => false

mutual

/-- Equality of values in which the two floating-point zeros are equal. -/
def same : Json → Json → Bool
  | .null, .null => true
  | .bool a, .bool b => a == b
  | .number a, .number b => a.same b
  | .string a, .string b => a == b
  | .array a, .array b => sameItems a b
  | .object a, .object b => sameMembers a b
  | _, _ => false

def sameItems : List Json → List Json → Bool
  | [], [] => true
  | x :: xs, y :: ys => x.same y && sameItems xs ys
  | _, _ => false

def sameMembers : {b c : Option String} → Members Json b → Members Json c → Bool
  | _, _, .empty, .empty => true
  | _, _, .member k _ x xs, .member l _ y ys => k == l && x.same y && sameMembers xs ys
  | _, _, _, _ => false

end

end Json

end CloudQueue
