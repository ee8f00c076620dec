/-!
# Named values in ascending order

`Members α bound` holds values of `α` under names that ascend strictly and come after `bound`.
The order is that of the names' code points, which is also the order of their UTF-8 bytes. Setting
a name keeps the order, so members with the same values are equal, however they came about:
`toList_injective` and `ofList_toList`.
-/

namespace CloudQueue.Json

/-- Whether a name comes after a bound; every name comes after no bound. -/
def Above : Option String → String → Prop
  | none, _ => True
  | some bound, name => bound < name

@[simp] theorem above_some {bound name : String} : Above (some bound) name ↔ bound < name :=
  Iff.rfl

theorem Above.trans {bound : Option String} {name later : String} (h : Above bound name)
    (h' : name < later) : Above bound later := by
  cases bound with
  | none => trivial
  | some b => exact String.lt_trans h h'

theorem above_of_not_lt_of_ne {a b : String} (h : ¬a < b) (hne : a ≠ b) : Above (some b) a := by
  rw [above_some, ← String.not_le]
  exact fun h' => hne (String.le_antisymm h' (String.not_lt.1 h))

/-- Values under strictly ascending names after a bound. -/
inductive Members (α : Type) : Option String → Type where
  | empty {bound : Option String} : Members α bound
  | member {bound : Option String} (name : String) (above : Above bound name) (value : α)
      (rest : Members α (some name)) : Members α bound

namespace Members

variable {α β : Type} {bound : Option String}

def toList : {bound : Option String} → Members α bound → List (String × α)
  | _, .empty => []
  | _, .member name _ value rest => (name, value) :: rest.toList

def get? : {bound : Option String} → Members α bound → String → Option α
  | _, .empty, _ => none
  | _, .member name _ value rest, key => if key = name then some value else rest.get? key

def contains (members : Members α bound) (key : String) : Bool := (members.get? key).isSome

def insert : {bound : Option String} → Members α bound → (key : String) → Above bound key → α →
    Members α bound
  | _, .empty, key, above, value => .member key above value .empty
  | _, .member name a v rest, key, above, value =>
    if h : key < name then .member key above value (.member name h v rest)
    else if hne : key = name then .member name a value rest
    else .member name a v (rest.insert key (above_of_not_lt_of_ne h hne) value)

/-- The members with a name set to a value; without a bound any name may be set. -/
def set (members : Members α none) (key : String) (value : α) : Members α none :=
  members.insert key trivial value

/-- The same members after an earlier bound. -/
def weaken {name : String} (above : Above bound name) : Members α (some name) → Members α bound
  | .empty => .empty
  | .member k a v rest => .member k (above.trans a) v rest

def erase : {bound : Option String} → Members α bound → String → Members α bound
  | _, .empty, _ => .empty
  | _, .member name a v rest, key =>
    if key = name then rest.weaken a else .member name a v (rest.erase key)

def ofList (pairs : List (String × α)) : Members α none :=
  pairs.foldl (fun members p => members.set p.1 p.2) .empty

/-- Every value sent through a function that may refuse it; the first refusal in the order of the
names counts. -/
def mapM {ε : Type} (f : α → Except ε β) :
    {bound : Option String} → Members α bound → Except ε (Members β bound)
  | _, .empty => .ok .empty
  | _, .member name a v rest =>
    match f v with
    | .error e => .error e
    | .ok w =>
      match rest.mapM f with
      | .error e => .error e
      | .ok ws => .ok (.member name a w ws)

@[simp] theorem toList_empty : (empty : Members α bound).toList = [] := rfl

@[simp] theorem toList_member (name : String) (above : Above bound name) (value : α)
    (rest : Members α (some name)) :
    (member name above value rest).toList = (name, value) :: rest.toList := rfl

@[simp] theorem toList_weaken {name : String} (above : Above bound name)
    (members : Members α (some name)) : (members.weaken above).toList = members.toList := by
  cases members <;> rfl

theorem above_of_mem : {bound : Option String} → (members : Members α bound) →
    {p : String × α} → p ∈ members.toList → Above bound p.1
  | _, .empty, _, h => by simp at h
  | _, .member _ above _ rest, _, h => by
    rcases List.mem_cons.1 h with rfl | h
    · exact above
    · exact above.trans (above_of_mem rest h)

/-- The names ascend strictly. -/
theorem pairwise_toList : {bound : Option String} → (members : Members α bound) →
    members.toList.Pairwise fun p q => p.1 < q.1
  | _, .empty => .nil
  | _, .member _ _ _ rest => .cons (fun _ h => above_of_mem rest h) (pairwise_toList rest)

theorem toList_injective : {bound : Option String} → {a b : Members α bound} →
    a.toList = b.toList → a = b
  | _, .empty, .empty, _ => rfl
  | _, .empty, .member .., h => by simp at h
  | _, .member .., .empty, h => by simp at h
  | _, .member _ _ _ rest, .member _ _ _ rest', h => by
    simp only [toList_member, List.cons.injEq, Prod.mk.injEq] at h
    obtain ⟨⟨rfl, rfl⟩, h⟩ := h
    rw [toList_injective h]

theorem toList_insert_of_forall_lt : {bound : Option String} → (members : Members α bound) →
    {key : String} → (above : Above bound key) → (value : α) →
    (∀ p ∈ members.toList, p.1 < key) →
    (members.insert key above value).toList = members.toList ++ [(key, value)]
  | _, .empty, _, _, _, _ => rfl
  | _, .member name _ _ rest, key, above, value, h => by
    have hlt : name < key := h (name, _) List.mem_cons_self
    have hne : key ≠ name := fun e => String.lt_irrefl _ (e ▸ hlt)
    simp only [insert, String.lt_asymm hlt, hne, dite_false, toList_member, List.cons_append]
    rw [toList_insert_of_forall_lt rest _ value fun p hp => h p (List.mem_cons_of_mem _ hp)]

/-- Setting pairs with ascending names, all later than those already there, adds them at the end. -/
theorem toList_foldl_set (pairs : List (String × α)) (members : Members α none)
    (sorted : (members.toList ++ pairs).Pairwise fun p q => p.1 < q.1) :
    (pairs.foldl (fun ms p => ms.set p.1 p.2) members).toList = members.toList ++ pairs := by
  induction pairs generalizing members with
  | nil => simp
  | cons p rest ih =>
    have hp : (members.set p.1 p.2).toList = members.toList ++ [p] :=
      toList_insert_of_forall_lt members _ _ fun q hq =>
        (List.pairwise_append.1 sorted).2.2 q hq p List.mem_cons_self
    rw [List.foldl_cons, ih _ (by simpa [hp] using sorted), hp]
    simp

@[simp] theorem ofList_toList (members : Members α none) : ofList members.toList = members :=
  toList_injective (by
    rw [ofList, toList_foldl_set _ _ (by simpa using pairwise_toList members)]
    simp)

@[simp] theorem get?_insert_self : {bound : Option String} → (members : Members α bound) →
    (key : String) → (above : Above bound key) → (value : α) →
    (members.insert key above value).get? key = some value
  | _, .empty, key, _, _ => by simp [insert, get?]
  | _, .member name _ _ rest, key, above, value => by
    unfold insert
    split
    · simp [get?]
    · split
      · simp [get?, *]
      · simp [get?, *, get?_insert_self rest]

theorem get?_insert_of_ne : {bound : Option String} → (members : Members α bound) →
    {key other : String} → (above : Above bound key) → (value : α) → other ≠ key →
    (members.insert key above value).get? other = members.get? other
  | _, .empty, key, other, _, _, h => by simp [insert, get?, h]
  | _, .member name _ _ rest, key, other, above, value, h => by
    unfold insert
    split
    · simp [get?, h]
    · split
      · subst_vars; simp [get?, h]
      · simp only [get?, get?_insert_of_ne rest _ value h]

@[simp] theorem get?_set_self (members : Members α none) (key : String) (value : α) :
    (members.set key value).get? key = some value :=
  get?_insert_self members key trivial value

theorem get?_set_of_ne (members : Members α none) {key other : String} (value : α)
    (h : other ≠ key) : (members.set key value).get? other = members.get? other :=
  get?_insert_of_ne members trivial value h

theorem get?_eq_some_iff : {bound : Option String} → (members : Members α bound) →
    {key : String} → {value : α} →
    (members.get? key = some value ↔ (key, value) ∈ members.toList)
  | _, .empty, _, _ => by simp [get?]
  | _, .member name _ v rest, key, value => by
    unfold get?
    rw [toList_member, List.mem_cons, Prod.mk.injEq]
    split
    · rename_i hkey
      subst hkey
      have hrest : (key, value) ∉ rest.toList := fun h => String.lt_irrefl _ (above_of_mem rest h)
      simp [hrest, eq_comm]
    · rename_i hkey
      rw [get?_eq_some_iff rest]
      simp [hkey]

end Members

end CloudQueue.Json
