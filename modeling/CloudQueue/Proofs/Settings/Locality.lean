import CloudQueue.Proofs.Settings.Nulls

/-!
# What a lookup depends on

A member anywhere inside a document can be set, added or removed (`Json.update`). That changes what
is addressed by its own path, by the paths that begin with it or that it begins with, and by the
name that is literally the first name of its path; every other lookup answers as before
(`lookup_locality`).
-/

namespace CloudQueue

namespace Json.Members

variable {α : Type} {bound : Option String} {key other : String}

@[simp] theorem get?_weaken {name : String} (above : Above bound name)
    (members : Members α (some name)) (key : String) :
    (members.weaken above).get? key = members.get? key := by
  cases members <;> rfl

theorem get?_eq_none_of_not_above (members : Members α bound) (h : ¬Above bound key) :
    members.get? key = none := by
  rw [Option.eq_none_iff_forall_ne_some]
  intro value hvalue
  exact h (above_of_mem members (members.get?_eq_some_iff.mp hvalue))

@[simp] theorem get?_erase_self : {bound : Option String} → (members : Members α bound) →
    (key : String) → (members.erase key).get? key = none
  | _, .empty, _ => rfl
  | _, .member name above v rest, key => by
    unfold erase
    split
    · rename_i hkey
      subst hkey
      rw [get?_weaken]
      exact rest.get?_eq_none_of_not_above (String.lt_irrefl key)
    · rename_i hkey
      simp [get?, hkey, get?_erase_self rest]

theorem get?_erase_of_ne : {bound : Option String} → (members : Members α bound) →
    other ≠ key → (members.erase key).get? other = members.get? other
  | _, .empty, _ => rfl
  | _, .member name above v rest, h => by
    unfold erase
    split
    · rename_i hkey
      subst hkey
      simp [get?, h]
    · simp only [get?, get?_erase_of_ne rest h]

def put (members : Members α none) (key : String) : Option α → Members α none
  | some value => members.set key value
  | none => members.erase key

@[simp] theorem get?_put_self (members : Members α none) (key : String) (value : Option α) :
    (members.put key value).get? key = value := by
  cases value <;> simp [put]

theorem get?_put_of_ne (members : Members α none) (value : Option α) (h : other ≠ key) :
    (members.put key value).get? other = members.get? other := by
  cases value with
  | none => exact get?_erase_of_ne members h
  | some value => exact get?_set_of_ne members value h

end Json.Members

namespace Json

/-- The document in which the object at the end of a path has a member set to a value, or is without
it; none if the path does not lead to an object. -/
def update : Json → (parent : List String) → (key : String) → Option Json → Option Json
  | .object members, [], key, value => some (.object (members.put key value))
  | .object members, name :: parent, key, value =>
    match members.get? name with
    | some child =>
      (child.update parent key value).map fun child => .object (members.set name child)
    | none => none
  | _, _, _, _ => none

/-- Neither path is the beginning of the other. -/
def Diverge (path other : List String) : Prop := ¬path <+: other ∧ ¬other <+: path

variable {j j' v : Json} {key name : String} {value : Option Json} {parent path other : List String}

theorem not_diverge_nil : ¬Diverge [] path := fun h => h.1 List.nil_prefix

theorem diverge_cons_iff : Diverge (name :: path) (name :: other) ↔ Diverge path other := by
  unfold Diverge
  simp [List.cons_prefix_cons]

theorem hasMember_object_iff {members : Members Json none} :
    (object members).HasMember name v ↔ members.get? name = some v :=
  get?_eq_some_iff.symm

theorem update_nil_eq_some_iff : j.update [] key value = some j' ↔
    ∃ members, j = .object members ∧ j' = .object (members.put key value) := by
  cases j <;> simp [update, eq_comm]

/-- Further inside, an update sets the member that is on the way to what it makes of it. -/
theorem update_cons_eq_some_iff : j.update (name :: parent) key value = some j' ↔
    ∃ members child child', j = .object members ∧ members.get? name = some child ∧
      child.update parent key value = some child' ∧ j' = .object (members.set name child') := by
  cases j with
  | object members =>
    rcases hmember : members.get? name with _ | child
    · simp [update, hmember]
    · simp [update, hmember, eq_comm]
  | null | bool _ | number _ | string _ | array _ => simp [update]

theorem exists_update (key : String) (value : Option Json) (h : Leads j parent v)
    {members : Members Json none} (hv : v = .object members) :
    ∃ j', j.update parent key value = some j' := by
  induction h with
  | here j => exact ⟨_, update_nil_eq_some_iff.mpr ⟨members, hv, rfl⟩⟩
  | member hmember _ ih =>
    obtain ⟨child', hchild⟩ := ih hv
    obtain ⟨outer, rfl, hmem⟩ := hmember
    have hget := (outer.get?_eq_some_iff).mpr hmem
    exact ⟨_, update_cons_eq_some_iff.mpr ⟨outer, _, child', rfl, hget, hchild, rfl⟩⟩

/-- The path of the member leads to the value that has been set, and nowhere if it was removed. -/
theorem leads_update_self (h : j.update parent key value = some j') :
    Leads j' (parent ++ [key]) v ↔ value = some v := by
  induction parent generalizing j j' with
  | nil =>
    obtain ⟨members, -, rfl⟩ := update_nil_eq_some_iff.mp h
    simp [leads_cons_iff, hasMember_object_iff]
  | cons name parent ih =>
    obtain ⟨members, child, child', -, -, hchild, rfl⟩ := update_cons_eq_some_iff.mp h
    simp [leads_cons_iff, hasMember_object_iff, ih hchild]

/-- Only the member at the head of the path is another one in an updated document. -/
theorem hasMember_update_of_ne (h : j.update parent key value = some j')
    (hne : (parent ++ [key]).head? ≠ some name) : j'.HasMember name v ↔ j.HasMember name v := by
  cases parent with
  | nil =>
    obtain ⟨members, rfl, rfl⟩ := update_nil_eq_some_iff.mp h
    have hother : name ≠ key := fun heq => hne (by simp [heq])
    rw [hasMember_object_iff, hasMember_object_iff, members.get?_put_of_ne value hother]
  | cons first parent =>
    obtain ⟨members, child, child', rfl, -, -, rfl⟩ := update_cons_eq_some_iff.mp h
    have hother : name ≠ first := fun heq => hne (by simp [heq])
    rw [hasMember_object_iff, hasMember_object_iff, members.get?_set_of_ne child' hother]

/-- A path that parts from the path of the update leads to what it led to before: as long as the two
are one way, what is on the way is updated, and where they part it is not. -/
theorem leads_update_of_diverge (h : j.update parent key value = some j')
    (hdiverge : Diverge path (parent ++ [key])) : Leads j' path v ↔ Leads j path v := by
  induction path generalizing parent j j' with
  | nil => exact absurd hdiverge not_diverge_nil
  | cons name path ih =>
    by_cases hhead : (parent ++ [key]).head? = some name
    · cases parent with
      | nil =>
        obtain rfl : key = name := by simpa using hhead
        exact absurd (List.cons_prefix_cons.mpr ⟨rfl, List.nil_prefix⟩) hdiverge.2
      | cons first parent =>
        obtain rfl : first = name := by simpa using hhead
        obtain ⟨members, child, child', rfl, hmember, hchild, rfl⟩ := update_cons_eq_some_iff.mp h
        have hrest : Leads child' path v ↔ Leads child path v :=
          ih hchild (diverge_cons_iff.mp hdiverge)
        simp [leads_cons_iff, hasMember_object_iff, hmember, hrest]
    · simp only [leads_cons_iff, hasMember_update_of_ne h hhead]

end Json

namespace Settings

open Json (Diverge Leads)

variable {root root' v : Json} {key name : String} {value : Option Json}
  {parent parts : List String}

/-- Two settings answer alike under a name: there is a section in both or in none, and it is the
same and reads the same in every shape. -/
structure AnswerAlike (settings settings' : Settings) (name : String) : Prop where
  has : settings'.has name = settings.has name
  get : settings'.get name = settings.get name
  read : ∀ {α : Type} (shape : Json.Shape α), settings'.read shape name = settings.read shape name

theorem answerAlike_of_addressed (h : ∀ v, Addressed root' name v ↔ Addressed root name v) :
    AnswerAlike ⟨root⟩ ⟨root'⟩ name := by
  have hsection : (⟨root'⟩ : Settings).section? name = (⟨root⟩ : Settings).section? name := by
    apply Option.ext
    intro v
    rw [section?_eq_some_iff, section?_eq_some_iff, h]
  have hget : (⟨root'⟩ : Settings).get name = (⟨root⟩ : Settings).get name := by
    unfold get
    rw [hsection]
  refine ⟨?_, hget, fun shape => ?_⟩
  · unfold has
    rw [hsection]
  · unfold read
    rw [hget]

/-- An update apart from the path of a name's parts, of a member that is not the name itself, does
not change what the name stands for. -/
theorem addressed_update_iff (h : root.update parent key value = some root') (hname : name ≠ "")
    (hparts : AreParts name parts) (hdiverge : Diverge parts (parent ++ [key]))
    (hhead : (parent ++ [key]).head? ≠ some name) :
    Addressed root' name v ↔ Addressed root name v := by
  have hmember (w : Json) : root'.HasMember name w ↔ root.HasMember name w :=
    Json.hasMember_update_of_ne h hhead
  by_cases hany : ∃ w, root.HasMember name w
  · obtain ⟨w, hw⟩ := hany
    rw [addressed_iff_of_hasMember hname ((hmember w).mpr hw), addressed_iff_of_hasMember hname hw]
  · have habsent : ∀ w, ¬root.HasMember name w := fun w hw => hany ⟨w, hw⟩
    have habsent' : ∀ w, ¬root'.HasMember name w := fun w hw => habsent w ((hmember w).mp hw)
    rw [addressed_iff_leads hparts hname (.inl habsent'),
      addressed_iff_leads hparts hname (.inl habsent), Json.leads_update_of_diverge h hdiverge]

theorem diverge_of_dot (hkey : '.' ∈ key.toList) (hparts : AreParts name parts) :
    Diverge parts [key] := by
  have hnot : key ∉ parts := fun hmem => hparts.dotless key hmem hkey
  constructor
  · intro hbegins
    rcases parts with _ | ⟨part, rest⟩
    · exact hparts.ne_nil rfl
    · obtain ⟨rfl, -⟩ := List.cons_prefix_cons.mp hbegins
      exact hnot List.mem_cons_self
  · exact fun hbegins => hnot (hbegins.subset List.mem_cons_self)

/-- **A lookup depends only on what its name addresses.** Wherever a path leads to an object, a
member of that object can be set, added or removed, and then the path with the member's name behind
it leads to the value that was set, or nowhere. A lookup answers as before if that path and the one
of its name's parts diverge, and the update does not begin with a member that has the very name that
is looked up. So a new member of the document with dots in its name changes no lookup but that of
its own name and of the empty one. -/
theorem lookup_locality (root : Json) (parent : List String) (key : String) (value : Option Json)
    (members : Json.Members Json none) (hparent : Leads root parent (.object members)) :
    ∃ root', root.update parent key value = some root' ∧
      (∀ v, Leads root' (parent ++ [key]) v ↔ value = some v) ∧
      (∀ name parts, name ≠ "" → AreParts name parts → Diverge parts (parent ++ [key]) →
        (parent ++ [key]).head? ≠ some name → AnswerAlike ⟨root⟩ ⟨root'⟩ name) ∧
      (parent = [] → '.' ∈ key.toList → ∀ name, name ≠ "" → name ≠ key →
        AnswerAlike ⟨root⟩ ⟨root'⟩ name) := by
  obtain ⟨root', hupdate⟩ := Json.exists_update key value hparent rfl
  have halike (name : String) (parts : List String) (hname : name ≠ "")
      (hparts : AreParts name parts) (hdiverge : Diverge parts (parent ++ [key]))
      (hhead : (parent ++ [key]).head? ≠ some name) : AnswerAlike ⟨root⟩ ⟨root'⟩ name :=
    answerAlike_of_addressed fun v => addressed_update_iff hupdate hname hparts hdiverge hhead
  refine ⟨root', hupdate, fun v => Json.leads_update_self hupdate, halike, ?_⟩
  rintro rfl hdot name hname hne
  have hparts := areParts_segments name
  exact halike name _ hname hparts (diverge_of_dot hdot hparts) (by simpa using Ne.symm hne)

/-- A setting beside the one that is looked up, and a member with dots in its name between two names
that are looked up. -/
theorem lookup_locality_beside :
    let root := Json.ofMembers [("jobs", Json.ofMembers [("late",
      Json.ofMembers [("limit", .bool true)])])]
    (∃ root', root.update ["jobs", "late"] "prefetch" (some (.bool false)) = some root' ∧
      AnswerAlike ⟨root⟩ ⟨root'⟩ "jobs.late.limit") ∧
    ∃ root', root.update [] "jobs.late" (some .null) = some root' ∧
      AnswerAlike ⟨root⟩ ⟨root'⟩ "jobs.late.limit" ∧ AnswerAlike ⟨root⟩ ⟨root'⟩ "jobs" := by
  intro root
  constructor
  · obtain ⟨root', hupdate, -, halike, -⟩ := lookup_locality root ["jobs", "late"] "prefetch"
      (some (.bool false)) (.ofList [("limit", .bool true)])
      (walk_eq_some_iff.mp (by decide +kernel))
    exact ⟨root', hupdate, halike "jobs.late.limit" _ (by decide) (areParts_segments _)
      ⟨by decide +kernel, by decide +kernel⟩ (by decide)⟩
  · obtain ⟨root', hupdate, -, -, halike⟩ := lookup_locality root [] "jobs.late" (some .null) _
      (.here root)
    exact ⟨root', hupdate, halike rfl (by decide) "jobs.late.limit" (by decide) (by decide),
      halike rfl (by decide) "jobs" (by decide) (by decide)⟩

end Settings

end CloudQueue
