import CloudQueue.Proofs.Settings.Agreement

/-!
# Null members

A document can be stripped of its null members at every depth (`Json.strip`). Sections are the same
in what is left, but for stripping, since a null member leads nowhere; with one exception: a null
member whose name has dots hides what the path of its parts leads to (`Settings.Hides`), and brings
it to light when it goes (`null_members_absent`).
-/

namespace CloudQueue

namespace Json

mutual

/-- The document without the null members of objects, at every depth. Items of arrays stay where
they are. -/
def strip : Json → Json
  | .array items => .array (stripItems items)
  | .object members => .object (stripMembers members)
  | .null => .null
  | .bool b => .bool b
  | .number n => .number n
  | .string s => .string s

def stripItems : List Json → List Json
  | [] => []
  | x :: xs => x.strip :: stripItems xs

def stripMembers : {bound : Option String} → Members Json bound → Members Json bound
  | _, .empty => .empty
  | _, .member name above v rest =>
    if v.isNull then (stripMembers rest).weaken above
    else .member name above v.strip (stripMembers rest)

end

variable {j v w : Json} {name : String} {path : List String}

theorem isNull_iff : j.isNull = true ↔ j = .null := by
  cases j <;> simp [isNull]

theorem strip_eq_null_iff : j.strip = .null ↔ j = .null := by
  cases j <;> simp [strip]

theorem toList_stripMembers : {bound : Option String} → (members : Members Json bound) →
    (stripMembers members).toList =
      (members.toList.filter fun p => !p.2.isNull).map fun p => (p.1, p.2.strip)
  | _, .empty => rfl
  | _, .member name above x rest => by
    unfold stripMembers
    by_cases hx : x.isNull = true
    · rw [if_pos hx, Members.toList_weaken, toList_stripMembers rest]
      simp [hx]
    · rw [if_neg hx, Members.toList_member, toList_stripMembers rest]
      simp [hx]

theorem hasMember_strip_iff :
    j.strip.HasMember name v ↔ ∃ w, j.HasMember name w ∧ w ≠ .null ∧ v = w.strip := by
  constructor
  · rintro ⟨members', hmembers', hmem⟩
    cases j with
    | object members =>
      obtain rfl : stripMembers members = members' := Json.object.inj hmembers'
      rw [toList_stripMembers] at hmem
      obtain ⟨⟨_, w⟩, hw, hpair⟩ := List.mem_map.mp hmem
      obtain ⟨rfl, rfl⟩ := Prod.mk.inj hpair
      obtain ⟨hmember, hnull⟩ := List.mem_filter.mp hw
      refine ⟨w, ⟨members, rfl, hmember⟩, ?_, rfl⟩
      rintro rfl
      cases hnull
    | _ => cases hmembers'
  · rintro ⟨w, ⟨members, rfl, hmember⟩, hnull, rfl⟩
    refine ⟨stripMembers members, rfl, ?_⟩
    rw [toList_stripMembers]
    refine List.mem_map.mpr ⟨(name, w), List.mem_filter.mpr ⟨hmember, ?_⟩, rfl⟩
    simpa [← isNull_iff] using hnull

theorem Leads.ne_null (h : Leads j path v) (hv : v ≠ .null) : j ≠ .null := by
  rintro rfl
  cases h with
  | here => exact hv rfl
  | member hmember => obtain ⟨members, ⟨⟩, -⟩ := hmember

/-- A path leads to what it led to before, stripped, unless that was null. -/
theorem leads_strip_iff : v ≠ .null ∧ Leads j.strip path v ↔
    ∃ w, w ≠ .null ∧ Leads j path w ∧ v = w.strip := by
  induction path generalizing j with
  | nil =>
    simp only [leads_nil_iff]
    constructor
    · rintro ⟨hv, rfl⟩
      exact ⟨j, fun hj => hv (strip_eq_null_iff.mpr hj), rfl, rfl⟩
    · rintro ⟨_, hj, rfl, rfl⟩
      exact ⟨fun hv => hj (strip_eq_null_iff.mp hv), rfl⟩
  | cons name path ih =>
    simp only [leads_cons_iff, hasMember_strip_iff]
    constructor
    · rintro ⟨hv, _, ⟨child, hchild, -, rfl⟩, hrest⟩
      obtain ⟨w, hw, hleads, rfl⟩ := ih.mp ⟨hv, hrest⟩
      exact ⟨w, hw, ⟨child, hchild, hleads⟩, rfl⟩
    · rintro ⟨w, hw, ⟨child, hchild, hleads⟩, rfl⟩
      obtain ⟨hv, hrest⟩ := ih.mpr ⟨w, hw, hleads, rfl⟩
      exact ⟨hv, child.strip, ⟨child, hchild, hleads.ne_null hw, rfl⟩, hrest⟩

end Json

namespace Settings

open Json (Leads)

variable {root v w : Json} {name : String} {parts : List String}

/-- A null member whose name has dots stands in front of a value that is not null, to which the path
of the name's parts leads. -/
structure Hides (root : Json) (name : String) (v : Json) : Prop where
  dotted : '.' ∈ name.toList
  member : root.HasMember name .null
  leads : ∃ parts, AreParts name parts ∧ Leads root parts v
  ne_null : v ≠ .null

theorem addressed_empty_iff : Addressed root "" v ↔ v = root := by
  constructor
  · rintro (_ | ⟨hname, -⟩ | ⟨hname, -, -, -⟩)
    · rfl
    · exact absurd rfl hname
    · exact absurd rfl hname
  · rintro rfl
    exact .whole

theorem addressed_iff_of_hasMember (hname : name ≠ "") (hmember : root.HasMember name w) :
    Addressed root name v ↔ v = w := by
  constructor
  · rintro (_ | ⟨-, hmember'⟩ | ⟨-, habsent, -, -⟩)
    · exact absurd rfl hname
    · exact hmember'.unique hmember
    · exact absurd hmember (habsent w)
  · rintro rfl
    exact .member hname hmember

theorem not_hasMember_strip (h : ∀ w, root.HasMember name w → w = .null) (v : Json) :
    ¬root.strip.HasMember name v := by
  rintro hmember
  obtain ⟨w, hw, hne, -⟩ := Json.hasMember_strip_iff.mp hmember
  exact hne (h w hw)

/-- A null member hides what the path of its name's parts leads to. Without dots there is nothing
to hide: the path leads to the member itself. -/
theorem hides_of_leads (hmember : root.HasMember name .null) (hparts : AreParts name parts)
    (hleads : Leads root parts v) (hv : v ≠ .null) : Hides root name v := by
  refine ⟨?_, hmember, ⟨parts, hparts, hleads⟩, hv⟩
  by_contra hdot
  rw [hparts.eq_segments, ← (areParts_singleton hdot).eq_segments, Json.leads_cons_iff] at hleads
  obtain ⟨child, hchild, hend⟩ := hleads
  obtain rfl := Json.leads_nil_iff.mp hend
  exact hv (hchild.unique hmember)

/-- Where nothing is hidden a name stands for what it stood for before, stripped, unless that was
null. -/
theorem addressed_strip_iff (hclear : ∀ v, ¬Hides root name v) :
    v ≠ .null ∧ Addressed root.strip name v ↔
      ∃ w, w ≠ .null ∧ Addressed root name w ∧ v = w.strip := by
  have hparts := areParts_segments name
  by_cases hname : name = ""
  · subst hname
    have hroot : v ≠ .null ∧ Leads root.strip [] v ↔ _ := Json.leads_strip_iff
    simp only [Json.leads_nil_iff] at hroot
    simpa only [addressed_empty_iff] using hroot
  by_cases hany : ∃ m, root.HasMember name m
  · obtain ⟨m, hmember⟩ := hany
    simp only [addressed_iff_of_hasMember hname hmember]
    by_cases hnull : m = .null
    · subst hnull
      have habsent := not_hasMember_strip fun w hw => hw.unique hmember
      rw [addressed_iff_leads hparts hname (.inl habsent), Json.leads_strip_iff]
      constructor
      · rintro ⟨w, hw, hleads, -⟩
        exact absurd (hides_of_leads hmember hparts hleads hw) (hclear w)
      · rintro ⟨_, hw, rfl, -⟩
        exact absurd rfl hw
    · have hstripped := Json.hasMember_strip_iff.mpr ⟨m, hmember, hnull, rfl⟩
      rw [addressed_iff_of_hasMember hname hstripped]
      constructor
      · rintro ⟨-, rfl⟩
        exact ⟨m, hnull, rfl, rfl⟩
      · rintro ⟨_, hm, rfl, rfl⟩
        exact ⟨fun h => hm (Json.strip_eq_null_iff.mp h), rfl⟩
  · have habsent : ∀ w, ¬root.HasMember name w := fun w hw => hany ⟨w, hw⟩
    have habsent' := not_hasMember_strip fun w hw => absurd hw (habsent w)
    simp only [addressed_iff_leads hparts hname (.inl habsent),
      addressed_iff_leads hparts hname (.inl habsent'), Json.leads_strip_iff]

theorem get_strip_of_clear (hclear : ∀ v, ¬Hides root name v) :
    (⟨root.strip⟩ : Settings).get name = ((⟨root⟩ : Settings).get name).map Json.strip := by
  rcases hget : (⟨root⟩ : Settings).get name with e | w
  · have hnone : ∀ w, (⟨root⟩ : Settings).get name ≠ .ok w := by simp [hget]
    rw [get_of_forall_ne hnone] at hget
    rw [← Except.error.inj hget]
    refine get_of_forall_ne fun v hv => ?_
    obtain ⟨w, hw, haddressed, -⟩ := (addressed_strip_iff hclear).mp (get_eq_ok_iff.mp hv)
    exact hnone w (get_eq_ok_iff.mpr ⟨hw, haddressed⟩)
  · obtain ⟨hw, haddressed⟩ := get_eq_ok_iff.mp hget
    exact get_eq_ok_iff.mpr ((addressed_strip_iff hclear).mpr ⟨w, hw, haddressed, rfl⟩)

theorem Hides.get_eq (h : Hides root name v) :
    (⟨root⟩ : Settings).get name = .error (.notFound name) ∧
      (⟨root.strip⟩ : Settings).get name = .ok v.strip := by
  obtain ⟨hdotted, hmember, ⟨parts, hparts, hleads⟩, hv⟩ := h
  have hname : name ≠ "" := by
    rintro rfl
    simp at hdotted
  constructor
  · refine get_of_forall_ne fun w hw => ?_
    obtain ⟨hne, haddressed⟩ := get_eq_ok_iff.mp hw
    exact hne ((addressed_iff_of_hasMember hname hmember).mp haddressed)
  · have habsent := not_hasMember_strip fun w hw => hw.unique hmember
    rw [get_eq_ok_iff, addressed_iff_leads hparts hname (.inl habsent), Json.leads_strip_iff]
    exact ⟨v, hv, hleads, rfl⟩

/-- **Null members count as absent.** A document without its null members has the same sections,
stripped in the same way, and reports the same names as not found, unless a null member whose name
has dots hides what the path of its name's parts leads to. Then, and only then, there is no section
of that name as long as the null member is there, and one when it is gone: what was hidden,
stripped. -/
theorem null_members_absent (root : Json) (name : String) :
    let settings : Settings := ⟨root⟩
    let stripped : Settings := ⟨root.strip⟩
    ((∀ v, ¬Hides root name v) → stripped.has name = settings.has name ∧
      (∀ v, settings.get name = .ok v → stripped.get name = .ok v.strip) ∧
      ((∀ v, settings.get name ≠ .ok v) → settings.get name = .error (.notFound name) ∧
        stripped.get name = .error (.notFound name))) ∧
    (∀ v, Hides root name v → settings.has name = false ∧ stripped.has name = true ∧
      settings.get name = .error (.notFound name) ∧ stripped.get name = .ok v.strip) ∧
    ((∃ v, Hides root name v) ↔ settings.has name ≠ stripped.has name) := by
  intro settings stripped
  have hclear (h : ∀ v, ¬Hides root name v) : stripped.has name = settings.has name := by
    rw [Bool.eq_iff_iff, has_eq_true_iff, has_eq_true_iff, get_strip_of_clear h]
    rcases settings.get name with e | w <;> simp [Except.map]
  have hhidden (v : Json) (h : Hides root name v) :
      settings.has name = false ∧ stripped.has name = true := by
    obtain ⟨hget, hstripped⟩ := h.get_eq
    refine ⟨Bool.eq_false_iff.mpr fun hhas => ?_, has_eq_true_iff.mpr ⟨_, hstripped⟩⟩
    obtain ⟨w, hw⟩ := has_eq_true_iff.mp hhas
    cases hget.symm.trans hw
  refine ⟨fun h => ⟨hclear h, fun v hv => ?_, fun hnone => ?_⟩, fun v h => ?_, ⟨?_, ?_⟩⟩
  · rw [get_strip_of_clear h, hv]
    rfl
  · have hget := get_of_forall_ne hnone
    refine ⟨hget, ?_⟩
    rw [get_strip_of_clear h, hget]
    rfl
  · exact ⟨(hhidden v h).1, (hhidden v h).2, h.get_eq⟩
  · rintro ⟨v, h⟩
    rw [(hhidden v h).1, (hhidden v h).2]
    exact Bool.false_ne_true
  · intro hne
    by_contra hnone
    exact hne (hclear fun v h => hnone ⟨v, h⟩).symm

/-- A null override hides the section it is meant for; what is null inside goes with it. -/
example :
    let root := Json.ofMembers [("a.b", .null),
      ("a", Json.ofMembers [("b", Json.ofMembers [("x", .null), ("y", .array [.null])])])]
    (⟨root⟩ : Settings).get "a.b" = .error (.notFound "a.b") ∧
      (⟨root.strip⟩ : Settings).get "a.b" = .ok (Json.ofMembers [("y", .array [.null])]) := by
  decide +kernel

end Settings

end CloudQueue
