import CloudQueue.Settings.Basic
import Mathlib

/-!
# What a name addresses

A path leads from a document, member by member, to a value inside it (`Json.Leads`), and a name is
the path of its parts, the texts between its dots (`Settings.AreParts`). Looking a name up is sound
and complete for these two notions: `section_addressing` says which value is the section of a name,
and that a name without a section is reported as it was given.
-/

namespace CloudQueue

namespace Json

/-- The value is an object that has a member of this name and value. -/
def HasMember (j : Json) (name : String) (v : Json) : Prop :=
  ∃ members, j = .object members ∧ (name, v) ∈ members.toList

/-- A path of names leads from a value through members of objects to a value inside it. -/
inductive Leads : Json → List String → Json → Prop
  | here (j : Json) : Leads j [] j
  | member {j child v : Json} {name : String} {path : List String}
      (hmember : j.HasMember name child) (hrest : Leads child path v) : Leads j (name :: path) v

variable {j v w : Json} {name : String} {path rest : List String}

theorem get?_eq_some_iff : j.get? name = some v ↔ j.HasMember name v := by
  unfold HasMember
  cases j with
  | object members =>
    show members.get? name = some v ↔ _
    rw [members.get?_eq_some_iff]
    constructor
    · exact fun h => ⟨members, rfl, h⟩
    · rintro ⟨_, ⟨⟩, h⟩
      exact h
  | null | bool _ | number _ | string _ | array _ => simp [get?]

theorem HasMember.unique (h : j.HasMember name v) (h' : j.HasMember name w) : v = w :=
  Option.some.inj ((get?_eq_some_iff.mpr h).symm.trans (get?_eq_some_iff.mpr h'))

theorem get?_eq_none_iff : j.get? name = none ↔ ∀ v, ¬j.HasMember name v := by
  simp only [← get?_eq_some_iff, Option.eq_none_iff_forall_ne_some, ne_eq]

@[simp] theorem leads_nil_iff : Leads j [] v ↔ v = j := by
  constructor
  · rintro ⟨⟩
    rfl
  · rintro rfl
    exact .here v

theorem leads_cons_iff :
    Leads j (name :: path) v ↔ ∃ child, j.HasMember name child ∧ Leads child path v := by
  constructor
  · rintro (_ | ⟨hmember, hrest⟩)
    exact ⟨_, hmember, hrest⟩
  · rintro ⟨child, hmember, hrest⟩
    exact .member hmember hrest

theorem leads_append_iff : Leads j (path ++ rest) v ↔ ∃ w, Leads j path w ∧ Leads w rest v := by
  induction path generalizing j with
  | nil => simp
  | cons name path ih =>
    simp only [List.cons_append, leads_cons_iff, ih]
    constructor
    · rintro ⟨child, hmember, w, hpath, hrest⟩
      exact ⟨w, ⟨child, hmember, hpath⟩, hrest⟩
    · rintro ⟨w, ⟨child, hmember, hpath⟩, hrest⟩
      exact ⟨child, hmember, w, hpath, hrest⟩

theorem Leads.unique (h : Leads j path v) (h' : Leads j path w) : v = w := by
  induction h with
  | here j => exact (leads_nil_iff.mp h').symm
  | member hmember _ ih =>
    obtain ⟨child, hmember', hrest'⟩ := leads_cons_iff.mp h'
    rw [hmember'.unique hmember] at hrest'
    exact ih hrest'

theorem Leads.not_through (h : Leads j path w) (hw : ∀ members, w ≠ .object members) :
    ¬Leads j (path ++ name :: rest) v := by
  intro hlong
  obtain ⟨w', hpath, hrest⟩ := leads_append_iff.mp hlong
  obtain rfl := h.unique hpath
  obtain ⟨child, ⟨members, hobject, -⟩, -⟩ := leads_cons_iff.mp hrest
  exact hw members hobject

end Json

namespace Settings

open Json (Leads)

/-- The parts of a name: texts without dots that give the name with dots between them. -/
structure AreParts (name : String) (parts : List String) : Prop where
  ne_nil : parts ≠ []
  dotless : ∀ part ∈ parts, '.' ∉ part.toList
  joined : ".".intercalate parts = name

variable {name : String} {parts path : List String} {j v : Json} {settings : Settings}

theorem areParts_segments (name : String) : AreParts name (segments name) where
  ne_nil := by
    unfold segments
    simpa using Text.splitOn_ne_nil '.' name.toList
  dotless part hpart := by
    obtain ⟨word, hword, rfl⟩ := List.mem_map.mp hpart
    rw [String.toList_ofList]
    exact Text.not_mem_of_mem_splitOn hword
  joined := by
    apply String.toList_injective
    rw [String.toList_intercalate]
    have hparts : (segments name).map String.toList = Text.splitOn '.' name.toList := by
      unfold segments
      rw [List.map_map]
      exact (List.map_congr_left fun _ _ => String.toList_ofList).trans (List.map_id _)
    rw [hparts]
    exact (Text.joinWith_eq_intercalate '.' _).symm.trans (Text.joinWith_splitOn '.' _)

theorem AreParts.eq_segments (h : AreParts name parts) : parts = segments name := by
  have hjoined : name.toList = Text.joinWith '.' (parts.map String.toList) := by
    rw [← h.joined, String.toList_intercalate, Text.joinWith_eq_intercalate]
    rfl
  unfold segments
  rw [hjoined, Text.splitOn_joinWith]
  · rw [List.map_map]
    exact ((List.map_congr_left fun _ _ => String.ofList_toList).trans (List.map_id _)).symm
  · simpa using h.ne_nil
  · intro word hword
    obtain ⟨part, hpart, rfl⟩ := List.mem_map.mp hword
    exact h.dotless part hpart

theorem AreParts.eq_singleton (h : AreParts name parts) (hlength : parts.length = 1) :
    parts = [name] := by
  obtain ⟨part, rfl⟩ := List.length_eq_one_iff.mp hlength
  rw [← h.joined, String.intercalate_singleton]

theorem AreParts.eq_empty (h : AreParts "" parts) : parts = [""] :=
  h.eq_segments.trans rfl

theorem walk_eq_some_iff : walk path j = some v ↔ Leads j path v := by
  induction path generalizing j with
  | nil => simp [walk, eq_comm]
  | cons name path ih =>
    rw [Json.leads_cons_iff]
    unfold walk
    rcases hmember : j.get? name with _ | child
    · have hnone := Json.get?_eq_none_iff.mp hmember
      simp [hnone]
    · have hsome := Json.get?_eq_some_iff.mp hmember
      simp only [ih]
      constructor
      · exact fun h => ⟨child, hsome, h⟩
      · rintro ⟨child', hsome', h⟩
        rwa [hsome.unique hsome']

/-- The value that a name stands for in a document: the document itself for the empty name, the
member of that name if there is one, and otherwise the end of the path of the name's parts. -/
inductive Addressed (root : Json) : String → Json → Prop
  | whole : Addressed root "" root
  | member {name : String} {v : Json} (hname : name ≠ "") (hmember : root.HasMember name v) :
      Addressed root name v
  | path {name : String} {parts : List String} {v : Json} (hname : name ≠ "")
      (habsent : ∀ w, ¬root.HasMember name w) (hparts : AreParts name parts)
      (hleads : Leads root parts v) : Addressed root name v

theorem address_eq_some_iff : settings.address name = some v ↔ Addressed settings.root name v := by
  unfold address
  by_cases hname : name = ""
  · subst hname
    rw [if_pos rfl]
    constructor
    · rintro ⟨⟩
      exact .whole
    · rintro (_ | hname | hname)
      · rfl
      · exact absurd rfl hname
      · exact absurd rfl hname
  rw [if_neg hname]
  rcases hmember : settings.root.get? name with _ | member
  · have habsent := Json.get?_eq_none_iff.mp hmember
    simp only [walk_eq_some_iff]
    constructor
    · exact fun h => .path hname habsent (areParts_segments name) h
    · rintro (_ | ⟨-, hmember'⟩ | ⟨-, -, hparts, hleads⟩)
      · exact absurd rfl hname
      · exact absurd hmember' (habsent v)
      · rwa [← hparts.eq_segments]
  · have hmember := Json.get?_eq_some_iff.mp hmember
    simp only [Option.some.injEq]
    constructor
    · rintro rfl
      exact .member hname hmember
    · rintro (_ | ⟨-, hmember'⟩ | ⟨-, habsent, -, -⟩)
      · exact absurd rfl hname
      · exact hmember.unique hmember'
      · exact absurd hmember (habsent _)

theorem section?_eq_some_iff :
    settings.section? name = some v ↔ v ≠ .null ∧ Addressed settings.root name v := by
  unfold section?
  rw [Option.filter_eq_some_iff, address_eq_some_iff, and_comm]
  refine and_congr_left fun _ => ?_
  cases v <;> simp [Json.isNull]

theorem get_eq_ok_iff :
    settings.get name = .ok v ↔ v ≠ .null ∧ Addressed settings.root name v := by
  rw [← section?_eq_some_iff]
  unfold get
  rcases settings.section? name with _ | section' <;> simp

theorem get_of_forall_ne (h : ∀ v, settings.get name ≠ .ok v) :
    settings.get name = .error (.notFound name) := by
  unfold get at h ⊢
  rcases hsection : settings.section? name with _ | j
  · rfl
  · rw [hsection] at h
    exact absurd rfl (h j)

theorem has_eq_true_iff : settings.has name = true ↔ ∃ v, settings.get name = .ok v := by
  unfold has get
  rcases settings.section? name with _ | j <;> simp

/-- Under a name that is no member, or has no dots, stands what the path of its parts leads to. -/
theorem addressed_iff_leads {root : Json} (hparts : AreParts name parts) (hname : name ≠ "")
    (h : (∀ w, ¬root.HasMember name w) ∨ parts.length = 1) :
    Addressed root name v ↔ Leads root parts v := by
  rcases h with habsent | hlength
  · constructor
    · rintro (_ | ⟨-, hmember⟩ | ⟨-, -, hparts', hleads⟩)
      · exact absurd rfl hname
      · exact absurd hmember (habsent v)
      · rwa [hparts.eq_segments, ← hparts'.eq_segments]
    · exact fun hleads => .path hname habsent hparts hleads
  · obtain rfl := hparts.eq_singleton hlength
    have hiff : Leads root [name] v ↔ root.HasMember name v := by simp [Json.leads_cons_iff]
    rw [hiff]
    constructor
    · rintro (_ | ⟨-, hmember⟩ | ⟨-, -, hparts', hleads⟩)
      · exact absurd rfl hname
      · exact hmember
      · rwa [← hiff, hparts.eq_segments, ← hparts'.eq_segments]
    · exact fun hmember => .member hname hmember

/-- **The section of a name.** It is the value that the name stands for, unless that is null: the
whole document for the empty name, else the member of that name, else what the path of the name's
parts leads to. Every other name is reported as not found, and a section is there if and only if it
can be had. So texts without dots, joined by dots, address what their path leads to, if the document
has no member of the joined name or there is one text only; and a path that has reached an array or
a scalar leads no further. -/
theorem section_addressing (root : Json) :
    let settings : Settings := ⟨root⟩
    (∀ name v, settings.get name = .ok v ↔ v ≠ .null ∧ Addressed root name v) ∧
      (∀ name, (∀ v, settings.get name ≠ .ok v) →
        settings.get name = .error (.notFound name)) ∧
      (∀ name, settings.has name = true ↔ ∃ v, settings.get name = .ok v) ∧
      (∀ name parts, AreParts name parts → parts ≠ [""] →
        ((∀ w, ¬root.HasMember name w) ∨ parts.length = 1) →
          ∀ v, settings.get name = .ok v ↔ v ≠ .null ∧ Leads root parts v) ∧
      ∀ name before part after w, AreParts name (before ++ part :: after) → name ≠ "" →
        (∀ v, ¬root.HasMember name v) → Leads root before w → (∀ members, w ≠ .object members) →
          settings.get name = .error (.notFound name) := by
  intro settings
  refine ⟨fun name v => get_eq_ok_iff, fun name => get_of_forall_ne, fun name => has_eq_true_iff,
    ?_, ?_⟩
  · intro name parts hparts hne h v
    have hname : name ≠ "" := by
      rintro rfl
      exact hne hparts.eq_empty
    rw [get_eq_ok_iff, addressed_iff_leads hparts hname h]
  · intro name before part after w hparts hname habsent hbefore hw
    apply get_of_forall_ne
    intro v hok
    obtain ⟨-, haddressed⟩ := get_eq_ok_iff.mp hok
    exact hbefore.not_through hw
      ((addressed_iff_leads hparts hname (.inl habsent)).mp haddressed)

/-- A member with dots in its name hides the path of its parts, also where it is null; empty parts
are names, and positions in an array are none. -/
example :
    let settings : Settings := ⟨Json.ofMembers [
      ("a.b", .null), ("a", Json.ofMembers [("b", .bool true), ("", .string "x")]),
      ("l", .array [.bool true])]⟩
    settings.get "a.b" = .error (.notFound "a.b") ∧ settings.get "a." = .ok (.string "x") ∧
      settings.get "l.0" = .error (.notFound "l.0") := by
  decide +kernel

end Settings

end CloudQueue
