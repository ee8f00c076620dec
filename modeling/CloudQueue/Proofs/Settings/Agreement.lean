import CloudQueue.Pipeline.Basic
import CloudQueue.Proofs.Settings.Address

/-!
# Settings of a section that is a pipeline

A setting of a pipeline that is a section of some settings can be had in two ways: as a section of
its own, under the name of the pipeline's section with the setting's name behind it, or from the
pipeline. `setting_reads_alike` says where the two ways agree, value by value and type by type, and
that they part over null alone.
-/

namespace CloudQueue

/-- The signed integers of 64 bits. -/
def IsInt64 (i : Int) : Prop := -9223372036854775808 ≤ i ∧ i ≤ 9223372036854775807

namespace Json.Shape

variable {j : Json}

theorem text_eq_ok_iff {t : String} : text j = .ok t ↔ j = .string t := by
  cases j <;> simp [text]

theorem boolean_eq_ok_iff {b : Bool} : boolean j = .ok b ↔ j = .bool b := by
  cases j <;> simp [boolean]

theorem int64_eq_ok_iff {n : Int} :
    int64 j = .ok n ↔ n ≤ 9223372036854775807 ∧ ∃ low high, j = .number (.integer n low high) := by
  unfold int64 integer
  split
  · rename_i i low high
    by_cases hrange : -9223372036854775808 ≤ i ∧ i ≤ 9223372036854775807
    · rw [if_pos hrange]
      constructor
      · rintro ⟨⟩
        exact ⟨hrange.2, low, high, rfl⟩
      · rintro ⟨-, _, _, ⟨⟩⟩
        rfl
    · rw [if_neg hrange]
      constructor
      · rintro ⟨⟩
      · rintro ⟨hle, _, _, ⟨⟩⟩
        exact absurd ⟨low, hle⟩ hrange
  · rename_i hnot
    constructor
    · rintro ⟨⟩
    · rintro ⟨-, low, high, rfl⟩
      exact absurd rfl (hnot n low high)

end Json.Shape

namespace Pipeline

variable {p : Pipeline} {key : String} {j : Json}

theorem shape_eq_ok_iff : shape j = .ok p ↔ j = .object p.settings := by
  obtain ⟨settings⟩ := p
  cases j <;> simp [shape]

theorem string_eq_iff {t : String} :
    (∀ default, p.string key default = t) ↔ p.get? key = some (.string t) := by
  unfold string
  split
  · rename_i s hs
    simp [hs]
  · rename_i hnot
    constructor
    · intro h
      -- Without a text the default comes back, and there is more than one.
      exact absurd ((h "").trans (h "x").symm) (by decide)
    · intro h
      exact absurd h (hnot t)

theorem int_of_number {n : Int} {low high} (h : p.get? key = some (.number (.integer n low high)))
    (hle : n ≤ 9223372036854775807) (default : Int) : p.int key default = n := by
  unfold int
  rw [h]
  exact if_pos hle

theorem bool_of_bool {b : Bool} (h : p.get? key = some (.bool b)) (default : Bool) :
    p.bool key default = b := by
  unfold bool
  rw [h]

theorem int_cases (h : ∀ d d', IsInt64 d → IsInt64 d' → p.int key d = p.int key d') :
    (∃ t, p.get? key = some (.string t)) ∨
      ∃ n low high, p.get? key = some (.number (.integer n low high)) ∧
        n ≤ 9223372036854775807 := by
  have hdiffer : ∃ d, IsInt64 d ∧ p.int key d ≠ d := by
    have hsame : p.int key 0 = p.int key 1 := h 0 1 (by simp [IsInt64]) (by simp [IsInt64])
    by_cases h0 : p.int key 0 = 0
    · exact ⟨1, by simp [IsInt64], by rw [← hsame, h0]; decide⟩
    · exact ⟨0, by simp [IsInt64], h0⟩
  obtain ⟨d, -, hd⟩ := hdiffer
  unfold int at hd
  split at hd
  · rename_i n low high hn
    by_cases hle : n ≤ 9223372036854775807
    · exact .inr ⟨n, low, high, hn, hle⟩
    · exact absurd (if_neg hle) hd
  · rename_i t ht
    exact .inl ⟨t, ht⟩
  · exact absurd rfl hd

theorem bool_cases (h : ∀ d d', p.bool key d = p.bool key d') :
    (∃ t, p.get? key = some (.string t)) ∨ ∃ b, p.get? key = some (.bool b) := by
  have hsame := h true false
  unfold bool at hsame
  split at hsame
  · rename_i b hb
    exact .inr ⟨b, hb⟩
  · rename_i t ht
    exact .inl ⟨t, ht⟩
  · cases hsame

theorem has_eq_true_iff : p.has key = true ↔ ∃ v, p.get? key = some v :=
  Option.isSome_iff_exists

end Pipeline

namespace Settings

open Json (Leads)

variable {settings : Settings} {root v w : Json} {name key : String} {parts rest : List String}

theorem read_eq_ok_iff {α : Type} {shape : Json.Shape α} {x : α} :
    settings.read shape name = .ok x ↔ ∃ j, settings.get name = .ok j ∧ shape j = .ok x := by
  unfold read
  rcases settings.get name with e | j
  · simp
  · rcases hshape : shape j with m | y <;> simp [hshape]

/-! ## Names with a name behind them -/

theorem AreParts.append {other : String} (h : AreParts name parts) (h' : AreParts other rest) :
    AreParts (name ++ "." ++ other) (parts ++ rest) where
  ne_nil := List.append_ne_nil_of_left_ne_nil h.ne_nil rest
  dotless part hpart := by
    rcases List.mem_append.mp hpart with hleft | hright
    · exact h.dotless part hleft
    · exact h'.dotless part hright
  joined := by
    rw [String.intercalate_append_of_ne_nil h.ne_nil h'.ne_nil, h.joined, h'.joined]

theorem areParts_singleton (h : '.' ∉ key.toList) : AreParts key [key] where
  ne_nil := List.cons_ne_nil key []
  dotless part hpart := by
    rw [List.mem_singleton.mp hpart]
    exact h
  joined := String.intercalate_singleton

theorem not_hasMember_of_dot {other : String}
    (hdotless : ∀ member v, root.HasMember member v → '.' ∉ member.toList) (v : Json) :
    ¬root.HasMember (name ++ "." ++ other) v := by
  intro hmember
  refine hdotless _ v hmember ?_
  simp

theorem addressed_iff_leads_of_dotless
    (hdotless : ∀ member v, root.HasMember member v → '.' ∉ member.toList) (hname : name ≠ "")
    (hparts : AreParts name parts) : Addressed root name v ↔ Leads root parts v := by
  refine addressed_iff_leads hparts hname ?_
  by_cases hdot : '.' ∈ name.toList
  · exact .inl fun w hmember => hdotless name w hmember hdot
  · right
    rw [hparts.eq_segments, ← (areParts_singleton hdot).eq_segments]
    rfl

/-- What stands under a name with a member's name behind it is that member of what stands under the
name. -/
theorem addressed_member_iff
    (hdotless : ∀ member v, root.HasMember member v → '.' ∉ member.toList) (hname : name ≠ "")
    (hkey : '.' ∉ key.toList) : Addressed root (name ++ "." ++ key) v ↔
      ∃ w, Addressed root name w ∧ w.HasMember key v := by
  have hparts := areParts_segments name
  have hne : name ++ "." ++ key ≠ "" := by
    intro hempty
    have := congrArg String.toList hempty
    simp at this
  rw [addressed_iff_leads (hparts.append (areParts_singleton hkey)) hne
    (.inl (not_hasMember_of_dot hdotless)), Json.leads_append_iff]
  simp only [addressed_iff_leads_of_dotless hdotless hname hparts, Json.leads_cons_iff,
    Json.leads_nil_iff, exists_eq_right']

/-! ## Both ways -/

section

variable {p : Pipeline}
  (hdotless : ∀ member v, settings.root.HasMember member v → '.' ∉ member.toList)
  (hname : name ≠ "") (hkey : '.' ∉ key.toList) (hp : settings.read Pipeline.shape name = .ok p)

include hdotless hname hkey hp

/-- A setting of a pipeline is a section, unless it is null. -/
theorem get_setting_iff :
    settings.get (name ++ "." ++ key) = .ok v ↔ p.get? key = some v ∧ v ≠ .null := by
  obtain ⟨j, hj, hshape⟩ := read_eq_ok_iff.mp hp
  obtain ⟨-, haddressed⟩ := get_eq_ok_iff.mp hj
  obtain rfl := Pipeline.shape_eq_ok_iff.mp hshape
  have hmember : (Json.object p.settings).HasMember key v ↔ p.get? key = some v :=
    Json.get?_eq_some_iff.symm
  rw [get_eq_ok_iff, addressed_member_iff hdotless hname hkey, and_comm, ← hmember]
  refine and_congr_left fun _ => ⟨?_, fun h => ⟨_, haddressed, h⟩⟩
  rintro ⟨w, hw, h⟩
  have hparts := areParts_segments name
  rw [addressed_iff_leads_of_dotless hdotless hname hparts] at hw haddressed
  rwa [hw.unique haddressed] at h

/-- A setting of a pipeline has a shape that null lacks if its section has it. -/
theorem read_setting_iff {α : Type} {shape : Json.Shape α} {x : α}
    (hnull : shape .null ≠ .ok x) : settings.read shape (name ++ "." ++ key) = .ok x ↔
      ∃ v, p.get? key = some v ∧ shape v = .ok x := by
  simp only [read_eq_ok_iff, get_setting_iff hdotless hname hkey hp]
  constructor
  · rintro ⟨v, ⟨hv, -⟩, hx⟩
    exact ⟨v, hv, hx⟩
  · rintro ⟨v, hv, hx⟩
    refine ⟨v, ⟨hv, ?_⟩, hx⟩
    rintro rfl
    exact hnull hx

theorem has_setting_iff :
    settings.has (name ++ "." ++ key) = true ↔ ∃ v, p.get? key = some v ∧ v ≠ .null := by
  simp only [has_eq_true_iff, get_setting_iff hdotless hname hkey hp]

end

/-- **A setting reads alike** as a section of the settings and from the pipeline that its section
is, in a document without dots in the names of its members. The values are the same, but for null,
which is a setting of the pipeline and no section: there, and only there, the two differ over
whether the setting is there. A text is read one way if and only if it is read the other way,
whatever the default. An integer or a truth value that is read as a section is read from the
pipeline, whatever the default; and where the pipeline does not fall back to its default, and the
setting is no text, it is read as a section. -/
theorem setting_reads_alike (settings : Settings) (name key : String) (p : Pipeline)
    (hdotless : ∀ member v, settings.root.HasMember member v → '.' ∉ member.toList)
    (hname : name ≠ "") (hkey : '.' ∉ key.toList)
    (hp : settings.read Pipeline.shape name = .ok p) :
    let setting := name ++ "." ++ key
    (∀ v, settings.get setting = .ok v ↔ p.get? key = some v ∧ v ≠ .null) ∧
    (∀ t, settings.read .text setting = .ok t ↔ ∀ default, p.string key default = t) ∧
    (∀ n, settings.read .int64 setting = .ok n → ∀ default, p.int key default = n) ∧
    (∀ b, settings.read .boolean setting = .ok b → ∀ default, p.bool key default = b) ∧
    ((∀ t, p.get? key ≠ some (.string t)) →
      ((∀ d d', IsInt64 d → IsInt64 d' → p.int key d = p.int key d') →
        ∀ default, settings.read .int64 setting = .ok (p.int key default)) ∧
      ((∀ d d', p.bool key d = p.bool key d') →
        ∀ default, settings.read .boolean setting = .ok (p.bool key default))) ∧
    (p.has key ≠ settings.has setting ↔ p.get? key = some .null) ∧
    (p.get? key = some .null → p.has key = true ∧ settings.has setting = false) := by
  intro setting
  have hget (v : Json) : settings.get setting = .ok v ↔ p.get? key = some v ∧ v ≠ .null :=
    get_setting_iff hdotless hname hkey hp
  have hint (n : Int) : settings.read .int64 setting = .ok n ↔
      ∃ v, p.get? key = some v ∧ Json.Shape.int64 v = .ok n :=
    read_setting_iff hdotless hname hkey hp (by rintro ⟨⟩)
  have hbool (b : Bool) : settings.read .boolean setting = .ok b ↔
      ∃ v, p.get? key = some v ∧ Json.Shape.boolean v = .ok b :=
    read_setting_iff hdotless hname hkey hp (by rintro ⟨⟩)
  have hhas := has_setting_iff hdotless hname hkey hp
  have hnull : p.get? key = some .null → p.has key = true ∧ settings.has setting = false := by
    intro h
    refine ⟨Pipeline.has_eq_true_iff.mpr ⟨_, h⟩, ?_⟩
    rw [Bool.eq_false_iff, ne_eq, hhas, h]
    rintro ⟨v, ⟨⟩, hv⟩
    exact hv rfl
  refine ⟨hget, fun t => ?_, fun n hn => ?_, fun b hb => ?_, fun hnot => ⟨fun h => ?_, fun h => ?_⟩,
    ⟨fun hne => ?_, fun h => ?_⟩, hnull⟩
  · rw [read_setting_iff hdotless hname hkey hp (by rintro ⟨⟩), Pipeline.string_eq_iff]
    simp only [Json.Shape.text_eq_ok_iff, exists_eq_right]
  · obtain ⟨v, hv, hshape⟩ := (hint n).mp hn
    obtain ⟨hle, low, high, rfl⟩ := Json.Shape.int64_eq_ok_iff.mp hshape
    exact Pipeline.int_of_number hv hle
  · obtain ⟨v, hv, hshape⟩ := (hbool b).mp hb
    obtain rfl := Json.Shape.boolean_eq_ok_iff.mp hshape
    exact Pipeline.bool_of_bool hv
  · intro default
    rcases Pipeline.int_cases h with ⟨t, ht⟩ | ⟨n, low, high, hn, hle⟩
    · exact absurd ht (hnot t)
    · rw [Pipeline.int_of_number hn hle]
      exact (hint n).mpr ⟨_, hn, Json.Shape.int64_eq_ok_iff.mpr ⟨hle, low, high, rfl⟩⟩
  · intro default
    rcases Pipeline.bool_cases h with ⟨t, ht⟩ | ⟨b, hb⟩
    · exact absurd ht (hnot t)
    · rw [Pipeline.bool_of_bool hb]
      exact (hbool b).mpr ⟨_, hb, rfl⟩
  · rcases hsetting : p.get? key with _ | v
    · -- Nothing is there either way.
      refine absurd ?_ hne
      rw [Bool.eq_iff_iff, Pipeline.has_eq_true_iff, hhas, hsetting]
      simp
    · by_cases hv : v = .null
      · rw [hv]
      · refine absurd ?_ hne
        rw [Bool.eq_iff_iff, Pipeline.has_eq_true_iff, hhas, hsetting]
        simp [hv]
  · obtain ⟨hpipeline, hsettings⟩ := hnull h
    rw [hpipeline, hsettings]
    decide

/-- A pipeline two members deep, with a limit that is null. -/
theorem setting_reads_alike_of_null :
    let settings : Settings := ⟨Json.ofMembers [("jobs", Json.ofMembers [("late",
      Json.ofMembers [("limit", .null), ("prefetch", .number (.ofNat 10 (by decide)))])])]⟩
    ∃ p, settings.read Pipeline.shape "jobs.late" = .ok p ∧
      (∀ v, settings.get "jobs.late.limit" ≠ .ok v) ∧
      p.has "limit" = true ∧ settings.has "jobs.late.limit" = false := by
  intro settings
  have hp : settings.read Pipeline.shape "jobs.late" =
      .ok ⟨.ofList [("limit", .null), ("prefetch", .number (.ofNat 10 (by decide)))]⟩ := by
    decide +kernel
  obtain ⟨hget, -, -, -, -, -, hnull⟩ := setting_reads_alike settings "jobs.late" "limit" _
    (by
      rintro member v ⟨members, ⟨⟩, hmember⟩
      obtain rfl : member = "jobs" := (Prod.mk.inj (List.mem_singleton.mp hmember)).1
      decide)
    (by decide) (by decide) hp
  refine ⟨_, hp, fun v hv => ?_, hnull (by decide)⟩
  obtain ⟨hsome, hne⟩ := (hget v).mp hv
  exact hne (Option.some.inj (hsome.symm.trans (by decide)))

end Settings

end CloudQueue
