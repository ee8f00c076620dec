import CloudQueue.Proofs.Settings.Nulls

/-!
# Sections of sections

A section is a document of its own, so a name can be looked up in two steps: a section first, and
then a section of it. Looking up the two names with a dot between them comes to the same
(`sections_compose`), as long as neither the document nor the section has members with dots in their
names; what is further inside does not matter.
-/

namespace CloudQueue

/-- No member of the value itself has a dot in its name. Members further inside may have. -/
def Json.Dotless (j : Json) : Prop := ∀ name v, j.HasMember name v → '.' ∉ name.toList

theorem Json.dotless_null : Json.null.Dotless := by
  rintro name v ⟨members, ⟨⟩, -⟩

namespace Settings

variable {root v : Json} {first second : String}

theorem append_dot_ne_empty (first second : String) : first ++ "." ++ second ≠ "" := by
  intro h
  have hdot : '.' ∈ (first ++ "." ++ second).toList := by simp
  rw [h] at hdot
  cases hdot

/-- Two names with a dot between them stand for what the second stands for in what the first stands
for. -/
theorem addressed_append_iff (hfirst : first ≠ "") (hsecond : second ≠ "") (hroot : root.Dotless)
    (hinner : ∀ w, Addressed root first w → w.Dotless) :
    Addressed root (first ++ "." ++ second) v ↔
      ∃ w, Addressed root first w ∧ Addressed w second v := by
  have hparts := areParts_segments first
  have hrest := areParts_segments second
  rw [addressed_iff_leads_of_dotless hroot (append_dot_ne_empty first second)
    (hparts.append hrest), Json.leads_append_iff]
  constructor
  · rintro ⟨w, hw, hv⟩
    have haddressed := (addressed_iff_leads_of_dotless hroot hfirst hparts).mpr hw
    exact ⟨w, haddressed,
      (addressed_iff_leads_of_dotless (hinner w haddressed) hsecond hrest).mpr hv⟩
  · rintro ⟨w, hw, hv⟩
    exact ⟨w, (addressed_iff_leads_of_dotless hroot hfirst hparts).mp hw,
      (addressed_iff_leads_of_dotless (hinner w hw) hsecond hrest).mp hv⟩

theorem get_append_eq_ok_iff (hfirst : first ≠ "") (hsecond : second ≠ "") (hroot : root.Dotless)
    (hinner : ∀ inner, (⟨root⟩ : Settings).get first = .ok inner → inner.Dotless) :
    (⟨root⟩ : Settings).get (first ++ "." ++ second) = .ok v ↔
      ∃ inner, (⟨root⟩ : Settings).get first = .ok inner ∧
        (⟨inner⟩ : Settings).get second = .ok v := by
  have hdotless : ∀ w, Addressed root first w → w.Dotless := by
    intro w hw
    by_cases hnull : w = .null
    · rw [hnull]
      exact Json.dotless_null
    · exact hinner w (get_eq_ok_iff.mpr ⟨hnull, hw⟩)
  simp only [get_eq_ok_iff, addressed_append_iff hfirst hsecond hroot hdotless]
  constructor
  · rintro ⟨hv, w, hw, haddressed⟩
    -- What is between is no null, since nothing but null is addressed there.
    have hleads := (addressed_iff_leads_of_dotless (hdotless w hw) hsecond
      (areParts_segments second)).mp haddressed
    exact ⟨w, ⟨hleads.ne_null hv, hw⟩, hv, haddressed⟩
  · rintro ⟨w, ⟨-, hw⟩, hv, haddressed⟩
    exact ⟨hv, w, hw, haddressed⟩

/-- The error with another name in it, if it is about a name that is not found. -/
def Error.renamed (name : String) : Error → Error
  | .notFound _ => .notFound name
  | e => e

theorem read_eq_renamed {settings settings' : Settings} {name name' : String}
    (h : settings.get name = (settings'.get name').mapError (Error.renamed name)) {α : Type}
    (shape : Json.Shape α) :
    settings.read shape name = (settings'.read shape name').mapError (Error.renamed name) := by
  unfold read
  rw [h]
  rcases settings'.get name' with e | j
  · rfl
  · simp only [Except.mapError]
    rcases shape j with m | x <;> rfl

/-- **Section names compose.** In a document without dots in the names of its members, the section
of two names with a dot between them is the section of the second name in the section of the first,
if that has no dots in the names of its members either, and so it is in every shape. What is not
found in the section, or in no section, is not found and reported under the whole name. So one step
and two give one answer, and there is a section of that name only if there is one of the first. -/
theorem sections_compose (root : Json) (first second : String) (hfirst : first ≠ "")
    (hsecond : second ≠ "") (hroot : root.Dotless)
    (hinner : ∀ inner, (⟨root⟩ : Settings).get first = .ok inner → inner.Dotless) :
    let settings : Settings := ⟨root⟩
    let whole := first ++ "." ++ second
    (∀ inner, settings.get first = .ok inner →
      settings.get whole = ((⟨inner⟩ : Settings).get second).mapError (Error.renamed whole) ∧
      ∀ {α : Type} (shape : Json.Shape α), settings.read shape whole =
        ((⟨inner⟩ : Settings).read shape second).mapError (Error.renamed whole)) ∧
    (settings.get first = .error (.notFound first) →
      settings.get whole = .error (.notFound whole)) ∧
    settings.get whole =
      ((settings.get first).bind fun inner => (⟨inner⟩ : Settings).get second).mapError
        (Error.renamed whole) ∧
    (settings.has whole = true → settings.has first = true) := by
  intro settings whole
  have hiff (v : Json) : settings.get whole = .ok v ↔
      ∃ inner, settings.get first = .ok inner ∧ (⟨inner⟩ : Settings).get second = .ok v :=
    get_append_eq_ok_iff hfirst hsecond hroot hinner
  have hfound (inner : Json) (h : settings.get first = .ok inner) : settings.get whole =
      ((⟨inner⟩ : Settings).get second).mapError (Error.renamed whole) := by
    rcases hget : (⟨inner⟩ : Settings).get second with e | v
    · have hnone : ∀ v, (⟨inner⟩ : Settings).get second ≠ .ok v := by simp [hget]
      obtain rfl := Except.error.inj (hget.symm.trans (get_of_forall_ne hnone))
      refine get_of_forall_ne fun v hv => ?_
      obtain ⟨other, hother, hv⟩ := (hiff v).mp hv
      obtain rfl := Except.ok.inj (hother.symm.trans h)
      exact hnone v hv
    · exact (hiff v).mpr ⟨inner, h, hget⟩
  have hmissing (h : settings.get first = .error (.notFound first)) :
      settings.get whole = .error (.notFound whole) := by
    refine get_of_forall_ne fun v hv => ?_
    obtain ⟨inner, hinner, -⟩ := (hiff v).mp hv
    cases h.symm.trans hinner
  refine ⟨fun inner h => ⟨hfound inner h, fun shape => read_eq_renamed (hfound inner h) shape⟩,
    hmissing, ?_, ?_⟩
  · rcases hget : settings.get first with e | inner
    · have hnone : ∀ v, settings.get first ≠ .ok v := by simp [hget]
      obtain rfl := Except.error.inj (hget.symm.trans (get_of_forall_ne hnone))
      exact hmissing hget
    · exact hfound inner hget
  · intro hhas
    obtain ⟨v, hv⟩ := has_eq_true_iff.mp hhas
    obtain ⟨inner, hinner, -⟩ := (hiff v).mp hv
    exact has_eq_true_iff.mpr ⟨inner, hinner⟩

/-- A section three members deep, by a name that ends in an empty part and one that begins with one.
The names with dots inside it do not matter. -/
theorem sections_compose_at_empty_part :
    let late := Json.ofMembers [("", Json.ofMembers [("limit", .bool true), ("x.y", .null)])]
    let settings : Settings := ⟨Json.ofMembers [("jobs", Json.ofMembers [("", late)])]⟩
    settings.get ("jobs." ++ "." ++ ".limit") = .ok (.bool true) ∧
      settings.get ("jobs." ++ "." ++ ".x") = .error (.notFound "jobs...x") := by
  intro late settings
  have hget : settings.get "jobs." = .ok late := by decide +kernel
  have hcompose (second : String) (hsecond : second ≠ "") :=
    sections_compose settings.root "jobs." second (by decide) hsecond
      (by
        rintro name v ⟨members, ⟨⟩, hmember⟩
        obtain rfl : name = "jobs" := (Prod.mk.inj (List.mem_singleton.mp hmember)).1
        decide)
      (by
        intro inner hinner
        obtain rfl := Except.ok.inj (hget.symm.trans hinner)
        rintro name v ⟨members, hobject, hmember⟩
        obtain rfl := Json.object.inj hobject
        obtain rfl : name = "" := (Prod.mk.inj (List.mem_singleton.mp hmember)).1
        decide)
  constructor
  · rw [((hcompose ".limit" (by decide)).1 late hget).1]
    decide +kernel
  · rw [((hcompose ".x" (by decide)).1 late hget).1]
    decide +kernel

end Settings

end CloudQueue
