import CloudQueue.Pipeline.Basic
import CloudQueue.Proofs.Json.Listing
import CloudQueue.Proofs.Text.Bytes

/-!
# Pipelines as finite maps

Settings set one after the other leave the last value of every name, and nothing else
(`get?_setAll`). What is found under the names determines a pipeline and its texts, so neither the
order of the steps nor a value that was replaced can be told from it, and the texts list the names
in the order of their UTF-8 bytes (`finite_map`). Pipelines are copied by value: `Edit` says what
can be done to several of them, and `getElem?_applyAll` that each holds what was set in it alone.
-/

namespace CloudQueue.Pipeline

variable {p q : Pipeline} {key : String} {value : Json} {held : List Pipeline} {place : Nat}

theorem get?_set (p : Pipeline) (name : String) (value : Json) (key : String) :
    (p.set name value).get? key = if key = name then some value else p.get? key := by
  split
  · rename_i hkey
    subst hkey
    exact Json.Members.get?_set_self p.settings key value
  · rename_i hkey
    exact Json.Members.get?_set_of_ne p.settings value hkey

theorem has_eq_isSome (p : Pipeline) (key : String) : p.has key = (p.get? key).isSome := rfl

theorem eq_of_get? (h : ∀ key, p.get? key = q.get? key) : p = q := by
  obtain ⟨settings⟩ := p
  obtain ⟨settings'⟩ := q
  exact congrArg Pipeline.mk (Json.Members.eq_of_get? h)

/-! ## Steps -/

/-- The last value that steps set for a name. -/
def lastValue? (steps : List (String × Json)) (key : String) : Option Json :=
  steps.reverse.lookup key

theorem lastValue?_cons (name : String) (value : Json) (steps : List (String × Json))
    (key : String) : lastValue? ((name, value) :: steps) key =
      (lastValue? steps key).or (if key = name then some value else none) := by
  unfold lastValue?
  rw [List.reverse_cons, List.lookup_append]
  by_cases hkey : key = name
  · simp [hkey]
  · have hbeq : (key == name) = false := beq_eq_false_iff_ne.mpr hkey
    rw [List.lookup_cons, hbeq, if_neg hkey]
    rfl

theorem lastValue?_isSome_iff {steps : List (String × Json)} :
    (lastValue? steps key).isSome = true ↔ key ∈ steps.map Prod.fst := by
  unfold lastValue?
  rw [List.lookup_isSome_iff]
  simp

theorem get?_setAll (p : Pipeline) (steps : List (String × Json)) (key : String) :
    (p.setAll steps).get? key = (lastValue? steps key).or (p.get? key) := by
  induction steps generalizing p with
  | nil => rfl
  | cons step steps ih =>
    have hstep : p.setAll (step :: steps) = (p.set step.1 step.2).setAll steps := rfl
    rw [hstep, ih, get?_set, lastValue?_cons]
    -- The first step counts only where no later one sets the name.
    rcases lastValue? steps key with _ | value
    · by_cases hkey : key = step.1 <;> simp [hkey]
    · rfl

theorem has_setAll_iff (p : Pipeline) (steps : List (String × Json)) :
    (p.setAll steps).has key = true ↔ key ∈ steps.map Prod.fst ∨ p.has key = true := by
  rw [has_eq_isSome, has_eq_isSome, get?_setAll, Option.isSome_or, Bool.or_eq_true,
    lastValue?_isSome_iff]

theorem get?_setAll_of_notMem (p : Pipeline) {steps : List (String × Json)}
    (hkey : key ∉ steps.map Prod.fst) : (p.setAll steps).get? key = p.get? key := by
  have hnone : lastValue? steps key = none := by
    rw [← Option.not_isSome_iff_eq_none, lastValue?_isSome_iff]
    exact hkey
  rw [get?_setAll, hnone, Option.none_or]

theorem same_self (p : Pipeline) : p.same p = true := Json.sameMembers_self p.settings

/-! ## Texts -/

/-- Entries that are the settings of a pipeline, each name once and in the order of the UTF-8 bytes
of the names, and that make up the three texts of the pipeline. -/
structure ListedBy (p : Pipeline) (entries : List (String × Json)) : Prop where
  found : ∀ key value, (key, value) ∈ entries ↔ p.get? key = some value
  once : (entries.map Prod.fst).Nodup
  ascending : entries.Pairwise fun e later => Text.utf8 e.1 < Text.utf8 later.1
  compact : p.compact = String.ofList
    ('\x7b' :: [','].intercalate (entries.map (Json.entry .compact 1)) ++ ['\x7d'])
  pretty : p.pretty = String.ofList
    ('\x7b' :: [','].intercalate (entries.map (Json.entry .pretty 1)) ++
      (if entries = [] then [] else ['\n']) ++ ['\x7d'])
  display : p.display = String.ofList
    ("Pipeline(\x7b".toList ++ [',', ' '].intercalate (entries.map Json.displayEntry) ++
      ['\x7d', ')'])

theorem listedBy (p : Pipeline) : p.ListedBy p.settings.toList where
  found key value := p.settings.get?_eq_some_iff.symm
  once := p.settings.nodup_names
  ascending := p.settings.pairwise_toList.imp Text.lt_iff_utf8_lt.mp
  compact := by
    have hprint := Json.print_object .compact 0 p.settings
    have hnewline :
        (if p.settings.toList = [] then [] else Json.Layout.compact.newline 0) = [] := by
      split <;> rfl
    rw [hnewline, List.append_nil] at hprint
    exact congrArg String.ofList hprint
  pretty := by
    have hprint := Json.print_object .pretty 0 p.settings
    have hnewline : Json.Layout.pretty.newline 0 = ['\n'] := rfl
    rw [hnewline] at hprint
    exact congrArg String.ofList hprint
  display := by
    unfold Pipeline.display
    rw [Json.displayMembers_eq]

/-! ## Copies -/

/-- What can be done to pipelines that are held at places: one is copied to the next free place, or
one has a setting set. -/
inductive Edit where
  | copy (place : Nat)
  | set (place : Nat) (key : String) (value : Json)

/-- The pipelines after an edit. An edit of a place that is not there does nothing. -/
def Edit.apply (held : List Pipeline) : Edit → List Pipeline
  | .copy place => held ++ held[place]?.toList
  | .set place key value => held.modify place fun p => p.set key value

def Edit.applyAll (held : List Pipeline) (edits : List Edit) : List Pipeline :=
  edits.foldl Edit.apply held

/-- The setting that an edit sets at a place. -/
def Edit.step? (place : Nat) : Edit → Option (String × Json)
  | .set other key value => if other = place then some (key, value) else none
  | .copy _ => none

/-- The settings that edits set at a place, one after the other. -/
def Edit.stepsAt (place : Nat) (edits : List Edit) : List (String × Json) :=
  edits.filterMap (Edit.step? place)

theorem getElem?_apply (hplace : held[place]? = some p) (edit : Edit) :
    (edit.apply held)[place]? = some (p.setAll (edit.step? place).toList) := by
  cases edit with
  | copy other =>
    -- A copy goes behind every place that is there.
    have hlt : place < held.length := (List.getElem?_eq_some_iff.mp hplace).1
    exact (List.getElem?_append_left hlt).trans hplace
  | set other key value =>
    by_cases hother : other = place <;>
      simp [Edit.apply, Edit.step?, hplace, hother, setAll]

/-- A pipeline is what the settings set at its own place make of it. -/
theorem getElem?_applyAll (hplace : held[place]? = some p) (edits : List Edit) :
    (Edit.applyAll held edits)[place]? = some (p.setAll (Edit.stepsAt place edits)) := by
  induction edits generalizing held p with
  | nil => exact hplace
  | cons edit edits ih =>
    have happly : Edit.applyAll held (edit :: edits) = Edit.applyAll (edit.apply held) edits := rfl
    rw [happly, ih (getElem?_apply hplace edit)]
    rcases hstep : edit.step? place with _ | step
    · simp [Edit.stepsAt, hstep, setAll]
    · simp [Edit.stepsAt, hstep, setAll]

/-- **Pipelines are canonical finite maps.** Whatever a pipeline is at first, after any settings
have been set one after the other every name has the last value set for it, a null one included, and
a name that was not set has what it had. Two such runs that leave the same values, in whatever order
they set them and whatever they replaced, end in equal pipelines with the same texts. The texts list
every name once, in the order of UTF-8 bytes. And of a pipeline and its copy each is what its own
later settings make of it. -/
theorem finite_map (p : Pipeline) (steps : List (String × Json)) :
    let q := p.setAll steps
    (∀ key, q.get? key = (lastValue? steps key).or (p.get? key) ∧
      (q.has key = true ↔ key ∈ steps.map Prod.fst ∨ p.has key = true)) ∧
    (∀ key, key ∉ steps.map Prod.fst → q.get? key = p.get? key ∧ q.has key = p.has key) ∧
    (∀ key, lastValue? steps key ∈ [some .null, some (.ofDouble none)] →
      q.get? key = some .null ∧ q.has key = true) ∧
    (∀ (start : Pipeline) (others : List (String × Json)),
      (∀ key, (lastValue? others key).or (start.get? key) =
        (lastValue? steps key).or (p.get? key)) →
      let r := start.setAll others
      r = q ∧ r.same q = true ∧ r.compact = q.compact ∧ r.pretty = q.pretty ∧
        r.display = q.display) ∧
    q.ListedBy q.settings.toList ∧
    ∀ (held : List Pipeline) (place : Nat) (edits : List Edit), held[place]? = some q →
      let after := Edit.applyAll held (.copy place :: edits)
      after[place]? = some (q.setAll (Edit.stepsAt place edits)) ∧
        after[held.length]? = some (q.setAll (Edit.stepsAt held.length edits)) := by
  intro q
  have hget := p.get?_setAll steps
  refine ⟨fun key => ⟨hget key, p.has_setAll_iff steps⟩, ?_, ?_, ?_, q.listedBy, ?_⟩
  · intro key hkey
    have hsame : q.get? key = p.get? key := p.get?_setAll_of_notMem hkey
    exact ⟨hsame, by rw [has_eq_isSome, has_eq_isSome, hsame]⟩
  · intro key hnull
    have hlast : lastValue? steps key = some .null := by simpa [Json.ofDouble] using hnull
    have hvalue : q.get? key = some .null := by rw [hget, hlast, Option.some_or]
    exact ⟨hvalue, by rw [has_eq_isSome, hvalue, Option.isSome_some]⟩
  · intro start others hlast r
    have heq : r = q := eq_of_get? fun key => by rw [get?_setAll, hlast, ← hget]
    rw [heq]
    exact ⟨rfl, q.same_self, rfl, rfl, rfl⟩
  · intro held place edits hplace after
    have hlt : place < held.length := (List.getElem?_eq_some_iff.mp hplace).1
    have hcopied : Edit.apply held (.copy place) = held ++ [q] := by simp [Edit.apply, hplace]
    have hafter : after = Edit.applyAll (held ++ [q]) edits := by rw [← hcopied]; rfl
    rw [hafter]
    constructor
    · exact getElem?_applyAll ((List.getElem?_append_left hlt).trans hplace) edits
    · exact getElem?_applyAll List.getElem?_concat_length edits

end CloudQueue.Pipeline
