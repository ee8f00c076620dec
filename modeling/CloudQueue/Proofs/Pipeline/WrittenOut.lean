import CloudQueue.Proofs.Binary64.Render
import CloudQueue.Proofs.Pipeline.Integers

/-!
# Settings written as texts

A setting that is no text can be written out as one: its compact text, with blanks around it
(`Json.writtenOut`). The readers of integers and of truth values do not tell the difference, since
the text of an integer or a truth value is read as that, and the text of no other value is mistaken
for one (`written_out_reads_alike`).
-/

namespace CloudQueue

namespace Text

variable {c : Char} {s t core left right : List Char} {i k : Int}

/-! ## What can be in the text of a number -/

theorem isBlank_of_isDigit (h : c.isDigit = true) : isBlank c = false := by
  obtain ⟨hlow, hhigh⟩ := isDigit_iff.mp h
  have hlow : 48 ≤ c.toNat := hlow
  have hhigh : c.toNat ≤ 57 := hhigh
  unfold isBlank
  simp
  omega

/-- A digit, a sign, a point, or the letter of an exponent. -/
def InNumber (c : Char) : Prop := c.isDigit = true ∨ c ∈ ['+', '-', '.', 'e']

theorem InNumber.isBlank_eq (h : InNumber c) : isBlank c = false := by
  rcases h with hdigit | hmark
  · exact isBlank_of_isDigit hdigit
  · have hmarks : ∀ c ∈ ['+', '-', '.', 'e'], isBlank c = false := by simp [isBlank]
    exact hmarks c hmark

theorem AllDigits.inNumber (h : AllDigits s) : ∀ c ∈ s, InNumber c := fun c hc => .inl (h c hc)

theorem IsExponent.inNumber (h : IsExponent s) : ∀ c ∈ s, InNumber c := by
  obtain ⟨sign, ds, rfl, hsign, hds⟩ := h
  simp only [List.forall_mem_cons]
  refine ⟨.inr (by decide), .inr ?_, hds.inNumber⟩
  rcases hsign with rfl | rfl <;> decide

theorem IsDecimal.inNumber (h : IsDecimal s) : ∀ c ∈ s, InNumber c := by
  obtain ⟨whole, tail, rfl, -, hwhole, htail⟩ := h
  refine List.forall_mem_append.mpr ⟨hwhole.inNumber, ?_⟩
  cases htail with
  | exponent h => exact h.inNumber
  | fraction hds h =>
    rw [List.cons_append, List.forall_mem_cons, List.forall_mem_append]
    refine ⟨.inr (by decide), hds.inNumber, ?_⟩
    rcases h with rfl | h
    · exact List.forall_mem_nil _
    · exact h.inNumber

/-- A decimal text has a point or the letter of an exponent. -/
theorem IsDecimal.exists_mark (h : IsDecimal s) : ∃ c ∈ s, c = '.' ∨ c = 'e' := by
  obtain ⟨whole, tail, rfl, -, -, htail⟩ := h
  cases htail with
  | exponent h =>
    obtain ⟨sign, ds, rfl, -⟩ := h
    exact ⟨'e', by simp, .inr rfl⟩
  | fraction hds h => exact ⟨'.', by simp, .inl rfl⟩

theorem integer_inNumber (i : Int) : ∀ c ∈ integer i, InNumber c := by
  unfold integer
  split
  · exact List.forall_mem_cons.mpr ⟨.inr (by decide), (allDigits_digits _).inNumber⟩
  · exact (allDigits_digits _).inNumber

/-! ## What writes an integer -/

theorem writesInteger_integer (i : Int) : WritesInteger (integer i) i := by
  have hvalue := ofDigitChars_digits i.natAbs
  unfold integer
  split
  · have hminus := WritesInteger.minus (digits_ne_nil i.natAbs) (allDigits_digits _)
    rw [hvalue] at hminus
    have habs : -(i.natAbs : Int) = i := by omega
    rwa [habs] at hminus
  · have hunsigned := WritesInteger.unsigned (digits_ne_nil i.natAbs) (allDigits_digits _)
    rw [hvalue] at hunsigned
    have habs : (i.natAbs : Int) = i := by omega
    rwa [habs] at hunsigned

theorem WritesInteger.unique (h : WritesInteger s i) (h' : WritesInteger s k) : i = k := by
  -- Limits that let both through read one thing.
  have hread (n : Int) (hn : WritesInteger s n) (hle : n.natAbs ≤ i.natAbs + k.natAbs) :
      readInteger (i.natAbs + k.natAbs + 1) (i.natAbs + k.natAbs) s = .ok n :=
    (readInteger_eq_ok_iff (Nat.succ_pos _)).mpr ⟨hn, by omega, by omega⟩
  exact Except.ok.inj ((hread i h (by omega)).symm.trans (hread k h' (by omega)))

theorem not_writesInteger_of_mem (hc : c ∈ s) (hdigit : c.isDigit = false) (hplus : c ≠ '+')
    (hminus : c ≠ '-') : ¬WritesInteger s i := by
  have hnot {ds : List Char} (hds : AllDigits ds) (hmem : c ∈ ds) : False := by
    rw [hds c hmem] at hdigit
    cases hdigit
  rintro (⟨-, hds⟩ | ⟨-, hds⟩ | ⟨-, hds⟩)
  · exact hnot hds hc
  · exact hnot hds (List.mem_of_ne_of_mem hplus hc)
  · exact hnot hds (List.mem_of_ne_of_mem hminus hc)

/-! ## Blanks around a text -/

theorem IsTrimmed.between_blanks (h : IsTrimmed s core) (hleft : ∀ c ∈ left, isBlank c = true)
    (hright : ∀ c ∈ right, isBlank c = true) : IsTrimmed (left ++ s ++ right) core where
  between := by
    obtain ⟨before, after, rfl, hbefore, hafter⟩ := h.between
    exact ⟨left ++ before, after ++ right, by simp, List.forall_mem_append.mpr ⟨hleft, hbefore⟩,
      List.forall_mem_append.mpr ⟨hafter, hright⟩⟩
  head := h.head
  last := h.last

theorem isTrimmed_self (hhead : ∀ c, s.head? = some c → isBlank c = false)
    (hlast : ∀ c, s.getLast? = some c → isBlank c = false) : IsTrimmed s s where
  between := ⟨[], [], by simp, List.forall_mem_nil _, List.forall_mem_nil _⟩
  head := hhead
  last := hlast

theorem isTrimmed_of_forall (h : ∀ c ∈ s, isBlank c = false) : IsTrimmed s s :=
  isTrimmed_self (fun c hc => h c (List.mem_of_mem_head? hc))
    fun c hc => h c (List.mem_of_mem_getLast? hc)

theorem isTrimmed_between {first last : Char} (hfirst : isBlank first = false)
    (hlast : isBlank last = false) (inner : List Char) :
    IsTrimmed (first :: (inner ++ [last])) (first :: (inner ++ [last])) := by
  refine isTrimmed_self (by simpa using hfirst) fun c hc => ?_
  rw [← List.cons_append, List.getLast?_concat] at hc
  rwa [← Option.some.inj hc]

end Text

namespace Json

open Text (IsTrimmed WritesInteger InNumber)

variable {j : Json} {s left right : String} {i : Int} {b : Bool} {layout : Layout} {level : Nat}

/-! ## The texts of values -/

theorem inNumber_print (n : Number) : ∀ c ∈ n.print, InNumber c := by
  cases n with
  | integer i _ _ => exact Text.integer_inNumber i
  | float x =>
    obtain ⟨s, hs, hrender⟩ := x.render_form
    rw [Number.print, hrender]
    split
    · exact List.forall_mem_cons.mpr ⟨.inr (by decide), hs.inNumber⟩
    · exact hs.inNumber

theorem not_writesInteger_float (x : Binary64) : ¬WritesInteger x.render i := by
  obtain ⟨s, hs, hrender⟩ := x.render_form
  obtain ⟨c, hc, hmark⟩ := hs.exists_mark
  have hmem : c ∈ x.render := by
    rw [hrender]
    split
    · exact List.mem_cons_of_mem _ hc
    · exact hc
  rcases hmark with rfl | rfl <;>
    exact Text.not_writesInteger_of_mem hmem (by decide) (by decide) (by decide)

theorem exists_print_array (layout : Layout) (level : Nat) (items : List Json) :
    ∃ inner, (array items).print layout level = '[' :: (inner ++ [']']) := by
  cases items with
  | nil => exact ⟨[], rfl⟩
  | cons x xs => exact ⟨_, by rw [print]; rfl⟩

theorem exists_print_object (layout : Layout) (level : Nat) (members : Members Json none) :
    ∃ inner, (object members).print layout level = '\x7b' :: (inner ++ ['\x7d']) := by
  cases members with
  | empty => exact ⟨[], rfl⟩
  | member name _ x rest => exact ⟨_, by rw [print]; rfl⟩

/-- Only the text of an integer writes an integer, and it writes that one. -/
theorem writesInteger_print_iff : WritesInteger (j.print layout level) i ↔
    ∃ low high, j = .number (.integer i low high) := by
  have hnot {c : Char} (hmem : c ∈ j.print layout level) (hdigit : c.isDigit = false)
      (hplus : c ≠ '+') (hminus : c ≠ '-') (hj : ∀ low high, j ≠ .number (.integer i low high)) :
      WritesInteger (j.print layout level) i ↔ ∃ low high, j = .number (.integer i low high) :=
    iff_of_false (Text.not_writesInteger_of_mem hmem hdigit hplus hminus)
      fun ⟨low, high, h⟩ => hj low high h
  cases j with
  | null => exact hnot (c := 'n') (by simp [print]) rfl (by decide) (by decide) (by simp)
  | bool b =>
    cases b with
    | true => exact hnot (c := 't') (by simp [print]) rfl (by decide) (by decide) (by simp)
    | false => exact hnot (c := 'f') (by simp [print]) rfl (by decide) (by decide) (by simp)
  | number n =>
    cases n with
    | integer k low high =>
      constructor
      · intro h
        obtain rfl := h.unique (Text.writesInteger_integer k)
        exact ⟨low, high, rfl⟩
      · rintro ⟨_, _, ⟨⟩⟩
        exact Text.writesInteger_integer i
    | float x => exact iff_of_false (not_writesInteger_float x) (by simp)
  | string s => exact hnot (c := '"') (by simp [print, quote]) rfl (by decide) (by decide) (by simp)
  | array items =>
    obtain ⟨inner, hinner⟩ := exists_print_array layout level items
    exact hnot (c := '[') (by simp [hinner]) rfl (by decide) (by decide) (by simp)
  | object members =>
    obtain ⟨inner, hinner⟩ := exists_print_object layout level members
    exact hnot (c := '\x7b') (by simp [hinner]) rfl (by decide) (by decide) (by simp)

theorem isTrimmed_print (hj : ∀ s, j ≠ .string s) :
    IsTrimmed (j.print layout level) (j.print layout level) := by
  cases j with
  | null => exact Text.isTrimmed_of_forall (by simp [print, Text.isBlank])
  | bool b => cases b <;> exact Text.isTrimmed_of_forall (by simp [print, Text.isBlank])
  | number n => exact Text.isTrimmed_of_forall fun c hc => (inNumber_print n c hc).isBlank_eq
  | string s => exact absurd rfl (hj s)
  | array items =>
    obtain ⟨inner, hinner⟩ := exists_print_array layout level items
    rw [hinner]
    exact Text.isTrimmed_between (by simp [Text.isBlank]) (by simp [Text.isBlank]) inner
  | object members =>
    obtain ⟨inner, hinner⟩ := exists_print_object layout level members
    rw [hinner]
    exact Text.isTrimmed_between (by simp [Text.isBlank]) (by simp [Text.isBlank]) inner

/-- Only the text of a truth value is that text. -/
theorem print_eq_bool_iff :
    j.print layout level = (bool b).print layout level ↔ j = .bool b := by
  cases j with
  | null => cases b <;> simp [print]
  | bool b' => cases b <;> cases b' <;> simp [print]
  | number n =>
    have hletter : ∃ c ∈ (bool b).print layout level, ¬InNumber c := by
      cases b
      · exact ⟨'f', by simp [print], by simp [InNumber]⟩
      · exact ⟨'t', by simp [print], by simp [InNumber]⟩
    obtain ⟨c, hc, hnot⟩ := hletter
    refine iff_of_false (fun h => hnot ?_) (by simp)
    rw [← h] at hc
    exact inNumber_print n c hc
  | string s => cases b <;> simp [print, quote]
  | array items =>
    obtain ⟨inner, hinner⟩ := exists_print_array layout level items
    rw [hinner]
    cases b <;> simp [print]
  | object members =>
    obtain ⟨inner, hinner⟩ := exists_print_object layout level members
    rw [hinner]
    cases b <;> simp [print]

/-- The truth value that a value stands for. A text stands for the one whose text it is, without the
blanks at both ends; no other value but a truth value stands for one. -/
inductive StandsForBool : Json → Bool → Prop
  | bool (b : Bool) : StandsForBool (.bool b) b
  | text {s : String} {core : List Char} {b : Bool} (hcore : IsTrimmed s.toList core)
      (hname : core = (bool b).print .compact 0) : StandsForBool (.string s) b

/-- A value written out: its text with other texts around it. A text stays as it is. -/
def writtenOut (left right : String) : Json → Json
  | .string s => .string s
  | j => .string (left ++ j.compact ++ right)

section

variable (hleft : ∀ c ∈ left.toList, Text.isBlank c = true)
  (hright : ∀ c ∈ right.toList, Text.isBlank c = true)

include hleft hright

theorem isTrimmed_writtenOut (hj : ∀ s, j ≠ .string s) :
    ∃ s, j.writtenOut left right = .string s ∧ IsTrimmed s.toList (j.print .compact 0) := by
  refine ⟨left ++ j.compact ++ right, ?_, ?_⟩
  · cases j with
    | string s => exact absurd rfl (hj s)
    | _ => rfl
  · rw [String.toList_append, String.toList_append, compact, String.toList_ofList]
    exact (isTrimmed_print hj).between_blanks hleft hright

theorem standsForInt_writtenOut_iff :
    (j.writtenOut left right).StandsForInt i ↔ j.StandsForInt i := by
  by_cases hj : ∃ s, j = .string s
  · obtain ⟨s, rfl⟩ := hj
    rfl
  · obtain ⟨s, hs, htrimmed⟩ := isTrimmed_writtenOut hleft hright fun s h => hj ⟨s, h⟩
    rw [hs]
    constructor
    · rintro (- | ⟨hcore, hwrites, hi⟩)
      rw [← hcore.trim_eq, htrimmed.trim_eq, writesInteger_print_iff] at hwrites
      obtain ⟨low, high, rfl⟩ := hwrites
      exact .integer hi
    · intro hi
      cases hi with
      | integer hi => exact .text htrimmed (writesInteger_print_iff.mpr ⟨_, _, rfl⟩) hi
      | text => exact absurd ⟨_, rfl⟩ hj

theorem standsForBool_writtenOut_iff :
    (j.writtenOut left right).StandsForBool b ↔ j.StandsForBool b := by
  by_cases hj : ∃ s, j = .string s
  · obtain ⟨s, rfl⟩ := hj
    rfl
  · obtain ⟨s, hs, htrimmed⟩ := isTrimmed_writtenOut hleft hright fun s h => hj ⟨s, h⟩
    rw [hs]
    constructor
    · rintro (- | ⟨hcore, hname⟩)
      rw [← hcore.trim_eq, htrimmed.trim_eq, print_eq_bool_iff] at hname
      rw [hname]
      exact .bool b
    · intro hb
      cases hb with
      | bool => exact .text htrimmed rfl
      | text => exact absurd ⟨_, rfl⟩ hj

end

theorem not_standsForBool_of_standsForInt (hi : (string s).StandsForInt i) :
    ¬(string s).StandsForBool b := by
  rintro (- | ⟨hcore, hname⟩)
  rcases hi with - | ⟨hcore', hwrites, -⟩
  rw [← hcore'.trim_eq, hcore.trim_eq, hname, writesInteger_print_iff] at hwrites
  obtain ⟨low, high, ⟨⟩⟩ := hwrites

end Json

namespace Pipeline

open Json (StandsForInt StandsForBool)

variable {p q : Pipeline} {key : String} {v : Json} {b : Bool}

theorem bool_of_standsForBool (hv : p.get? key = some v) (hb : v.StandsForBool b) (default : Bool) :
    p.bool key default = b := by
  cases hb with
  | bool => exact bool_of_bool hv default
  | text hcore hname =>
    unfold bool
    rw [hv]
    simp only [hcore.trim_eq, hname]
    cases b <;> rfl

theorem bool_of_not_standsForBool (h : ∀ v b, p.get? key = some v → ¬v.StandsForBool b)
    (default : Bool) : p.bool key default = default := by
  unfold bool
  split
  · rename_i b hb
    exact absurd (.bool b) (h _ b hb)
  · rename_i s hs
    have hnot (b : Bool) : Text.trim s.toList ≠ (Json.bool b).print .compact 0 :=
      fun hname => h _ b hs (.text (Text.isTrimmed_trim s.toList) hname)
    have htrue : Text.trim s.toList ≠ ['t', 'r', 'u', 'e'] := hnot true
    have hfalse : Text.trim s.toList ≠ ['f', 'a', 'l', 's', 'e'] := hnot false
    rw [if_neg htrue, if_neg hfalse]
  · rfl

theorem int_congr (h : ∀ i, (∃ v, q.get? key = some v ∧ v.StandsForInt i) ↔
    ∃ v, p.get? key = some v ∧ v.StandsForInt i) (default : Int) :
    q.int key default = p.int key default := by
  by_cases hany : ∃ i v, p.get? key = some v ∧ v.StandsForInt i
  · obtain ⟨i, v, hv, hi⟩ := hany
    obtain ⟨w, hw, hwi⟩ := (h i).mpr ⟨v, hv, hi⟩
    rw [int_of_standsForInt hv hi, int_of_standsForInt hw hwi]
  · rw [int_of_not_standsForInt fun v i hv hi => hany ⟨i, v, hv, hi⟩,
      int_of_not_standsForInt fun v i hv hi => hany ⟨i, (h i).mp ⟨v, hv, hi⟩⟩]

theorem bool_congr (h : ∀ b, (∃ v, q.get? key = some v ∧ v.StandsForBool b) ↔
    ∃ v, p.get? key = some v ∧ v.StandsForBool b) (default : Bool) :
    q.bool key default = p.bool key default := by
  by_cases hany : ∃ b v, p.get? key = some v ∧ v.StandsForBool b
  · obtain ⟨b, v, hv, hb⟩ := hany
    obtain ⟨w, hw, hwb⟩ := (h b).mpr ⟨v, hv, hb⟩
    rw [bool_of_standsForBool hv hb, bool_of_standsForBool hw hwb]
  · rw [bool_of_not_standsForBool fun v b hv hb => hany ⟨b, v, hv, hb⟩,
      bool_of_not_standsForBool fun v b hv hb => hany ⟨b, (h b).mp ⟨v, hv, hb⟩⟩]

/-! ## Pipelines with settings written out -/

/-- The pipeline in which a setting is written out, if it is there. -/
def writeOutAt (p : Pipeline) (key left right : String) : Pipeline :=
  match p.get? key with
  | some v => p.set key (v.writtenOut left right)
  | none => p

/-- The pipeline in which the settings of some names are written out, each between texts of its
own. -/
def writeOut (p : Pipeline) (left right : String → String) (keys : List String) : Pipeline :=
  keys.foldl (fun q key => q.writeOutAt key (left key) (right key)) p

theorem get?_writeOutAt_self (p : Pipeline) (key left right : String) :
    (p.writeOutAt key left right).get? key = (p.get? key).map (·.writtenOut left right) := by
  unfold writeOutAt
  rcases hv : p.get? key with _ | v
  · exact hv
  · exact Json.Members.get?_set_self p.settings key _

theorem get?_writeOutAt_of_ne (p : Pipeline) (left right : String) {key other : String}
    (h : other ≠ key) : (p.writeOutAt key left right).get? other = p.get? other := by
  unfold writeOutAt
  rcases p.get? key with _ | v
  · rfl
  · exact Json.Members.get?_set_of_ne p.settings _ h

/-- The settings of the given names are written out, and all others stay as they are. -/
theorem get?_writeOut (p : Pipeline) (left right : String → String) (keys : List String)
    (key : String) : (p.writeOut left right keys).get? key =
      if key ∈ keys then (p.get? key).map (·.writtenOut (left key) (right key))
      else p.get? key := by
  induction keys generalizing p with
  | nil => rfl
  | cons first keys ih =>
    have hstep : p.writeOut left right (first :: keys) =
      (p.writeOutAt first (left first) (right first)).writeOut left right keys := rfl
    rw [hstep, ih]
    by_cases hkey : key = first
    · subst hkey
      rw [get?_writeOutAt_self, if_pos List.mem_cons_self]
      split
      · -- Written out twice is written out once: what is written out is a text.
        rcases p.get? key with _ | v
        · rfl
        · cases v <;> rfl
      · rfl
    · rw [get?_writeOutAt_of_ne p _ _ hkey]
      simp [hkey]

/-- **Settings written as texts read as the settings themselves.** If settings of a pipeline are
written out as their compact texts between blanks, the readers of integers, of truth values and of
the priority answer as before, whatever is asked for and whatever the default: an integer of 64 bits
is read in both, and for any greater one, and for everything else that is neither a text nor a truth
value, both give the default. And no text is read both as an integer and as a truth value. -/
theorem written_out_reads_alike (p : Pipeline) (keys : List String) (left right : String → String)
    (hleft : ∀ key, ∀ c ∈ (left key).toList, Text.isBlank c = true)
    (hright : ∀ key, ∀ c ∈ (right key).toList, Text.isBlank c = true) :
    let q := p.writeOut left right keys
    (∀ key, q.get? key = if key ∈ keys
      then (p.get? key).map (·.writtenOut (left key) (right key)) else p.get? key) ∧
    (∀ key default, q.int key default = p.int key default) ∧
    (∀ key default, q.bool key default = p.bool key default) ∧
    q.priority = p.priority ∧
    (∀ key v, p.get? key = some v → (∀ s, v ≠ .string s) → ∀ default,
      ((∃ i low high, v = .number (.integer i low high) ∧ i ≤ 9223372036854775807 ∧
        q.int key default = i) ∨
      (∀ i low high, v = .number (.integer i low high) → 9223372036854775807 < i) ∧
        q.int key default = default)) ∧
    ∀ key s, p.get? key = some (.string s) →
      (∀ default, p.int key default = default) ∨ ∀ default, p.bool key default = default := by
  intro q
  have hget := p.get?_writeOut left right keys
  have hint (key : String) (default : Int) : q.int key default = p.int key default := by
    refine int_congr (fun i => ?_) default
    rw [hget]
    split
    · simp [Json.standsForInt_writtenOut_iff (hleft key) (hright key)]
    · rfl
  have hbool (key : String) (default : Bool) : q.bool key default = p.bool key default := by
    refine bool_congr (fun b => ?_) default
    rw [hget]
    split
    · simp [Json.standsForBool_writtenOut_iff (hleft key) (hright key)]
    · rfl
  refine ⟨hget, hint, hbool, hint priorityKey defaultPriority, ?_, ?_⟩
  · intro key v hv hnot default
    rw [hint]
    by_cases hi : ∃ i, v.StandsForInt i
    · obtain ⟨i, hi⟩ := hi
      rw [int_of_standsForInt hv hi]
      cases hi with
      | integer hi => exact .inl ⟨i, _, _, rfl, hi.2, rfl⟩
      | text => exact absurd rfl (hnot _)
    · right
      constructor
      · rintro i low high rfl
        by_contra hle
        exact hi ⟨i, .integer ⟨low, not_lt.mp hle⟩⟩
      · refine int_of_not_standsForInt (fun w i hw hwi => hi ⟨i, ?_⟩) default
        rwa [Option.some.inj (hv.symm.trans hw)]
  · intro key s hs
    by_cases hi : ∃ i, (Json.string s).StandsForInt i
    · right
      obtain ⟨i, hi⟩ := hi
      refine bool_of_not_standsForBool fun v b hv hb => ?_
      rw [← Option.some.inj (hs.symm.trans hv)] at hb
      exact Json.not_standsForBool_of_standsForInt hi hb
    · left
      refine int_of_not_standsForInt fun v i hv hvi => hi ⟨i, ?_⟩
      rwa [Option.some.inj (hs.symm.trans hv)]

/-- The least integer of 64 bits, the first one beyond them, a whole number with a point and a truth
value, all written out between blanks. -/
theorem written_out_reads_alike_at_limits :
    let p := (((({} : Pipeline).set "low"
      (.number (.integer (-9223372036854775808) (by decide) (by decide)))).set "beyond"
      (.number (.integer 9223372036854775808 (by decide) (by decide)))).set "point"
      (.number (.float ⟨false, 1026, 1125899906842624⟩))).set "on" (.bool true)
    let q := p.writeOut (fun _ => "\u2003") (fun _ => "\r\n") ["low", "beyond", "point", "on"]
    q.get? "point" = some (.string "\u200310.0\r\n") ∧ q.int "low" 7 = -9223372036854775808 ∧
      q.int "beyond" 7 = 7 ∧ q.int "point" 7 = 7 ∧ q.bool "on" false = true := by
  intro p q
  have hspace : "\u2003".toList.all Text.isBlank = true := by decide +kernel
  have hend : "\r\n".toList.all Text.isBlank = true := by decide +kernel
  obtain ⟨hget, hint, hbool, -⟩ := written_out_reads_alike p ["low", "beyond", "point", "on"]
    (fun _ => "\u2003") (fun _ => "\r\n") (fun _ => List.all_eq_true.mp hspace)
    (fun _ => List.all_eq_true.mp hend)
  refine ⟨(hget "point").trans ?_, (hint "low" 7).trans ?_, (hint "beyond" 7).trans ?_,
    (hint "point" 7).trans ?_, (hbool "on" false).trans ?_⟩ <;> decide +kernel

end Pipeline

end CloudQueue
