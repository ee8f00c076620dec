import CloudQueue.Proofs.Json.Parts

/-!
# Reading printed values

Reading the text of a value, in either layout, reads all of it, and succeeds only if arrays and
objects nest no deeper in the value than the budget allows (`reads_print`). If all numbers of the
value are integers, it gives the value back, and fails only for the depth (`parses_print`).
-/

namespace CloudQueue.Json

mutual

/-- All numbers in the value are integers. -/
def Integral : Json → Prop
  | .null | .bool _ | .string _ | .number (.integer ..) => True
  | .number (.float _) => False
  | .array items => ItemsIntegral items
  | .object members => MembersIntegral members

def ItemsIntegral : List Json → Prop
  | [] => True
  | x :: xs => x.Integral ∧ ItemsIntegral xs

def MembersIntegral : {bound : Option String} → Members Json bound → Prop
  | _, .empty => True
  | _, .member _ _ x rest => x.Integral ∧ MembersIntegral rest

end

/-- What reading comes to that is to read a thing and leave a text: nothing else is left, and it
succeeds only if the thing `fits`. Where reading is `exact` it gives the thing itself, and fails
only for the depth, of a thing that does not fit. -/
def Reads {α : Type} (fits exact : Prop) (x : α) (t : List Char) : Read α → Prop
  | .ok (y, s) => s = t ∧ fits ∧ (exact → y = x)
  | .error fault => exact → ¬fits ∧ fault.cause = .depthExceeded

variable {α β : Type} {fits fits' exact exact' : Prop} {x : α} {t w s : List Char}
  {result : Read α} {d : Nat}

/-! ## Combining readers -/

theorem Reads.ok (hfits : fits) : Reads fits exact x t (.ok (x, t)) := ⟨rfl, hfits, fun _ => rfl⟩

theorem Reads.depthExceeded (hfits : ¬fits) :
    Reads fits exact x t (.error (.at .depthExceeded s)) :=
  fun _ => ⟨hfits, rfl⟩

theorem Reads.imp (h : Reads fits exact x t result) (hfits : fits' ↔ fits)
    (hexact : exact' → exact) : Reads fits' exact' x t result := by
  rcases result with fault | ⟨y, s⟩
  · intro h'
    rw [hfits]
    exact h (hexact h')
  · obtain ⟨hs, hf, hy⟩ := h
    exact ⟨hs, hfits.mpr hf, fun h' => hy (hexact h')⟩

theorem Reads.map (h : Reads fits exact x t result) (f : α → β) :
    Reads fits exact (f x) t (result.map fun p => (f p.1, p.2)) := by
  rcases result with fault | ⟨y, s⟩
  · exact h
  · obtain ⟨hs, hf, hy⟩ := h
    exact ⟨hs, hf, fun he => congrArg f (hy he)⟩

theorem Reads.bind {z : α → β} {next : α × List Char → Read β} (h : Reads fits exact x s result)
    (hnext : ∀ y, Reads fits' exact' (z y) t (next (y, s))) :
    Reads (fits ∧ fits') (exact ∧ exact') (z x) t (result.bind next) := by
  rcases result with fault | ⟨y, s'⟩
  · rintro ⟨he, -⟩
    obtain ⟨hf, hcause⟩ := h he
    exact ⟨fun hboth => hf hboth.1, hcause⟩
  · obtain ⟨rfl, hf, hy⟩ := h
    have hrest := hnext y
    show Reads _ _ _ _ (next (y, s'))
    generalize next (y, s') = rest at hrest ⊢
    rcases rest with fault | ⟨z', s''⟩
    · rintro ⟨-, he⟩
      obtain ⟨hf', hcause⟩ := hrest he
      exact ⟨fun hboth => hf' hboth.2, hcause⟩
    · obtain ⟨ht, hf', hz⟩ := hrest
      refine ⟨ht, ⟨hf, hf'⟩, fun he => ?_⟩
      rw [hz he.2, hy he.1]

/-! ## Values -/

/-- Of the text of a floating-point number all is read, whatever number it is read as. -/
theorem reads_float (y : Binary64) (j : Json) (hfits : fits) (ht : EndsNumber t) :
    Reads fits False j t (readValue d (y.render ++ t)) := by
  have hreads : ∀ positive text, Text.IsDecimal text →
      Reads fits False j t ((readNumber positive (text ++ t)).map fun p => (.number p.1, p.2)) := by
    intro positive text htext
    rcases hresult : readNumber positive (text ++ t) with fault | ⟨n, s⟩
    · exact False.elim
    · exact ⟨readNumber_leaves htext ht n s hresult, hfits, False.elim⟩
  obtain ⟨text, htext, hrender⟩ := y.render_form
  rw [hrender]
  split
  · rw [List.cons_append, readValue_of_scalar rfl (by decide) (by decide)]
    exact hreads false text htext
  · have hdecimal := htext
    obtain ⟨whole, tail, rfl, hne, hwhole, -⟩ := htext
    rcases whole with _ | ⟨c, ds⟩
    · exact absurd rfl hne
    · have htrue := hreads true _ hdecimal
      rw [List.cons_append, List.cons_append] at htrue ⊢
      rw [readValue_of_isDigit (Text.allDigits_cons.mp hwhole).1]
      exact htrue

mutual

/-- Reading the text of a value, in front of a text in which no number goes on. -/
theorem reads_print (layout : Layout) (level d : Nat) {t : List Char} (ht : EndsNumber t) :
    (j : Json) → Reads (j.depth ≤ d) j.Integral j t (readValue d (j.print layout level ++ t))
  | .null => by
    rw [print, List.cons_append, readValue_of_scalar rfl (by decide) (by decide)]
    exact .ok (Nat.zero_le d)
  | .bool true => by
    rw [print, List.cons_append, readValue_of_scalar rfl (by decide) (by decide)]
    exact .ok (Nat.zero_le d)
  | .bool false => by
    rw [print, List.cons_append, readValue_of_scalar rfl (by decide) (by decide)]
    exact .ok (Nat.zero_le d)
  | .number (.integer i low high) => by
    rw [print, Number.print, reads_integer low high ht]
    exact .ok (Nat.zero_le d)
  | .number (.float y) => by
    rw [print, Number.print]
    refine (reads_float y _ (Nat.zero_le d) ht).imp Iff.rfl fun h => ?_
    exact absurd h (by simp [Integral])
  | .string name => by
    rw [print, quote, List.cons_append, List.cons_append, List.append_assoc, List.singleton_append,
      readValue_of_scalar rfl (by decide) (by decide)]
    show Reads _ _ _ _ ((readString _).map _)
    rw [readString_quote]
    exact .ok (Nat.zero_le d)
  | .array [] => by
    cases d with
    | zero => exact .depthExceeded (by simp [depth])
    | succ d => exact .ok (by simp [depth, itemsDepth])
  | .array (x :: xs) => by
    cases d with
    | zero => exact .depthExceeded (by simp [depth])
    | succ d =>
      have hw := allSpace_newline layout level
      have hends := endsNumber_printItems (t := t) layout (level + 1) hw xs
      simp only [print, List.append_assoc, List.cons_append, List.nil_append]
      show Reads _ _ _ _ ((readItems (readValue d) _ [] _).map _)
      rw [readItems_first (allSpace_newline layout (level + 1)) (startsValue_print layout _ x)]
      refine Reads.imp (Reads.map (Reads.bind (z := fun y => [y].reverse ++ xs)
        (reads_print layout (level + 1) d hends x) fun y =>
          reads_printItems layout (level + 1) d hw xs ?_ (List.cons_ne_nil y [])) Json.array) ?_ id
      · have hlength := length_le_printItems layout (level + 1) xs
        simp only [List.length_append, List.length_cons]
        omega
      · simp [depth, itemsDepth]
  | .object .empty => by
    cases d with
    | zero => exact .depthExceeded (by simp [depth])
    | succ d => exact .ok (by simp [depth, membersDepth])
  | .object (.member name above x rest) => by
    cases d with
    | zero => exact .depthExceeded (by simp [depth])
    | succ d =>
      have hw := allSpace_newline layout level
      have hends := endsNumber_printMembers (t := t) layout (level + 1) hw rest
      simp only [print, List.append_assoc, List.cons_append, List.nil_append]
      show Reads _ _ _ _ ((readMembers (readValue d) _ [] _).map _)
      rw [readMembers_first (allSpace_newline layout (level + 1)),
        readValue_append (allSpace_colon_tail layout)]
      rw [← Members.ofList_toList (.member name above x rest)]
      refine Reads.imp (Reads.map (Reads.bind (z := fun y => [(name, y)].reverse ++ rest.toList)
        (reads_print layout (level + 1) d hends x) fun y =>
          reads_printMembers layout (level + 1) d hw rest ?_ (List.cons_ne_nil (name, y) []))
            fun ps => Json.object (Members.ofList ps)) ?_ ?_
      · have hlength := length_le_printMembers layout (level + 1) rest
        simp only [List.length_append, List.length_cons]
        omega
      · rw [Members.ofList_toList]
        simp [depth, membersDepth]
      · rw [Members.ofList_toList]
        exact id

theorem reads_printItems (layout : Layout) (level d : Nat) {fuel : Nat} {t w : List Char}
    {ys : List Json} (hw : AllSpace w) : (xs : List Json) → xs.length < fuel → ys ≠ [] →
      Reads (itemsDepth xs ≤ d) (ItemsIntegral xs) (ys.reverse ++ xs) t
        (readItems (readValue d) fuel ys (printItems layout level xs ++ (w ++ ']' :: t)))
  | [], hfuel, _ => by
    obtain ⟨fuel, rfl⟩ := Nat.exists_eq_add_one_of_ne_zero (Nat.ne_of_gt hfuel)
    rw [printItems, List.nil_append, readItems_end hw, List.append_nil]
    exact .ok (Nat.zero_le d)
  | x :: xs, hfuel, hys => by
    obtain ⟨fuel, rfl⟩ := Nat.exists_eq_add_one_of_ne_zero (Nat.ne_of_gt (Nat.zero_lt_of_lt hfuel))
    have hends := endsNumber_printItems (t := t) layout level hw xs
    simp only [printItems, List.append_assoc, List.cons_append]
    rw [readItems_next hys (allSpace_newline layout level) (startsValue_print layout level x)]
    have hread : ys.reverse ++ x :: xs = (x :: ys).reverse ++ xs := by simp
    rw [hread]
    refine Reads.imp (Reads.bind (z := fun y => (y :: ys).reverse ++ xs)
      (reads_print layout level d hends x) fun y =>
        reads_printItems layout level d hw xs (Nat.lt_of_succ_lt_succ hfuel)
          (List.cons_ne_nil y ys)) ?_ id
    simp [itemsDepth]

theorem reads_printMembers (layout : Layout) (level d : Nat) {fuel : Nat} {t w : List Char}
    {ps : List (String × Json)} (hw : AllSpace w) : {bound : Option String} →
    (members : Members Json bound) → members.toList.length < fuel → ps ≠ [] →
      Reads (membersDepth members ≤ d) (MembersIntegral members) (ps.reverse ++ members.toList) t
        (readMembers (readValue d) fuel ps
          (printMembers layout level members ++ (w ++ '\x7d' :: t)))
  | _, .empty, hfuel, _ => by
    obtain ⟨fuel, rfl⟩ := Nat.exists_eq_add_one_of_ne_zero (Nat.ne_of_gt hfuel)
    rw [printMembers, List.nil_append, readMembers_end hw, Members.toList_empty, List.append_nil]
    exact .ok (Nat.zero_le d)
  | _, .member name above x rest, hfuel, hps => by
    obtain ⟨fuel, rfl⟩ := Nat.exists_eq_add_one_of_ne_zero (Nat.ne_of_gt (Nat.zero_lt_of_lt hfuel))
    have hends := endsNumber_printMembers (t := t) layout level hw rest
    simp only [printMembers, List.append_assoc, List.cons_append]
    rw [readMembers_next hps (allSpace_newline layout level) name,
      readValue_append (allSpace_colon_tail layout)]
    have hread : ps.reverse ++ (Members.member name above x rest).toList =
        ((name, x) :: ps).reverse ++ rest.toList := by simp
    rw [hread]
    refine Reads.imp (Reads.bind (z := fun y => ((name, y) :: ps).reverse ++ rest.toList)
      (reads_print layout level d hends x) fun y =>
        reads_printMembers layout level d hw rest (Nat.lt_of_succ_lt_succ hfuel)
          (List.cons_ne_nil (name, y) ps)) ?_ id
    simp [membersDepth]

end

/-! ## Whole texts -/

/-- What reading a whole text comes to: `Reads` with nothing left. -/
def Parses {α : Type} (fits exact : Prop) (x : α) : Except Error α → Prop
  | .ok y => fits ∧ (exact → y = x)
  | .error e => exact → ¬fits ∧ e.cause = .depthExceeded

theorem Reads.parses {read : List Char → Read α} (h : Reads fits exact x w (read s))
    (hw : AllSpace w) : Parses fits exact x ((readWhole read s).mapError (Fault.locate s)) := by
  unfold readWhole
  generalize read s = result at h ⊢
  rcases result with fault | ⟨y, s'⟩
  · exact h
  · obtain ⟨rfl, hf, hy⟩ := h
    simp only [skipSpace_eq_nil hw]
    exact ⟨hf, hy⟩

section

variable {outcome : Except Error α}

theorem Parses.eq_ok (h : Parses fits exact x outcome) (hexact : exact) (hfits : fits) :
    outcome = .ok x := by
  rcases outcome with e | y
  · exact absurd hfits (h hexact).1
  · rw [h.2 hexact]

theorem Parses.eq_error (h : Parses fits exact x outcome) (hfits : ¬fits) :
    ∃ e, outcome = .error e ∧ (exact → e.cause = .depthExceeded) := by
  rcases outcome with e | y
  · exact ⟨e, rfl, fun hexact => (h hexact).2⟩
  · exact absurd h.1 hfits

end

/-- Parsing the text of a value with blanks behind it. -/
theorem parses_print (layout : Layout) (j : Json) (hw : AllSpace w) :
    Parses (j.depth ≤ depthLimit) j.Integral j
      (parse (String.ofList (j.print layout 0 ++ w))) := by
  unfold parse
  rw [String.toList_ofList]
  exact (reads_print layout 0 depthLimit (endsNumber_of_allSpace hw) j).parses hw

theorem reads_object (layout : Layout) (members : Members Json none) (ht : EndsNumber t) :
    Reads ((object members).depth ≤ depthLimit) (object members).Integral members t
      (readObject ((object members).print layout 0 ++ t)) := by
  have hreads := reads_print layout 0 depthLimit ht (object members)
  obtain ⟨r, hr⟩ : ∃ r, (object members).print layout 0 ++ t = '\x7b' :: r := by
    cases members <;> exact ⟨_, rfl⟩
  rw [hr] at hreads ⊢
  unfold readObject
  rw [skipSpace_cons rfl]
  split
  · rename_i hbracket
    exact absurd (List.cons.inj hbracket).1 (by decide)
  generalize readValue depthLimit ('\x7b' :: r) = result at hreads ⊢
  rcases result with fault | ⟨y, s⟩
  · exact hreads
  · obtain ⟨rfl, hf, hy⟩ := hreads
    -- Only an object is read as one, and the value is read as itself where reading is exact.
    cases y with
    | object members' => exact ⟨rfl, hf, fun h => object.inj (hy h)⟩
    | null | bool _ | number _ | string _ | array _ => exact fun h => absurd (hy h) (by simp)

theorem parses_object (layout : Layout) (members : Members Json none) (hw : AllSpace w) :
    Parses ((object members).depth ≤ depthLimit) (object members).Integral members
      (parseObject (String.ofList ((object members).print layout 0 ++ w))) := by
  unfold parseObject
  rw [String.toList_ofList]
  exact (reads_object layout members (endsNumber_of_allSpace hw)).parses hw

end CloudQueue.Json
