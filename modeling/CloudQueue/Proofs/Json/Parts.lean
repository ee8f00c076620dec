import CloudQueue.Proofs.Json.Numbers

/-!
# Reading the parts of printed values

What the reader does with each part of a printed value, whatever text stands behind it: blanks,
strings, integers, and the first, the next and the end of the items of an array or the members of an
object.
-/

namespace CloudQueue.Json

/-- Nothing but characters that may stand between tokens. -/
def AllSpace (w : List Char) : Prop := ∀ c ∈ w, isSpace c = true

/-- The text begins like a value, and not like the end of an array. -/
def StartsValue (s : List Char) : Prop :=
  ∃ c r, s = c :: r ∧ isSpace c = false ∧ c ≠ ']'

variable {t w s : List Char} {layout : Layout} {level fuel d : Nat}

/-! ## Blanks -/

theorem skipSpace_append (hw : AllSpace w) : skipSpace (w ++ s) = skipSpace s :=
  List.dropWhile_append_of_pos hw

theorem skipSpace_cons {c : Char} (hc : isSpace c = false) : skipSpace (c :: s) = c :: s := by
  unfold skipSpace
  rw [List.dropWhile_cons, hc, if_neg (by simp)]

theorem skipSpace_of_starts (hs : StartsValue s) : skipSpace s = s := by
  obtain ⟨c, r, rfl, hc, -⟩ := hs
  exact skipSpace_cons hc

theorem allSpace_newline (layout : Layout) (level : Nat) : AllSpace (layout.newline level) := by
  intro c hc
  cases layout with
  | compact => exact absurd hc List.not_mem_nil
  | pretty =>
    rcases List.mem_cons.mp hc with rfl | hc
    · rfl
    · rw [List.eq_of_mem_replicate hc]
      rfl

theorem endsNumber_append (hw : AllSpace w) (ht : EndsNumber t) : EndsNumber (w ++ t) := by
  cases w with
  | nil => exact ht
  | cons c w =>
    have hc := hw c List.mem_cons_self
    apply endsNumber_cons
    refine ⟨?_, ?_, ?_, ?_⟩
    · by_contra hdigit
      rw [Bool.not_eq_false, Text.isDigit_iff] at hdigit
      simp only [isSpace, Bool.or_eq_true, decide_eq_true_eq] at hc
      rcases hc with ((rfl | rfl) | rfl) | rfl <;> exact absurd hdigit (by decide)
    all_goals
      rintro rfl
      cases hc

theorem skipSpace_eq_nil (hw : AllSpace w) : skipSpace w = [] := List.dropWhile_eq_nil_iff.mpr hw

theorem endsNumber_of_allSpace (hw : AllSpace w) : EndsNumber w := by
  have happend := endsNumber_append hw endsNumber_nil
  rwa [List.append_nil] at happend

theorem readValue_append (hw : AllSpace w) : readValue d (w ++ s) = readValue d s := by
  cases d with
  | zero => rw [readValue, readValue, skipSpace_append hw]
  | succ d => rw [readValue, readValue, skipSpace_append hw]

/-! ## Strings -/

theorem hexValue4?_control :
    ∀ n < 32, hexValue4? '0' '0' (Nat.digitChar (n / 16)) (Nat.digitChar (n % 16)) = some n := by
  decide

theorem readChars_escape {read r : List Char} {c : Char} (h : readEscape s = .ok (c, r)) :
    readChars (fuel + 1) read ('\\' :: s) = readChars fuel (c :: read) r := by
  rw [readChars, if_neg (by decide), if_pos rfl, h]

theorem readChars_escapeChar (read : List Char) (c : Char) :
    readChars (fuel + 1) read (escapeChar c ++ s) = readChars fuel (c :: read) s := by
  unfold escapeChar
  split
  · subst_vars
    rfl
  split
  · subst_vars
    rfl
  split
  · subst_vars
    rfl
  split
  · subst_vars
    rfl
  split
  · subst_vars
    rfl
  split
  · subst_vars
    rfl
  split
  · subst_vars
    rfl
  split
  · rename_i hcontrol
    have hhex : readUnicode ('0' :: '0' :: Nat.digitChar (c.toNat / 16) ::
        Nat.digitChar (c.toNat % 16) :: s) = .ok (c, s) := by
      unfold readUnicode readHex4
      simp only [hexValue4?_control c.toNat hcontrol]
      rw [if_neg (by omega), if_neg (by omega), Char.ofNat_toNat]
    exact readChars_escape hhex
  · rename_i hquote hbackslash _ _ _ _ _ hcontrol
    rw [List.singleton_append, readChars, if_neg hquote, if_neg hbackslash, if_neg hcontrol]

theorem readChars_flatMap (cs read : List Char) (hfuel : cs.length < fuel) :
    readChars fuel read (cs.flatMap escapeChar ++ '"' :: t) =
      .ok (String.ofList (read.reverse ++ cs), t) := by
  induction cs generalizing fuel read with
  | nil =>
    obtain ⟨fuel, rfl⟩ := Nat.exists_eq_add_one_of_ne_zero (Nat.ne_of_gt hfuel)
    rw [List.append_nil]
    rfl
  | cons c cs ih =>
    obtain ⟨fuel, rfl⟩ := Nat.exists_eq_add_one_of_ne_zero (Nat.ne_of_gt (Nat.zero_lt_of_lt hfuel))
    rw [List.flatMap_cons, List.append_assoc, readChars_escapeChar,
      ih _ (Nat.lt_of_succ_lt_succ hfuel), List.reverse_cons, List.append_assoc,
      List.singleton_append]

theorem length_le_flatMap (cs : List Char) : cs.length ≤ (cs.flatMap escapeChar).length := by
  induction cs with
  | nil => exact Nat.le_refl 0
  | cons c cs ih =>
    have hone : 1 ≤ (escapeChar c).length := by
      unfold escapeChar
      split_ifs <;> simp
    rw [List.flatMap_cons, List.length_append, List.length_cons]
    omega

/-- A quoted text is read as that text. -/
theorem readString_quote (name : String) :
    readString (name.toList.flatMap escapeChar ++ '"' :: t) = .ok (name, t) := by
  unfold readString
  rw [readChars_flatMap]
  · rw [List.reverse_nil, List.nil_append, String.ofList_toList]
  · have hlength := length_le_flatMap name.toList
    rw [List.length_append]
    omega

/-! ## Scalars -/

theorem isSpace_of_isDigit {c : Char} (hc : c.isDigit = true) : isSpace c = false := by
  by_contra hspace
  rw [Bool.not_eq_false] at hspace
  simp only [isSpace, Bool.or_eq_true, decide_eq_true_eq] at hspace
  rcases hspace with ((rfl | rfl) | rfl) | rfl <;> cases hc

theorem startsValue_cons {c : Char} (hc : c.isDigit = true) : StartsValue (c :: s) := by
  refine ⟨c, s, rfl, isSpace_of_isDigit hc, ?_⟩
  rintro rfl
  cases hc

theorem startsValue_digits {ds : List Char} (hne : ds ≠ []) (hds : Text.AllDigits ds) :
    StartsValue (ds ++ s) := by
  cases ds with
  | nil => exact absurd rfl hne
  | cons c ds => exact startsValue_cons (Text.allDigits_cons.mp hds).1

theorem readValue_of_scalar {c : Char} (hspace : isSpace c = false) (hitems : c ≠ '[')
    (hmembers : c ≠ '\x7b') : readValue d (c :: s) = readScalar (c :: s) := by
  cases d
  all_goals
    unfold readValue
    rw [skipSpace_cons hspace]
    split
    · rename_i h
      exact absurd (List.cons.inj h).1 hitems
    · rename_i h
      exact absurd (List.cons.inj h).1 hmembers
    · rfl

theorem readValue_of_isDigit {c : Char} (hc : c.isDigit = true) :
    readValue d (c :: s) = (readNumber true (c :: s)).map fun p => (.number p.1, p.2) := by
  have hne : ∀ c', c'.isDigit = false → c ≠ c' := by
    rintro c' hc' rfl
    rw [hc] at hc'
    cases hc'
  rw [readValue_of_scalar (isSpace_of_isDigit hc) (hne _ rfl) (hne _ rfl)]
  rw [readScalar, if_pos hc]
  all_goals exact hne _ rfl

theorem reads_integer {i : Int} (low : -9223372036854775808 ≤ i)
    (high : i ≤ 18446744073709551615) (ht : EndsNumber t) :
    readValue d (Text.integer i ++ t) = .ok (.number (.integer i low high), t) := by
  have hread := readNumber_integer low high ht
  unfold Text.integer
  by_cases hi : i < 0
  · rw [decide_eq_false (by omega)] at hread
    rw [if_pos hi, List.cons_append, readValue_of_scalar rfl (by decide) (by decide)]
    show (readNumber false (Text.digits i.natAbs ++ t)).map _ = _
    rw [hread]
    rfl
  · rw [decide_eq_true (by omega)] at hread
    rw [if_neg hi]
    have hall := Text.allDigits_digits i.natAbs
    rcases hdigits : Text.digits i.natAbs with _ | ⟨c, ds⟩
    · exact absurd hdigits (Text.digits_ne_nil _)
    · rw [hdigits] at hread hall
      rw [List.cons_append, readValue_of_isDigit (Text.allDigits_cons.mp hall).1]
      rw [List.cons_append] at hread
      rw [hread]
      rfl

theorem startsValue_print (layout : Layout) (level : Nat) (j : Json) :
    StartsValue (j.print layout level ++ s) := by
  rcases j with _ | (_ | _) | (⟨i, _, _⟩ | y) | name | (_ | ⟨x, xs⟩) | (_ | _)
  case number.integer =>
    show StartsValue (Text.integer i ++ s)
    unfold Text.integer
    split
    · exact ⟨_, _, rfl, rfl, by decide⟩
    · exact startsValue_digits (Text.digits_ne_nil _) (Text.allDigits_digits _)
  case number.float =>
    show StartsValue (y.render ++ s)
    obtain ⟨text, ⟨whole, tail, rfl, hne, hwhole, -⟩, hrender⟩ := y.render_form
    rw [hrender]
    split
    · exact ⟨_, _, rfl, rfl, by decide⟩
    · rw [List.append_assoc]
      exact startsValue_digits hne hwhole
  all_goals exact ⟨_, _, rfl, rfl, by decide⟩

/-! ## Arrays -/

section Items

variable {item : List Char → Read Json} {ys : List Json}

theorem readItems_end (hw : AllSpace w) :
    readItems item (fuel + 1) ys (w ++ ']' :: t) = .ok (ys.reverse, t) := by
  rw [readItems, skipSpace_append hw, skipSpace_cons rfl]
  rfl

theorem readItems_first (hw : AllSpace w) (hs : StartsValue s) :
    readItems item (fuel + 1) [] (w ++ s) =
      (item s).bind fun p => readItems item fuel [p.1] p.2 := by
  rw [readItems, skipSpace_append hw, skipSpace_of_starts hs]
  obtain ⟨c, r, rfl, -, hne⟩ := hs
  split
  · rename_i h
    cases h
  · rename_i h
    exact absurd (List.cons.inj h).1 hne
  · rename_i h
    obtain ⟨rfl, rfl⟩ := List.cons.inj h
    rw [if_pos List.isEmpty_nil]
    rcases item (c :: r) with fault | p <;> rfl

theorem readItems_next (hys : ys ≠ []) (hw : AllSpace w) (hs : StartsValue s) :
    readItems item (fuel + 1) ys (',' :: (w ++ s)) =
      (item s).bind fun p => readItems item fuel (p.1 :: ys) p.2 := by
  rw [readItems, skipSpace_cons rfl]
  show (if ys.isEmpty = true then _ else if ',' = ',' then _ else _) = _
  rw [List.isEmpty_eq_false_iff.mpr hys, if_neg (by simp), if_pos rfl, skipSpace_append hw,
    skipSpace_of_starts hs]
  obtain ⟨c, r, rfl, -, hne⟩ := hs
  split
  · rename_i h
    cases h
  · rename_i h
    exact absurd (List.cons.inj h).1 hne
  · rcases item (c :: r) with fault | p <;> rfl

theorem length_le_printItems (layout : Layout) (level : Nat) (xs : List Json) :
    xs.length ≤ (printItems layout level xs).length := by
  induction xs with
  | nil => exact Nat.le_refl 0
  | cons x xs ih =>
    simp only [printItems, List.length_cons, List.length_append]
    omega

theorem endsNumber_printItems (layout : Layout) (level : Nat) (hw : AllSpace w) (xs : List Json) :
    EndsNumber (printItems layout level xs ++ (w ++ ']' :: t)) := by
  cases xs with
  | nil =>
    show EndsNumber (w ++ ']' :: t)
    exact endsNumber_append hw (endsNumber_cons (by decide))
  | cons x xs => exact endsNumber_cons (by decide)

end Items

/-! ## Objects -/

section Members

variable {item : List Char → Read Json} {ps : List (String × Json)}

theorem readMember_quote (item : List Char → Read Json) (layout : Layout) (name : String)
    (s : List Char) :
    readMember item (quote name ++ (layout.colon ++ s)) =
      (item (layout.colon.tail ++ s)).map fun p => ((name, p.1), p.2) := by
  have hname : readName (name.toList.flatMap escapeChar ++ '"' :: (layout.colon ++ s)) =
      .ok (name, layout.colon.tail ++ s) := by
    unfold readName
    rw [readString_quote]
    cases layout <;> rfl
  unfold quote
  rw [List.cons_append, List.cons_append, List.append_assoc, List.singleton_append, readMember,
    hname]
  simp only
  rcases item (layout.colon.tail ++ s) with fault | p <;> rfl

theorem readMembers_end (hw : AllSpace w) :
    readMembers item (fuel + 1) ps (w ++ '\x7d' :: t) = .ok (ps.reverse, t) := by
  rw [readMembers, skipSpace_append hw, skipSpace_cons rfl]
  rfl

theorem readMembers_first (hw : AllSpace w) (name : String) :
    readMembers item (fuel + 1) [] (w ++ (quote name ++ (layout.colon ++ s))) =
      (item (layout.colon.tail ++ s)).bind fun p => readMembers item fuel [(name, p.1)] p.2 := by
  have hmember := readMember_quote item layout name s
  unfold quote at hmember ⊢
  rw [readMembers, skipSpace_append hw, List.cons_append, List.cons_append, skipSpace_cons rfl]
  rw [List.cons_append, List.cons_append] at hmember
  show (if ([] : List (String × Json)).isEmpty = true then _ else _) = _
  rw [if_pos List.isEmpty_nil, hmember]
  rcases item (layout.colon.tail ++ s) with fault | p <;> rfl

theorem readMembers_next (hps : ps ≠ []) (hw : AllSpace w) (name : String) :
    readMembers item (fuel + 1) ps (',' :: (w ++ (quote name ++ (layout.colon ++ s)))) =
      (item (layout.colon.tail ++ s)).bind fun p =>
        readMembers item fuel ((name, p.1) :: ps) p.2 := by
  have hmember := readMember_quote item layout name s
  have hquote : skipSpace (quote name ++ (layout.colon ++ s)) = quote name ++ (layout.colon ++ s) :=
    skipSpace_cons rfl
  rw [readMembers, skipSpace_cons rfl]
  show (if ps.isEmpty = true then _ else if ',' = ',' then _ else _) = _
  rw [List.isEmpty_eq_false_iff.mpr hps, if_neg (by simp), if_pos rfl, skipSpace_append hw,
    hquote, hmember]
  rcases item (layout.colon.tail ++ s) with fault | p <;> rfl

theorem allSpace_colon_tail (layout : Layout) : AllSpace layout.colon.tail := by
  intro c hc
  cases layout with
  | compact => exact absurd hc List.not_mem_nil
  | pretty =>
    rw [List.mem_singleton.mp hc]
    rfl

theorem length_le_printMembers (layout : Layout) (level : Nat) : {bound : Option String} →
    (members : Members Json bound) →
      members.toList.length ≤ (printMembers layout level members).length
  | _, .empty => Nat.le_refl 0
  | _, .member name above x rest => by
    have ih := length_le_printMembers layout level rest
    simp only [printMembers, Members.toList_member, List.length_cons, List.length_append]
    omega

theorem endsNumber_printMembers {bound : Option String} (layout : Layout) (level : Nat)
    (hw : AllSpace w) (members : Members Json bound) :
    EndsNumber (printMembers layout level members ++ (w ++ '\x7d' :: t)) := by
  cases members with
  | empty =>
    show EndsNumber (w ++ '\x7d' :: t)
    exact endsNumber_append hw (endsNumber_cons (by decide))
  | member name above x rest => exact endsNumber_cons (by decide)

end Members

end CloudQueue.Json
