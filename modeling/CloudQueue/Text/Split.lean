/-!
# Splitting and joining texts

`splitOn` cuts a text at every separator, and `joinWith` puts the parts together again. Cutting
undoes joining as long as no part holds the separator (`splitOn_joinWith`), and joining always
undoes cutting (`joinWith_splitOn`).
-/

namespace CloudQueue.Text

/-- The parts of a text between the characters equal to `separator`. -/
def splitOn (separator : Char) : List Char → List (List Char)
  | [] => [[]]
  | c :: s =>
    if c = separator then [] :: splitOn separator s
    else
      match splitOn separator s with
      | [] => [[c]]
      | word :: words => (c :: word) :: words

def joinWith (separator : Char) : List (List Char) → List Char
  | [] => []
  | [word] => word
  | word :: words => word ++ separator :: joinWith separator words

theorem splitOn_ne_nil (separator : Char) (s : List Char) : splitOn separator s ≠ [] := by
  cases s with
  | nil => simp [splitOn]
  | cons c s => unfold splitOn; split <;> (try split) <;> simp

theorem splitOn_append_cons {separator : Char} {word : List Char} (h : separator ∉ word)
    (s : List Char) :
    splitOn separator (word ++ separator :: s) = word :: splitOn separator s := by
  induction word with
  | nil => simp [splitOn]
  | cons c word ih =>
    simp only [List.mem_cons, not_or] at h
    simp [splitOn, Ne.symm h.1, ih h.2]

theorem splitOn_of_not_mem {separator : Char} {word : List Char} (h : separator ∉ word) :
    splitOn separator word = [word] := by
  induction word with
  | nil => rfl
  | cons c word ih =>
    simp only [List.mem_cons, not_or] at h
    simp [splitOn, Ne.symm h.1, ih h.2]

theorem splitOn_joinWith {separator : Char} : {words : List (List Char)} → words ≠ [] →
    (∀ word ∈ words, separator ∉ word) → splitOn separator (joinWith separator words) = words
  | [], h, _ => absurd rfl h
  | [word], _, h => splitOn_of_not_mem (h word List.mem_cons_self)
  | word :: next :: words, _, h => by
    rw [joinWith, splitOn_append_cons (h word List.mem_cons_self),
      splitOn_joinWith (by simp) fun w hw => h w (List.mem_cons_of_mem _ hw)]
    simp

/-- Joining undoes cutting. -/
theorem joinWith_splitOn (separator : Char) (s : List Char) :
    joinWith separator (splitOn separator s) = s := by
  induction s with
  | nil => rfl
  | cons c s ih =>
    unfold splitOn
    split
    · rename_i hc
      cases h : splitOn separator s with
      | nil => exact absurd h (splitOn_ne_nil _ _)
      | cons w ws => rw [joinWith, ← h, ih, hc] <;> simp
    · split
      · rename_i h; exact absurd h (splitOn_ne_nil _ _)
      · rename_i w ws h
        rw [h] at ih
        cases ws with
        | nil => simpa [joinWith] using ih
        | cons _ _ => simpa [joinWith] using ih

theorem not_mem_of_mem_splitOn {separator : Char} {s word : List Char}
    (h : word ∈ splitOn separator s) : separator ∉ word := by
  induction s generalizing word with
  | nil =>
    obtain rfl := List.mem_singleton.1 h
    exact List.not_mem_nil
  | cons c s ih =>
    unfold splitOn at h
    split at h
    · rcases List.mem_cons.1 h with rfl | h
      · exact List.not_mem_nil
      · exact ih h
    · rename_i hc
      split at h
      · rename_i hnil
        exact absurd hnil (splitOn_ne_nil _ _)
      · rename_i w ws hcut
        rw [hcut] at ih
        rcases List.mem_cons.1 h with rfl | h
        · intro hmem
          rcases List.mem_cons.1 hmem with rfl | hmem
          · exact hc rfl
          · exact ih List.mem_cons_self hmem
        · exact ih (List.mem_cons_of_mem _ h)

theorem joinWith_eq_intercalate (separator : Char) (words : List (List Char)) :
    joinWith separator words = [separator].intercalate words := by
  induction words with
  | nil => rfl
  | cons word words ih =>
    cases words with
    | nil => simp [joinWith]
    | cons next words =>
      have hcons : joinWith separator (word :: next :: words) =
          word ++ separator :: joinWith separator (next :: words) := rfl
      rw [hcons, ih, List.intercalate_cons_cons]
      simp

end CloudQueue.Text
