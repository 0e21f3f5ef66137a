/-!
Splitting a text at every occurrence of a character.
-/

namespace RuleTree

/-- The pieces of a text between the separators; a text without separator is one piece. -/
def splitAt (separator : Char) : List Char → List (List Char)
  | [] => [[]]
  | c :: rest =>
    if c = separator then [] :: splitAt separator rest
    else
      match splitAt separator rest with
      | [] => [[c]]
      | first :: more => (c :: first) :: more

theorem splitAt_ne_nil (separator : Char) (cs : List Char) : splitAt separator cs ≠ [] := by
  cases cs with
  | nil => simp [splitAt]
  | cons c rest => unfold splitAt; split <;> (try split) <;> simp

/-- The pieces of two texts with a separator between them. -/
theorem splitAt_append (separator : Char) (p q : List Char) :
    splitAt separator (p ++ separator :: q) = splitAt separator p ++ splitAt separator q := by
  induction p with
  | nil => simp [splitAt]
  | cons c rest ih =>
    simp only [List.cons_append, splitAt, ih]
    split
    · simp
    · cases h : splitAt separator rest with
      | nil => exact absurd h (splitAt_ne_nil separator rest)
      | cons first more => simp

/-- A text without the separator is a single piece. -/
theorem splitAt_of_not_mem {separator : Char} {cs : List Char} (h : separator ∉ cs) :
    splitAt separator cs = [cs] := by
  induction cs with
  | nil => rfl
  | cons c rest ih =>
    obtain ⟨hc, hrest⟩ := not_or.mp (mt List.mem_cons.mpr h)
    rw [splitAt, if_neg (Ne.symm hc), ih hrest]

/-- What follows without a separator belongs to the last piece. -/
theorem exists_splitAt_append {separator : Char} {q : List Char} (h : separator ∉ q) (p : List Char) :
    ∃ before last, splitAt separator p = before ++ [last] ∧
      splitAt separator (p ++ q) = before ++ [last ++ q] := by
  induction p with
  | nil => exact ⟨[], [], rfl, splitAt_of_not_mem h⟩
  | cons c rest ih =>
    obtain ⟨before, last, hrest, happend⟩ := ih
    simp only [List.cons_append, splitAt, hrest, happend]
    by_cases hc : c = separator
    · exact ⟨[] :: before, last, by simp [hc], by simp [hc]⟩
    · cases before with
      | nil => exact ⟨[], c :: last, by simp [hc], by simp [hc]⟩
      | cons first more => exact ⟨(c :: first) :: more, last, by simp [hc], by simp [hc]⟩

/-- A text is put together again from its pieces. -/
theorem intercalate_splitAt (separator : Char) (cs : List Char) :
    [separator].intercalate (splitAt separator cs) = cs := by
  induction cs with
  | nil => rfl
  | cons c rest ih =>
    unfold splitAt
    cases h : splitAt separator rest with
    | nil => exact absurd h (splitAt_ne_nil separator rest)
    | cons first more =>
      rw [h] at ih
      split
      next hc => rw [List.intercalate_cons_cons, ih, hc]; rfl
      next =>
        rw [← ih]
        cases more <;> rfl

/-- A text ends in its last piece. -/
theorem exists_append_of_splitAt {separator : Char} {cs last : List Char} {before : List (List Char)}
    (h : splitAt separator cs = before ++ [last]) : ∃ front, cs = front ++ last := by
  have hjoined (pieces : List (List Char)) :
      ∃ front, [separator].intercalate (pieces ++ [last]) = front ++ last := by
    induction pieces with
    | nil => exact ⟨[], by simp⟩
    | cons first more ih =>
      obtain ⟨front, hfront⟩ := ih
      refine ⟨first ++ [separator] ++ front, ?_⟩
      rw [List.cons_append, List.intercalate_cons_of_ne_nil (by simp), hfront]
      simp
  rw [← intercalate_splitAt separator cs, h]
  exact hjoined before

def piecesOf (separator : Char) (s : String) : List String :=
  (splitAt separator s.toList).map String.ofList

end RuleTree
