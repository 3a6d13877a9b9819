/-
This file cuts a text in two at the first occurrence of a character.
-/

namespace PacketFilter.Text

/-- The text before the first occurrence of a character and the text after it; nothing comes
after a text in which the character does not occur. -/
def splitFirst (separator : Char) : List Char → List Char × Option (List Char)
  | [] => ([], none)
  | letter :: rest =>
    if letter = separator then ([], some rest)
    else
      let (before, after) := splitFirst separator rest
      (letter :: before, after)

/-- Cutting loses nothing but the separator. -/
theorem splitFirst_append (separator : Char) (letters : List Char) :
    (match splitFirst separator letters with
      | (before, none) => before
      | (before, some after) => before ++ separator :: after) = letters := by
  induction letters with
  | nil => rfl
  | cons letter rest inductionHypothesis =>
    by_cases same : letter = separator
    · simp [splitFirst, same]
    · revert inductionHypothesis
      rcases cut : splitFirst separator rest with ⟨before, after | after⟩ <;>
        simp [splitFirst, same, cut]

/-- The cut is at the first occurrence: there is none before it. -/
theorem not_mem_splitFirst (separator : Char) (letters : List Char) :
    separator ∉ (splitFirst separator letters).1 := by
  induction letters with
  | nil => simp [splitFirst]
  | cons letter rest inductionHypothesis =>
    by_cases same : letter = separator
    · simp [splitFirst, same]
    · simp [splitFirst, same, inductionHypothesis, Ne.symm same]

/-- A text is cut at a separator in front of which there is none. -/
theorem splitFirst_of_not_mem {separator : Char} {before : List Char} (absent : separator ∉ before)
    (after : List Char) :
    splitFirst separator (before ++ separator :: after) = (before, some after) := by
  induction before with
  | nil => simp [splitFirst]
  | cons letter rest inductionHypothesis =>
    rw [List.mem_cons, not_or] at absent
    rw [List.cons_append, splitFirst, if_neg (Ne.symm absent.1), inductionHypothesis absent.2]

/-- A text without a separator is not cut. -/
theorem splitFirst_of_absent {separator : Char} {letters : List Char}
    (absent : separator ∉ letters) : splitFirst separator letters = (letters, none) := by
  induction letters with
  | nil => rfl
  | cons letter rest inductionHypothesis =>
    rw [List.mem_cons, not_or] at absent
    rw [splitFirst, if_neg (Ne.symm absent.1), inductionHypothesis absent.2]

end PacketFilter.Text
