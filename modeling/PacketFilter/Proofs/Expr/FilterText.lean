/-
This file shows that a filter is told from its text. Two texts are read in step. What a text begins
with says whether it is a negation or a connective. Otherwise it begins with an operand, which is
over where a blank or a parenthesis stands, and only what follows the operand says whether it is
compared. A filter is over where nothing follows, or a parenthesis, or a connective; so it takes
the same part of both texts, and what stands behind it agrees as well.
-/

import PacketFilter.Proofs.Eval.Rewriting
import PacketFilter.Proofs.Expr.OperandText

namespace PacketFilter.Node

open Text

/-! ### Filters -/

/-- The test whether an operand has a value. -/
def presence (operand : Node) : Node :=
  ⟨some .test, 0, .test ⟨some .present, some operand, none⟩⟩

/-- The tests that apply to what their operators ask for: presence and comparisons to operands, and
negations and connectives to tests. -/
inductive IsFilter : Node → Prop
  | present {operand : Node} (isOperand : operand.IsOperand) : operand.presence.IsFilter
  | not {operand : Node} (isFilter : operand.IsFilter) : operand.negation.IsFilter
  | connective {op : TestOp} {left right : Node} (logical : op = .and ∨ op = .or)
      (leftFilter : left.IsFilter) (rightFilter : right.IsFilter) : (joined op left right).IsFilter
  | relation {left right : Node} (comparison : Comparison) (leftOperand : left.IsOperand)
      (rightOperand : right.IsOperand) : (joined (.relation comparison) left right).IsFilter

/-- What stands behind a filter in a text: nothing, the end of a connective, or its other side. -/
inductive EndsFilter : List Char → Prop
  | nothing : EndsFilter []
  | closing (behind : List Char) : EndsFilter (')' :: behind)
  | connective {op : TestOp} (logical : op = .and ∨ op = .or) (behind : List Char) :
      EndsFilter (' ' :: (op.symbol.toList ++ ' ' :: behind))

variable {zone : Zone}

section

variable (left right : Node) (rest : List Char)

theorem letters_negation_append :
    left.negation.letters zone ++ rest = '!' :: (left.letters zone ++ rest) := by
  show ("!" ++ left.text zone).toList ++ rest = _
  rw [String.toList_append]
  rfl

theorem letters_connective_append {op : TestOp} (logical : op = .and ∨ op = .or) :
    (joined op left right).letters zone ++ rest =
      '(' :: (left.letters zone ++
        ' ' :: (op.symbol.toList ++ ' ' :: (right.letters zone ++ ')' :: rest))) := by
  rcases logical with rfl | rfl
  · show ("(" ++ left.text zone ++ " && " ++ right.text zone ++ ")").toList ++ rest = _
    simp only [String.toList_append, List.append_assoc]
    rfl
  · show ("(" ++ left.text zone ++ " || " ++ right.text zone ++ ")").toList ++ rest = _
    simp only [String.toList_append, List.append_assoc]
    rfl

theorem letters_relation_append (comparison : Comparison) :
    (joined (.relation comparison) left right).letters zone ++ rest =
      left.letters zone ++
        ' ' :: (comparison.symbol.toList ++ ' ' :: (right.letters zone ++ rest)) := by
  show (left.text zone ++ " " ++ comparison.symbol ++ " " ++ right.text zone).toList ++ rest = _
  simp only [String.toList_append, List.append_assoc]
  rfl

end

/-! ### Operands in a text -/

section

variable {operand other : Node} {rest otherRest behind : List Char}

theorem EndsFilter.stops (ends : EndsFilter rest) :
    ∀ letter ∈ rest.head?, isOperandLetter letter = false := by
  cases ends with
  | nothing => exact fun letter member => by cases member
  | closing | connective => exact fun letter member => by cases member; rfl

theorem stops_blank : ∀ letter ∈ (' ' :: rest).head?, isOperandLetter letter = false := by
  rintro letter ⟨⟩
  rfl

/-- An operand is told from a text that begins with it, if it is over there. -/
theorem IsOperand.eq_of_append (isOperand : operand.IsOperand) (isOther : other.IsOperand)
    (stops : ∀ letter ∈ rest.head?, isOperandLetter letter = false)
    (otherStops : ∀ letter ∈ otherRest.head?, isOperandLetter letter = false)
    (same : operand.letters zone ++ rest = other.letters zone ++ otherRest) :
    operand.withoutFieldKinds = other.withoutFieldKinds ∧ rest = otherRest := by
  obtain ⟨sameLetters, sameRest⟩ := eq_of_append_of_head? isOperand.isOperandLetter_of_mem
    isOther.isOperandLetter_of_mem stops otherStops same
  exact ⟨isOperand.eq_of_letters_eq isOther sameLetters, sameRest⟩

/-- No operand begins like a negation or a connective. -/
theorem IsOperand.head_ne (isOperand : operand.IsOperand) {sign : Char}
    (noLetter : isNameLetter sign = false) (noDigit : isDecimal sign = false) (behind : List Char) :
    sign :: behind ≠ operand.letters zone ++ rest := by
  obtain ⟨first, others, letters, isFirst⟩ := @isOperand.exists_first zone
  intro same
  rw [letters, List.cons_append] at same
  obtain rfl := (List.cons.inj same).1
  rcases isFirst with isLetter | isDigit
  · cases noLetter.symm.trans isLetter
  · cases noDigit.symm.trans isDigit

end

/-! ### Operators in a text -/

/-- An operator is told from a text that begins with it and has a blank behind it. -/
theorem eq_of_symbol_append {op otherOp : TestOp} {behind otherBehind : List Char}
    (same : op.symbol.toList ++ ' ' :: behind = otherOp.symbol.toList ++ ' ' :: otherBehind) :
    op = otherOp ∧ behind = otherBehind := by
  have noBlank (op : TestOp) : ∀ letter ∈ op.symbol.toList, (letter != ' ') = true := by
    refine List.all_eq_true.mp ?_
    cases op with
    | relation comparison => cases comparison <;> rfl
    | present | not | and | or => rfl
  have distinct : ∀ op ∈ TestOp.all, ∀ otherOp ∈ TestOp.all,
      op.symbol.toList = otherOp.symbol.toList → op = otherOp := by decide
  have stops {behind : List Char} : ∀ letter ∈ (' ' :: behind).head?, (letter != ' ') = false := by
    rintro letter ⟨⟩
    rfl
  obtain ⟨sameSymbol, sameBehind⟩ := eq_of_append_of_head? (noBlank op)
    (noBlank otherOp) stops stops same
  exact ⟨distinct op op.mem_all otherOp otherOp.mem_all sameSymbol, (List.cons.inj sameBehind).2⟩

/-- A filter is not over where it is compared. -/
theorem not_endsFilter_relation (comparison : Comparison) (behind : List Char) :
    ¬EndsFilter (' ' :: (comparison.symbol.toList ++ ' ' :: behind)) := by
  intro ends
  generalize letters : ' ' :: (comparison.symbol.toList ++ ' ' :: behind) = rest at ends
  cases ends with
  | nothing => cases letters
  | closing => cases letters
  | @connective op logical other =>
    obtain ⟨sameOp, -⟩ :=
      @eq_of_symbol_append (.relation comparison) op _ _ (List.cons.inj letters).2
    rcases logical with rfl | rfl <;> cases sameOp

/-! ### Filters in a text -/

namespace IsFilter

variable {node operand : Node} {rest behind : List Char}

/-- Only a negation begins with its sign. -/
theorem exists_of_negation (isFilter : node.IsFilter)
    (same : '!' :: behind = node.letters zone ++ rest) :
    ∃ operand : Node, operand.IsFilter ∧ node = operand.negation ∧
      behind = operand.letters zone ++ rest := by
  cases isFilter with
  | present isOperand => exact absurd same (isOperand.head_ne rfl rfl behind)
  | not operandFilter =>
    rw [letters_negation_append] at same
    exact ⟨_, operandFilter, rfl, (List.cons.inj same).2⟩
  | connective logical =>
    rw [letters_connective_append _ _ _ logical] at same
    exact absurd (List.cons.inj same).1 (by decide)
  | relation comparison leftOperand =>
    rw [letters_relation_append] at same
    exact absurd same (leftOperand.head_ne rfl rfl behind)

/-- Only a connective begins with a parenthesis. -/
theorem exists_of_connective (isFilter : node.IsFilter)
    (same : '(' :: behind = node.letters zone ++ rest) :
    ∃ (op : TestOp) (left right : Node), (op = .and ∨ op = .or) ∧ left.IsFilter ∧ right.IsFilter ∧
      node = joined op left right ∧ behind = left.letters zone ++
        ' ' :: (op.symbol.toList ++ ' ' :: (right.letters zone ++ ')' :: rest)) := by
  cases isFilter with
  | present isOperand => exact absurd same (isOperand.head_ne rfl rfl behind)
  | not =>
    rw [letters_negation_append] at same
    exact absurd (List.cons.inj same).1 (by decide)
  | connective logical leftFilter rightFilter =>
    rw [letters_connective_append _ _ _ logical] at same
    exact ⟨_, _, _, logical, leftFilter, rightFilter, rfl, (List.cons.inj same).2⟩
  | relation comparison leftOperand =>
    rw [letters_relation_append] at same
    exact absurd same (leftOperand.head_ne rfl rfl behind)

/-- What begins with an operand asks for its presence or compares it. -/
theorem exists_of_operand (isFilter : node.IsFilter) (isOperand : operand.IsOperand)
    (stops : ∀ letter ∈ behind.head?, isOperandLetter letter = false) (ends : EndsFilter rest)
    (same : operand.letters zone ++ behind = node.letters zone ++ rest) :
    ∃ first : Node, operand.withoutFieldKinds = first.withoutFieldKinds ∧
      ((node = first.presence ∧ behind = rest) ∨
        ∃ (comparison : Comparison) (second : Node), second.IsOperand ∧
          node = joined (.relation comparison) first second ∧
          behind = ' ' :: (comparison.symbol.toList ++ ' ' :: (second.letters zone ++ rest))) := by
  cases isFilter with
  | present isFirst =>
    obtain ⟨sameFirst, sameRest⟩ := isOperand.eq_of_append isFirst stops ends.stops same
    exact ⟨_, sameFirst, .inl ⟨rfl, sameRest⟩⟩
  | not =>
    rw [letters_negation_append] at same
    exact absurd same.symm (isOperand.head_ne rfl rfl _)
  | connective logical =>
    rw [letters_connective_append _ _ _ logical] at same
    exact absurd same.symm (isOperand.head_ne rfl rfl _)
  | relation comparison isFirst isSecond =>
    rw [letters_relation_append] at same
    obtain ⟨sameFirst, sameRest⟩ := isOperand.eq_of_append isFirst stops stops_blank same
    exact ⟨_, sameFirst, .inr ⟨comparison, _, isSecond, rfl, sameRest⟩⟩

/-- A filter is told from a text that begins with it, if it is over there. The induction is on one
of two filters that begin the same text; the other one is of the same form, as that is decided by
what stands in the text so far. -/
theorem eq_of_append {node other : Node} {rest otherRest : List Char} (isFilter : node.IsFilter)
    (isOther : other.IsFilter) (ends : EndsFilter rest) (otherEnds : EndsFilter otherRest)
    (same : node.letters zone ++ rest = other.letters zone ++ otherRest) :
    node.withoutFieldKinds = other.withoutFieldKinds ∧ rest = otherRest := by
  induction isFilter generalizing other rest otherRest with
  | present isOperand =>
    obtain ⟨first, sameFirst, ⟨rfl, sameRest⟩ | ⟨comparison, second, -, -, compared⟩⟩ :=
      isOther.exists_of_operand isOperand ends.stops otherEnds same
    · exact ⟨congrArg presence sameFirst, sameRest⟩
    · exact absurd (compared ▸ ends) (not_endsFilter_relation _ _)
  | not operandFilter inductionHypothesis =>
    rw [letters_negation_append] at same
    obtain ⟨operand, otherFilter, rfl, sameBehind⟩ := isOther.exists_of_negation same
    obtain ⟨sameOperand, sameRest⟩ := inductionHypothesis otherFilter ends otherEnds sameBehind
    exact ⟨congrArg negation sameOperand, sameRest⟩
  | connective logical leftFilter rightFilter leftHypothesis rightHypothesis =>
    rw [letters_connective_append _ _ _ logical] at same
    obtain ⟨op, left, right, otherLogical, otherLeft, otherRight, rfl, sameBehind⟩ :=
      isOther.exists_of_connective same
    obtain ⟨sameLeft, sameTail⟩ :=
      leftHypothesis otherLeft (.connective logical _) (.connective otherLogical _) sameBehind
    obtain ⟨rfl, sameSide⟩ := eq_of_symbol_append (List.cons.inj sameTail).2
    obtain ⟨sameRight, sameRest⟩ := rightHypothesis otherRight (.closing _) (.closing _) sameSide
    exact ⟨congrArg₂ (joined _) sameLeft sameRight, (List.cons.inj sameRest).2⟩
  | relation comparison leftOperand rightOperand =>
    rw [letters_relation_append] at same
    obtain ⟨first, sameFirst, ⟨rfl, ended⟩ | ⟨otherComparison, second, isSecond, rfl, sameTail⟩⟩ :=
      isOther.exists_of_operand leftOperand stops_blank otherEnds same
    · exact absurd (ended ▸ otherEnds) (not_endsFilter_relation _ _)
    · obtain ⟨sameOp, sameSide⟩ := @eq_of_symbol_append (.relation comparison)
        (.relation otherComparison) _ _ (List.cons.inj sameTail).2
      obtain ⟨sameSecond, sameRest⟩ :=
        rightOperand.eq_of_append isSecond ends.stops otherEnds.stops sameSide
      obtain rfl := TestOp.relation.inj sameOp
      exact ⟨congrArg₂ (joined _) sameFirst sameSecond, sameRest⟩

/-- Filters with the same text are the same but for the kinds of their fields. -/
theorem text_eq_iff {left right : Node} (leftFilter : left.IsFilter)
    (rightFilter : right.IsFilter) :
    left.text zone = right.text zone ↔ left.withoutFieldKinds = right.withoutFieldKinds := by
  constructor
  · intro same
    have sameLetters : left.letters zone ++ [] = right.letters zone ++ [] :=
      congrArg (fun text : String => text.toList ++ []) same
    exact (leftFilter.eq_of_append rightFilter .nothing .nothing sameLetters).1
  · intro same
    rw [← text_withoutFieldKinds zone left, same, text_withoutFieldKinds]

end IsFilter

/-- The text of a filter says everything about it but the kinds of its fields: filters have the
same text exactly if they are equal without them. Neither does the number of a node that has
content stand in the text; where such numbers differ, the text still says everything else. -/
theorem text_identifies (zone : Zone) (left right : Node) :
    (left.IsFilter → right.IsFilter →
      (left.text zone = right.text zone ↔ left.withoutFieldKinds = right.withoutFieldKinds)) ∧
    (left.withoutSpareNumbers.IsFilter → right.withoutSpareNumbers.IsFilter →
      (left.text zone = right.text zone ↔
        left.withoutSpareNumbers.withoutFieldKinds =
          right.withoutSpareNumbers.withoutFieldKinds)) := by
  refine ⟨IsFilter.text_eq_iff, fun leftFilter rightFilter => ?_⟩
  rw [← @IsFilter.text_eq_iff zone _ _ leftFilter rightFilter, text_withoutSpareNumbers,
    text_withoutSpareNumbers]

/-- `!(eth.src[0-2,-3:] == 443 && tcp.port)`, with fields of the given kind and the given number in
the node of the negation. -/
def sourceWithoutPort (kind : Kind) (number : UInt32) : Node :=
  { negation (joined .and
      (joined (.relation .eq)
        ⟨some .range, 0, .range ⟨some ⟨"eth.src", kind⟩,
          some ⟨[.withEndOffset 0 2, .toTheEnd (-3)], false, 3, -3, 0⟩⟩⟩
        ⟨some .integer, 443, .bare⟩)
      (presence ⟨some .pointer, 0, .field ⟨"tcp.port", kind⟩⟩)) with number := number }

theorem isFilter_sourceWithoutPort (kind : Kind) : (sourceWithoutPort kind 0).IsFilter := by
  have source : IsFieldName "eth.src" := ⟨'e', "th.src".toList, rfl, rfl, List.all_eq_true.mp rfl⟩
  have port : IsFieldName "tcp.port" := ⟨'t', "cp.port".toList, rfl, rfl, List.all_eq_true.mp rfl⟩
  have plain : ∀ slice ∈ [Slice.withEndOffset 0 2, .toTheEnd (-3)], slice.IsPlain := by
    simp [Slice.IsPlain.withEndOffset, Slice.IsPlain.toTheEnd]
  exact .not (.connective (.inl rfl)
    (.relation .eq (@IsOperand.range ⟨"eth.src", kind⟩ _ _ source plain (by decide)) (.integer 443))
    (.present (@IsOperand.field ⟨"tcp.port", kind⟩ port)))

/-- The kinds of the fields may differ, and so may the number of a negation. -/
theorem text_identifies_sourceWithoutPort :
    (sourceWithoutPort .bytes 0).text .utc = "!(eth.src[0-2,-3:] == 443 && tcp.port)" ∧
    (sourceWithoutPort .bytes 0).IsFilter ∧ (sourceWithoutPort .string 0).IsFilter ∧
    (sourceWithoutPort .bytes 0).withoutFieldKinds =
      (sourceWithoutPort .string 0).withoutFieldKinds ∧
    (sourceWithoutPort .bytes 7).withoutSpareNumbers.IsFilter ∧
    (sourceWithoutPort .string 0).withoutSpareNumbers.IsFilter ∧
    (sourceWithoutPort .bytes 7).withoutSpareNumbers.withoutFieldKinds =
      (sourceWithoutPort .string 0).withoutSpareNumbers.withoutFieldKinds := by
  have bytes : (sourceWithoutPort .bytes 0).IsFilter := isFilter_sourceWithoutPort .bytes
  have string : (sourceWithoutPort .string 0).IsFilter := isFilter_sourceWithoutPort .string
  obtain ⟨byKinds, -⟩ :=
    text_identifies .utc (sourceWithoutPort .bytes 0) (sourceWithoutPort .string 0)
  obtain ⟨-, byNumbers⟩ :=
    text_identifies .utc (sourceWithoutPort .bytes 7) (sourceWithoutPort .string 0)
  exact ⟨rfl, bytes, string, (byKinds bytes string).mp rfl, bytes, string,
    (byNumbers bytes string).mp rfl⟩

end PacketFilter.Node
