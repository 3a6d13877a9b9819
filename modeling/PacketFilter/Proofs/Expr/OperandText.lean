/-
This file shows that an operand is told from its text, but for the kind of its field. A literal
integer begins with a digit and a field does not. The name of a field ends where the bracket in
front of its slices stands, which is no character of a name.
-/

import PacketFilter.Proofs.Expr.Unwritten
import PacketFilter.Proofs.Slice.SeriesText

namespace PacketFilter

open Text

/-! ### Names of fields -/

/-- Whether a character counts as a letter. Those outside ASCII are not told from other characters,
so that no letter is missing. -/
def isNameLetter (letter : Char) : Bool :=
  letter.isAlpha || 0x80 ≤ letter.toNat

/-- Whether a character can stand behind the first one of a name. -/
def isNameCharacter (letter : Char) : Bool :=
  isNameLetter letter || isDecimal letter || letter = '_' || letter = '.'

/-- Whether a text is the name of a field: a letter, and then letters, digits, underscores and
dots. -/
def IsFieldName (name : String) : Prop :=
  ∃ first rest, name.toList = first :: rest ∧ isNameLetter first = true ∧
    ∀ letter ∈ rest, isNameCharacter letter = true

/-- No digit is a letter. -/
theorem isNameLetter_of_isDecimal {letter : Char} (decimal : isDecimal letter = true) :
    isNameLetter letter = false := by
  have digits : ∀ code < 58, isNameLetter (Char.ofNat code) = false := by decide
  simp only [isDecimal, Bool.and_eq_true, decide_eq_true_eq] at decimal
  have isDigit := digits letter.toNat (Nat.lt_succ_of_le decimal.2)
  rwa [Char.ofNat_toNat] at isDigit

theorem IsFieldName.isNameCharacter_of_mem {name : String} (named : IsFieldName name) :
    ∀ letter ∈ name.toList, isNameCharacter letter = true := by
  obtain ⟨first, rest, letters, isLetter, others⟩ := named
  rw [letters]
  refine List.forall_mem_cons.mpr ⟨?_, others⟩
  rw [isNameCharacter, isLetter]
  rfl

/-! ### Operands -/

namespace Node

/-- The characters of the text of a node. -/
def letters (zone : Zone) (node : Node) : List Char :=
  (node.text zone).toList

/-- The nodes that stand for values in a filter: a field, slices of a field, or a literal integer
that has its number in the node. -/
inductive IsOperand : Node → Prop
  | field {reference : FieldRef} (named : IsFieldName reference.name) :
      IsOperand ⟨some .pointer, 0, .field reference⟩
  | range {reference : FieldRef} {slices : List Slice} {series : SliceSeries}
      (named : IsFieldName reference.name) (plain : ∀ slice ∈ slices, slice.IsPlain)
      (made : SliceSeries.ofSlices slices = .ok series) :
      IsOperand ⟨some .range, 0, .range ⟨some reference, some series⟩⟩
  | integer (number : UInt32) : IsOperand ⟨some .integer, number, .bare⟩

section

variable {zone : Zone}

theorem letters_field (reference : FieldRef) :
    letters zone ⟨some .pointer, 0, .field reference⟩ = reference.name.toList ++ [] :=
  (List.append_nil _).symm

theorem letters_range (reference : FieldRef) (series : SliceSeries) :
    letters zone ⟨some .range, 0, .range ⟨some reference, some series⟩⟩ =
      reference.name.toList ++ '[' :: (series.text.toList ++ [']']) := by
  show (reference.name ++ "[" ++ series.text ++ "]").toList = _
  simp only [String.toList_append, List.append_assoc]
  rfl

theorem letters_integer (number : UInt32) :
    letters zone ⟨some .integer, number, .bare⟩ = decimalDigits number.toNat :=
  String.toList_ofList

/-! ### The characters of an operand -/

/-- Whether a character can stand in an operand. Behind an operand others stand, or none. -/
def isOperandLetter (letter : Char) : Bool :=
  letter != ' ' && letter != ')'

theorem isOperandLetter_of_holds {test : Char → Bool} {letter : Char} (holds : test letter = true)
    (blank : test ' ' = false) (closing : test ')' = false) : isOperandLetter letter = true := by
  rw [isOperandLetter, Bool.and_eq_true, bne_iff_ne, bne_iff_ne]
  constructor
  · rintro rfl
    cases holds.symm.trans blank
  · rintro rfl
    cases holds.symm.trans closing

theorem IsOperand.isOperandLetter_of_mem {operand : Node} (isOperand : operand.IsOperand) :
    ∀ letter ∈ operand.letters zone, isOperandLetter letter = true := by
  have name {name : String} (named : IsFieldName name) :
      ∀ letter ∈ name.toList, isOperandLetter letter = true := fun letter member =>
    isOperandLetter_of_holds (named.isNameCharacter_of_mem letter member) rfl rfl
  cases isOperand with
  | field named => exact name named
  | @range _ _ series named plain made =>
    have seriesLetter (letter : Char) (member : letter ∈ series.text.toList) :
        isOperandLetter letter = true := by
      rcases SliceSeries.isSliceLetter_or_comma (SliceSeries.isPlain_of_ofSlices plain made) member
        with inSlice | rfl
      · exact isOperandLetter_of_holds inSlice rfl rfl
      · rfl
    rw [letters_range]
    exact List.forall_mem_append.mpr ⟨name named, List.forall_mem_cons.mpr ⟨rfl,
      List.forall_mem_append.mpr ⟨seriesLetter, List.forall_mem_singleton.mpr rfl⟩⟩⟩
  | integer number =>
    rw [letters_integer]
    exact fun letter member =>
      isOperandLetter_of_holds (isDecimal_of_mem_decimalDigits member) rfl rfl

/-- An operand begins with a letter or a digit. -/
theorem IsOperand.exists_first {operand : Node} (isOperand : operand.IsOperand) :
    ∃ first rest, operand.letters zone = first :: rest ∧
      (isNameLetter first = true ∨ isDecimal first = true) := by
  cases isOperand with
  | field named =>
    obtain ⟨first, rest, letters, isLetter, -⟩ := named
    exact ⟨first, rest, letters, .inl isLetter⟩
  | @range reference _ series named =>
    obtain ⟨first, rest, letters, isLetter, -⟩ := named
    refine ⟨first, rest ++ '[' :: (series.text.toList ++ [']']), ?_, .inl isLetter⟩
    rw [letters_range, letters, List.cons_append]
  | integer number =>
    rw [letters_integer]
    cases digits : decimalDigits number.toNat with
    | nil => exact absurd digits (decimalDigits_ne_nil _)
    | cons first rest =>
      exact ⟨first, rest, rfl, .inr (isDecimal_of_mem_decimalDigits (digits ▸ List.mem_cons_self))⟩

/-! ### Telling operands -/

/-- What begins with the name of a field is not written for a number. -/
theorem decimalDigits_ne_name_append {name : String} (named : IsFieldName name) (number : Nat)
    (behind : List Char) : decimalDigits number ≠ name.toList ++ behind := by
  obtain ⟨first, rest, letters, isLetter, -⟩ := named
  intro same
  rw [letters, List.cons_append] at same
  have decimal : isDecimal first = true :=
    isDecimal_of_mem_decimalDigits (same.symm ▸ List.mem_cons_self)
  cases (isNameLetter_of_isDecimal decimal).symm.trans isLetter

/-- A name ends where nothing or a bracket follows. -/
theorem eq_of_name_append {name otherName : String} (named : IsFieldName name)
    (otherNamed : IsFieldName otherName) {rest otherRest : List Char}
    (ends : rest = [] ∨ ∃ behind, rest = '[' :: behind)
    (otherEnds : otherRest = [] ∨ ∃ behind, otherRest = '[' :: behind)
    (same : name.toList ++ rest = otherName.toList ++ otherRest) :
    name = otherName ∧ rest = otherRest := by
  have stops {rest : List Char} (ends : rest = [] ∨ ∃ behind, rest = '[' :: behind) :
      ∀ letter ∈ rest.head?, isNameCharacter letter = false := by
    rcases ends with rfl | ⟨behind, rfl⟩
    · exact fun letter member => by cases member
    · exact fun letter member => by cases member; rfl
  obtain ⟨sameName, sameRest⟩ := eq_of_append_of_head? named.isNameCharacter_of_mem
    otherNamed.isNameCharacter_of_mem (stops ends) (stops otherEnds) same
  exact ⟨String.toList_inj.mp sameName, sameRest⟩

/-- Operands with the same text differ in the kind of their field at most. -/
theorem IsOperand.eq_of_letters_eq {operand other : Node} (isOperand : operand.IsOperand)
    (isOther : other.IsOperand) (same : operand.letters zone = other.letters zone) :
    operand.withoutFieldKinds = other.withoutFieldKinds := by
  cases isOperand with
  | field named =>
    cases isOther with
    | field otherNamed =>
      rw [letters_field, letters_field] at same
      obtain ⟨sameName, -⟩ := eq_of_name_append named otherNamed (.inl rfl) (.inl rfl) same
      exact congrArg (fun reference => Node.mk _ _ (.field reference))
        (FieldRef.withoutKind_congr sameName)
    | range otherNamed =>
      rw [letters_field, letters_range] at same
      obtain ⟨-, impossible⟩ := eq_of_name_append named otherNamed (.inl rfl) (.inr ⟨_, rfl⟩) same
      cases impossible
    | integer number =>
      rw [letters_field, letters_integer] at same
      exact absurd same.symm (decimalDigits_ne_name_append named _ _)
  | range named plain made =>
    cases isOther with
    | field otherNamed =>
      rw [letters_range, letters_field] at same
      obtain ⟨-, impossible⟩ := eq_of_name_append named otherNamed (.inr ⟨_, rfl⟩) (.inl rfl) same
      cases impossible
    | range otherNamed otherPlain otherMade =>
      rw [letters_range, letters_range] at same
      obtain ⟨sameName, sameSlices⟩ :=
        eq_of_name_append named otherNamed (.inr ⟨_, rfl⟩) (.inr ⟨_, rfl⟩) same
      have sameText := List.append_cancel_right (List.cons.inj sameSlices).2
      obtain rfl := SliceSeries.eq_of_text_eq plain otherPlain made otherMade
        (String.toList_inj.mp sameText)
      exact congrArg (fun reference => Node.mk _ _ (.range ⟨some reference, _⟩))
        (FieldRef.withoutKind_congr sameName)
    | integer number =>
      rw [letters_range, letters_integer] at same
      exact absurd same.symm (decimalDigits_ne_name_append named _ _)
  | integer number =>
    cases isOther with
    | field otherNamed =>
      rw [letters_integer, letters_field] at same
      exact absurd same (decimalDigits_ne_name_append otherNamed _ _)
    | range otherNamed =>
      rw [letters_integer, letters_range] at same
      exact absurd same (decimalDigits_ne_name_append otherNamed _ _)
    | integer otherNumber =>
      rw [letters_integer, letters_integer] at same
      have read := natOfDigits?_decimalDigits number.toNat
      rw [same, natOfDigits?_decimalDigits] at read
      rw [UInt32.toNat_inj.mp (Option.some.inj read)]

end

end Node

end PacketFilter
