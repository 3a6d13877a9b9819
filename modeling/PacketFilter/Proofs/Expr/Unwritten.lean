/-
This file says what of an expression is not written: the kinds that fields are declared with, and
the numbers of nodes that have content and need no number. Expressions that differ in nothing else
have the same text.
-/

import PacketFilter.Expr.Text
import PacketFilter.Proofs.Eval.Literals

namespace PacketFilter

/-! ### Revisions -/

/-- The sliced field with another field in the place of its own. -/
def FieldRange.revised (field : FieldRef → FieldRef) (range : FieldRange) : FieldRange :=
  { range with field? := range.field?.map field }

mutual

/-- The expression with other fields in the places of its own, and with other numbers in the nodes
that have content. -/
def Node.revised (number : UInt32 → UInt32) (field : FieldRef → FieldRef) : Node → Node
  | ⟨kind?, old, .bare⟩ => ⟨kind?, old, .bare⟩
  | ⟨kind?, old, content⟩ => ⟨kind?, number old, content.revised number field⟩

/-- The content with other fields and other numbers. -/
def Content.revised (number : UInt32 → UInt32) (field : FieldRef → FieldRef) : Content → Content
  | .bare => .bare
  | .value literal => .value literal
  | .field reference => .field (field reference)
  | .range sliced => .range (sliced.revised field)
  | .test inner => .test (inner.revised number field)

/-- The test with other fields and other numbers in its operands. -/
def Test.revised (number : UInt32 → UInt32) (field : FieldRef → FieldRef) : Test → Test
  | ⟨op?, first?, second?⟩ =>
    ⟨op?, Node.revisedOperand number field first?, Node.revisedOperand number field second?⟩

/-- The operand, if there is one, with other fields and other numbers. -/
def Node.revisedOperand (number : UInt32 → UInt32) (field : FieldRef → FieldRef) :
    Option Node → Option Node
  | none => none
  | some operand => some (operand.revised number field)

end

/-- The field with the same kind as every other field. -/
def FieldRef.withoutKind (reference : FieldRef) : FieldRef :=
  { reference with kind := .pointer }

/-- Without their kinds, fields of one name are one field. -/
theorem FieldRef.withoutKind_congr {reference other : FieldRef}
    (sameName : reference.name = other.name) : reference.withoutKind = other.withoutKind :=
  congrArg (FieldRef.mk · .pointer) sameName

/-- The expression without the kinds that its fields are declared with. -/
def Node.withoutFieldKinds (node : Node) : Node :=
  node.revised id FieldRef.withoutKind

/-- The expression with the number zero in all nodes that have content. -/
def Node.withoutSpareNumbers (node : Node) : Node :=
  node.revised (fun _ => 0) id

/-! ### Text -/

section

variable (zone : Zone) {number : UInt32 → UInt32} {field : FieldRef → FieldRef}

/-- Only the name of a field is written. -/
theorem FieldRange.text_revised (sameNames : ∀ reference, (field reference).name = reference.name)
    (range : FieldRange) : (range.revised field).text = range.text := by
  obtain ⟨field?, slices?⟩ := range
  have sameName : (field?.map field).map FieldRef.name = field?.map FieldRef.name := by
    rw [Option.map_map]
    exact Option.map_congr fun reference _ => sameNames reference
  unfold text revised
  rw [sameName]

mutual

theorem Node.text_revised (sameNames : ∀ reference, (field reference).name = reference.name) :
    (node : Node) → (node.revised number field).text zone = node.text zone
  | ⟨_, _, .bare⟩ => rfl
  | ⟨none, _, .value _⟩ | ⟨none, _, .field _⟩ | ⟨none, _, .range _⟩ | ⟨none, _, .test _⟩ => rfl
  | ⟨some _, _, .value _⟩ => rfl
  | ⟨some _, _, .field reference⟩ => sameNames reference
  | ⟨some _, _, .range sliced⟩ => FieldRange.text_revised sameNames sliced
  | ⟨some _, _, .test inner⟩ => Test.text_revised sameNames inner

theorem Test.text_revised (sameNames : ∀ reference, (field reference).name = reference.name) :
    (test : Test) → (test.revised number field).text zone = test.text zone
  | ⟨some op, some first, second?⟩ =>
    Test.text_congr op (Node.text_revised sameNames first)
      (Node.text_revisedOperand sameNames second?)
  | ⟨some _, none, _⟩ | ⟨none, _, _⟩ => rfl

theorem Node.text_revisedOperand
    (sameNames : ∀ reference, (field reference).name = reference.name) :
    (operand? : Option Node) →
      (Node.revisedOperand number field operand?).map (Node.text zone) =
        operand?.map (Node.text zone)
  | none => rfl
  | some operand => congrArg some (Node.text_revised sameNames operand)

end

variable (node : Node)

theorem Node.text_withoutFieldKinds : node.withoutFieldKinds.text zone = node.text zone :=
  Node.text_revised zone (fun reference => (rfl : reference.withoutKind.name = reference.name)) node

theorem Node.text_withoutSpareNumbers : node.withoutSpareNumbers.text zone = node.text zone :=
  Node.text_revised zone (fun reference => (rfl : (id reference).name = reference.name)) node

end

end PacketFilter
