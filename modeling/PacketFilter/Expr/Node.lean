/-
This file holds the nodes of compiled filter expressions. A node has a kind and the content that
belongs to it: a value, the name of a field, slices of a field, or a test over other nodes. A
literal integer needs no content, its number stands in the node itself. Expressions are trees:
a test owns its operands.

The types do not say that the content of a node is of the kind of the node, that a node without
a kind is empty, nor that an operator has as many operands as it takes. The operations that build
nodes keep all of that.
-/

import PacketFilter.Slice.Series
import PacketFilter.Value

namespace PacketFilter

/-- The name of a protocol field and the kind of the values that it has. -/
structure FieldRef where
  name : String
  kind : Kind
  deriving DecidableEq

/-- A field and the slices that are taken from its values. Both may still be missing, and the
slices may have been taken away. -/
structure FieldRange where
  field? : Option FieldRef
  slices? : Option SliceSeries
  deriving DecidableEq

mutual

/-- A node of an expression. -/
structure Node where
  /-- The kind, once the node has one. -/
  kind? : Option Kind
  /-- The number of a literal integer without content, and zero for most other nodes. -/
  number : UInt32
  content : Content

/-- What a node holds. -/
inductive Content where
  | bare
  | value (value : Value)
  | field (field : FieldRef)
  | range (range : FieldRange)
  | test (test : Test)

/-- An operator over one or two operands. All three may still be missing. -/
structure Test where
  op? : Option TestOp
  first? : Option Node
  second? : Option Node

end

/-- A placeholder that has no kind yet. -/
def Node.blank : Node :=
  ⟨none, 0, .bare⟩

/-- A test without operator and operands. -/
def Test.unassigned : Test :=
  ⟨none, none, none⟩

/-! ### Parts of a node -/

/-- The kind that content belongs to. -/
def Content.kind? : Content → Option Kind
  | .bare => none
  | .value literal => some literal.kind
  | .field _ => some .pointer
  | .range _ => some .range
  | .test _ => some .test

/-- The value that content consists of. -/
def Content.value? : Content → Option Value
  | .value literal => some literal
  | _ => none

namespace Node

/-- The name of the kind of a node. -/
def typeName (node : Node) : String :=
  (node.kind?.map Kind.name).getD "UNINITIALIZED"

/-- The test that a node has to be. -/
def asTest (node : Node) : Except Fault Test :=
  match node.content with
  | .test inner => .ok inner
  | _ => .error (.wrongRole node.typeName .test)

/-- The sliced field that a node has to be. -/
def asRange (node : Node) : Except Fault FieldRange :=
  match node.content with
  | .range sliced => .ok sliced
  | _ => .error (.wrongRole node.typeName .range)

/-- The field that a node has to name. -/
def asField (node : Node) : Except Fault FieldRef :=
  match node.content with
  | .field reference => .ok reference
  | _ => .error (.wrongRole node.typeName .field)

end Node

/-! ### Equality -/

mutual

/-- Whether two nodes are equal. A literal that is not a number differs from itself. -/
def Node.equal : Node → Node → Bool
  | ⟨kind?, number, content⟩, ⟨otherKind?, otherNumber, otherContent⟩ =>
    kind? = otherKind? && number = otherNumber && content.equal otherContent

/-- Whether two nodes hold the same. -/
def Content.equal : Content → Content → Bool
  | .bare, .bare => true
  | .value literal, .value other => literal.equal other
  | .field reference, .field other => reference = other
  | .range sliced, .range other => sliced = other
  | .test inner, .test other => inner.equal other
  | _, _ => false

/-- Whether two tests have the same operator and equal operands. -/
def Test.equal : Test → Test → Bool
  | ⟨op?, first?, second?⟩, ⟨otherOp?, otherFirst?, otherSecond?⟩ =>
    op? = otherOp? && Node.equalOperands first? otherFirst?
      && Node.equalOperands second? otherSecond?

/-- Whether two operands are equal, or both missing. -/
def Node.equalOperands : Option Node → Option Node → Bool
  | none, none => true
  | some operand, some other => operand.equal other
  | _, _ => false

end

end PacketFilter
