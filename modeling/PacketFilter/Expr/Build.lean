/-
This file builds nodes. Each operation checks its contract before it does anything: that the
kind is live, that the content is of the kind, that an operator gets as many operands as it
takes. What violates the contract is a fault and leaves the node as it was.
-/

import PacketFilter.Expr.Node
import PacketFilter.Registry

namespace PacketFilter

/-- The content of a new node of a kind whose content is made for it. Tests and sliced fields
start empty and take nothing; a string is empty or the given one. -/
def Descriptor.construct (descriptor : Descriptor) (given : Content) : Except Fault Content :=
  match descriptor.kind, given with
  | .test, .bare => .ok (.test .unassigned)
  | .range, .bare => .ok (.range ⟨none, none⟩)
  | .string, .bare => .ok (.value (.string ""))
  | .string, .value (.string text) => .ok (.value (.string text))
  | kind, given =>
    match given.kind? with
    | some givenKind =>
      if descriptor.hasConstructor then .error (.cannotConstruct kind givenKind)
      else .error (.noConstructor kind)
    | none => .error (.noConstructor kind)

namespace Test

/-- A test over one operand. -/
def setOne (op : TestOp) (operand : Node) : Except Fault Test :=
  if op.arity = 1 then .ok ⟨some op, some operand, none⟩ else .error (.tooFewOperands op)

/-- A test over two operands. -/
def setTwo (op : TestOp) (left right : Node) : Except Fault Test :=
  if op.arity = 2 then .ok ⟨some op, some left, some right⟩ else .error (.tooManyOperands op)

/-- The test with the same operator over other operands. -/
def setOperands (test : Test) (first : Node) (second? : Option Node) : Except Fault Test :=
  match test.op? with
  | none => .error .operandsWithoutOperator
  | some op =>
    match op.arity, second? with
    | 1, some _ => .error (.tooManyOperands op)
    | 2, none => .error (.tooFewOperands op)
    | _, _ => .ok { test with first? := some first, second? := second? }

/-- The operator and the operands of a test that is assigned. -/
def read (test : Test) : Except Fault (TestOp × Node × Option Node) :=
  match test.op?, test.first? with
  | some op, some first => .ok (op, first, test.second?)
  | _, _ => .error .unassignedTest

end Test

namespace FieldRange

/-- The field that a node names, with the slices that are taken from it. -/
def attach (fieldNode : Node) (slices : SliceSeries) : Except Fault FieldRange :=
  fieldNode.asField.map fun field => ⟨some field, some slices⟩

/-- The field that a node names, with a single slice that is taken from it. -/
def attachOne (fieldNode : Node) (slice : Slice) : Except Fault FieldRange := do
  let slices ← SliceSeries.ofSlices [slice]
  attach fieldNode slices

/-- The field without its slices. -/
def detach (range : FieldRange) : FieldRange :=
  { range with slices? := none }

end FieldRange

namespace Node

/-! ### Giving a node its kind -/

/-- The content that a new node of a kind gets. -/
def initialContent (registry : Registry) (kind : Kind) (given : Content) :
    Except Fault Content := do
  let descriptor ← registry.lookup kind
  if descriptor.hasConstructor then descriptor.construct given
  else
    match given.kind? with
    | some givenKind =>
      if givenKind = kind then .ok given else .error (.contentMismatch kind givenKind)
    | none => .ok given

/-- Gives a placeholder its kind and content. A node gets its kind once. -/
def init (registry : Registry) (node : Node) (kind : Kind) (given : Content) :
    Except Fault Node :=
  if node.kind?.isNone && node.content.kind?.isNone then
    (initialContent registry kind given).map fun content =>
      { node with kind? := some kind, content := content }
  else .error (.initializedTwice node.typeName)

/-- Gives a placeholder its kind, and a number of its own instead of content. -/
def initNumber (registry : Registry) (node : Node) (kind : Kind) (number : UInt32) :
    Except Fault Node :=
  (node.init registry kind .bare).map fun node => { node with number := number }

/-! ### New nodes -/

/-- A node of a kind, or a placeholder, which comes without content. -/
def new (registry : Registry) (kind? : Option Kind) (given : Content) : Except Fault Node :=
  match kind? with
  | some kind => Node.blank.init registry kind given
  | none => if given.kind?.isSome then .error .contentWithoutKind else .ok .blank

/-- A literal integer, with the number in the node. -/
def integer (registry : Registry) (number : UInt32) : Except Fault Node :=
  Node.blank.initNumber registry .integer number

/-- A literal with its value as content. -/
def literal (registry : Registry) (value : Value) : Except Fault Node :=
  new registry (some value.kind) (.value value)

/-- A reference to a field. -/
def field (registry : Registry) (field : FieldRef) : Except Fault Node :=
  new registry (some .pointer) (.field field)

/-! ### Changing the content -/

/-- Replaces the content of a node. -/
def withContent (node : Node) (content : Content) : Node :=
  { node with content := content }

/-- Replaces the test of a node that has to be one. -/
def updateTest (node : Node) (change : Test → Except Fault Test) : Except Fault Node := do
  let test ← node.asTest
  let changed ← change test
  return node.withContent (.test changed)

/-- Replaces the sliced field of a node that has to be one. -/
def updateRange (node : Node) (change : FieldRange → Except Fault FieldRange) :
    Except Fault Node := do
  let range ← node.asRange
  let changed ← change range
  return node.withContent (.range changed)

/-- Replaces the value of a node that holds one, and says whether it does. -/
def updateValue (node : Node) (change : Value → Except Fault Value) :
    Except Fault (Node × Bool) :=
  match node.content with
  | .value value => (change value).map fun changed => (node.withContent (.value changed), true)
  | _ => .ok (node, false)

/-! ### Tests and sliced fields -/

/-- A test over one operand. -/
def unaryTest (registry : Registry) (op : TestOp) (operand : Node) : Except Fault Node := do
  let node ← new registry (some .test) .bare
  node.updateTest fun _ => Test.setOne op operand

/-- A test over two operands. -/
def binaryTest (registry : Registry) (op : TestOp) (left right : Node) : Except Fault Node := do
  let node ← new registry (some .test) .bare
  node.updateTest fun _ => Test.setTwo op left right

/-- A sliced field. -/
def range (registry : Registry) (fieldNode : Node) (slices : SliceSeries) :
    Except Fault Node := do
  let node ← new registry (some .range) .bare
  node.updateRange fun _ => FieldRange.attach fieldNode slices

end Node

end PacketFilter
