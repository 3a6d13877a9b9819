/-
This file runs sequences of operations on nodes and proves that every node on the way is well
formed. Nodes stand in a list, and an operation names those that it takes by their places. It
takes copies of them, so a run may use a node again; a run that gives its nodes away is one that
does not. An operation that violates a contract leaves all nodes as they were.
-/

import PacketFilter.Proofs.Expr.WellFormed

namespace PacketFilter

/-! ### Operations -/

/-- A registry that has been filled by registering kinds. -/
abbrev FilledRegistry :=
  { registry : Registry // registry.Built }

/-- A series that has been put together slice by slice. -/
abbrev BuiltSeries :=
  { series : SliceSeries // series.Built }

/-- A number that replaces the one in a value. -/
inductive Replacement where
  | integer (number : UInt32)
  | double (number : Binary64)
  | time (time : NanoTime)

/-- The value with another number. -/
def Replacement.apply (value : Value) : Replacement → Except Fault Value
  | .integer number => value.setInteger number
  | .double number => value.setDouble number
  | .time replaced => value.setTime replaced

/-- The nodes that there are, in the order in which they were made. -/
abbrev Nodes := List Node

/-- Where a node stands among the others. -/
abbrev Place := Nat

/-- The node at a place. A place that holds none counts as a placeholder. -/
def Nodes.nodeAt (nodes : Nodes) (place : Place) : Node :=
  nodes.getD place .blank

/-- A way to make another node. -/
inductive Making where
  | new (registry : FilledRegistry) (kind? : Option Kind) (given : Content)
  | blank
  | integer (registry : FilledRegistry) (number : UInt32)
  | literal (registry : FilledRegistry) (value : Value)
  | field (registry : FilledRegistry) (field : FieldRef)
  | unaryTest (registry : FilledRegistry) (op : TestOp) (operand : Place)
  | binaryTest (registry : FilledRegistry) (op : TestOp) (left right : Place)
  | range (registry : FilledRegistry) (fieldNode : Place) (slices : BuiltSeries)
  | copy (place : Place)
  | copyOperand (place : Place) (index : Nat)

/-- A way to change a node. -/
inductive Change where
  | init (registry : FilledRegistry) (kind : Kind) (given : Content)
  | initNumber (registry : FilledRegistry) (kind : Kind) (number : UInt32)
  | setOne (op : TestOp) (operand : Place)
  | setTwo (op : TestOp) (left right : Place)
  | setOperands (first : Place) (second? : Option Place)
  | attach (fieldNode : Place) (slices : BuiltSeries)
  | attachOne (fieldNode : Place) (slice : Slice)
  | detach
  | setValue (replacement : Replacement)

/-- The node that is made. An operand that a test does not have counts as a placeholder. -/
def Making.node (nodes : Nodes) : Making → Except Fault Node
  | .new registry kind? given => Node.new registry kind? given
  | .blank => .ok .blank
  | .integer registry number => Node.integer registry number
  | .literal registry value => Node.literal registry value
  | .field registry reference => Node.field registry reference
  | .unaryTest registry op operand => Node.unaryTest registry op (nodes.nodeAt operand)
  | .binaryTest registry op left right =>
    Node.binaryTest registry op (nodes.nodeAt left) (nodes.nodeAt right)
  | .range registry fieldNode slices => Node.range registry (nodes.nodeAt fieldNode) slices
  | .copy place => .ok (nodes.nodeAt place)
  | .copyOperand place index =>
    (nodes.nodeAt place).asTest.map fun test => Nodes.nodeAt test.operands index

/-- What becomes of the node that is changed. -/
def Change.apply (nodes : Nodes) (node : Node) : Change → Except Fault Node
  | .init registry kind given => node.init registry kind given
  | .initNumber registry kind number => node.initNumber registry kind number
  | .setOne op operand => node.updateTest fun _ => Test.setOne op (nodes.nodeAt operand)
  | .setTwo op left right =>
    node.updateTest fun _ => Test.setTwo op (nodes.nodeAt left) (nodes.nodeAt right)
  | .setOperands first second? =>
    node.updateTest fun test => test.setOperands (nodes.nodeAt first) (second?.map nodes.nodeAt)
  | .attach fieldNode slices =>
    node.updateRange fun _ => FieldRange.attach (nodes.nodeAt fieldNode) slices
  | .attachOne fieldNode slice =>
    node.updateRange fun _ => FieldRange.attachOne (nodes.nodeAt fieldNode) slice
  | .detach => node.updateRange fun range => .ok range.detach
  | .setValue replacement =>
    (node.updateValue fun value => replacement.apply value).map Prod.fst

/-- A step of a run: a node is put behind the others, or changed in its place. -/
inductive Operation where
  | make (making : Making)
  | change (place : Place) (change : Change)

/-- What becomes of the nodes, unless a contract is violated. -/
def Operation.perform (nodes : Nodes) : Operation → Except Fault Nodes
  | .make making => (making.node nodes).map fun node => nodes ++ [node]
  | .change place way =>
    (way.apply nodes (nodes.nodeAt place)).map fun node => nodes.set place node

/-- The nodes after an operation. -/
def Nodes.after (nodes : Nodes) (operation : Operation) : Nodes :=
  match operation.perform nodes with
  | .ok changed => changed
  | .error _ => nodes

/-- The nodes after a sequence of operations. -/
def Nodes.run (operations : List Operation) : Nodes :=
  operations.foldl Nodes.after []

/-! ### Every step builds well-formed nodes -/

/-- A value with another number is of the same kind. -/
theorem Replacement.kind_apply {replacement : Replacement} {before after : Value}
    (replaced : replacement.apply before = .ok after) : after.kind = before.kind := by
  cases replacement <;> cases before <;> cases replaced <;> rfl

/-- Every node is well formed. -/
def Nodes.WellFormed (nodes : Nodes) : Prop :=
  ∀ node ∈ nodes, node.WellFormed

namespace Nodes

variable {nodes : Nodes}

theorem WellFormed.nodeAt (formed : nodes.WellFormed) (place : Place) :
    (nodes.nodeAt place).WellFormed := by
  unfold Nodes.nodeAt
  rw [List.getD_eq_getElem?_getD]
  cases found : nodes[place]? with
  | none => exact Node.wellFormed_blank
  | some node => exact formed node (List.mem_of_getElem? found)

theorem WellFormed.node (formed : nodes.WellFormed) {making : Making} {node : Node}
    (made : making.node nodes = .ok node) : node.WellFormed := by
  cases making with
  | new registry kind? given => exact Node.wellFormed_new registry.property made
  | blank => cases made; exact Node.wellFormed_blank
  | integer registry number => exact Node.wellFormed_integer registry.property made
  | literal registry value => exact Node.wellFormed_literal registry.property made
  | field registry reference => exact Node.wellFormed_field registry.property made
  | unaryTest registry op operand =>
    exact Node.wellFormed_unaryTest registry.property (formed.nodeAt operand) made
  | binaryTest registry op left right =>
    exact Node.wellFormed_binaryTest registry.property (formed.nodeAt left)
      (formed.nodeAt right) made
  | range registry fieldNode slices =>
    exact Node.wellFormed_range registry.property slices.property made
  | copy place => cases made; exact formed.nodeAt place
  | copyOperand place index =>
    obtain ⟨test, role, rfl⟩ := map_eq_ok.mp made
    have operandsFormed : Nodes.WellFormed test.operands := fun operand member =>
      (formed.nodeAt place).operand (Node.content_of_asTest role) member
    exact operandsFormed.nodeAt index

theorem WellFormed.apply (formed : nodes.WellFormed) {change : Change} {node changed : Node}
    (nodeFormed : node.WellFormed) (applied : change.apply nodes node = .ok changed) :
    changed.WellFormed := by
  cases change with
  | init registry kind given => exact Node.wellFormed_init registry.property applied
  | initNumber registry kind number =>
    exact Node.wellFormed_initNumber registry.property applied
  | setOne op operand => exact Node.wellFormed_setOne nodeFormed (formed.nodeAt operand) applied
  | setTwo op left right =>
    exact Node.wellFormed_setTwo nodeFormed (formed.nodeAt left) (formed.nodeAt right) applied
  | setOperands first second? =>
    refine Node.wellFormed_setOperands nodeFormed (formed.nodeAt first) ?_ applied
    intro second present
    obtain ⟨place, -, rfl⟩ := Option.map_eq_some_iff.mp present
    exact formed.nodeAt place
  | attach fieldNode slices => exact Node.wellFormed_attach nodeFormed slices.property applied
  | attachOne fieldNode slice =>
    exact Node.wellFormed_updateRange nodeFormed applied fun _ _ => FieldRange.consistent_attachOne
  | detach =>
    refine Node.wellFormed_updateRange nodeFormed applied fun before after detached => ?_
    cases detached
    exact before.consistent_detach
  | setValue replacement =>
    exact Node.wellFormed_updateValue nodeFormed applied fun _ _ => Replacement.kind_apply

/-- One operation leaves every node well formed. -/
theorem WellFormed.after (formed : nodes.WellFormed) (operation : Operation) :
    (nodes.after operation).WellFormed := by
  unfold Nodes.after
  cases performed : operation.perform nodes with
  | error fault => exact formed
  | ok changed =>
    cases operation with
    | make making =>
      obtain ⟨node, made, rfl⟩ := map_eq_ok.mp performed
      intro other member
      rcases List.mem_append.mp member with old | new
      · exact formed other old
      · rw [List.mem_singleton.mp new]
        exact formed.node made
    | change place change =>
      obtain ⟨node, applied, rfl⟩ := map_eq_ok.mp performed
      intro other member
      rcases List.mem_or_eq_of_mem_set member with old | rfl
      · exact formed other old
      · exact formed.apply (formed.nodeAt place) applied

/-- Every node of a run is well formed. -/
theorem wellFormed_run (operations : List Operation) : (run operations).WellFormed := by
  have general : ∀ nodes : Nodes, nodes.WellFormed →
      Nodes.WellFormed (operations.foldl Nodes.after nodes) := by
    induction operations with
    | nil => exact fun nodes formed => formed
    | cons operation rest inductionHypothesis =>
      exact fun nodes formed => inductionHypothesis _ (formed.after operation)
  exact general [] nofun

end Nodes

end PacketFilter
