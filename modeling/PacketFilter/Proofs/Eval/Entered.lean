/-
This file says which tests of an expression an evaluation enters, by the way that leads to them
from the root. Every operand of a negation or a connective that is entered lies one level deeper;
the right operand of a connective is entered only if the left one had the truth value that leaves
the connective open. The operands of comparisons are not tests and are not entered.
-/

import PacketFilter.Proofs.Eval.Truth

namespace PacketFilter

/-- The operands of a test. -/
inductive Side where
  | first
  | second
  deriving DecidableEq

/-- The way from a test to one of the tests below it. -/
abbrev Position := List Side

/-- The evaluation of a node at a level enters the test at a position. -/
inductive Node.Enters (environment : Environment) : Node → Nat → Position → Prop
  | here (node : Node) (depth : Nat) : node.Enters environment depth []
  | not {node operand : Node} {second? : Option Node} {depth : Nat} {position : Position}
      (admitted : environment.admits depth = true)
      (content : node.content = .test ⟨some .not, some operand, second?⟩)
      (below : operand.Enters environment (depth + 1) position) :
      node.Enters environment depth (.first :: position)
  | left {node left right : Node} {op : TestOp} {decided : Bool} {depth : Nat}
      {position : Position} (admitted : environment.admits depth = true)
      (connective : op.deciding? = some decided)
      (content : node.content = .test ⟨some op, some left, some right⟩)
      (below : left.Enters environment (depth + 1) position) :
      node.Enters environment depth (.first :: position)
  | right {node left right : Node} {op : TestOp} {decided : Bool} {depth : Nat}
      {position : Position} (admitted : environment.admits depth = true)
      (connective : op.deciding? = some decided)
      (content : node.content = .test ⟨some op, some left, some right⟩)
      (leftOpen : (left.truth environment (depth + 1)).result = .ok (!decided))
      (below : right.Enters environment (depth + 1) position) :
      node.Enters environment depth (.second :: position)

/-- The evaluation of a node at a level enters a test that lies below a limit. The test at a
position lies as many levels below the node as the way to it has steps. -/
def Node.GoesBelow (environment : Environment) (node : Node) (depth limit : Nat) : Prop :=
  ∃ position, node.Enters environment depth position ∧ limit < depth + position.length

namespace Node

variable {environment : Environment} {node : Node} {depth limit : Nat} {position : Position}

theorem goesBelow_of_lt (beyond : limit < depth) : node.GoesBelow environment depth limit :=
  ⟨[], .here node depth, beyond⟩

/-- Evaluation goes below a limit if it does so in an operand that it enters. -/
theorem goesBelow_of_operand {operand : Node} {side : Side}
    (entersBelow : ∀ rest, operand.Enters environment (depth + 1) rest →
      node.Enters environment depth (side :: rest))
    (goesBelow : operand.GoesBelow environment (depth + 1) limit) :
    node.GoesBelow environment depth limit := by
  obtain ⟨rest, entered, beyond⟩ := goesBelow
  refine ⟨side :: rest, entersBelow rest entered, ?_⟩
  rw [List.length_cons]
  omega

/-- The right operand of a connective is entered only if the left one leaves it open. -/
theorem leftOpen_of_enters {op : TestOp} {decided : Bool}
    (connective : op.deciding? = some decided) {left right : Node}
    (content : node.content = .test ⟨some op, some left, some right⟩)
    (entered : node.Enters environment depth (.second :: position)) :
    (left.truth environment (depth + 1)).result = .ok (!decided) := by
  cases entered with
  | right admitted other same leftOpen below =>
    cases content.symm.trans same
    cases connective.symm.trans other
    exact leftOpen

end Node

end PacketFilter
