/-
This file holds the operators of tests: whether an operand has any value at all, the three
connectives, and the six comparisons.
-/

import PacketFilter.Comparison

namespace PacketFilter

/-- What a test does with its operands. -/
inductive TestOp where
  /-- The operand has at least one value. -/
  | present
  | not
  | and
  | or
  | relation (comparison : Comparison)
  deriving DecidableEq

namespace TestOp

/-- Every operator once, in the order in which they are listed. -/
def all : List TestOp :=
  [.present, .not, .and, .or] ++ Comparison.all.map .relation

theorem mem_all (op : TestOp) : op ∈ all := by
  cases op with
  | relation comparison => cases comparison <;> decide
  | _ => decide

/-- How many operands the operator takes. -/
def arity : TestOp → Nat
  | .present | .not => 1
  | .and | .or | .relation _ => 2

/-- The comparison behind a relational operator. -/
def comparison? : TestOp → Option Comparison
  | .relation comparison => some comparison
  | _ => none

/-- The operator as it stands in an expression. -/
def symbol : TestOp → String
  | .present => "exists"
  | .not => "!"
  | .and => "&&"
  | .or => "||"
  | .relation comparison => comparison.symbol

/-- The name of the operator. -/
def name : TestOp → String
  | .present => "Exists"
  | .not => "Not"
  | .and => "And"
  | .or => "Or"
  | .relation .eq => "Eq"
  | .relation .ne => "Ne"
  | .relation .gt => "Gt"
  | .relation .ge => "Ge"
  | .relation .lt => "Lt"
  | .relation .le => "Le"

end TestOp

end PacketFilter
