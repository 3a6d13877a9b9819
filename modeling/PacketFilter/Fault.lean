/-
This file lists the violations of a contract: calls that a correct expression compiler never
makes, such as reading the length of a slice that has none or giving a test too many operands.
They are kept apart from the errors that a person can cause by what they write. An operation that
ends in a fault changes nothing. What a fault blames is listed with it: the ending of a slice, the
operation that replaces a number, the part that a node does not have.
-/

import PacketFilter.Expr.TestOp
import PacketFilter.Kind
import PacketFilter.Text.Digits

namespace PacketFilter

open Text

/-- What follows the start offset of a slice. -/
inductive Ending where
  /-- Nothing is set yet. -/
  | unset
  | length
  /-- The offset of the last byte. -/
  | offset
  | toEnd
  deriving DecidableEq

namespace Ending

/-- The name of an ending. -/
def name : Ending → String
  | .unset => "Uninitialized"
  | .length => "Length"
  | .offset => "Offset"
  | .toEnd => "ToEnd"

/-- The name under which structured output lists an ending. -/
def key : Ending → String
  | .unset => "uninitialized"
  | .length => "length"
  | .offset => "offset"
  | .toEnd => "to_end"

end Ending

/-- The three operations that replace the number in a value. -/
inductive Setter where
  | integer
  | floating
  | time
  deriving DecidableEq

/-- The parts that a node can be asked for. -/
inductive NodeRole where
  | test
  | range
  | field
  deriving DecidableEq

/-- A violated contract. -/
inductive Fault where
  | setterMismatch (setter : Setter) (kind : Kind)
  | cannotConstruct (kind given : Kind)
  | noConstructor (kind : Kind)
  | contentWithoutKind
  | initializedTwice (nodeName : String)
  | contentMismatch (kind given : Kind)
  | notRegistered (kind : Kind)
  | registeredTwice (kind : Kind)
  | foreignDescriptor (descriptor registered : Kind)
  | wrongRole (nodeName : String) (role : NodeRole)
  | tooFewOperands (op : TestOp)
  | tooManyOperands (op : TestOp)
  | operandsWithoutOperator
  | unassignedTest
  | missingOperand (op : TestOp)
  | unrelatedOperator (op : TestOp)
  | unsetStart
  | unsetEnding
  | noLength (ending : Ending)
  | noEndOffset (ending : Ending)
  | outOfBounds (start stop size : Nat)
  | insideCharacter (position : Nat)
  deriving DecidableEq

/-- Why a call has no result: a contract was violated, or an error of the given sort arose. -/
inductive Failure (Cause : Type) where
  | fault (fault : Fault)
  | error (cause : Cause)
  deriving DecidableEq

/-- The name of a setter. -/
def Setter.name : Setter → String
  | .integer => "set_integer"
  | .floating => "set_floating"
  | .time => "set_time"

/-- What a node was used as. -/
def NodeRole.description : NodeRole → String
  | .test => "a test"
  | .range => "a range"
  | .field => "a field reference"

/-- The violation in words. -/
def Fault.message : Fault → String
  | .setterMismatch setter kind => setter.name ++ " on a " ++ kind.name ++ " value"
  | .cannotConstruct kind given =>
    kind.name ++ " payload cannot be constructed from " ++ given.name ++ " data"
  | .noConstructor kind => kind.name ++ " has no constructor"
  | .contentWithoutKind => "uninitialized node cannot carry data"
  | .initializedTwice nodeName => "node of type " ++ nodeName ++ " initialized twice"
  | .contentMismatch kind given => kind.name ++ " node handed " ++ given.name ++ " data"
  | .notRegistered kind => "type " ++ kind.name ++ " is not registered"
  | .registeredTwice kind => "type " ++ kind.name ++ " registered twice"
  | .foreignDescriptor descriptor registered =>
    "descriptor for " ++ descriptor.name ++ " registered as " ++ registered.name
  | .wrongRole nodeName role => nodeName ++ " node used as " ++ role.description
  | .tooFewOperands op => op.name ++ " takes two operands, got one"
  | .tooManyOperands op => op.name ++ " takes one operand, got two"
  | .operandsWithoutOperator => "operands set on a test node with no operator"
  | .unassignedTest => "read of an unassigned test node"
  | .missingOperand op => op.name ++ " stored without its second operand"
  | .unrelatedOperator op => op.name ++ " is neither logical nor relational"
  | .unsetStart => "start offset read from an uninitialized range"
  | .unsetEnding => "ending read from an uninitialized range"
  | .noLength ending => "length read from a range ending in " ++ ending.name
  | .noEndOffset ending => "end offset read from a range ending in " ++ ending.name
  | .outOfBounds start stop size =>
    if stop < start then
      "slice index starts at " ++ natText start ++ " but ends at " ++ natText stop
    else
      "range end index " ++ natText stop ++ " out of range for slice of length " ++ natText size
  | .insideCharacter position => "byte index " ++ natText position ++ " is not a char boundary"

end PacketFilter
