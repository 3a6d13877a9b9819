/-
This file evaluates expressions against the occurrences of fields. A comparison holds if it holds
between some value of its left operand and some value of its right one, so a field that occurs
several times matches when one occurrence does. Conjunction and disjunction look at their right
operand only if the left one does not decide; what goes wrong there is not noticed otherwise.
-/

import PacketFilter.Eval.Operand
import PacketFilter.Eval.Run
import PacketFilter.Registry

namespace PacketFilter

/-- What evaluation looks at besides the expression. -/
structure Environment where
  registry : Registry
  source : FieldSource

namespace Environment

/-- Whether a test at the given level may still be evaluated. -/
def admits (environment : Environment) (depth : Nat) : Bool :=
  depth ≤ environment.registry.settings.maxDepth

/-- Whether an operand has any value. -/
def isPresent (environment : Environment) (operand : Node) :
    Except (Failure EvalError) Bool :=
  (operand.values environment.source).map fun values => !values.isEmpty

/-- Whether two values satisfy a comparison. -/
def compare (environment : Environment) (comparison : Comparison) (left right : Value) :
    Except (Failure EvalError) Bool :=
  (environment.registry.compare comparison left right).mapError fun
    | .fault fault => .fault fault
    | .error cause => .error (.value cause)

/-- Whether some pair of values of two operands satisfies a comparison. The pairs are tried in
order, and the first one that satisfies it or cannot be compared decides. -/
def isRelated (environment : Environment) (comparison : Comparison) (left right : Node) :
    Except (Failure EvalError) Bool := do
  let leftValues ← left.values environment.source
  let rightValues ← right.values environment.source
  leftValues.anyM fun leftValue => rightValues.anyM fun rightValue =>
    environment.compare comparison leftValue rightValue

end Environment

/-- The truth value of a test at the given level. Every test that gets one is noted, after the
tests below it. -/
def Node.truth (environment : Environment) (node : Node) (depth : Nat) : Run Bool :=
  if !environment.admits depth then
    Run.error (.tooDeep environment.registry.settings.maxDepth)
  else
    match node with
    | ⟨kind?, number, .test ⟨some op, some first, second?⟩⟩ =>
      Run.noting (Event.reduced op depth ⟨kind?, number, .test ⟨some op, some first, second?⟩⟩) <|
        match op, second? with
        | .present, _ => Run.ofExcept (environment.isPresent first)
        | .not, _ => (first.truth environment (depth + 1)).map not
        | .and, some second =>
          (first.truth environment (depth + 1)).bind fun holds =>
            if holds then second.truth environment (depth + 1) else Run.pure false
        | .or, some second =>
          (first.truth environment (depth + 1)).bind fun holds =>
            if holds then Run.pure true else second.truth environment (depth + 1)
        | op, some second =>
          match op.comparison? with
          | some comparison => Run.ofExcept (environment.isRelated comparison first second)
          | none => Run.fault (.unrelatedOperator op)
        | op, none => Run.fault (.missingOperand op)
    | ⟨_, _, .test _⟩ => Run.fault .unassignedTest
    | node => Run.error (.notATest node.typeName)

/-- The truth value of an expression. -/
def evaluate (registry : Registry) (source : FieldSource) (node : Node) : Run Bool :=
  (node.truth ⟨registry, source⟩ 0).noting (Event.finished node)

end PacketFilter
