/-
This file says which values an operand contributes: a literal its own, a field all that it has in
the data, and a sliced field the slices of those. A value that is too short for the slices
contributes nothing.
-/

import PacketFilter.Eval.Error
import PacketFilter.Expr.Node
import PacketFilter.Text.Utf8

namespace PacketFilter

/-- What the data under test has in each field, one value for every occurrence. -/
abbrev FieldSource := FieldRef → List Value

namespace FieldRange

/-- The slices of one value of a field, if it is long enough for them. Strings are sliced by the
bytes of their encoding, also inside a character. -/
def sliceValue (field : FieldRef) (slices : SliceSeries) :
    Value → Except (Failure EvalError) (Option Value)
  | .bytes content =>
    ((slices.apply content).mapError .fault).map fun selected? => selected?.map .bytes
  | .string text =>
    ((slices.apply (Text.utf8Bytes text)).mapError .fault).map fun selected? =>
      selected?.map fun selected => .string (Text.textOfBytes selected)
  | other => .error (.error (.notSliceable field.name other.kind))

/-- The slices of the values of a field, in order, without those that are too short. -/
def sliceValues (field : FieldRef) (slices : SliceSeries) :
    List Value → Except (Failure EvalError) (List Value)
  | [] => .ok []
  | value :: rest => do
    let sliced? ← sliceValue field slices value
    let others ← sliceValues field slices rest
    return sliced?.toList ++ others

/-- The values of a sliced field. -/
def values (source : FieldSource) (range : FieldRange) :
    Except (Failure EvalError) (List Value) :=
  match range.field?, range.slices? with
  | none, _ => .error (.error (.notAValue Kind.range.name))
  | some field, none => .error (.error (.detachedRange field.name))
  | some field, some slices => sliceValues field slices (source field)

end FieldRange

/-- The values that an operand contributes. -/
def Node.values (source : FieldSource) (node : Node) :
    Except (Failure EvalError) (List Value) :=
  match node.kind?, node.content with
  | some .integer, .bare => .ok [.integer node.number]
  | _, .value literal => .ok [literal]
  | _, .field reference => .ok (source reference)
  | _, .range sliced => sliced.values source
  | _, _ => .error (.error (.notAValue node.typeName))

end PacketFilter
