/-
This file writes expressions. Connectives stand in parentheses; comparisons do not, and neither
does what a negation applies to. A test for presence is written as its operand.
-/

import PacketFilter.Expr.Node
import PacketFilter.Text.Quoted

namespace PacketFilter

/-- The text of a sliced field: the field, and the slices in brackets. -/
def FieldRange.text (range : FieldRange) : String :=
  ((range.field?.map FieldRef.name).getD "<no field>") ++ "["
    ++ ((range.slices?.map SliceSeries.text).getD "") ++ "]"

/-- The text of a literal. A string stands between quotation marks. -/
def Value.literalText (zone : Zone) : Value → String
  | .string text => Text.quoted text
  | value => value.text zone

mutual

/-- The text of a node. -/
def Node.text (zone : Zone) : Node → String
  | ⟨none, _, _⟩ => "<uninitialized>"
  | ⟨some _, number, content⟩ => content.text zone number

/-- The text of what a node holds. Without content it is the number of the node. -/
def Content.text (zone : Zone) (number : UInt32) : Content → String
  | .bare => Text.natText number.toNat
  | .value literal => literal.literalText zone
  | .field reference => reference.name
  | .range sliced => sliced.text
  | .test inner => inner.text zone

/-- The text of a test. -/
def Test.text (zone : Zone) : Test → String
  | ⟨some op, some first, second?⟩ =>
    match op, second? with
    | .present, _ => first.text zone
    | .not, _ => "!" ++ first.text zone
    | .and, some second => "(" ++ first.text zone ++ " && " ++ second.text zone ++ ")"
    | .or, some second => "(" ++ first.text zone ++ " || " ++ second.text zone ++ ")"
    | op, some second => first.text zone ++ " " ++ op.symbol ++ " " ++ second.text zone
    | op, none => op.symbol ++ " " ++ first.text zone
  | _ => "<empty test>"

end

end PacketFilter
