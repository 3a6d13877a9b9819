/-
This file lists what can go wrong when an expression is evaluated, with message, code and hint
as for the errors of values.
-/

import PacketFilter.ValueError
import PacketFilter.Text.Digits

namespace PacketFilter

/-- Why an expression has no truth value. -/
inductive EvalError where
  | value (cause : ValueError)
  | notAValue (typeName : String)
  | notATest (typeName : String)
  | notSliceable (field : String) (kind : Kind)
  | detachedRange (field : String)
  | tooDeep (maxDepth : Nat)
  deriving DecidableEq

namespace EvalError

/-- What went wrong, in one sentence. -/
def message : EvalError → String
  | .value cause => cause.message
  | .notAValue typeName => typeName ++ " node does not produce values"
  | .notATest typeName => typeName ++ " node cannot be evaluated as a test"
  | .notSliceable field kind =>
    "field '" ++ field ++ "' holds " ++ kind.name ++ " values, which cannot be sliced"
  | .detachedRange field => "range over '" ++ field ++ "' no longer owns its range list"
  | .tooDeep maxDepth => "expression nests deeper than " ++ Text.natText maxDepth ++ " levels"

/-- The code under which a diagnostic is listed. -/
def code : EvalError → String
  | .value cause => cause.code
  | .notAValue _ => "dfilter::eval::not_a_value"
  | .notATest _ => "dfilter::eval::not_a_test"
  | .notSliceable _ _ => "dfilter::eval::not_sliceable"
  | .detachedRange _ => "dfilter::eval::detached_range"
  | .tooDeep _ => "dfilter::eval::too_deep"

/-- What to write instead, where that can be said. -/
def help? : EvalError → Option String
  | .value cause => cause.help?
  | .notSliceable _ _ => some "ranges apply to byte and string fields"
  | _ => none

end EvalError

end PacketFilter
