/-
This file lists what can go wrong when a literal is read and when two values are compared. The
causes are meant for the person who wrote the expression: each has a message, a code and, where
there is something to suggest, a hint.
-/

import PacketFilter.Kind
import PacketFilter.Comparison

namespace PacketFilter

/-- A literal that cannot be read, or a pair of values that cannot be compared. -/
inductive ValueError where
  | invalidNumber (text : String)
  | integerOverflow (text : String)
  | floatUnderflow (text : String)
  | floatOverflow (text : String)
  | invalidFloat (text : String)
  | invalidRelativeTime (text : String)
  | invalidAbsoluteTime (text : String)
  | ambiguousLocalTime (text : String)
  | nonexistentLocalTime (text : String)
  | invalidBytes (text : String)
  | noTextForm (kind : Kind)
  | unsupported (kind : Kind) (comparison : Comparison)
  | kindMismatch (left right : Kind)
  deriving DecidableEq

namespace ValueError

/-- A literal between quotation marks, as the messages show it. -/
def quotedLiteral (text : String) : String :=
  "\"" ++ text ++ "\""

/-- What went wrong, in one sentence. -/
def message : ValueError → String
  | .invalidNumber text => quotedLiteral text ++ " is not a valid number."
  | .integerOverflow text => quotedLiteral text ++ " causes an integer overflow."
  | .floatUnderflow text => quotedLiteral text ++ " causes floating-point underflow."
  | .floatOverflow text => quotedLiteral text ++ " causes floating-point overflow."
  | .invalidFloat text => quotedLiteral text ++ " is not a valid floating-point number."
  | .invalidRelativeTime text => quotedLiteral text ++ " is not a valid time."
  | .invalidAbsoluteTime text => quotedLiteral text ++ " is not a valid absolute time."
  | .ambiguousLocalTime text => quotedLiteral text ++ " occurs twice in local time."
  | .nonexistentLocalTime text => quotedLiteral text ++ " never occurred in local time."
  | .invalidBytes text => quotedLiteral text ++ " is not a valid byte string."
  | .noTextForm kind => kind.name ++ " values cannot be written as text"
  | .unsupported kind comparison =>
    kind.name ++ " does not support the " ++ comparison.symbol ++ " comparison"
  | .kindMismatch left right => "cannot compare " ++ left.name ++ " with " ++ right.name

/-- The code under which a diagnostic is listed. -/
def code : ValueError → String
  | .invalidNumber _ => "dfilter::ftype::invalid_number"
  | .integerOverflow _ => "dfilter::ftype::integer_overflow"
  | .floatUnderflow _ => "dfilter::ftype::float_underflow"
  | .floatOverflow _ => "dfilter::ftype::float_overflow"
  | .invalidFloat _ => "dfilter::ftype::invalid_float"
  | .invalidRelativeTime _ => "dfilter::ftype::invalid_relative_time"
  | .invalidAbsoluteTime _ => "dfilter::ftype::invalid_absolute_time"
  | .ambiguousLocalTime _ => "dfilter::ftype::ambiguous_local_time"
  | .nonexistentLocalTime _ => "dfilter::ftype::nonexistent_local_time"
  | .invalidBytes _ => "dfilter::ftype::invalid_bytes"
  | .noTextForm _ => "dfilter::ftype::no_text_form"
  | .unsupported _ _ => "dfilter::ftype::unsupported"
  | .kindMismatch _ _ => "dfilter::ftype::kind_mismatch"

/-- What to write instead, where that can be said. -/
def help? : ValueError → Option String
  | .integerOverflow _ => some "integer literals must fit in 32 unsigned bits"
  | .invalidRelativeTime _ => some "relative times look like 3.5, .000001 or -2"
  | .invalidAbsoluteTime _ => some "Example: \"Nov 12, 1999 08:55:44.123\""
  | .ambiguousLocalTime _ =>
    some ("the clocks were set back across this time; "
      ++ "choose a local-time policy of earliest or latest to accept it")
  | .nonexistentLocalTime _ => some "the clocks were set forward across this time"
  | .invalidBytes _ => some "Example: \"00:1b:21\""
  | _ => none

end ValueError

end PacketFilter
