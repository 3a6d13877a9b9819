/-
This file holds what a kind can do: which comparisons it supports, how its literals are read and
how two of its values are compared. Comparing never converts a value to another kind.
-/

import PacketFilter.Binary64.Literal
import PacketFilter.Literal.Integer
import PacketFilter.Value

namespace PacketFilter

/-- The behaviour of the values of one kind. -/
structure Descriptor where
  kind : Kind
  deriving DecidableEq

namespace Descriptor

/-- Whether nodes of the kind have content that is made for them. Nodes of the other kinds hold
the content that they are given. -/
def hasConstructor (descriptor : Descriptor) : Bool :=
  match descriptor.kind with
  | .string | .range | .test => true
  | _ => false

/-- Whether values of the kind can be written as literals. -/
def hasTextForm (descriptor : Descriptor) : Bool :=
  descriptor.kind.hasValues

/-- Whether values of the kind can be compared in the given way. Strings are only told apart. -/
def supports (descriptor : Descriptor) (comparison : Comparison) : Bool :=
  match descriptor.kind with
  | .integer | .double | .bytes | .absoluteTime | .relativeTime => true
  | .string => comparison = .eq || comparison = .ne
  | .pointer | .range | .test => false

/-- The comparisons that values of the kind support, in the order in which they are listed. -/
def supported (descriptor : Descriptor) : List Comparison :=
  Comparison.all.filter descriptor.supports

/-- The value that a literal of the kind denotes. -/
def readLiteral (descriptor : Descriptor) (zone : Zone) (policy : LocalTimePolicy)
    (text : String) : Except ValueError Value :=
  match descriptor.kind with
  | .integer => (Literal.readInteger text).map .integer
  | .double => (Binary64.read text).map .double
  | .string => .ok (.string text)
  | .bytes => (Bytes.read text).map .bytes
  | .absoluteTime => (NanoTime.readAbsolute zone policy text).map .absoluteTime
  | .relativeTime => (NanoTime.readRelative text).map .relativeTime
  | .pointer | .range | .test => .error (.noTextForm descriptor.kind)

/-- Whether two values of the kind satisfy a comparison. The comparison has to be supported, and
both values have to be of the kind. -/
def compare (descriptor : Descriptor) (comparison : Comparison) (left right : Value) :
    Except ValueError Bool :=
  if !descriptor.supports comparison then
    .error (.unsupported descriptor.kind comparison)
  else if left.kind ≠ descriptor.kind ∨ right.kind ≠ descriptor.kind then
    .error (.kindMismatch left.kind right.kind)
  else .ok (comparison.holds (left.order right))

/-- The order of two values of the kind, found by comparing them: equal, less, greater, or none
of these. -/
def ordering (descriptor : Descriptor) (left right : Value) :
    Except ValueError (Option Ordering) := do
  if ← descriptor.compare .eq left right then return some .eq
  if ← descriptor.compare .lt left right then return some .lt
  if ← descriptor.compare .gt left right then return some .gt
  return none

end Descriptor

end PacketFilter
