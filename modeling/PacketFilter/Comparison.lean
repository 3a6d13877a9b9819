/-
This file holds the six comparisons and what each one asks of an order. A pair of values may
be unordered (a pair with a NaN is); such a pair satisfies "differs from" and nothing else.
-/

import PacketFilter.Kind

namespace PacketFilter

/-- The relational predicates between two values. -/
inductive Comparison where
  | eq
  | ne
  | gt
  | ge
  | lt
  | le
  deriving DecidableEq

namespace Comparison

/-- Every comparison once, in the order in which they are listed. -/
def all : List Comparison :=
  [.eq, .ne, .gt, .ge, .lt, .le]

theorem mem_all (comparison : Comparison) : comparison ∈ all := by
  cases comparison <;> decide

/-- The sign that stands between the two sides. -/
def symbol : Comparison → String
  | .eq => "=="
  | .ne => "!="
  | .gt => ">"
  | .ge => ">="
  | .lt => "<"
  | .le => "<="

/-- The two-letter word for a comparison. -/
def word : Comparison → String
  | .eq => "eq"
  | .ne => "ne"
  | .gt => "gt"
  | .ge => "ge"
  | .lt => "lt"
  | .le => "le"

/-- The comparison that a sign or a two-letter word names. -/
def ofName (text : String) : Except UnknownName Comparison :=
  match all.find? fun comparison => text = comparison.symbol || text = comparison.word with
  | some comparison => .ok comparison
  | none => .error (.comparison text)

/-- Whether a pair in the given order satisfies the comparison. -/
def holds : Comparison → Option Ordering → Bool
  | .eq, order => order = some .eq
  | .ne, order => order ≠ some .eq
  | .gt, order => order = some .gt
  | .ge, order => order = some .gt || order = some .eq
  | .lt, order => order = some .lt
  | .le, order => order = some .lt || order = some .eq

end Comparison

end PacketFilter
