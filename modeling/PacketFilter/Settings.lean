/-
This file holds the two knobs that reading and evaluating share: what to do with a local time
that occurred twice, and how deep tests may nest.
-/

import PacketFilter.Kind

namespace PacketFilter

/-- What to do with a wall-clock time that two instants carry. A time that never occurred
is refused whatever the policy. -/
inductive LocalTimePolicy where
  | reject
  | earliest
  | latest
  deriving DecidableEq

namespace LocalTimePolicy

/-- The name of a policy. -/
def name : LocalTimePolicy → String
  | .reject => "reject"
  | .earliest => "earliest"
  | .latest => "latest"

/-- The name of a policy as a constant of the settings. -/
def constantName : LocalTimePolicy → String
  | .reject => "Reject"
  | .earliest => "Earliest"
  | .latest => "Latest"

/-- The policy that a word names. -/
def ofName : String → Except UnknownName LocalTimePolicy
  | "reject" => .ok .reject
  | "earliest" | "first" => .ok .earliest
  | "latest" | "last" => .ok .latest
  | word => .error (.localTimePolicy word)

end LocalTimePolicy

/-- The knobs of reading and evaluating. -/
structure Settings where
  localTime : LocalTimePolicy
  /-- The deepest level at which a test is still evaluated; the outermost test is at level 0. -/
  maxDepth : Nat
  deriving DecidableEq

/-- Twice-occurring times are refused, and tests may nest 512 levels deep. -/
def Settings.standard : Settings :=
  { localTime := .reject, maxDepth := 512 }

end PacketFilter
