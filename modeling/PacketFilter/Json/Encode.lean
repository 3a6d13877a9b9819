/-
This file gives values and slices their JSON documents. A value is an object with one member,
named for its kind; a slice shows all that is stored in it.
-/

import PacketFilter.Json.Basic
import PacketFilter.Slice.Basic
import PacketFilter.Value

namespace PacketFilter

/-- The document of a time: its seconds, then its nanoseconds. -/
def NanoTime.json (time : NanoTime) : Json :=
  .object [("secs", .integer time.seconds.toInt), ("nsecs", .integer time.nanoseconds.toInt)]

/-- The document of what a value holds. A byte string is an array of numbers. -/
def Value.contentJson : Value → Json
  | .integer number => .integer number.toNat
  | .double number => .double number
  | .string text => .string text
  | .bytes content => .array (content.map fun byte => .integer byte.toNat)
  | .absoluteTime time | .relativeTime time => time.json

/-- The document of a value. -/
def Value.json (value : Value) : Json :=
  .object [(value.kind.key, value.contentJson)]

/-- The document of a slice. -/
def Slice.json (slice : Slice) : Json :=
  .object
    [("start_offset", .integer slice.start.toInt), ("length", .integer slice.length.toInt),
      ("end_offset", .integer slice.endOffset.toInt), ("ending", .string slice.ending.key)]

end PacketFilter
