/-
This file reads slices that are given as arguments: `start:length`, `start-end`, `start:`, or a
single offset for one byte. A hyphen is a sign where an offset begins and separates two offsets
elsewhere, so the first character of the text is never a separator. The separator is found by its
position in bytes, and the text is cut on both sides of it. Other numbers among the arguments are
counts without a sign.
-/

import PacketFilter.Slice.Basic
import PacketFilter.Text.Split
import PacketFilter.Text.Utf8
import PacketFilter.Text.WholeNumber

namespace PacketFilter

open Text

namespace CommandLine

/-- An integer of 32 bits with an optional sign. -/
def readOffset : List Char → Except NumberError Int32
  | [] => .error .empty
  | '+' :: rest => (readMagnitude 10 (Nat.pow 2 31 - 1) .tooLarge rest).map Int32.ofNat
  | '-' :: rest =>
    (readMagnitude 10 (Nat.pow 2 31) .tooSmall rest).map fun (number : Nat) =>
      Int32.ofInt (-number)
  | letters => (readMagnitude 10 (Nat.pow 2 31 - 1) .tooLarge letters).map Int32.ofNat

/-- An unsigned integer of 64 bits. -/
def readCount (text : String) : Except NumberError Nat :=
  readNatural 10 (Nat.pow 2 64 - 1) text.toList

end CommandLine

/-- An offset that cannot be read, with the slice that it is part of. -/
structure OffsetError where
  offset : String
  slice : String
  cause : NumberError
  deriving DecidableEq

/-- What is wrong with a slice, in words. -/
def OffsetError.message (refusal : OffsetError) : String :=
  "bad offset '" ++ refusal.offset ++ "' in range '" ++ refusal.slice ++ "': "
    ++ refusal.cause.message

namespace Slice

/-- An offset of a slice. -/
def readOffsetOf (slice : String) (letters : List Char) : Except (Failure OffsetError) Int32 :=
  (CommandLine.readOffset letters).mapError fun cause =>
    .error ⟨String.ofList letters, slice, cause⟩

/-- The characters of a slice in front of a position and those behind it. -/
def cut (slice : String) (position : Nat) : Except (Failure OffsetError) (List Char × List Char) :=
  match cutAt? position slice.toList with
  | some parts => .ok parts
  | none => .error (.fault (.insideCharacter position))

/-- The position of the hyphen between two offsets, counted from behind the first byte. Where no
character ends at the first byte, no offset begins and no hyphen is looked for. -/
def hyphenPosition? (slice : String) : Option Nat :=
  match cutAt? 1 slice.toList with
  | some (_, behind) => positionOf? '-' behind
  | none => none

/-- The slice that a text denotes. -/
def read (text : String) : Except (Failure OffsetError) Slice :=
  match splitFirst ':' text.toList with
  | (start, some []) => do
    let start ← readOffsetOf text start
    return toTheEnd start
  | (start, some length) => do
    let start ← readOffsetOf text start
    let length ← readOffsetOf text length
    return withLength start length
  | (_, none) =>
    match hyphenPosition? text with
    | some position => do
      let (start, _) ← cut text (position + 1)
      let start ← readOffsetOf text start
      let (_, stop) ← cut text (position + 2)
      let stop ← readOffsetOf text stop
      return withEndOffset start stop
    | none => do
      let start ← readOffsetOf text text.toList
      return withLength start 1

end Slice

end PacketFilter
