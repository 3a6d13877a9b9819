/-
This file turns a text into its UTF-8 bytes and bytes back into a text. Bytes that are not UTF-8
are not refused: each longest run of bytes that begins a character but cannot complete one gives a
single replacement character, and so does each byte that begins no character. Places in a text are
counted in bytes too; a text cannot be cut between two bytes of one character, nor behind its end.
-/

namespace PacketFilter.Text

/-! ### Encoding -/

/-- The bytes of a character: its code point in rows of six bits, and in front of the first row a
mark that says how many bytes there are. -/
def encodeCharacter (letter : Char) : List UInt8 :=
  let code := letter.toNat
  let tail (row : Nat) : UInt8 := UInt8.ofNat (0x80 + row % 64)
  if code < 0x80 then [UInt8.ofNat code]
  else if code < 0x800 then [UInt8.ofNat (0xC0 + code / 64), tail code]
  else if code < 0x10000 then [UInt8.ofNat (0xE0 + code / 4096), tail (code / 64), tail code]
  else
    [UInt8.ofNat (0xF0 + code / 262144), tail (code / 4096), tail (code / 64), tail code]

/-- The UTF-8 bytes of a text. -/
def utf8Bytes (text : String) : List UInt8 :=
  text.toList.flatMap encodeCharacter

/-! ### Decoding -/

/-- The character that stands for bytes that cannot be read. -/
def replacementCharacter : Char := '\uFFFD'

/-- A character of which some bytes are read. -/
structure PartialCharacter where
  /-- How many bytes are still to come. -/
  missing : Nat
  /-- The least value of the next byte. -/
  low : UInt8
  /-- The greatest value of the next byte. -/
  high : UInt8
  /-- The bits that are read so far. -/
  bits : Nat

/-- What the first byte of a character says: the whole character, how many bytes follow and
which ones may come next, or that it begins no character. The second byte is restricted after
four of the first bytes, so that no character has two encodings and no surrogate has one. -/
def readLeadByte (byte : UInt8) : List Char × Option PartialCharacter :=
  let value := byte.toNat
  if value < 0x80 then ([Char.ofNat value], none)
  else if value < 0xC2 then ([replacementCharacter], none)
  else if value < 0xE0 then ([], some ⟨1, 0x80, 0xBF, value - 0xC0⟩)
  else if value = 0xE0 then ([], some ⟨2, 0xA0, 0xBF, 0⟩)
  else if value = 0xED then ([], some ⟨2, 0x80, 0x9F, 13⟩)
  else if value < 0xF0 then ([], some ⟨2, 0x80, 0xBF, value - 0xE0⟩)
  else if value = 0xF0 then ([], some ⟨3, 0x90, 0xBF, 0⟩)
  else if value < 0xF4 then ([], some ⟨3, 0x80, 0xBF, value - 0xF0⟩)
  else if value = 0xF4 then ([], some ⟨3, 0x80, 0x8F, 4⟩)
  else ([replacementCharacter], none)

/-- The characters that one more byte completes, and the character that it leaves incomplete.
A byte that cannot continue a character ends it, and begins another one itself. -/
def readByte (begun : Option PartialCharacter) (byte : UInt8) :
    List Char × Option PartialCharacter :=
  match begun with
  | none => readLeadByte byte
  | some character =>
    if character.low ≤ byte ∧ byte ≤ character.high then
      let bits := character.bits * 64 + (byte.toNat - 0x80)
      if character.missing ≤ 1 then ([Char.ofNat bits], none)
      else ([], some ⟨character.missing - 1, 0x80, 0xBF, bits⟩)
    else
      let (letters, next) := readLeadByte byte
      (replacementCharacter :: letters, next)

/-- The characters of the bytes that follow the ones of a character already begun. -/
def readBytes (begun : Option PartialCharacter) : List UInt8 → List Char
  | [] => if begun.isSome then [replacementCharacter] else []
  | byte :: rest =>
    let (letters, next) := readByte begun byte
    letters ++ readBytes next rest

/-- The text of some bytes, whatever they are. -/
def textOfBytes (bytes : List UInt8) : String :=
  String.ofList (readBytes none bytes)

/-! ### Places counted in bytes -/

/-- How many bytes a character takes. -/
def byteCount (letter : Char) : Nat :=
  (encodeCharacter letter).length

/-- The characters in front of a position and those behind it. -/
def cutAt? : Nat → List Char → Option (List Char × List Char)
  | 0, letters => some ([], letters)
  | _ + 1, [] => none
  | position + 1, letter :: rest =>
    if position + 1 < byteCount letter then none
    else
      (cutAt? (position + 1 - byteCount letter) rest).map fun (before, behind) =>
        (letter :: before, behind)

/-- The position of the first occurrence of a character. -/
def positionOf? (wanted : Char) : List Char → Option Nat
  | [] => none
  | letter :: rest =>
    if letter = wanted then some 0 else (positionOf? wanted rest).map (byteCount letter + ·)

end PacketFilter.Text
