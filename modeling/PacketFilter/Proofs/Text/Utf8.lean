/-
This file shows that a text is read back from its UTF-8 bytes. The first byte of a character says
how many rows of six bits follow it. It also says which ranges the first of these may lie in, so as
to leave out longer encodings and surrogates; the bytes of a character always lie there, so
nothing is read as a replacement character.
-/

import PacketFilter.Text.Utf8

namespace PacketFilter.Text

/-! ### Rows of bits -/

/-- The byte that continues a character, with the last six bits of a number. -/
def rowByte (row : Nat) : UInt8 :=
  UInt8.ofNat (0x80 + row % 64)

theorem toNat_ofNat_of_lt {value : Nat} (small : value < 256) : (UInt8.ofNat value).toNat = value :=
  (UInt8.toNat_ofNat' ..).trans (Nat.mod_eq_of_lt small)

theorem toNat_rowByte (row : Nat) : (rowByte row).toNat = 0x80 + row % 64 :=
  toNat_ofNat_of_lt (by omega)

/-- Whether a row of bits may come next, where the next byte is restricted to a range. -/
def Continues (low high : UInt8) (row : Nat) : Prop :=
  low ≤ rowByte row ∧ rowByte row ≤ high

theorem continues_iff {low high : UInt8} {row : Nat} :
    Continues low high row ↔ low.toNat ≤ 0x80 + row % 64 ∧ 0x80 + row % 64 ≤ high.toNat := by
  rw [← toNat_rowByte, ← UInt8.le_iff_toNat_le, ← UInt8.le_iff_toNat_le]
  rfl

/-- Behind the second byte of a character, every row may come. -/
theorem continues_any (row : Nat) : Continues 0x80 0xBF row := by
  rw [continues_iff]
  show 128 ≤ 0x80 + row % 64 ∧ 0x80 + row % 64 ≤ 191
  omega

section

variable {low high : UInt8} {row : Nat} (continues : Continues low high row) (bits : Nat)
  (rest : List UInt8)

include continues

/-- A row completes a character of which one byte is missing. -/
theorem readBytes_lastRow :
    readBytes (some ⟨1, low, high, bits⟩) (rowByte row :: rest) =
      Char.ofNat (bits * 64 + row % 64) :: readBytes none rest := by
  have read : readByte (some ⟨1, low, high, bits⟩) (rowByte row) =
      ([Char.ofNat (bits * 64 + row % 64)], none) := by
    simp only [readByte]
    rw [if_pos (And.intro continues.1 continues.2), toNat_rowByte, Nat.add_sub_cancel_left]
    rfl
  rw [readBytes, read]
  rfl

/-- A row is put behind the bits of a character of which more bytes are missing. -/
theorem readBytes_row (missing : Nat) :
    readBytes (some ⟨missing + 2, low, high, bits⟩) (rowByte row :: rest) =
      readBytes (some ⟨missing + 1, 0x80, 0xBF, bits * 64 + row % 64⟩) rest := by
  have read : readByte (some ⟨missing + 2, low, high, bits⟩) (rowByte row) =
      ([], some ⟨missing + 1, 0x80, 0xBF, bits * 64 + row % 64⟩) := by
    simp only [readByte]
    rw [if_pos (And.intro continues.1 continues.2), toNat_rowByte,
      Nat.add_sub_cancel_left, if_neg (by omega)]
    rfl
  rw [readBytes, read]
  rfl

end

/-! ### First bytes -/

/-- A byte that begins a character with some bits of it and asks for some bytes more, the first of
which may carry the given row. -/
def Begins (byte : UInt8) (missing bits row : Nat) : Prop :=
  ∃ low high, readLeadByte byte = ([], some ⟨missing, low, high, bits⟩) ∧ Continues low high row

theorem Begins.readBytes {byte : UInt8} {missing bits row : Nat}
    (begins : Begins byte missing bits row) (rest : List UInt8) :
    ∃ low high, Continues low high row ∧
      Text.readBytes none (byte :: rest) =
        Text.readBytes (some ⟨missing, low, high, bits⟩) rest := by
  obtain ⟨low, high, read, continues⟩ := begins
  refine ⟨low, high, continues, ?_⟩
  rw [Text.readBytes, readByte, read]
  rfl

section

variable (code : Nat)

theorem begins_two (atLeast : 0x80 ≤ code) (lt : code < 0x800) :
    Begins (UInt8.ofNat (0xC0 + code / 64)) 1 (code / 64) code := by
  refine ⟨0x80, 0xBF, ?_, continues_any code⟩
  simp only [readLeadByte]
  rw [toNat_ofNat_of_lt (by omega), if_neg (by omega), if_neg (by omega), if_pos (by omega),
    Nat.add_sub_cancel_left]

/-- Three bytes begin with a byte that rules out what two bytes could encode, and surrogates. -/
theorem begins_three (atLeast : 0x800 ≤ code) (lt : code < 0x10000)
    (noSurrogate : code < 0xD800 ∨ 0xDFFF < code) :
    Begins (UInt8.ofNat (0xE0 + code / 4096)) 2 (code / 4096) (code / 64) := by
  unfold Begins readLeadByte
  simp only []
  rw [toNat_ofNat_of_lt (by omega), if_neg (by omega), if_neg (by omega), if_neg (by omega)]
  by_cases first : code / 4096 = 0
  · rw [first, if_pos rfl]
    refine ⟨0xA0, 0xBF, rfl, continues_iff.mpr ?_⟩
    show 160 ≤ 0x80 + code / 64 % 64 ∧ 0x80 + code / 64 % 64 ≤ 191
    omega
  · by_cases surrogates : code / 4096 = 13
    · rw [surrogates, if_neg (by omega), if_pos rfl]
      refine ⟨0x80, 0x9F, rfl, continues_iff.mpr ?_⟩
      show 128 ≤ 0x80 + code / 64 % 64 ∧ 0x80 + code / 64 % 64 ≤ 159
      omega
    · rw [if_neg (by omega), if_neg (by omega), if_pos (by omega), Nat.add_sub_cancel_left]
      exact ⟨0x80, 0xBF, rfl, continues_any (code / 64)⟩

/-- Four bytes begin with a byte that rules out what three bytes could encode, and what lies behind
the last character. -/
theorem begins_four (atLeast : 0x10000 ≤ code) (lt : code < 0x110000) :
    Begins (UInt8.ofNat (0xF0 + code / 262144)) 3 (code / 262144) (code / 4096) := by
  unfold Begins readLeadByte
  simp only []
  rw [toNat_ofNat_of_lt (by omega), if_neg (by omega), if_neg (by omega), if_neg (by omega),
    if_neg (by omega), if_neg (by omega), if_neg (by omega)]
  by_cases first : code / 262144 = 0
  · rw [first, if_pos rfl]
    refine ⟨0x90, 0xBF, rfl, continues_iff.mpr ?_⟩
    show 144 ≤ 0x80 + code / 4096 % 64 ∧ 0x80 + code / 4096 % 64 ≤ 191
    omega
  · by_cases last : code / 262144 = 4
    · rw [last, if_neg (by omega), if_neg (by omega), if_pos rfl]
      refine ⟨0x80, 0x8F, rfl, continues_iff.mpr ?_⟩
      show 128 ≤ 0x80 + code / 4096 % 64 ∧ 0x80 + code / 4096 % 64 ≤ 143
      omega
    · rw [if_neg (by omega), if_pos (by omega), Nat.add_sub_cancel_left]
      exact ⟨0x80, 0xBF, rfl, continues_any (code / 4096)⟩

end

/-! ### Characters and texts -/

theorem encodeCharacter_of_lt {letter : Char} (ascii : letter.toNat < 0x80) :
    encodeCharacter letter = [UInt8.ofNat letter.toNat] :=
  if_pos ascii

/-- The first byte of a character outside ASCII is no ASCII character. -/
theorem exists_leadByte {letter : Char} (large : 0x80 ≤ letter.toNat) :
    ∃ byte rest, encodeCharacter letter = byte :: rest ∧ 0x80 ≤ byte.toNat ∧ rest ≠ [] := by
  have valid : letter.toNat < 0xD800 ∨ 0xDFFF < letter.toNat ∧ letter.toNat < 0x110000 :=
    letter.valid
  unfold encodeCharacter
  simp only []
  rw [if_neg (Nat.not_lt.mpr large)]
  by_cases two : letter.toNat < 0x800
  · rw [if_pos two]
    refine ⟨_, _, rfl, ?_, List.cons_ne_nil _ _⟩
    rw [toNat_ofNat_of_lt (by omega)]
    omega
  · by_cases three : letter.toNat < 0x10000
    · rw [if_neg two, if_pos three]
      refine ⟨_, _, rfl, ?_, List.cons_ne_nil _ _⟩
      rw [toNat_ofNat_of_lt (by omega)]
      omega
    · rw [if_neg two, if_neg three]
      refine ⟨_, _, rfl, ?_, List.cons_ne_nil _ _⟩
      rw [toNat_ofNat_of_lt (by omega)]
      omega

/-- A character is read from its bytes, whatever follows them. -/
theorem readBytes_encodeCharacter (letter : Char) (rest : List UInt8) :
    readBytes none (encodeCharacter letter ++ rest) = letter :: readBytes none rest := by
  have valid : letter.toNat < 0xD800 ∨ 0xDFFF < letter.toNat ∧ letter.toNat < 0x110000 :=
    letter.valid
  have same : Char.ofNat letter.toNat = letter := Char.ofNat_toNat letter
  unfold encodeCharacter
  generalize letter.toNat = code at valid same
  subst same
  simp only []
  split
  · rename_i lt
    have read : readLeadByte (UInt8.ofNat code) = ([Char.ofNat code], none) := by
      simp only [readLeadByte]
      rw [toNat_ofNat_of_lt (by omega), if_pos lt]
    rw [List.singleton_append, readBytes, readByte, read]
    rfl
  · split
    · obtain ⟨low, high, continues, read⟩ :=
        (begins_two code (by omega) (by omega)).readBytes (rowByte code :: rest)
      refine read.trans ?_
      rw [readBytes_lastRow continues, show code / 64 * 64 + code % 64 = code by omega]
    · split
      · obtain ⟨low, high, continues, read⟩ :=
          (begins_three code (by omega) (by omega) (by omega)).readBytes
            (rowByte (code / 64) :: rowByte code :: rest)
        refine read.trans ?_
        rw [readBytes_row continues, readBytes_lastRow (continues_any code),
          show (code / 4096 * 64 + code / 64 % 64) * 64 + code % 64 = code by omega]
      · obtain ⟨low, high, continues, read⟩ :=
          (begins_four code (by omega) (by omega)).readBytes
            (rowByte (code / 4096) :: rowByte (code / 64) :: rowByte code :: rest)
        refine read.trans ?_
        rw [readBytes_row continues, readBytes_row (continues_any (code / 64)),
          readBytes_lastRow (continues_any code),
          show ((code / 262144 * 64 + code / 4096 % 64) * 64 + code / 64 % 64) * 64 + code % 64 =
            code by omega]

theorem readBytes_flatMap_encodeCharacter (letters : List Char) :
    readBytes none (letters.flatMap encodeCharacter) = letters := by
  induction letters with
  | nil => rfl
  | cons letter rest inductionHypothesis =>
    rw [List.flatMap_cons, readBytes_encodeCharacter, inductionHypothesis]

/-- A text is read back from its bytes. -/
theorem textOfBytes_utf8Bytes (text : String) : textOfBytes (utf8Bytes text) = text := by
  unfold textOfBytes utf8Bytes
  rw [readBytes_flatMap_encodeCharacter, String.ofList_toList]

end PacketFilter.Text
