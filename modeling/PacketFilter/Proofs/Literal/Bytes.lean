/-
This file says exactly which texts are byte strings: pairs of hexadecimal digits with one separator
between any two of them. A pair is measured in bytes, of which one outside ASCII is no digit, so
two bytes that are digits are two characters. All texts of one byte string differ in their
separators and in the case of their letters only.
-/

import PacketFilter.Bytes
import PacketFilter.Proofs.Outcome
import PacketFilter.Proofs.Text.Utf8
import PacketFilter.Proofs.Text.WholeNumber

namespace PacketFilter.Bytes

open Text

/-! ### The form of a literal -/

/-- Whether two characters are the digits of a byte, the higher one first. -/
def IsPair (high low : Char) (byte : UInt8) : Prop :=
  ∃ first last, IsDigit 16 high first ∧ IsDigit 16 low last ∧ byte.toNat = first * 16 + last

/-- The texts of a byte string: pairs of digits, and one separator between any two of them. -/
inductive Spells : List Char → Bytes → Prop
  | last {high low : Char} {byte : UInt8} (pair : IsPair high low byte) : Spells [high, low] [byte]
  | more {high low separator : Char} {byte : UInt8} {letters : List Char} {bytes : Bytes}
      (pair : IsPair high low byte)
      (separates : separator = ':' ∨ separator = '-' ∨ separator = '.')
      (others : Spells letters bytes) : Spells (high :: low :: separator :: letters) (byte :: bytes)

/-- A character with all that may be written otherwise made the same: a colon for each separator,
and small letters. -/
def normalLetter (letter : Char) : Char :=
  if letter = '-' ∨ letter = '.' then ':' else letter.toLower

/-! ### Digits and their bytes -/

section

variable {letter : Char}

/-- The bytes that are digits are those of the characters that are. -/
theorem isHexDigit_of_lt (ascii : letter.toNat < 0x80) :
    isHexDigit (UInt8.ofNat letter.toNat) = (digitIn? 16 letter).isSome := by
  have same : ∀ code < 0x80,
      isHexDigit (UInt8.ofNat code) = (digitIn? 16 (Char.ofNat code)).isSome := by
    decide
  have here := same letter.toNat ascii
  rwa [Char.ofNat_toNat] at here

/-- Digits are ASCII characters other than the separators. -/
theorem ascii_of_isDigit {digit : Nat} (isDigit : IsDigit 16 letter digit) :
    letter.toNat < 0x80 ∧ isSeparator letter = false := by
  have others : ∀ code < 103, (digitValue? (Char.ofNat code)).isSome = true →
      isSeparator (Char.ofNat code) = false := by decide
  have value :=
    (Option.filter_eq_some_iff.mp ((digitIn?_eq_some_iff (Nat.le_refl 16)).mpr isDigit)).1
  have small := toNat_of_digitValue? value
  have here := others letter.toNat small
  rw [Char.ofNat_toNat, value] at here
  exact ⟨by omega, here rfl⟩

theorem toNat_lt_of_isHexDigit {byte : UInt8} (hexadecimal : isHexDigit byte = true) :
    byte.toNat < 0x80 := by
  simp only [isHexDigit, Bool.or_eq_true, Bool.and_eq_true, decide_eq_true_eq,
    UInt8.le_iff_toNat_le] at hexadecimal
  rcases hexadecimal with (⟨-, atMost⟩ | ⟨-, atMost⟩) | ⟨-, atMost⟩
  all_goals exact Nat.lt_of_le_of_lt atMost (by decide)

/-- A character of which each byte is a digit is a digit itself. -/
theorem exists_isDigit_of_isHexDigit
    (hexadecimal : ∀ byte ∈ encodeCharacter letter, isHexDigit byte = true) :
    encodeCharacter letter = [UInt8.ofNat letter.toNat] ∧ ∃ digit, IsDigit 16 letter digit := by
  have ascii : letter.toNat < 0x80 := by
    refine Nat.lt_of_not_le fun large => ?_
    obtain ⟨byte, rest, encoded, atLeast, -⟩ := exists_leadByte large
    have small := toNat_lt_of_isHexDigit (hexadecimal byte (encoded ▸ List.mem_cons_self))
    omega
  have encoded := encodeCharacter_of_lt ascii
  have read := hexadecimal _ (encoded ▸ List.mem_cons_self)
  rw [isHexDigit_of_lt ascii, Option.isSome_iff_exists] at read
  obtain ⟨digit, isDigit⟩ := read
  exact ⟨encoded, digit, (digitIn?_eq_some_iff (Nat.le_refl 16)).mp isDigit⟩

end

/-! ### Pairs of digits -/

/-- A group of characters that takes two bytes, each of them a digit, is a pair of digits. -/
theorem exists_digits_of_isHexDigit {group : List Char}
    (hexadecimal : ∀ byte ∈ group.flatMap encodeCharacter, isHexDigit byte = true)
    (two : (group.flatMap encodeCharacter).length = 2) :
    ∃ high low first last, group = [high, low] ∧ IsDigit 16 high first ∧ IsDigit 16 low last := by
  have each (letter : Char) (member : letter ∈ group) :=
    @exists_isDigit_of_isHexDigit letter fun byte inLetter =>
      hexadecimal byte (List.mem_flatMap.mpr ⟨letter, member, inLetter⟩)
  have encoded :
      group.flatMap encodeCharacter = group.map fun letter => UInt8.ofNat letter.toNat := by
    rw [← List.flatMap_pure_eq_map]
    exact List.flatMap_congr fun letter member => (each letter member).1
  rw [encoded, List.length_map] at two
  obtain ⟨high, low, rfl⟩ := List.length_eq_two.mp two
  obtain ⟨-, first, isFirst⟩ := each high List.mem_cons_self
  obtain ⟨-, last, isLast⟩ := each low (List.mem_cons_of_mem _ List.mem_cons_self)
  exact ⟨high, low, first, last, rfl, isFirst, isLast⟩

/-- Two digits are read as the byte that they denote, which is always in range. -/
theorem readByte?_of_isDigit {high low : Char} {first last : Nat} (isFirst : IsDigit 16 high first)
    (isLast : IsDigit 16 low last) :
    readByte? [high, low] = some (UInt8.ofNat (first * 16 + last)) := by
  have highAscii := (ascii_of_isDigit isFirst).1
  have lowAscii := (ascii_of_isDigit isLast).1
  have readHigh := (digitIn?_eq_some_iff (Nat.le_refl 16)).mpr isFirst
  have readLow := (digitIn?_eq_some_iff (Nat.le_refl 16)).mpr isLast
  have encoded : [high, low].flatMap encodeCharacter =
      [UInt8.ofNat high.toNat, UInt8.ofNat low.toNat] := by
    rw [List.flatMap_cons, List.flatMap_singleton, encodeCharacter_of_lt highAscii,
      encodeCharacter_of_lt lowAscii]
    rfl
  have denotes : natOfDigits? 16 [high, low] = some (first * 16 + last) := by
    simp [natOfDigits?, numberOfDigits, readHigh, readLow]
  have fits : first * 16 + last ≤ Nat.pow 2 8 - 1 := by
    have firstSmall := isFirst.1
    have lastSmall := isLast.1
    show first * 16 + last ≤ 255
    omega
  have hexadecimal : [UInt8.ofNat high.toNat, UInt8.ofNat low.toNat].all isHexDigit = true := by
    simp [isHexDigit_of_lt, highAscii, lowAscii, readHigh, readLow]
  unfold readByte?
  simp only [encoded, hexadecimal]
  rw [readNatural_of_natOfDigits? (by decide : 0 < 16) denotes, if_pos fits]
  rfl

/-- A byte is read from the pairs of its digits and from nothing else. -/
theorem readByte?_eq_some_iff {group : List Char} {byte : UInt8} :
    readByte? group = some byte ↔ ∃ high low, group = [high, low] ∧ IsPair high low byte := by
  constructor
  · intro read
    have measured : (group.flatMap encodeCharacter).length = 2 ∧
        (group.flatMap encodeCharacter).all isHexDigit = true := by
      by_contra other
      have refused : ((group.flatMap encodeCharacter).length = 2 &&
          (group.flatMap encodeCharacter).all isHexDigit) = false := by
        simpa using other
      unfold readByte? at read
      simp only [refused] at read
      cases read
    obtain ⟨high, low, first, last, rfl, isFirst, isLast⟩ :=
      exists_digits_of_isHexDigit (List.all_eq_true.mp measured.2) measured.1
    rw [readByte?_of_isDigit isFirst isLast, Option.some.injEq] at read
    have firstSmall := isFirst.1
    have lastSmall := isLast.1
    exact ⟨high, low, rfl, first, last, isFirst, isLast,
      read ▸ toNat_ofNat_of_lt (by omega)⟩
  · rintro ⟨high, low, rfl, first, last, isFirst, isLast, same⟩
    rw [readByte?_of_isDigit isFirst isLast, ← same, UInt8.ofNat_toNat]

/-! ### Groups and separators -/

theorem isSeparator_iff {letter : Char} :
    isSeparator letter = true ↔ letter = ':' ∨ letter = '-' ∨ letter = '.' := by
  simp [isSeparator, or_assoc]

/-- Characters are one group, or there is a first separator among them. -/
theorem splitOnP_isSeparator (letters : List Char) :
    letters.splitOnP isSeparator = [letters] ∨
      ∃ group separator rest, letters = group ++ separator :: rest ∧ isSeparator separator = true ∧
        letters.splitOnP isSeparator = group :: rest.splitOnP isSeparator := by
  cases found : letters.find? isSeparator with
  | none => exact .inl (List.splitOnP_eq_singleton fun letter member => by
      simpa using List.find?_eq_none.mp found letter member)
  | some separator =>
    obtain ⟨separates, group, rest, rfl, before⟩ := List.find?_eq_some_iff_append.mp found
    refine .inr ⟨group, separator, rest, rfl, separates, ?_⟩
    rw [List.splitOnP_append_cons _ _ separates, List.splitOnP_eq_singleton, List.singleton_append]
    intro letter member
    simpa using before letter member

theorem splitOnP_pair {high low : Char} {byte : UInt8} (pair : IsPair high low byte) :
    [high, low].splitOnP isSeparator = [[high, low]] := by
  obtain ⟨first, last, isFirst, isLast, -⟩ := pair
  refine List.splitOnP_eq_singleton fun letter member => ?_
  rcases List.mem_pair.mp member with rfl | rfl
  · exact (ascii_of_isDigit isFirst).2
  · exact (ascii_of_isDigit isLast).2

/-- The groups between the separators are read as bytes exactly if they spell them. -/
theorem mapM_readByte?_eq_some_iff {letters : List Char} {bytes : Bytes} :
    (letters.splitOnP isSeparator).mapM readByte? = some bytes ↔ Spells letters bytes := by
  constructor
  · -- one group is read for each byte, so the induction is on the bytes
    intro read
    induction bytes generalizing letters with
    | nil =>
      rcases splitOnP_isSeparator letters with split | ⟨_, _, _, _, _, split⟩ <;>
      · rw [split] at read
        obtain ⟨_, _, _, _, impossible⟩ := mapM_cons_eq_some.mp read
        cases impossible
    | cons byte others inductionHypothesis =>
      rcases splitOnP_isSeparator letters with
        split | ⟨group, separator, rest, rfl, separates, split⟩
      · rw [split] at read
        obtain ⟨_, _, first, behind, same⟩ := mapM_cons_eq_some.mp read
        cases behind
        obtain ⟨rfl, rfl⟩ := List.cons.inj same
        obtain ⟨high, low, rfl, pair⟩ := readByte?_eq_some_iff.mp first
        exact .last pair
      · rw [split] at read
        obtain ⟨_, _, first, behind, same⟩ := mapM_cons_eq_some.mp read
        obtain ⟨rfl, rfl⟩ := List.cons.inj same
        obtain ⟨high, low, rfl, pair⟩ := readByte?_eq_some_iff.mp first
        exact .more pair (isSeparator_iff.mp separates) (inductionHypothesis behind)
  · intro spells
    induction spells with
    | last pair =>
      rw [splitOnP_pair pair]
      exact mapM_cons_eq_some.mpr ⟨_, _, readByte?_eq_some_iff.mpr ⟨_, _, rfl, pair⟩, rfl, rfl⟩
    | @more high low separator byte letters bytes pair separates others inductionHypothesis =>
      have split := List.splitOnP_append_cons [high, low] letters (isSeparator_iff.mpr separates)
      rw [splitOnP_pair pair] at split
      refine (congrArg (List.mapM readByte?) split).trans (mapM_cons_eq_some.mpr ?_)
      exact ⟨_, _, readByte?_eq_some_iff.mpr ⟨_, _, rfl, pair⟩, inductionHypothesis, rfl⟩

/-! ### Writing -/

/-- A byte is written in two digits. -/
theorem byteDigits_eq (byte : UInt8) :
    ∃ high low, byteDigits byte = [high, low] ∧ IsPair high low byte := by
  have small := byte.toNat_lt_size
  refine ⟨_, _, rfl, byte.toNat / 16, byte.toNat % 16, isDigit_digitChar (Nat.le_refl 16) ?_,
    isDigit_digitChar (Nat.le_refl 16) (Nat.mod_lt _ (by decide)), (Nat.div_add_mod' ..).symm⟩
  exact Nat.div_lt_of_lt_mul small

/-- The digits of a byte are written in small letters. -/
theorem byteDigits_of_isPair {high low : Char} {byte : UInt8} (pair : IsPair high low byte) :
    byteDigits byte = [high, low].map normalLetter := by
  obtain ⟨first, last, isFirst, isLast, same⟩ := pair
  have firstDigit : byte.toNat / 16 = first := by
    have lastSmall := isLast.1
    omega
  have lastDigit : byte.toNat % 16 = last := by
    have lastSmall := isLast.1
    omega
  have normal {letter : Char} {digit : Nat} (isDigit : IsDigit 16 letter digit) :
      normalLetter letter = hexDigit digit := by
    have noSeparator := (ascii_of_isDigit isDigit).2
    rw [normalLetter, if_neg, isDigit.2]
    · rfl
    · rintro (rfl | rfl) <;> cases noSeparator
  rw [byteDigits, firstDigit, lastDigit, List.map_cons, List.map_singleton, normal isFirst,
    normal isLast]

theorem normalLetter_separator {separator : Char}
    (separates : separator = ':' ∨ separator = '-' ∨ separator = '.') :
    normalLetter separator = ':' := by
  rcases separates with rfl | rfl | rfl <;> decide

/-- All texts of a byte string become the one that is written when they are made the same. -/
theorem toList_text_of_spells {letters : List Char} {bytes : Bytes}
    (spells : Spells letters bytes) :
    bytes.text.toList = letters.map normalLetter := by
  rw [text, String.toList_ofList]
  induction spells with
  | last pair =>
    rw [List.map_singleton, List.intercalate_singleton, byteDigits_of_isPair pair]
  | @more high low separator byte letters bytes pair separates others inductionHypothesis =>
    cases bytes with
    | nil => cases others
    | cons next bytes =>
      rw [List.map_cons, List.map_cons, List.intercalate_cons_cons, ← List.map_cons,
        inductionHypothesis, byteDigits_of_isPair pair]
      simp only [List.map_cons, List.map_nil, normalLetter_separator separates, List.cons_append,
        List.nil_append]

/-- What is written spells the bytes, if there are any. -/
theorem spells_text {bytes : Bytes} (nonempty : bytes ≠ []) : Spells bytes.text.toList bytes := by
  rw [text, String.toList_ofList]
  induction bytes with
  | nil => exact absurd rfl nonempty
  | cons byte rest inductionHypothesis =>
    obtain ⟨high, low, digits, pair⟩ := byteDigits_eq byte
    cases rest with
    | nil =>
      rw [List.map_singleton, List.intercalate_singleton, digits]
      exact .last pair
    | cons next rest =>
      rw [List.map_cons, List.map_cons, List.intercalate_cons_cons, ← List.map_cons, digits]
      exact .more pair (.inl rfl) (inductionHypothesis (List.cons_ne_nil _ _))

/-! ### Reading -/

section

variable {text : String}

theorem read_eq_ok_iff {bytes : Bytes} : read text = .ok bytes ↔ Spells text.toList bytes := by
  rw [← mapM_readByte?_eq_some_iff, read]
  cases (text.toList.splitOnP isSeparator).mapM readByte? with
  | none => exact ⟨nofun, nofun⟩
  | some found => rw [Except.ok.injEq, Option.some.injEq]

theorem read_eq_error_iff :
    read text = .error (.invalidBytes text) ↔ ¬∃ bytes, Spells text.toList bytes := by
  simp only [← mapM_readByte?_eq_some_iff]
  rw [read]
  cases (text.toList.splitOnP isSeparator).mapM readByte? with
  | none => exact iff_of_true rfl nofun
  | some found => exact iff_of_false nofun fun nothing => nothing ⟨found, rfl⟩

end

/-- A text is read as the byte string that it spells, and is refused if it spells none. Writing the
byte string gives the text again with colons between the pairs and in small letters, and a byte
string that is not empty is read back from what is written. -/
theorem read_exact (text : String) :
    (∀ bytes, read text = .ok bytes ↔ Spells text.toList bytes) ∧
    (read text = .error (.invalidBytes text) ↔ ¬∃ bytes, Spells text.toList bytes) ∧
    (∀ bytes, read text = .ok bytes →
      bytes.text = String.ofList (text.toList.map normalLetter)) ∧
    ∀ bytes : Bytes, bytes ≠ [] → read bytes.text = .ok bytes := by
  refine ⟨fun bytes => read_eq_ok_iff, read_eq_error_iff, fun bytes isRead => ?_,
    fun bytes nonempty => read_eq_ok_iff.mpr (spells_text nonempty)⟩
  have spells := read_eq_ok_iff.mp isRead
  rw [← toList_text_of_spells spells, String.ofList_toList]

/-- Digits of either case and all three separators: the text that is written has colons and small
letters. -/
theorem read_exact_mixed :
    read "00-1B.fF:0a" = .ok [0x00, 0x1B, 0xFF, 0x0A] ∧
      Bytes.text [0x00, 0x1B, 0xFF, 0x0A] = "00:1b:ff:0a" ∧
      ([0x00, 0x1B, 0xFF, 0x0A] : Bytes) ≠ [] ∧
      read (Bytes.text [0x00, 0x1B, 0xFF, 0x0A]) = .ok [0x00, 0x1B, 0xFF, 0x0A] := by
  obtain ⟨-, -, normal, back⟩ := read_exact "00-1B.fF:0a"
  have isRead : read "00-1B.fF:0a" = .ok [0x00, 0x1B, 0xFF, 0x0A] := by decide
  exact ⟨isRead, (normal _ isRead).trans (by decide), by decide, back _ (by decide)⟩

end PacketFilter.Bytes
