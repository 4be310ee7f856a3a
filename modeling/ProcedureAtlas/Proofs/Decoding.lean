import ProcedureAtlas.Folder.Loading
import ProcedureAtlas.Proofs.ByteSuffixes

/-!
# Decoding what was encoded

The encodings are written down here from a text to its bytes, and a file is said to hold a text when
its bytes are the text in one of them. A text that begins with a byte order mark is held by no
file, since one mark is dropped. Main statement: a file is read as the text it holds. The reader
tries the encodings in turn, so what has to be shown is that bytes of a later encoding are not
taken for those of an earlier one.
-/

namespace ProcedureAtlas

set_option autoImplicit false

namespace Encoding

/-! ## UTF-8 -/

theorem readUtf8_eq_some_iff {bytes : Bytes} {text : Text} :
    readUtf8 bytes = some text ↔ bytes = Text.utf8 text := by
  constructor
  · intro read
    obtain ⟨characters, decoded, rfl⟩ := Option.map_eq_some_iff.mp read
    have valid : (ByteArray.utf8Decode? bytes.toByteArray).isSome = true := by
      rw [decoded]
      rfl
    have encoded := @ByteArray.utf8Encode_get_utf8Decode? bytes.toByteArray valid
    rw [Option.get_of_eq_some valid decoded] at encoded
    exact (List.toByteArray_inj.mp encoded).symm
  · rintro rfl
    have decoded : ByteArray.utf8Decode? (Text.utf8 text).toByteArray = some text.toArray :=
      List.utf8Decode?_utf8Encode
    unfold readUtf8
    rw [decoded]
    rfl

def IsUtf8 (bytes : Bytes) : Prop :=
  ∃ text, bytes = Text.utf8 text

theorem readUtf8_eq_none_iff {bytes : Bytes} : readUtf8 bytes = none ↔ ¬IsUtf8 bytes := by
  rw [Option.eq_none_iff_forall_ne_some, IsUtf8, not_exists]
  exact forall_congr' fun text => not_congr readUtf8_eq_some_iff

theorem not_isUtf8 {byte : UInt8} (inner : ¬byte.IsUTF8FirstByte) (rest : Bytes) :
    ¬IsUtf8 (byte :: rest) := by
  rintro ⟨text, bytes⟩
  exact inner (Text.isFirstByte_of_utf8 bytes.symm)

/-! ## UTF-16 -/

/-- A character beyond the first 0x10000 is written as two surrogates. -/
def unitsOf (character : Char) : List Nat :=
  if character.toNat < 0x10000 then
    [character.toNat]
  else
    [0xD800 + (character.toNat - 0x10000) / 0x400, 0xDC00 + (character.toNat - 0x10000) % 0x400]

def ByteOrder.bytesOf (order : ByteOrder) (unit : Nat) : Bytes :=
  match order with
  | .littleEndian => [UInt8.ofNat (unit % 256), UInt8.ofNat (unit / 256)]
  | .bigEndian => [UInt8.ofNat (unit / 256), UInt8.ofNat (unit % 256)]

def ByteOrder.mark : ByteOrder → Bytes
  | .littleEndian => [0xFF, 0xFE]
  | .bigEndian => [0xFE, 0xFF]

def utf16 (order : ByteOrder) (text : Text) : Bytes :=
  (text.flatMap unitsOf).flatMap order.bytesOf

theorem toNat_isValid (character : Char) : character.toNat < 0xD800 ∨
    0xE000 ≤ character.toNat ∧ character.toNat < 0x110000 :=
  character.valid

theorem lt_of_mem_unitsOf {character : Char} {unit : Nat} (member : unit ∈ unitsOf character) :
    unit < 0x10000 := by
  have valid := toNat_isValid character
  unfold unitsOf at member
  split_ifs at member with short
  · rw [List.mem_singleton] at member
    omega
  · rw [List.mem_pair] at member
    omega

theorem readUnits_bytesOf (order : ByteOrder) {units : List Nat}
    (bound : ∀ unit ∈ units, unit < 0x10000) :
    readUnits order (units.flatMap order.bytesOf) = some units := by
  induction units with
  | nil => rfl
  | cons unit units ih =>
      obtain ⟨small, later⟩ := List.forall_mem_cons.mp bound
      have low : (UInt8.ofNat (unit % 256)).toNat = unit % 256 :=
        UInt8.toNat_ofNat_of_lt' (Nat.mod_lt unit (by decide))
      have high : (UInt8.ofNat (unit / 256)).toNat = unit / 256 :=
        UInt8.toNat_ofNat_of_lt' (Nat.div_lt_of_lt_mul small)
      rw [List.flatMap_cons]
      cases order with
      | littleEndian =>
          change (readUnits .littleEndian (units.flatMap _)).bind _ = _
          rw [ih later, Option.bind_some, low, high, Nat.mod_add_div]
      | bigEndian =>
          change (readUnits .bigEndian (units.flatMap _)).bind _ = _
          rw [ih later, Option.bind_some, low, high, Nat.div_add_mod]

theorem readCharacters_plain {unit : Nat} (plain : unit < 0xD800 ∨ 0xE000 ≤ unit)
    (units : List Nat) :
    readCharacters (unit :: units) = (readCharacters units).map (Char.ofNat unit :: ·) := by
  have notHigh : isHighSurrogate unit = false := by
    unfold isHighSurrogate
    grind
  have notLow : isLowSurrogate unit = false := by
    unfold isLowSurrogate
    grind
  cases units with
  | nil =>
      unfold readCharacters
      rw [notHigh, notLow]
      rfl
  | cons follower rest =>
      rw [readCharacters, notHigh, notLow]
      cases readCharacters (follower :: rest) <;> rfl

theorem readCharacters_pair {high low : Nat} (isHigh : high < 0x400) (isLow : low < 0x400)
    (units : List Nat) :
    readCharacters ((0xD800 + high) :: (0xDC00 + low) :: units) =
      (readCharacters units).map (Char.ofNat (0x10000 + 0x400 * high + low) :: ·) := by
  have first : isHighSurrogate (0xD800 + high) = true := by
    unfold isHighSurrogate
    grind
  have second : isLowSurrogate (0xDC00 + low) = true := by
    unfold isLowSurrogate
    grind
  rw [readCharacters, if_pos first, if_pos second, Nat.add_sub_cancel_left,
    Nat.add_sub_cancel_left]
  cases readCharacters units <;> rfl

theorem readCharacters_unitsOf (text : Text) :
    readCharacters (text.flatMap unitsOf) = some text := by
  induction text with
  | nil => rfl
  | cons character rest ih =>
      have valid := toNat_isValid character
      rw [List.flatMap_cons]
      by_cases short : character.toNat < 0x10000
      · have alone : unitsOf character = [character.toNat] := if_pos short
        rw [alone, List.singleton_append, readCharacters_plain (by omega), ih, Char.ofNat_toNat]
        rfl
      · have pair : unitsOf character = [_, _] := if_neg short
        rw [pair, List.cons_append, List.singleton_append,
          readCharacters_pair (by omega) (by omega), ih, Nat.add_assoc, Nat.div_add_mod,
          Nat.add_sub_cancel' (by omega), Char.ofNat_toNat]
        rfl

theorem readUtf16_utf16 (order : ByteOrder) (text : Text) :
    readUtf16 order (utf16 order text) = some text := by
  have bound : ∀ unit ∈ text.flatMap unitsOf, unit < 0x10000 := by
    intro unit member
    obtain ⟨character, -, inside⟩ := List.mem_flatMap.mp member
    exact lt_of_mem_unitsOf inside
  unfold readUtf16 utf16
  rw [readUnits_bytesOf order bound]
  exact readCharacters_unitsOf text

/-! ## Windows-1252 -/

/-- The byte of a character, if it is one of the 256 that have one. -/
def windows1252Byte? (character : Char) : Option UInt8 :=
  if character.toNat < 0x80 ∨ 0xA0 ≤ character.toNat ∧ character.toNat < 0x100 then
    some (UInt8.ofNat character.toNat)
  else
    (windows1252High.idxOf? character.toNat).map fun index => UInt8.ofNat (0x80 + index)

def windows1252? (text : Text) : Option Bytes :=
  text.mapM windows1252Byte?

theorem readWindows1252Byte_of_byte {character : Char} {byte : UInt8}
    (written : windows1252Byte? character = some byte) : readWindows1252Byte byte = character := by
  unfold windows1252Byte? at written
  split_ifs at written with own
  · cases written
    have code : (UInt8.ofNat character.toNat).toNat = character.toNat :=
      UInt8.toNat_ofNat_of_lt' (show character.toNat < 256 by omega)
    unfold readWindows1252Byte
    rw [code, if_neg (by omega), Char.ofNat_toNat]
  · obtain ⟨index, listed, rfl⟩ := Option.map_eq_some_iff.mp written
    obtain ⟨inside, there, -⟩ := List.idxOf?_eq_some_iff.mp listed
    have bound : index < 32 := inside
    have code : (UInt8.ofNat (0x80 + index)).toNat = 0x80 + index :=
      UInt8.toNat_ofNat_of_lt' (show 0x80 + index < 256 by omega)
    unfold readWindows1252Byte
    rw [code, if_pos (by omega), Nat.add_sub_cancel_left, List.getD_eq_getElem?_getD,
      List.getElem?_eq_getElem inside, there, Option.getD_some, Char.ofNat_toNat]

theorem windows1252?_cons_eq_some_iff {character : Char} {rest : Text} {bytes : Bytes} :
    windows1252? (character :: rest) = some bytes ↔ ∃ byte others,
      windows1252Byte? character = some byte ∧ windows1252? rest = some others ∧
        bytes = byte :: others := by
  unfold windows1252?
  rw [List.mapM_cons]
  constructor
  · intro written
    obtain ⟨byte, first, written⟩ := Option.bind_eq_some_iff.mp written
    obtain ⟨others, later, same⟩ := Option.bind_eq_some_iff.mp written
    exact ⟨byte, others, first, later, (Option.some.inj same).symm⟩
  · rintro ⟨byte, others, first, later, rfl⟩
    rw [first, later]
    rfl

theorem readWindows1252_of_written {text : Text} {bytes : Bytes}
    (written : windows1252? text = some bytes) : readWindows1252 bytes = text := by
  induction text generalizing bytes with
  | nil =>
      cases written
      rfl
  | cons character rest ih =>
      obtain ⟨byte, others, first, later, rfl⟩ := windows1252?_cons_eq_some_iff.mp written
      change readWindows1252Byte byte :: readWindows1252 others = character :: rest
      rw [readWindows1252Byte_of_byte first, ih later]

-- The characters of the bytes 0x80 to 0x9F.
example : readWindows1252 ((List.range 32).map fun index => UInt8.ofNat (0x80 + index)) =
    "€\x81‚ƒ„…†‡ˆ‰Š‹Œ\x8dŽ\x8f\x90‘’“”•–—˜™š›œ\x9džŸ".toList := by
  decide

/-! ## Marks -/

def utf8Mark : Bytes :=
  [0xEF, 0xBB, 0xBF]

theorem utf8_byteOrderMark : Text.utf8 [byteOrderMark] = utf8Mark := by
  decide

def marks : List Bytes :=
  [utf8Mark, ByteOrder.mark .littleEndian, ByteOrder.mark .bigEndian]

def IsUnmarked (text : Text) : Prop :=
  text.head? ≠ some byteOrderMark

instance (text : Text) : Decidable (IsUnmarked text) :=
  inferInstanceAs (Decidable (text.head? ≠ some byteOrderMark))

theorem dropMark_of_isUnmarked {text : Text} (unmarked : IsUnmarked text) :
    dropMark text = text := by
  cases text with
  | nil => rfl
  | cons character rest => exact if_neg fun mark => unmarked (congrArg some mark)

/-- The byte order mark has no byte in Windows-1252. -/
theorem isUnmarked_of_windows1252 {text : Text} {bytes : Bytes}
    (written : windows1252? text = some bytes) : IsUnmarked text := by
  intro marked
  obtain ⟨rest, rfl⟩ := List.head?_eq_some_iff.mp marked
  obtain ⟨byte, -, first, -⟩ := windows1252?_cons_eq_some_iff.mp written
  have byteless : windows1252Byte? byteOrderMark = none := by decide
  rw [byteless] at first
  cases first

theorem readMarked_of_markless {bytes : Bytes} (markless : ∀ mark ∈ marks, ¬mark <+: bytes) :
    readMarked bytes = some (readWindows1252 bytes) := by
  unfold readMarked
  split
  · rename_i rest
    exact absurd (List.prefix_append utf8Mark rest) (markless utf8Mark (by decide))
  · rename_i rest
    exact absurd (List.prefix_append (ByteOrder.mark .littleEndian) rest)
      (markless _ (by decide))
  · rename_i rest
    exact absurd (List.prefix_append (ByteOrder.mark .bigEndian) rest) (markless _ (by decide))
  · rfl

/-! ## Files -/

/-- A file of these bytes holds the text. -/
inductive Holds : Bytes → Text → Prop
  | utf8 {text : Text} (unmarked : IsUnmarked text) : Holds (Text.utf8 text) text
  | markedUtf8 {text : Text} (unmarked : IsUnmarked text) : Holds (utf8Mark ++ Text.utf8 text) text
  | utf16 (order : ByteOrder) {text : Text} (unmarked : IsUnmarked text) :
      Holds (order.mark ++ utf16 order text) text
  | windows1252 {bytes : Bytes} {text : Text} (written : windows1252? text = some bytes)
      (foreign : ¬IsUtf8 bytes) (markless : ∀ mark ∈ marks, ¬mark <+: bytes) : Holds bytes text

theorem decode_of_readUtf8 {bytes : Bytes} {text : Text} (read : readUtf8 bytes = some text) :
    decode bytes = some (dropMark text) := by
  unfold decode readAny
  rw [read]
  rfl

theorem decode_of_foreign {bytes : Bytes} (foreign : ¬IsUtf8 bytes) :
    decode bytes = (readMarked bytes).map dropMark := by
  unfold decode readAny
  rw [readUtf8_eq_none_iff.mpr foreign]
  rfl

theorem decode_of_utf16 (order : ByteOrder) (text : Text) :
    decode (order.mark ++ utf16 order text) = some (dropMark text) := by
  have foreign : ¬IsUtf8 (order.mark ++ utf16 order text) := by
    cases order with
    | littleEndian => exact @not_isUtf8 0xFF (by decide) _
    | bigEndian => exact @not_isUtf8 0xFE (by decide) _
  have marked : readMarked (order.mark ++ utf16 order text) =
      readUtf16 order (utf16 order text) := by
    cases order with
    | littleEndian => rfl
    | bigEndian => rfl
  rw [decode_of_foreign foreign, marked, readUtf16_utf16]
  rfl

theorem decode_of_holds {bytes : Bytes} {text : Text} (held : Holds bytes text) :
    decode bytes = some text := by
  cases held with
  | utf8 unmarked =>
      rw [decode_of_readUtf8 (readUtf8_eq_some_iff.mpr rfl), dropMark_of_isUnmarked unmarked]
  | markedUtf8 unmarked =>
      -- The mark is UTF-8 itself, so the whole is read as one text with the mark in front.
      rw [← utf8_byteOrderMark, ← Text.utf8_append,
        decode_of_readUtf8 (readUtf8_eq_some_iff.mpr rfl)]
      rfl
  | utf16 order unmarked => rw [decode_of_utf16, dropMark_of_isUnmarked unmarked]
  | windows1252 written foreign markless =>
      rw [decode_of_foreign foreign, readMarked_of_markless markless, Option.map_some,
        readWindows1252_of_written written,
        dropMark_of_isUnmarked (isUnmarked_of_windows1252 written)]

end Encoding

/-- A file is read as the text it holds, under its label. -/
theorem Disk.reads_the_text_held (disk : Disk) (root path : Bytes) {bytes : Bytes} {text : Text}
    (content : disk.read path = .ok bytes) (held : Encoding.Holds bytes text) :
    disk.readSource root path = .ok ⟨Path.label root path, text⟩ := by
  unfold readSource
  simp only [content, Encoding.decode_of_holds held]

/-- A disk on which every file holds the same bytes. -/
def Disk.holding (bytes : Bytes) : Disk where
  walk _ := .ok []
  read _ := .ok bytes

/-- Two surrogates behind a mark, and two bytes that are Windows-1252 only. -/
theorem Disk.surrogates_and_high_bytes_are_read :
    (Disk.holding [0xFF, 0xFE, 0x3D, 0xD8, 0x00, 0xDE]).readSource [0x70] [0x70, 0x2F, 0x61] =
      .ok ⟨['a'], [Char.ofNat 0x1F600]⟩ ∧
    (Disk.holding [0x80, 0xE9]).readSource [0x70] [0x70, 0x2F, 0x61] =
      .ok ⟨['a'], [Char.ofNat 0x20AC, Char.ofNat 0xE9]⟩ := by
  constructor
  · exact Disk.reads_the_text_held _ _ _ rfl
      (@Encoding.Holds.utf16 .littleEndian [Char.ofNat 0x1F600] (by decide))
  · exact Disk.reads_the_text_held _ _ _ rfl
      (.windows1252 (by decide) (Encoding.not_isUtf8 (by decide) _) (by decide))

end ProcedureAtlas
