import ProcedureAtlas.Text.Basic

/-!
# Encodings

Bytes that are UTF-8 are read as UTF-8. Other bytes are read by the byte order mark they begin with:
UTF-16 in either order, or UTF-8 behind its mark. Bytes without a mark are read as Windows-1252,
where each byte is one character and nothing is malformed. One byte order mark that is left in front
of the text is dropped.
-/

namespace ProcedureAtlas

set_option autoImplicit false

namespace Encoding

inductive ByteOrder where
  | littleEndian
  | bigEndian
deriving DecidableEq, Repr

def byteOrderMark : Char := Char.ofNat 0xFEFF

def readUtf8 (bytes : Bytes) : Option Text :=
  (ByteArray.utf8Decode? bytes.toByteArray).map Array.toList

/-- Two bytes each; a byte that is left over is malformed. -/
def readUnits (order : ByteOrder) : Bytes → Option (List Nat)
  | [] => some []
  | [_] => none
  | first :: second :: rest => do
      let units ← readUnits order rest
      let unit := match order with
        | .littleEndian => first.toNat + 256 * second.toNat
        | .bigEndian => 256 * first.toNat + second.toNat
      some (unit :: units)

def isHighSurrogate (unit : Nat) : Bool :=
  0xD800 ≤ unit && unit < 0xDC00

def isLowSurrogate (unit : Nat) : Bool :=
  0xDC00 ≤ unit && unit < 0xE000

/-- A surrogate without its partner is malformed. -/
def readCharacters : List Nat → Option Text
  | [] => some []
  | [unit] =>
      if isHighSurrogate unit || isLowSurrogate unit then none else some [Char.ofNat unit]
  | unit :: follower :: rest =>
      if isHighSurrogate unit then
        if isLowSurrogate follower then do
          let characters ← readCharacters rest
          some (Char.ofNat (0x10000 + 0x400 * (unit - 0xD800) + (follower - 0xDC00)) :: characters)
        else
          none
      else if isLowSurrogate unit then
        none
      else do
        let characters ← readCharacters (follower :: rest)
        some (Char.ofNat unit :: characters)

def readUtf16 (order : ByteOrder) (bytes : Bytes) : Option Text := do
  let units ← readUnits order bytes
  readCharacters units

/-- The Windows-1252 characters of the bytes 0x80 to 0x9F. Bytes without a character of their own
keep their value. -/
def windows1252High : List Nat :=
  [0x20AC, 0x81, 0x201A, 0x192, 0x201E, 0x2026, 0x2020, 0x2021, 0x2C6, 0x2030, 0x160, 0x2039,
   0x152, 0x8D, 0x17D, 0x8F, 0x90, 0x2018, 0x2019, 0x201C, 0x201D, 0x2022, 0x2013, 0x2014, 0x2DC,
   0x2122, 0x161, 0x203A, 0x153, 0x9D, 0x17E, 0x178]

def readWindows1252Byte (byte : UInt8) : Char :=
  if 0x80 ≤ byte.toNat ∧ byte.toNat < 0xA0 then
    Char.ofNat (windows1252High.getD (byte.toNat - 0x80) 0)
  else
    Char.ofNat byte.toNat

def readWindows1252 (bytes : Bytes) : Text :=
  bytes.map readWindows1252Byte

/-- Reads bytes that are not UTF-8. -/
def readMarked : Bytes → Option Text
  | 0xEF :: 0xBB :: 0xBF :: rest => readUtf8 rest
  | 0xFF :: 0xFE :: rest => readUtf16 .littleEndian rest
  | 0xFE :: 0xFF :: rest => readUtf16 .bigEndian rest
  | bytes => some (readWindows1252 bytes)

def readAny (bytes : Bytes) : Option Text :=
  (readUtf8 bytes).or (readMarked bytes)

def dropMark : Text → Text
  | [] => []
  | character :: rest => if character = byteOrderMark then rest else character :: rest

/-- The text that a file holds, or nothing where its bytes are malformed. -/
def decode (bytes : Bytes) : Option Text :=
  (readAny bytes).map dropMark

end Encoding

end ProcedureAtlas
