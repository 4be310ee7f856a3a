import ProcedureAtlas.Folder.Encoding

/-!
# Names on a disk

Names and paths on a disk are bytes. Most are the UTF-8 form of a text, but nothing makes them so.
Bytes that are not UTF-8 can still be shown: characters are read as long as that is possible, and
where none can be read a mark stands for the bytes that begin one and break off, or for a single
byte that begins none.
-/

namespace ProcedureAtlas.Bytes

set_option autoImplicit false

def character? (bytes : Bytes) : Option Char :=
  ByteArray.utf8DecodeChar? (bytes.take 4).toByteArray 0

def replacement : Char := Char.ofNat 0xFFFD

def isWithin (low high byte : UInt8) : Bool :=
  low ≤ byte && byte ≤ high

def continues (byte : UInt8) : Bool :=
  isWithin 0x80 0xBF byte

/-- Whether a character of three or four bytes can begin with these two. -/
def canBegin (first second : UInt8) : Bool :=
  if first = 0xE0 then
    isWithin 0xA0 0xBF second
  else if first = 0xED then
    isWithin 0x80 0x9F second
  else if first = 0xF0 then
    isWithin 0x90 0xBF second
  else if first = 0xF4 then
    isWithin 0x80 0x8F second
  else
    isWithin 0xE1 0xF3 first && continues second

/-- The number of bytes that one mark stands for, where no character can be read. -/
def brokenLength : Bytes → Nat
  | first :: second :: third :: _ =>
      if !canBegin first second then
        1
      else if isWithin 0xF0 0xF4 first && continues third then
        3
      else
        2
  | [first, second] => if canBegin first second then 2 else 1
  | _ => 1

/-- What is shown of the bytes behind the first `skipped`. -/
def shownBehind : Nat → Bytes → Text
  | _, [] => []
  | skipped + 1, _ :: rest => shownBehind skipped rest
  | 0, first :: rest =>
      match character? (first :: rest) with
      | some character => character :: shownBehind (character.utf8Size - 1) rest
      | none => replacement :: shownBehind (brokenLength (first :: rest) - 1) rest

def shown (bytes : Bytes) : Text :=
  shownBehind 0 bytes

end ProcedureAtlas.Bytes
