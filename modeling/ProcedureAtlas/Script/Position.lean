import ProcedureAtlas.Text.Blank
import ProcedureAtlas.Text.LetterCase
import ProcedureAtlas.Text.Word

/-!
# Positions in a script

A position cuts a text in two: what has been read, nearest character first, and what is still to be
read. It keeps the number of characters and of bytes that have been read, so neither is counted
again. Readers take a position and give the one they stop at, or nothing where the text does not
fit. No reader loses a character, so every position reached from the start of a text spells that
text.
-/

namespace ProcedureAtlas

set_option autoImplicit false

/-- What has been read of a text, nearest character first, with its length in characters and in
bytes. -/
structure Passed where
  before : Text
  index : Nat
  offset : Nat
  index_eq : index = before.length
  offset_eq : offset = Text.byteLength before
deriving DecidableEq, Repr

namespace Passed

def nothing : Passed :=
  ⟨[], 0, 0, rfl, rfl⟩

def add (passed : Passed) (character : Char) : Passed where
  before := character :: passed.before
  index := passed.index + 1
  offset := character.utf8Size + passed.offset
  index_eq := by rw [passed.index_eq, List.length_cons]
  offset_eq := by rw [passed.offset_eq, Text.byteLength_cons]

def addRun (passed : Passed) (run : Text) : Passed where
  before := run.reverse ++ passed.before
  index := run.length + passed.index
  offset := Text.byteLength run + passed.offset
  index_eq := by rw [passed.index_eq, List.length_append, List.length_reverse]
  offset_eq := by rw [passed.offset_eq, Text.byteLength_append, Text.byteLength_reverse]

/-- The two lengths follow from the characters. -/
theorem eq_of_before_eq {left right : Passed} (same : left.before = right.before) :
    left = right := by
  obtain ⟨before, index, offset, index_eq, offset_eq⟩ := left
  obtain ⟨_, _, _, rfl, rfl⟩ := right
  subst same index_eq offset_eq
  rfl

end Passed

structure Position extends Passed where
  after : Text
deriving DecidableEq, Repr

namespace Position

def start (text : Text) : Position :=
  ⟨.nothing, text⟩

def text (position : Position) : Text :=
  position.before.reverse ++ position.after

/-- The position behind one more character, in front of `rest`. -/
def pass (position : Position) (character : Char) (rest : Text) : Position :=
  ⟨position.add character, rest⟩

def skipWhile (accept : Char → Bool) (position : Position) : Position :=
  ⟨position.addRun (position.after.takeWhile accept), position.after.dropWhile accept⟩

def readChar (expected : Char) (position : Position) : Option Position :=
  match position.after with
  | [] => none
  | character :: rest =>
      if character = expected then some (position.pass character rest) else none

def skipChar (expected : Char) (position : Position) : Position :=
  (position.readChar expected).getD position

/-- Reads the given small letters in any case. -/
def readLetters : List Char → Position → Option Position
  | [], position => some position
  | letter :: letters, position =>
      match position.after with
      | [] => none
      | character :: rest =>
          if isLetter letter character then
            readLetters letters (position.pass character rest)
          else
            none

def readBlanks (position : Position) : Option Position :=
  match position.after with
  | [] => none
  | character :: _ => if isBlank character then some (position.skipWhile isBlank) else none

def readWord (position : Position) : Option Position :=
  match position.after with
  | [] => none
  | character :: _ => if isWord character then some (position.skipWhile isWord) else none

def followsWord (position : Position) : Bool :=
  match position.before with
  | [] => false
  | character :: _ => isWord character

def precedesWord (position : Position) : Bool :=
  match position.after with
  | [] => false
  | character :: _ => isWord character

end Position

end ProcedureAtlas
