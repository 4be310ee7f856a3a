import ProcedureAtlas.Script.Comment
import ProcedureAtlas.Script.Identifier
import ProcedureAtlas.Script.Target

/-!
# Call sites

A call is `EXEC` or `EXECUTE`, blanks, at most one assignment `@variable =`, and the called name.
Four things are no calls although they read like one: a target that is itself one of the two
keywords, a keyword or target that begins in a comment, a keyword followed by `ON` or `AS`, and a
keyword written directly behind `print '` on its line.

The scan goes from left to right. Behind a call it goes on where the call ends; behind something
that only reads like a call it goes on where the keyword ends, because the real call may begin
inside the rest.
-/

namespace ProcedureAtlas

set_option autoImplicit false

/-- A keyword with its target, before it is known whether this is a call. -/
structure CallMatch where
  keyword : Position
  keywordStop : Position
  target : Target
deriving DecidableEq, Repr

structure Call where
  schema : Option Text
  name : Text
  offset : Nat
deriving DecidableEq, Repr

namespace CallMatch

def execLetters : List Char := ['e', 'x', 'e', 'c']

def executeLetters : List Char := ['e', 'x', 'e', 'c', 'u', 't', 'e']

def readKeyword (position : Position) : Option Position :=
  (position.readLetters executeLetters).or (position.readLetters execLetters)

/-- Reads `@variable =` and the blanks behind it. -/
def readAssignment (position : Position) : Option Position := do
  let variableStart ← position.readChar '@'
  let variableStop ← variableStart.readWord
  let afterSign ← (variableStop.skipWhile isBlank).readChar '='
  some (afterSign.skipWhile isBlank)

def at? (position : Position) : Option CallMatch := do
  let keywordStop ← readKeyword position
  let afterBlanks ← keywordStop.readBlanks
  let target ← Target.readCalled ((readAssignment afterBlanks).getD afterBlanks)
  if position.followsWord then none else some ⟨position, keywordStop, target⟩

def targetsKeyword (found : CallMatch) : Bool :=
  Text.sameLetters found.target.name.name execLetters
    || Text.sameLetters found.target.name.name executeLetters

def isCommented (comments : Comments) (found : CallMatch) : Bool :=
  comments.covers found.keyword.offset || comments.covers found.target.name.position.offset

/-- Whether the word behind the keyword is `ON` or `AS`. -/
def opensClause (found : CallMatch) : Bool :=
  let word := found.keywordStop.skipWhile isBlank
  match (word.readLetters ['o', 'n']).or (word.readLetters ['a', 's']) with
  | some stop => !stop.precedesWord
  | none => false

/-- A blank that does not end a line. -/
def isLineBlank (character : Char) : Bool :=
  isBlank character && character != '\n'

/-- Whether the line up to the keyword ends in `print '`; the line is read backwards. -/
def isPrinted (found : CallMatch) : Bool :=
  let quote := (Position.start found.keyword.before).skipWhile isLineBlank
  match quote.readChar '\'' with
  | none => false
  | some afterQuote =>
      match (afterQuote.skipWhile isLineBlank).readLetters ['t', 'n', 'i', 'r', 'p'] with
      | none => false
      | some stop => !stop.precedesWord

def isCall (comments : Comments) (found : CallMatch) : Bool :=
  !found.targetsKeyword && !found.isCommented comments && !found.opensClause && !found.isPrinted

def call (found : CallMatch) : Call where
  schema := found.target.schema.map fun segment => Identifier.bare segment.name
  name := Identifier.bare found.target.name.name
  offset := found.keyword.offset

/-- The number of characters up to the end of the keyword. -/
def keywordLength (found : CallMatch) : Nat :=
  found.keywordStop.index - found.keyword.index

/-- The number of characters up to the end of the target. -/
def length (found : CallMatch) : Nat :=
  found.target.stop.index - found.keyword.index

/-- The calls from here on, once `skip` characters have been passed over. -/
def scanFrom (comments : Comments) : Nat → Passed → Text → List CallMatch
  | _, _, [] => []
  | skip + 1, passed, character :: after =>
      scanFrom comments skip (passed.add character) after
  | 0, passed, character :: after =>
      match at? ⟨passed, character :: after⟩ with
      | none => scanFrom comments 0 (passed.add character) after
      | some found =>
          if found.isCall comments then
            found :: scanFrom comments (found.length - 1) (passed.add character) after
          else
            scanFrom comments (found.keywordLength - 1) (passed.add character) after

def scan (script : Text) : List CallMatch :=
  scanFrom (Comments.ofText script) 0 .nothing script

end CallMatch

def Call.ofScript (script : Text) : List Call :=
  (CallMatch.scan script).map CallMatch.call

end ProcedureAtlas
