import ProcedureAtlas.Script.Comment
import ProcedureAtlas.Script.Identifier
import ProcedureAtlas.Script.Target

/-!
# Procedure headers

A header is `CREATE`, `CREATE OR ALTER` or `ALTER`, then `PROC` or `PROCEDURE`, then the declared
name. The headers of a script are read from left to right and never overlap; the first one that
does not begin inside a comment declares the procedure. A header that begins in a comment takes its
whole extent with it, also where that extent leaves the comment.
-/

namespace ProcedureAtlas

set_option autoImplicit false

/-- A header that fits at `start`. -/
structure HeaderMatch where
  start : Position
  target : Target
deriving DecidableEq, Repr

structure Declaration where
  schema : Option Text
  name : Text
deriving DecidableEq, Repr

namespace HeaderMatch

def readOrAlter (position : Position) : Option Position := do
  let word ← position.readBlanks
  let afterOr ← word.readLetters ['o', 'r']
  let nextWord ← afterOr.readBlanks
  nextWord.readLetters ['a', 'l', 't', 'e', 'r']

def readVerb (position : Position) : Option Position :=
  match position.readLetters ['c', 'r', 'e', 'a', 't', 'e'] with
  | some stop => some ((readOrAlter stop).getD stop)
  | none => position.readLetters ['a', 'l', 't', 'e', 'r']

def readNoun (position : Position) : Option Position :=
  (position.readLetters ['p', 'r', 'o', 'c', 'e', 'd', 'u', 'r', 'e']).or
    (position.readLetters ['p', 'r', 'o', 'c'])

def at? (position : Position) : Option HeaderMatch := do
  let afterVerb ← readVerb position
  let noun ← afterVerb.readBlanks
  let afterNoun ← readNoun noun
  let name ← afterNoun.readBlanks
  let target ← Target.readDeclared name
  if position.followsWord then none else some ⟨position, target⟩

def length (found : HeaderMatch) : Nat :=
  found.target.stop.index - found.start.index

/-- The first uncommented header from here on, once `skip` characters have been passed over. -/
def findFrom (comments : Comments) : Nat → Passed → Text → Option HeaderMatch
  | _, _, [] => none
  | skip + 1, passed, character :: after =>
      findFrom comments skip (passed.add character) after
  | 0, passed, character :: after =>
      match at? ⟨passed, character :: after⟩ with
      | none => findFrom comments 0 (passed.add character) after
      | some found =>
          if comments.covers found.start.offset then
            findFrom comments (found.length - 1) (passed.add character) after
          else
            some found

def find? (script : Text) : Option HeaderMatch :=
  findFrom (Comments.ofText script) 0 .nothing script

def declaration (found : HeaderMatch) : Declaration where
  schema := found.target.schema.map fun segment => Identifier.bare segment.name
  name := Identifier.bare found.target.name.name

end HeaderMatch

def Declaration.ofScript? (script : Text) : Option Declaration :=
  (HeaderMatch.find? script).map HeaderMatch.declaration

end ProcedureAtlas
