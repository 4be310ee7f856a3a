import ProcedureAtlas.Text.WordRanges

/-!
# Word characters

Letters, marks, digits, connector punctuation and the join controls. A word begins where a word
character stands and none precedes it.
-/

namespace ProcedureAtlas

set_option autoImplicit false

def isWord (character : Char) : Bool :=
  if character.toNat < 0x80 then
    character.isAlphanum || character == '_'
  else
    wordRanges.holds character

end ProcedureAtlas
