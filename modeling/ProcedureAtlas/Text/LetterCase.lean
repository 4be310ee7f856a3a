import ProcedureAtlas.Text.Basic
import ProcedureAtlas.Text.CaseTables

/-!
# Letter case

Two texts are the same up to case when their lower-case forms are equal. The lower-case form is the
full one: a capital sigma becomes the final sigma at the end of a word, and the dotted capital I
becomes two characters. Texts of ASCII characters alone are compared letter by letter, which needs
no lower-case form; both routes are meant to give the same relation.

Keywords are matched letter by letter under simple case folding. Beyond the two ASCII cases this
adds one character each for the letters k and s.
-/

namespace ProcedureAtlas

set_option autoImplicit false

def isAscii (character : Char) : Bool :=
  character.toNat < 0x80

def capitalSigma : Char := Char.ofNat 0x3A3

def smallSigma : Char := Char.ofNat 0x3C3

def finalSigma : Char := Char.ofNat 0x3C2

def dottedCapitalI : Char := Char.ofNat 0x130

/-- The lower-case form of one character, away from the sigma rule. -/
def lowerCharacter (character : Char) : Text :=
  if isAscii character then
    [character.toLower]
  else if character = dottedCapitalI then
    ['i', Char.ofNat 0x307]
  else
    match lowerRuns.find? fun run => run.covers character.toNat with
    | some run => [Char.ofNat (Int.toNat (character.toNat + run.shift))]
    | none => [character]

/-- Whether the first character that is not passed over carries case. -/
def meetsCased (text : Text) : Bool :=
  match text.dropWhile caseIgnorableRanges.holds with
  | [] => false
  | character :: _ => casedRanges.holds character

/-- A sigma is final when a cased character precedes it and none follows; what precedes is given
nearest first. -/
def lowerSigma (before after : Text) : Char :=
  if meetsCased before && !meetsCased after then finalSigma else smallSigma

def lowerFrom (before : Text) : Text → Text
  | [] => []
  | character :: after =>
      (if character = capitalSigma then
        [lowerSigma before after]
      else
        lowerCharacter character) ++ lowerFrom (character :: before) after

namespace Text

def lower (text : Text) : Text :=
  lowerFrom [] text

def sameLetters (left right : Text) : Bool :=
  left.map Char.toLower == right.map Char.toLower

def sameUpToCase (left right : Text) : Bool :=
  if left.all isAscii && right.all isAscii then
    sameLetters left right
  else
    lower left == lower right

end Text

/-- Whether a character is the given small ASCII letter under simple case folding. -/
def isLetter (letter character : Char) : Bool :=
  character.toLower == letter
    || (letter == 'k' && character == Char.ofNat 0x212A)
    || (letter == 's' && character == Char.ofNat 0x17F)

end ProcedureAtlas
