import ProcedureAtlas.Folder.Pattern

/-!
# What a pattern accepts

`accepts` says token by token what a pattern stands for and tries every way to share a text out among
the tokens, so its cost may grow exponentially with the number of stars. `fits` works from the last
token to the first and keeps one verdict for every suffix of the text, so its cost grows with the
length of the pattern times that of the text. Main statement: the two agree.
-/

namespace ProcedureAtlas

set_option autoImplicit false

namespace Pattern

def inSet (set : List CharRange) (character : Char) : Bool :=
  set.any fun range => range.first.toNat ≤ character.toNat && character.toNat ≤ range.last.toNat

/-- A text and all that is left of it when characters are taken from its front. -/
def suffixes : Text → List Text
  | [] => [[]]
  | character :: rest => (character :: rest) :: suffixes rest

def behindSlashes : Text → List Text
  | [] => []
  | character :: rest =>
      if character = '/' then rest :: behindSlashes rest else behindSlashes rest

def takesOne (accept : Char → Bool) (goOn : Text → Bool) : Text → Bool
  | [] => false
  | character :: rest => accept character && goOn rest

def accepts : Pattern → Text → Bool
  | [], text => text.isEmpty
  | .exactly expected :: tokens, text => takesOne (· == expected) (accepts tokens) text
  | .anyCharacter :: tokens, text => takesOne (fun _ => true) (accepts tokens) text
  | .oneOf set :: tokens, text => takesOne (inSet set) (accepts tokens) text
  | .noneOf set :: tokens, text => takesOne (fun character => !inSet set character)
      (accepts tokens) text
  | .anyRun :: tokens, text => (suffixes text).any (accepts tokens)
  | .anyFolders :: tokens, text =>
      accepts tokens text || ((behindSlashes text).any (accepts tokens) || accepts tokens [])

/-- The verdicts of a token that takes one character. `later` holds those of the tokens behind it. -/
def oneVerdicts (accept : Char → Bool) : Text → List Bool → List Bool
  | [], _ => [false]
  | character :: rest, later =>
      (accept character && later.tail.headD false) :: oneVerdicts accept rest later.tail

def runVerdicts : Text → List Bool → List Bool
  | [], later => [later.headD false]
  | _ :: rest, later =>
      let behind := runVerdicts rest later.tail
      (later.headD false || behind.headD false) :: behind

/-- The verdicts of a token that takes any run which ends in a slash, or all that is left. -/
def slashVerdicts : Text → List Bool → List Bool
  | [], later => [later.headD false]
  | character :: rest, later =>
      let behind := slashVerdicts rest later.tail
      ((character == '/' && later.tail.headD false) || behind.headD false) :: behind

/-- Whether each suffix of a text is accepted, from the text itself to the empty one. -/
def verdicts : Pattern → Text → List Bool
  | [], text => (suffixes text).map List.isEmpty
  | .exactly expected :: tokens, text => oneVerdicts (· == expected) text (verdicts tokens text)
  | .anyCharacter :: tokens, text => oneVerdicts (fun _ => true) text (verdicts tokens text)
  | .oneOf set :: tokens, text => oneVerdicts (inSet set) text (verdicts tokens text)
  | .noneOf set :: tokens, text =>
      oneVerdicts (fun character => !inSet set character) text (verdicts tokens text)
  | .anyRun :: tokens, text => runVerdicts text (verdicts tokens text)
  | .anyFolders :: tokens, text =>
      let later := verdicts tokens text
      List.zipWith Bool.or later (slashVerdicts text later)

def fits (pattern : Pattern) (text : Text) : Bool :=
  (verdicts pattern text).headD false

end Pattern

end ProcedureAtlas
