import ProcedureAtlas.Proofs.CommentScan
import ProcedureAtlas.Proofs.Readers
import ProcedureAtlas.Proofs.SmallLetters

/-!
# Scripts in small letters

What a script declares and calls does not depend on the case of its letters. Every reader does on
the script in small letters what it does on the script itself: it stops at the same place and reads
the same names, in small letters. This goes up from the readers of single characters to the header
and the calls of a whole script. Places are counted in characters and bytes, and neither count
changes.
-/

namespace ProcedureAtlas

set_option autoImplicit false

open Text

/-! ## Positions -/

def Passed.small (passed : Passed) : Passed where
  before := Text.small passed.before
  index := passed.index
  offset := passed.offset
  index_eq := by rw [length_small, passed.index_eq]
  offset_eq := by rw [byteLength_small, passed.offset_eq]

theorem Passed.add_small (passed : Passed) (character : Char) :
    passed.small.add character.toLower = (passed.add character).small :=
  Passed.eq_of_before_eq rfl

namespace Position

def small (position : Position) : Position :=
  ⟨position.toPassed.small, Text.small position.after⟩

theorem after_small (position : Position) : position.small.after = Text.small position.after := rfl

theorem before_small (position : Position) :
    position.small.before = Text.small position.before := rfl

theorem start_small (text : Text) : start (Text.small text) = (start text).small :=
  ext_of_parts rfl rfl

theorem pass_small (position : Position) (character : Char) (rest : Text) :
    position.small.pass character.toLower (Text.small rest) =
      (position.pass character rest).small :=
  ext_of_parts rfl rfl

theorem skipWhile_small {accept : Char → Bool} (blind : CaseBlind accept) (position : Position) :
    position.small.skipWhile accept = (position.skipWhile accept).small := by
  apply ext_of_parts
  · change (List.takeWhile accept (Text.small position.after)).reverse ++
      Text.small position.before = Text.small (_ ++ position.before)
    rw [takeWhile_small blind, small_append, small_reverse]
  · exact dropWhile_small blind position.after

theorem followsWord_small (position : Position) :
    position.small.followsWord = position.followsWord := by
  unfold followsWord
  rw [before_small]
  cases position.before with
  | nil => rfl
  | cons character rest => exact caseBlind_isWord character

theorem precedesWord_small (position : Position) :
    position.small.precedesWord = position.precedesWord := by
  unfold precedesWord
  rw [after_small]
  cases position.after with
  | nil => rfl
  | cons character rest => exact caseBlind_isWord character

/-! ## Readers -/

theorem readChar_small {expected : Char} (unlettered : IsUnlettered expected)
    (position : Position) :
    position.small.readChar expected = (position.readChar expected).map small := by
  unfold readChar
  rw [after_small]
  cases position.after with
  | nil => rfl
  | cons character rest =>
      simp only [small_cons, unlettered.toLower_eq_iff, pass_small]
      split <;> rfl

theorem skipChar_small {expected : Char} (unlettered : IsUnlettered expected)
    (position : Position) :
    position.small.skipChar expected = (position.skipChar expected).small := by
  unfold skipChar
  rw [readChar_small unlettered]
  cases position.readChar expected <;> rfl

theorem readLetters_small (letters : List Char) (position : Position) :
    position.small.readLetters letters = (position.readLetters letters).map small := by
  induction letters generalizing position with
  | nil => rfl
  | cons letter letters ih =>
      unfold readLetters
      rw [after_small]
      cases position.after with
      | nil => rfl
      | cons character rest =>
          simp only [small_cons, caseBlind_isLetter letter character, pass_small, ih]
          split <;> rfl

theorem readBlanks_small (position : Position) :
    position.small.readBlanks = position.readBlanks.map small := by
  unfold readBlanks
  rw [after_small, skipWhile_small caseBlind_isBlank]
  cases position.after with
  | nil => rfl
  | cons character rest =>
      simp only [small_cons, caseBlind_isBlank character]
      split <;> rfl

theorem readWord_small (position : Position) :
    position.small.readWord = position.readWord.map small := by
  unfold readWord
  rw [after_small, skipWhile_small caseBlind_isWord]
  cases position.after with
  | nil => rfl
  | cons character rest =>
      simp only [small_cons, caseBlind_isWord character]
      split <;> rfl

end Position

/-- Two readers in a row do on small letters what they do on the letters as they stand. -/
private theorem bind_small {First Second : Type} {small : First → First} {smaller : Second → Second}
    {read : Option First} {next nextSmall : First → Option Second}
    (agree : ∀ value, nextSmall (small value) = (next value).map smaller) :
    (read.map small).bind nextSmall = (read.bind next).map smaller := by
  cases read with
  | none => rfl
  | some value => exact agree value

private theorem or_small {Value : Type} {small : Value → Value} (first second : Option Value) :
    (first.map small).or (second.map small) = (first.or second).map small := by
  cases first <;> rfl

/-! ## Segments and targets -/

namespace Segment

def small (segment : Segment) : Segment :=
  ⟨segment.position.small, Text.small segment.name⟩

theorem read_small (position : Position) :
    read position.small = (read position).map (Prod.map small Position.small) := by
  unfold read
  simp only [Position.skipChar_small isUnlettered_opening, Position.after_small]
  cases (position.skipChar '[').after with
  | nil => rfl
  | cons character rest =>
      simp only [small_cons, caseBlind_isWord character, Position.pass_small,
        Position.skipWhile_small caseBlind_isSegmentPart,
        Position.skipChar_small isUnlettered_closing, takeWhile_small caseBlind_isSegmentPart]
      split <;> rfl

theorem readDotted_small (position : Position) :
    readDotted position.small = (readDotted position).map (Prod.map small Position.small) := by
  unfold readDotted
  rw [read_small]
  apply bind_small
  intro ⟨segment, stop⟩
  change (stop.small.readChar '.').bind _ = ((stop.readChar '.').bind _).map _
  rw [Position.readChar_small isUnlettered_dot]
  apply bind_small
  intro afterDot
  rfl

end Segment

namespace Target

def small (target : Target) : Target :=
  ⟨target.schema.map Segment.small, target.name.small, target.stop.small⟩

theorem readName_small (position : Position) :
    readName position.small = (readName position).map small := by
  unfold readName
  rw [Segment.read_small]
  apply bind_small
  intro found
  rfl

theorem readSchemaName_small (position : Position) :
    readSchemaName position.small = (readSchemaName position).map small := by
  unfold readSchemaName
  rw [Segment.readDotted_small]
  apply bind_small
  intro ⟨schema, afterSchema⟩
  change (Segment.read afterSchema.small).bind _ = ((Segment.read afterSchema).bind _).map _
  rw [Segment.read_small]
  apply bind_small
  intro name
  rfl

theorem readDotName_small (position : Position) :
    readDotName position.small = (readDotName position).map small := by
  unfold readDotName
  rw [Position.readChar_small isUnlettered_dot]
  apply bind_small
  intro afterDot
  exact readName_small afterDot

theorem readDatabaseName_small (position : Position) :
    readDatabaseName position.small = (readDatabaseName position).map small := by
  unfold readDatabaseName
  rw [Segment.readDotted_small]
  apply bind_small
  intro database
  exact readDotName_small database.2

theorem readDatabaseSchemaName_small (position : Position) :
    readDatabaseSchemaName position.small = (readDatabaseSchemaName position).map small := by
  unfold readDatabaseSchemaName
  rw [Segment.readDotted_small]
  apply bind_small
  intro database
  exact readSchemaName_small database.2

theorem readDeclared_small (position : Position) :
    readDeclared position.small = (readDeclared position).map small := by
  unfold readDeclared
  rw [readSchemaName_small, readName_small, or_small]

theorem readCalled_small (position : Position) :
    readCalled position.small = (readCalled position).map small := by
  unfold readCalled
  rw [readDatabaseSchemaName_small, readDatabaseName_small, readSchemaName_small,
    readDotName_small, readName_small, or_small, or_small, or_small, or_small]

theorem bare_schema_small (target : Target) :
    (target.small.schema.map fun segment => Identifier.bare segment.name) =
      (target.schema.map fun segment => Identifier.bare segment.name).map Text.small := by
  unfold small
  rw [Option.map_map, Option.map_map]
  cases target.schema with
  | none => rfl
  | some segment => exact congrArg some (Identifier.bare_small segment.name)

end Target

/-! ## Comments -/

theorem Comments.ofText_small (text : Text) : ofText (Text.small text) = ofText text := by
  have spans : (ofText (Text.small text)).spans.toList = (ofText text).spans.toList := by
    have cut : Lexeme.ofText (Text.small text) = (Lexeme.ofText text).map Lexeme.small :=
      Lexeme.cutFrom_small 0 text
    rw [spans_ofText, spans_ofText, cut, Lexeme.commentSpans_small]
  exact congrArg Comments.mk (Array.toList_inj.mp spans)

/-! ## Calls -/

def Call.small (call : Call) : Call :=
  ⟨call.schema.map Text.small, Text.small call.name, call.offset⟩

namespace CallMatch

def small (found : CallMatch) : CallMatch :=
  ⟨found.keyword.small, found.keywordStop.small, found.target.small⟩

theorem readKeyword_small (position : Position) :
    readKeyword position.small = (readKeyword position).map Position.small := by
  unfold readKeyword
  rw [Position.readLetters_small, Position.readLetters_small, or_small]

theorem readAssignment_small (position : Position) :
    readAssignment position.small = (readAssignment position).map Position.small := by
  have sigil : IsUnlettered '@' := isUnlettered_of_not_alpha (by decide)
  have sign : IsUnlettered '=' := isUnlettered_of_not_alpha (by decide)
  unfold readAssignment
  rw [Position.readChar_small sigil]
  apply bind_small
  intro variableStart
  rw [Position.readWord_small]
  apply bind_small
  intro variableStop
  rw [Position.skipWhile_small caseBlind_isBlank, Position.readChar_small sign]
  apply bind_small
  intro afterSign
  rw [Position.skipWhile_small caseBlind_isBlank]
  rfl

theorem at?_small (position : Position) :
    at? position.small = (at? position).map small := by
  unfold at?
  rw [readKeyword_small]
  apply bind_small
  intro keywordStop
  rw [Position.readBlanks_small]
  apply bind_small
  intro afterBlanks
  have assigned : (readAssignment afterBlanks.small).getD afterBlanks.small =
      ((readAssignment afterBlanks).getD afterBlanks).small := by
    rw [readAssignment_small]
    cases readAssignment afterBlanks <;> rfl
  rw [assigned, Target.readCalled_small]
  apply bind_small
  intro target
  rw [Position.followsWord_small]
  split <;> rfl

/-- The same at a place that a scan has reached. -/
theorem at?_small_eq {passed : Passed} {character : Char} {after : Text}
    {result : Option CallMatch} (matched : at? ⟨passed, character :: after⟩ = result) :
    at? ⟨passed.small, character.toLower :: Text.small after⟩ = result.map small := by
  rw [← matched]
  exact at?_small ⟨passed, character :: after⟩

theorem opensClause_small (found : CallMatch) : found.small.opensClause = found.opensClause := by
  unfold opensClause
  have word : found.small.keywordStop.skipWhile isBlank =
      (found.keywordStop.skipWhile isBlank).small :=
    Position.skipWhile_small caseBlind_isBlank found.keywordStop
  simp only [word, Position.readLetters_small, or_small]
  cases ((found.keywordStop.skipWhile isBlank).readLetters ['o', 'n']).or
    ((found.keywordStop.skipWhile isBlank).readLetters ['a', 's']) with
  | none => rfl
  | some stop => exact congrArg not (Position.precedesWord_small stop)

theorem isPrinted_small (found : CallMatch) : found.small.isPrinted = found.isPrinted := by
  have lineBlank : CaseBlind isLineBlank := caseBlind_of_letters (by decide)
  have line : Position.start found.small.keyword.before =
      (Position.start found.keyword.before).small :=
    Position.start_small found.keyword.before
  unfold isPrinted
  simp only [line, Position.skipWhile_small lineBlank, Position.readChar_small isUnlettered_quote]
  cases ((Position.start found.keyword.before).skipWhile isLineBlank).readChar '\'' with
  | none => rfl
  | some afterQuote =>
      simp only [Option.map_some, Position.skipWhile_small lineBlank, Position.readLetters_small]
      cases (afterQuote.skipWhile isLineBlank).readLetters ['t', 'n', 'i', 'r', 'p'] with
      | none => rfl
      | some stop => exact congrArg not (Position.precedesWord_small stop)

theorem isCall_small (comments : Comments) (found : CallMatch) :
    found.small.isCall comments = found.isCall comments := by
  have keyword : found.small.targetsKeyword = found.targetsKeyword := by
    unfold targetsKeyword
    change (sameLetters (Text.small found.target.name.name) _ ||
      sameLetters (Text.small found.target.name.name) _) = _
    rw [sameLetters_small, sameLetters_small]
  have commented : found.small.isCommented comments = found.isCommented comments := rfl
  unfold isCall
  rw [keyword, commented, opensClause_small, isPrinted_small]

theorem call_small (found : CallMatch) : found.small.call = found.call.small := by
  have schema := Target.bare_schema_small found.target
  have name := Identifier.bare_small found.target.name.name
  exact congrArg₂ (fun schema name => Call.mk schema name found.keyword.offset) schema name

theorem scanFrom_small (comments : Comments) (skip : Nat) (passed : Passed) (after : Text) :
    scanFrom comments skip passed.small (Text.small after) =
      (scanFrom comments skip passed after).map small := by
  fun_induction scanFrom comments skip passed after with
  | case1 => rfl
  | case2 skip passed character after ih =>
      rw [← Passed.add_small] at ih
      exact ih
  | case3 passed character after unmatched ih =>
      rw [small_cons, scanFrom_cons, at?_small_eq unmatched, Option.map_none, Passed.add_small,
        ← ih]
  | case4 passed character after found matched accepted ih =>
      rw [small_cons, scanFrom_cons, at?_small_eq matched, Option.map_some, Passed.add_small,
        List.map_cons, ← ih]
      simp only [isCall_small, accepted, if_true]
      rfl
  | case5 passed character after found matched rejected ih =>
      rw [small_cons, scanFrom_cons, at?_small_eq matched, Option.map_some, Passed.add_small,
        ← ih]
      simp only [isCall_small, rejected, if_false, Bool.false_eq_true]
      rfl

end CallMatch

theorem Call.ofScript_small (script : Text) :
    Call.ofScript (Text.small script) = (Call.ofScript script).map Call.small := by
  have scanned : CallMatch.scan (Text.small script) =
      (CallMatch.scan script).map CallMatch.small := by
    unfold CallMatch.scan
    rw [Comments.ofText_small]
    exact CallMatch.scanFrom_small (Comments.ofText script) 0 .nothing script
  unfold Call.ofScript
  rw [scanned, List.map_map, List.map_map]
  exact List.map_congr_left fun found _ => CallMatch.call_small found

/-! ## Headers -/

def Declaration.small (declaration : Declaration) : Declaration :=
  ⟨declaration.schema.map Text.small, Text.small declaration.name⟩

namespace HeaderMatch

def small (found : HeaderMatch) : HeaderMatch :=
  ⟨found.start.small, found.target.small⟩

theorem readOrAlter_small (position : Position) :
    readOrAlter position.small = (readOrAlter position).map Position.small := by
  unfold readOrAlter
  rw [Position.readBlanks_small]
  apply bind_small
  intro word
  rw [Position.readLetters_small]
  apply bind_small
  intro afterOr
  rw [Position.readBlanks_small]
  apply bind_small
  intro nextWord
  exact Position.readLetters_small _ nextWord

theorem readVerb_small (position : Position) :
    readVerb position.small = (readVerb position).map Position.small := by
  unfold readVerb
  rw [Position.readLetters_small, Position.readLetters_small]
  cases position.readLetters ['c', 'r', 'e', 'a', 't', 'e'] with
  | none => rfl
  | some stop =>
      simp only [Option.map_some, readOrAlter_small]
      cases readOrAlter stop <;> rfl

theorem readNoun_small (position : Position) :
    readNoun position.small = (readNoun position).map Position.small := by
  unfold readNoun
  rw [Position.readLetters_small, Position.readLetters_small, or_small]

theorem at?_small (position : Position) :
    at? position.small = (at? position).map small := by
  unfold at?
  rw [readVerb_small]
  apply bind_small
  intro afterVerb
  rw [Position.readBlanks_small]
  apply bind_small
  intro noun
  rw [readNoun_small]
  apply bind_small
  intro afterNoun
  rw [Position.readBlanks_small]
  apply bind_small
  intro name
  rw [Target.readDeclared_small]
  apply bind_small
  intro target
  rw [Position.followsWord_small]
  split <;> rfl

theorem at?_small_eq {passed : Passed} {character : Char} {after : Text}
    {result : Option HeaderMatch} (matched : at? ⟨passed, character :: after⟩ = result) :
    at? ⟨passed.small, character.toLower :: Text.small after⟩ = result.map small := by
  rw [← matched]
  exact at?_small ⟨passed, character :: after⟩

theorem declaration_small (found : HeaderMatch) :
    found.small.declaration = found.declaration.small := by
  have schema := Target.bare_schema_small found.target
  have name := Identifier.bare_small found.target.name.name
  exact congrArg₂ Declaration.mk schema name

theorem findFrom_small (comments : Comments) (skip : Nat) (passed : Passed) (after : Text) :
    findFrom comments skip passed.small (Text.small after) =
      (findFrom comments skip passed after).map small := by
  fun_induction findFrom comments skip passed after with
  | case1 => rfl
  | case2 skip passed character after ih =>
      rw [← Passed.add_small] at ih
      exact ih
  | case3 passed character after unmatched ih =>
      rw [small_cons, findFrom_cons, at?_small_eq unmatched, Option.map_none, Passed.add_small,
        ← ih]
  | case4 passed character after found matched covered ih =>
      have offset : found.small.start.offset = found.start.offset := rfl
      rw [small_cons, findFrom_cons, at?_small_eq matched, Option.map_some, Passed.add_small,
        ← ih]
      simp only [offset, covered, if_true]
      rfl
  | case5 passed character after found matched free =>
      have offset : found.small.start.offset = found.start.offset := rfl
      rw [small_cons, findFrom_cons, at?_small_eq matched, Option.map_some]
      simp only [offset, free, if_false, Bool.false_eq_true]

end HeaderMatch

theorem Declaration.ofScript?_small (script : Text) :
    Declaration.ofScript? (Text.small script) =
      (Declaration.ofScript? script).map Declaration.small := by
  have found : HeaderMatch.find? (Text.small script) =
      (HeaderMatch.find? script).map HeaderMatch.small := by
    unfold HeaderMatch.find?
    rw [Comments.ofText_small]
    exact HeaderMatch.findFrom_small (Comments.ofText script) 0 .nothing script
  unfold Declaration.ofScript?
  rw [found]
  cases HeaderMatch.find? script with
  | none => rfl
  | some header => exact congrArg some (HeaderMatch.declaration_small header)

end ProcedureAtlas
