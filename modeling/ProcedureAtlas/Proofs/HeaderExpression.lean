import ProcedureAtlas.Proofs.CallExpression

/-!
# The expression of a header

A header is described by one expression with two groups, the schema and the name. As with calls the
reader goes forward only: behind the shorter of two readings of the verb or the noun stands a letter
or the word `OR`, and no header goes on there.
-/

namespace ProcedureAtlas

set_option autoImplicit false

namespace Expression

def orAlter : Expression :=
  both (atLeastOne isBlank) <| both (letters ['o', 'r']) <|
    both (atLeastOne isBlank) (letters ['a', 'l', 't', 'e', 'r'])

def verb : Expression :=
  either (both (letters ['c', 'r', 'e', 'a', 't', 'e']) (optional orAlter))
    (letters ['a', 'l', 't', 'e', 'r'])

def noun : Expression :=
  both (letters ['p', 'r', 'o', 'c']) (optional (letters ['e', 'd', 'u', 'r', 'e']))

def declared : Expression :=
  both (optional (dotted 1)) (segment 2)

/-- In the usual notation, in any letter case: `\b(?:CREATE(?:\s+OR\s+ALTER)?|ALTER)\s+`, and behind
it `PROC(?:EDURE)?\s+(?:\[?(\w[\w-]*)\]?\.)?\[?(\w[\w-]*)\]?`. -/
def header : Expression :=
  both boundary <| both verb <| both (atLeastOne isBlank) <| both noun <|
    both (atLeastOne isBlank) declared

end Expression

def HeaderMatch.ofReading? (start : Position) (reading : Reading) : Option HeaderMatch := do
  let name ← reading.groups 2
  some ⟨start, ⟨(reading.groups 1).map Stretch.segment, name.segment, reading.position⟩⟩

namespace Position

variable {position stop : Position} {letter : Char} {word : List Char}

theorem readLetters_eq_none {character : Char} {rest : Text}
    (after : position.after = character :: rest) (other : isLetter letter character = false) :
    position.readLetters (letter :: word) = none := by
  rw [readLetters, after]
  simp only [other, Bool.false_eq_true, if_false]

theorem exists_first_of_readLetters (read : position.readLetters (letter :: word) = some stop) :
    ∃ character rest, position.after = character :: rest ∧ isLetter letter character = true := by
  obtain ⟨run, reads, spelled⟩ := reads_of_readLetters read
  cases spelled with
  | @cons _ character _ rest fits _ => exact ⟨character, rest ++ stop.after, reads.after, fits⟩

theorem readLetters_eq_none_of_blank (small : letter.isLower = true)
    (meets : ¬position.Shuns isBlank) : position.readLetters (letter :: word) = none := by
  obtain ⟨character, rest, after, blank⟩ := exists_of_not_shuns meets
  apply readLetters_eq_none after
  rw [Bool.eq_false_iff]
  intro fits
  have word := isWord_of_isLetter small fits
  rw [not_word_of_blank blank] at word
  cases word

/-- A character is one letter only. -/
theorem readLetters_eq_none_of_other {other : Char} {others : List Char}
    (read : position.readLetters (letter :: word) = some stop)
    (apart : ∀ character, isLetter letter character = true → isLetter other character = false) :
    position.readLetters (other :: others) = none := by
  obtain ⟨character, rest, after, fits⟩ := exists_first_of_readLetters read
  exact readLetters_eq_none after (apart character fits)

end Position

theorem Target.readDeclared_eq_none {position : Position}
    (shuns : position.Shuns Target.canBegin) : Target.readDeclared position = none := by
  have segment := Segment.read_eq_none shuns
  simp [readDeclared, readSchemaName, readName, Segment.readDotted, segment]

namespace Expression

variable {Result : Type} {next : Reading → Option Result} {here : Reading}

/-! ## The declared name -/

def finishHeader (start : Position) (reading : Reading) : Option (Option HeaderMatch) :=
  some (HeaderMatch.ofReading? start reading)

def completeHeader (start : Position) (target : Target) : Option HeaderMatch :=
  some ⟨start, target⟩

variable {start : Position}

private theorem followedBy_declared_name (here : Reading) :
    (segment 2).followedBy (finishHeader start) here =
      (Segment.read here.position).map fun (name, stop) =>
        completeHeader start ⟨(here.groups 1).map Stretch.segment, name, stop⟩ := by
  rw [followedBy_segment (Or.inl fun _ => rfl)]
  cases read : Segment.read here.position with
  | none => rfl
  | some found =>
      obtain ⟨name, stop⟩ := found
      have written : name.stretch.segment = name := Segment.segment_stretch read
      have first : (here.withSegment 2 name stop).groups 1 = here.groups 1 := rfl
      have last : (here.withSegment 2 name stop).groups 2 = some name.stretch := rfl
      simp only [Option.bind_some, Option.map_some, finishHeader, completeHeader,
        HeaderMatch.ofReading?, Option.bind_eq_bind, first, last, written]
      rfl

theorem followedBy_declared (fresh : here.groups 1 = none) :
    declared.followedBy (finishHeader start) here =
      (Target.readDeclared here.position).map (completeHeader start) := by
  rw [declared, followedBy_both, followedBy_optional, followedBy_dotted,
    followedBy_declared_name here, Target.readDeclared, Option.map_or]
  congr 1
  · rw [Target.readSchemaName]
    cases read : Segment.readDotted here.position with
    | none => rfl
    | some found =>
        obtain ⟨schema, afterSchema⟩ := found
        have kept : ((here.withSegment 1 schema afterSchema).groups 1).map Stretch.segment =
            some schema :=
          congrArg some (Segment.segment_stretch_of_dotted read)
        simp only [Option.bind_some, Option.bind_eq_bind]
        rw [followedBy_declared_name (here.withSegment 1 schema afterSchema), kept]
        change (Segment.read afterSchema).map _ = _
        cases Segment.read afterSchema with
        | none => rfl
        | some found => rfl
  · rw [fresh, Target.readName]
    cases Segment.read here.position with
    | none => rfl
    | some found => rfl

/-! ## Nouns and verbs -/

theorem followedBy_behind_noun (fresh : here.groups 1 = none) :
    (both (atLeastOne isBlank) declared).followedBy (finishHeader start) here =
      here.position.readBlanks.bind fun name =>
        (Target.readDeclared name).map (completeHeader start) := by
  have target (position : Position) : declared.followedBy (finishHeader start)
      (here.moveTo position) = (Target.readDeclared position).map (completeHeader start) :=
    @followedBy_declared (here.moveTo position) start fresh
  have stops : StopsAt (declared.followedBy (finishHeader start)) here isBlank := by
    intro position meets
    obtain ⟨character, rest, after, blank⟩ := Position.exists_of_not_shuns meets
    rw [target, Target.readDeclared_eq_none, Option.map_none]
    intro first others split
    rw [after] at split
    rw [← (List.cons.inj split).1]
    exact not_canBegin_of_blank blank
  rw [followedBy_both, followedBy_blanks stops]
  congr 1
  funext name
  exact target name

theorem followedBy_noun (fresh : here.groups 1 = none) :
    (both noun (both (atLeastOne isBlank) declared)).followedBy (finishHeader start) here =
      (HeaderMatch.readNoun here.position).bind fun afterNoun =>
        afterNoun.readBlanks.bind fun name =>
          (Target.readDeclared name).map (completeHeader start) := by
  have behind (position : Position) : (both (atLeastOne isBlank) declared).followedBy
      (finishHeader start) (here.moveTo position) = position.readBlanks.bind fun name =>
        (Target.readDeclared name).map (completeHeader start) :=
    @followedBy_behind_noun (here.moveTo position) start fresh
  rw [followedBy_both, noun, followedBy_spellings (by decide)]
  · exact congrArg _ (funext behind)
  · intro position solid
    rw [behind, solid, Option.bind_none]

theorem followedBy_orAlter (next : Reading → Option Result) (here : Reading) :
    orAlter.followedBy next here =
      (HeaderMatch.readOrAlter here.position).bind fun stop => next (here.moveTo stop) := by
  have alters (position : Position) :
      StopsAt ((letters ['a', 'l', 't', 'e', 'r']).followedBy next) (here.moveTo position)
        isBlank := by
    intro other meets
    rw [followedBy_letters]
    exact congrArg (Option.bind · _) (Position.readLetters_eq_none_of_blank (by decide) meets)
  have ors : StopsAt ((both (letters ['o', 'r'])
      (both (atLeastOne isBlank) (letters ['a', 'l', 't', 'e', 'r']))).followedBy next) here
        isBlank := by
    intro other meets
    rw [followedBy_both, followedBy_letters]
    exact congrArg (Option.bind · _) (Position.readLetters_eq_none_of_blank (by decide) meets)
  rw [orAlter, followedBy_both, followedBy_blanks ors, HeaderMatch.readOrAlter]
  simp only [Option.bind_eq_bind, Option.bind_assoc]
  congr 1
  funext word
  rw [followedBy_both, followedBy_letters]
  congr 1
  funext afterOr
  change (both (atLeastOne isBlank) (letters ['a', 'l', 't', 'e', 'r'])).followedBy next
    (here.moveTo afterOr) = _
  rw [followedBy_both, followedBy_blanks (alters afterOr)]
  congr 1
  funext nextWord
  exact followedBy_letters next _ _

/-- Behind `CREATE` stand blanks and `OR` only if the longer verb was meant. -/
theorem followedBy_verb
    (longer : ∀ position stop : Position, HeaderMatch.readOrAlter position = some stop →
      next (here.moveTo position) = none) :
    verb.followedBy next here =
      (HeaderMatch.readVerb here.position).bind fun stop => next (here.moveTo stop) := by
  rw [verb, followedBy_either, followedBy_both, followedBy_letters, followedBy_letters,
    HeaderMatch.readVerb]
  cases create : here.position.readLetters ['c', 'r', 'e', 'a', 't', 'e'] with
  | none => rfl
  | some short =>
      have noAlter : here.position.readLetters ['a', 'l', 't', 'e', 'r'] = none := by
        apply Position.readLetters_eq_none_of_other create
        intro character letter
        have lowered : character.toLower = 'c' := by simpa [isLetter] using letter
        simp [isLetter, lowered]
      rw [noAlter, Option.bind_none, Option.or_none, Option.bind_some, followedBy_optional,
        followedBy_orAlter]
      change ((HeaderMatch.readOrAlter short).bind fun stop => next (here.moveTo stop)).or
        (next (here.moveTo short)) =
          next (here.moveTo ((HeaderMatch.readOrAlter short).getD short))
      cases read : HeaderMatch.readOrAlter short with
      | none => rfl
      | some long =>
          rw [longer short long read, Option.or_none]
          rfl

theorem readNoun_eq_none_of_readOrAlter {position stop : Position}
    (read : HeaderMatch.readOrAlter position = some stop) :
    ∃ word, position.readBlanks = some word ∧ HeaderMatch.readNoun word = none := by
  simp only [HeaderMatch.readOrAlter, Option.bind_eq_bind, Option.bind_eq_some_iff] at read
  obtain ⟨word, blanks, _, either, -⟩ := read
  have apart : ∀ character, isLetter 'o' character = true → isLetter 'p' character = false := by
    intro character letter
    have lowered : character.toLower = 'o' := by simpa [isLetter] using letter
    simp [isLetter, lowered]
  refine ⟨word, blanks, ?_⟩
  rw [HeaderMatch.readNoun, Position.readLetters_eq_none_of_other either apart,
    Position.readLetters_eq_none_of_other either apart]
  rfl

theorem precedesWord_of_readVerb {position stop : Position}
    (read : HeaderMatch.readVerb position = some stop) : position.precedesWord = true := by
  have first : ∃ letter character rest, letter.isLower = true ∧
      position.after = character :: rest ∧ isLetter letter character = true := by
    rw [HeaderMatch.readVerb] at read
    split at read
    · rename_i short create
      obtain ⟨character, rest, after, fits⟩ := Position.exists_first_of_readLetters create
      exact ⟨'c', character, rest, by decide, after, fits⟩
    · obtain ⟨character, rest, after, fits⟩ := Position.exists_first_of_readLetters read
      exact ⟨'a', character, rest, by decide, after, fits⟩
  obtain ⟨letter, character, rest, small, after, fits⟩ := first
  rw [Position.precedesWord, after]
  exact isWord_of_isLetter small fits

/-! ## Headers -/

theorem followedBy_header (position : Position) :
    header.followedBy (finishHeader position) (.begin position) =
      (HeaderMatch.at? position).map some := by
  have nouns (other : Position) :
      (both noun (both (atLeastOne isBlank) declared)).followedBy (finishHeader position)
          ((Reading.begin position).moveTo other) =
        (HeaderMatch.readNoun other).bind fun afterNoun =>
          afterNoun.readBlanks.bind fun name =>
            (Target.readDeclared name).map (completeHeader position) :=
    @followedBy_noun ((Reading.begin position).moveTo other) position rfl
  have stops (other : Position) :
      StopsAt ((both noun (both (atLeastOne isBlank) declared)).followedBy (finishHeader position))
        ((Reading.begin position).moveTo other) isBlank := by
    intro blank meets
    change (both noun (both (atLeastOne isBlank) declared)).followedBy (finishHeader position)
      ((Reading.begin position).moveTo blank) = none
    rw [nouns, HeaderMatch.readNoun, Position.readLetters_eq_none_of_blank (by decide) meets,
      Position.readLetters_eq_none_of_blank (by decide) meets]
    rfl
  have behind (other : Position) :
      (both (atLeastOne isBlank) (both noun (both (atLeastOne isBlank) declared))).followedBy
          (finishHeader position) ((Reading.begin position).moveTo other) =
        other.readBlanks.bind fun word => (HeaderMatch.readNoun word).bind fun afterNoun =>
          afterNoun.readBlanks.bind fun name =>
            (Target.readDeclared name).map (completeHeader position) := by
    rw [followedBy_both, followedBy_blanks (stops other)]
    exact congrArg _ (funext nouns)
  rw [header, followedBy_both, followedBy_boundary, followedBy_both, followedBy_verb,
    HeaderMatch.at?]
  · change (if position.followsWord != position.precedesWord then
      (HeaderMatch.readVerb position).bind _ else none) = _
    cases read : HeaderMatch.readVerb position with
    | none => simp
    | some afterVerb =>
        -- A word character follows, so this is a boundary exactly if none goes before.
        rw [precedesWord_of_readVerb read]
        simp only [Option.bind_some, Option.bind_eq_bind, behind]
        cases position.followsWord with
        | true => simp
        | false =>
            simp [Option.map_eq_bind, Option.bind_assoc, Function.comp_def, completeHeader]
  · intro other stop longer
    obtain ⟨word, blanks, noNoun⟩ := readNoun_eq_none_of_readOrAlter longer
    rw [behind, blanks, Option.bind_some, noNoun, Option.bind_none]

end Expression

namespace HeaderMatch

theorem map_ofReading?_match? (position : Position) :
    (Expression.header.match? position).map (ofReading? position) = (at? position).map some :=
  (Expression.header.match?_eq position (ofReading? position)).trans
    (Expression.followedBy_header position)

/-- The reader of headers gives what the groups of the match give, and it fails only where there is
no match. -/
theorem at?_eq_match? (position : Position) :
    at? position = (Expression.header.match? position).bind (ofReading? position) := by
  have whole := congrArg (Option.bind · id) (map_ofReading?_match? position)
  simpa [Option.bind_map, Function.comp_def] using whole.symm

end HeaderMatch

end ProcedureAtlas
