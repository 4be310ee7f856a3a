import ProcedureAtlas.Proofs.CallSites
import ProcedureAtlas.Proofs.Expression

/-!
# The expression of a call

A call is described by one expression with five groups: the keyword, two segments in front of the
name of which the first may be a database, a dot that stands for an empty schema, and the name. The
reader of calls goes forward only, and still finds the match: at every point of the expression what
follows either fails in front of all shorter runs or does not care.
-/

namespace ProcedureAtlas

set_option autoImplicit false

namespace Expression

/-- A segment with its brackets; the group is the name between them. -/
def segment (number : Nat) : Expression :=
  both (optional (char '[')) <|
    both (group number (both (one isWord) (many isSegmentPart))) (optional (char ']'))

def dotted (number : Nat) : Expression :=
  both (segment number) (char '.')

def called : Expression :=
  both (optional (dotted 2)) <|
    both (optional (either (dotted 3) (group 4 (char '.')))) (segment 5)

def assignment : Expression :=
  both (char '@') <| both (atLeastOne isWord) <|
    both (many isBlank) <| both (char '=') (many isBlank)

def keyword : Expression :=
  group 1 (both (letters CallMatch.execLetters) (optional (letters ['u', 't', 'e'])))

/-- In the usual notation, in any letter case: `\b(EXEC(?:UTE)?)\s+(?:@\w+\s*=\s*)?`, and behind it
`(?:\[?(\w[\w-]*)\]?\.)?(?:\[?(\w[\w-]*)\]?\.|(\.))?\[?(\w[\w-]*)\]?`. -/
def call : Expression :=
  both boundary <| both keyword <| both (atLeastOne isBlank) <| both (optional assignment) called

end Expression

def Segment.stretch (segment : Segment) : Stretch :=
  ⟨segment.position, segment.position.skipWhile isSegmentPart⟩

def Stretch.segment (stretch : Stretch) : Segment :=
  ⟨stretch.start, stretch.text⟩

/-- The schema is the segment right before the name; there is none if only a dot stands there. -/
def Reading.schema (reading : Reading) : Option Segment :=
  match reading.groups 3, reading.groups 4, reading.groups 2 with
  | some schema, _, _ => some schema.segment
  | none, some _, _ => none
  | none, none, first => first.map Stretch.segment

def CallMatch.ofReading? (reading : Reading) : Option CallMatch := do
  let keyword ← reading.groups 1
  let name ← reading.groups 5
  some ⟨keyword.start, keyword.stop, ⟨reading.schema, name.segment, reading.position⟩⟩

/-! ## Segments -/

namespace Reading

def withSegment (reading : Reading) (number : Nat) (segment : Segment) (stop : Position) :
    Reading where
  position := stop
  groups other := if other = number then some segment.stretch else reading.groups other

end Reading

theorem Segment.segment_stretch {position stop : Position} {segment : Segment}
    (read : Segment.read position = some (segment, stop)) : segment.stretch.segment = segment := by
  obtain ⟨nameStop, spans⟩ := spans_of_read read
  have name := (CallMatch.longest_run spans.name spans.isName.parts spans.longest).1
  have text := (Position.reads_skipWhile isSegmentPart segment.position).text_stretch
  rw [name] at text
  rw [Stretch.segment, Segment.stretch, text]

theorem Segment.segment_stretch_of_dotted {position stop : Position} {segment : Segment}
    (read : Segment.readDotted position = some (segment, stop)) :
    segment.stretch.segment = segment := by
  obtain ⟨_, segmentRead, -⟩ := read_of_readDotted read
  exact segment_stretch segmentRead

namespace Expression

variable {Result : Type} {next : Reading → Option Result}

/-- What follows always goes on, or goes on at a dot only. -/
def Settled (next : Reading → Option Result) : Prop :=
  (∀ reading, (next reading).isSome = true) ∨
    ∀ reading, reading.position.readChar '.' = none → next reading = none

theorem Settled.or_eq (settled : Settled next) (first : Reading) {other : Reading}
    (noDot : other.position.readChar '.' = none) : (next first).or (next other) = next first := by
  rcases settled with always | atDot
  · obtain ⟨result, given⟩ := Option.isSome_iff_exists.mp (always first)
    rw [given]
    rfl
  · rw [atDot other noDot, Option.or_none]

theorem followedBy_closing (settled : Settled next) (here : Reading) :
    (optional (char ']')).followedBy next here =
      next (here.moveTo (here.position.skipChar ']')) := by
  rw [followedBy_optional, followedBy_char, Position.skipChar]
  cases read : here.position.readChar ']' with
  | none => rfl
  | some stop =>
      apply settled.or_eq
      have after := (Position.reads_of_readChar read).after
      exact Position.readChar_eq_none_of_ne after (by decide)

/-- A name is read to its end: nothing that follows a segment begins with a part of it. -/
theorem followedBy_name (settled : Settled next) (number : Nat) (here : Reading) :
    (both (group number (both (one isWord) (many isSegmentPart)))
        (optional (char ']'))).followedBy next here =
      match here.position.after with
      | [] => none
      | character :: rest =>
          if isWord character then
            next (here.withSegment number ⟨here.position, character :: rest.takeWhile isSegmentPart⟩
              ((here.position.skipWhile isSegmentPart).skipChar ']'))
          else
            none := by
  rw [followedBy_both, followedBy_group, followedBy_both, followedBy_one]
  cases split : here.position.after with
  | nil => rfl
  | cons character rest =>
      by_cases word : isWord character = true
      · have longer := Position.skipWhile_pass here.position split (part_of_word word)
        simp only [word, if_true]
        rw [followedBy_many, followedBy_closing settled]
        · rw [show (here.moveTo (here.position.pass character rest)).position.skipWhile
            isSegmentPart = here.position.skipWhile isSegmentPart from longer]
          rfl
        · intro shorter meets
          obtain ⟨first, others, after, part⟩ := Position.exists_of_not_shuns meets
          have unclosed : shorter.skipChar ']' = shorter := by
            rw [Position.skipChar, Position.readChar_eq_none_of_ne after
              (ne_of_class part (by decide))]
            rfl
          rw [followedBy_closing settled, followedBy_closing settled]
          apply settled.or_eq
          change (shorter.skipChar ']').readChar '.' = none
          rw [unclosed]
          exact Position.readChar_eq_none_of_ne after (ne_of_class part (by decide))
      · simp only [word, Bool.false_eq_true, if_false]

theorem followedBy_opening (here : Reading)
    (fails : ∀ rest, here.position.after = '[' :: rest → next here = none) :
    (optional (char '[')).followedBy next here =
      next (here.moveTo (here.position.skipChar '[')) := by
  rw [followedBy_optional, followedBy_char, Position.skipChar]
  cases read : here.position.readChar '[' with
  | none => rfl
  | some opened =>
      rw [fails _ (Position.reads_of_readChar read).after, Option.or_none]
      rfl

theorem followedBy_segment (settled : Settled next) (number : Nat) (here : Reading) :
    (segment number).followedBy next here =
      (Segment.read here.position).bind fun (name, stop) =>
        next (here.withSegment number name stop) := by
  rw [segment, followedBy_both, followedBy_opening, followedBy_name settled, Segment.read]
  · change (match (here.position.skipChar '[').after with
      | [] => none
      | character :: rest => _) = _
    cases split : (here.position.skipChar '[').after with
    | nil => rfl
    | cons character rest =>
        by_cases word : isWord character = true
        · have longer := Position.skipWhile_pass _ split (part_of_word word)
          simp only [word, if_true, Option.bind_some, longer]
          rfl
        · simp only [word, Bool.false_eq_true, if_false, Option.bind_none]
  · -- The bracket is no word character, so a reading that leaves it out fails at once.
    intro rest after
    have noWord : isWord '[' = false := by decide
    rw [followedBy_name settled, after]
    simp only [noWord, Bool.false_eq_true, if_false]

theorem followedBy_dotted (next : Reading → Option Result) (number : Nat) (here : Reading) :
    (dotted number).followedBy next here =
      (Segment.readDotted here.position).bind fun (name, stop) =>
        next (here.withSegment number name stop) := by
  have settled : Settled ((char '.').followedBy next) := by
    right
    intro reading noDot
    rw [followedBy_char, noDot, Option.bind_none]
  rw [dotted, followedBy_both, followedBy_segment settled, Segment.readDotted]
  cases Segment.read here.position with
  | none => rfl
  | some found =>
      obtain ⟨name, stop⟩ := found
      simp only [Option.bind_some, followedBy_char, Option.bind_eq_bind, Option.bind_assoc]
      rfl

/-! ## Targets -/

/-- The end of an expression takes whatever has been read. -/
def finish (reading : Reading) : Option (Option CallMatch) :=
  some (CallMatch.ofReading? reading)

def complete (keyword : Stretch) (target : Target) : Option CallMatch :=
  some ⟨keyword.start, keyword.stop, target⟩

variable {keyword : Stretch} {here : Reading}

theorem followedBy_last (here : Reading) (captured : here.groups 1 = some keyword) :
    (segment 5).followedBy finish here =
      (Segment.read here.position).map fun (name, stop) =>
        complete keyword ⟨here.schema, name, stop⟩ := by
  rw [followedBy_segment (Or.inl fun _ => rfl)]
  cases read : Segment.read here.position with
  | none => rfl
  | some found =>
      obtain ⟨name, stop⟩ := found
      have written : name.stretch.segment = name := Segment.segment_stretch read
      have first : (here.withSegment 5 name stop).groups 1 = some keyword := captured
      have last : (here.withSegment 5 name stop).groups 5 = some name.stretch := rfl
      have schema : (here.withSegment 5 name stop).schema = here.schema := rfl
      simp only [Option.bind_some, Option.map_some, finish, complete, CallMatch.ofReading?,
        Option.bind_eq_bind, first, last, schema, written]
      rfl

private theorem followedBy_schema_name (captured : here.groups 1 = some keyword) :
    (dotted 3).followedBy ((segment 5).followedBy finish) here =
      (Target.readSchemaName here.position).map (complete keyword) := by
  rw [followedBy_dotted, Target.readSchemaName]
  cases read : Segment.readDotted here.position with
  | none => rfl
  | some found =>
      obtain ⟨schema, afterSchema⟩ := found
      have kept : (here.withSegment 3 schema afterSchema).schema = some schema := by
        simp [Reading.schema, Reading.withSegment, Segment.segment_stretch_of_dotted read]
      simp only [Option.bind_some, Option.bind_eq_bind]
      rw [followedBy_last (here.withSegment 3 schema afterSchema) captured, kept]
      change (Segment.read afterSchema).map _ = _
      cases Segment.read afterSchema with
      | none => rfl
      | some found => rfl

private theorem followedBy_dot_name (captured : here.groups 1 = some keyword)
    (noSchema : here.groups 3 = none) :
    (group 4 (char '.')).followedBy ((segment 5).followedBy finish) here =
      (Target.readDotName here.position).map (complete keyword) := by
  rw [followedBy_group, followedBy_char, Target.readDotName]
  cases here.position.readChar '.' with
  | none => rfl
  | some afterDot =>
      have unnamed : ((here.moveTo afterDot).capture 4 here.position).schema = none := by
        simp [Reading.schema, Reading.capture, Reading.moveTo, noSchema]
      simp only [Option.bind_some, Option.bind_eq_bind]
      rw [followedBy_last ((here.moveTo afterDot).capture 4 here.position) captured, unnamed,
        Target.readName]
      change (Segment.read afterDot).map _ = _
      cases Segment.read afterDot with
      | none => rfl
      | some found => rfl

/-- Behind a database, or in its place, stands a schema, a dot or nothing. -/
theorem followedBy_middle (captured : here.groups 1 = some keyword)
    (noSchema : here.groups 3 = none) :
    (both (optional (either (dotted 3) (group 4 (char '.')))) (segment 5)).followedBy finish here =
      (((Target.readSchemaName here.position).or (Target.readDotName here.position)).or
        ((Segment.read here.position).map fun (name, stop) =>
          ⟨here.schema, name, stop⟩)).map (complete keyword) := by
  rw [followedBy_both, followedBy_optional, followedBy_either, followedBy_schema_name captured,
    followedBy_dot_name captured noSchema, followedBy_last here captured, Option.map_or,
    Option.map_or, Option.map_map]
  rfl

theorem followedBy_called (captured : here.groups 1 = some keyword)
    (fresh : here.groups 2 = none ∧ here.groups 3 = none ∧ here.groups 4 = none) :
    called.followedBy finish here =
      (Target.readCalled here.position).map (complete keyword) := by
  obtain ⟨noDatabase, noSchema, noDot⟩ := fresh
  have unnamed : here.schema = none := by
    simp [Reading.schema, noDatabase, noSchema, noDot]
  have plain : (Segment.read here.position).map (fun (name, stop) =>
      (⟨here.schema, name, stop⟩ : Target)) = Target.readName here.position := by
    rw [unnamed, Target.readName]
    cases Segment.read here.position with
    | none => rfl
    | some found => rfl
  rw [called, followedBy_both, followedBy_optional, followedBy_dotted,
    followedBy_middle captured noSchema, plain, Target.readCalled, Target.readDatabaseSchemaName,
    Target.readDatabaseName]
  cases read : Segment.readDotted here.position with
  | none =>
      have noSchemaName : Target.readSchemaName here.position = none := by
        simp [Target.readSchemaName, read]
      simp [noSchemaName]
  | some found =>
      obtain ⟨database, afterDatabase⟩ := found
      have kept : (here.withSegment 2 database afterDatabase).schema = some database := by
        simp [Reading.schema, Reading.withSegment, noSchema, noDot,
          Segment.segment_stretch_of_dotted read]
      -- A single segment in front of the name is read into the database's group.
      have single : (Segment.read afterDatabase).map (fun (name, stop) =>
          (⟨(here.withSegment 2 database afterDatabase).schema, name, stop⟩ : Target)) =
            Target.readSchemaName here.position := by
        rw [kept, Target.readSchemaName, read]
        simp only [Option.bind_eq_bind, Option.bind_some]
        cases Segment.read afterDatabase with
        | none => rfl
        | some found => rfl
      simp only [Option.bind_eq_bind, Option.bind_some]
      rw [@followedBy_middle keyword (here.withSegment 2 database afterDatabase) captured noSchema,
        ← Option.map_or]
      change Option.map _ ((((Target.readSchemaName afterDatabase).or
        (Target.readDotName afterDatabase)).or ((Segment.read afterDatabase).map _)).or _) = _
      rw [single, Option.or_assoc, Option.or_assoc, Option.or_assoc,
        ← @Option.or_assoc _ (Target.readSchemaName here.position), Option.or_self]

/-! ## Assignments and keywords -/

theorem followedBy_word (stops : StopsAt next here isWord) :
    (atLeastOne isWord).followedBy next here =
      here.position.readWord.bind fun stop => next (here.moveTo stop) :=
  followedBy_atLeastOne stops

theorem followedBy_blanks (stops : StopsAt next here isBlank) :
    (atLeastOne isBlank).followedBy next here =
      here.position.readBlanks.bind fun stop => next (here.moveTo stop) :=
  followedBy_atLeastOne stops

private theorem followedBy_sign (stops : StopsAt next here isBlank) (position : Position) :
    (both (many isBlank) (both (char '=') (many isBlank))).followedBy next (here.moveTo position) =
      ((position.skipWhile isBlank).readChar '=').bind fun stop =>
        next (here.moveTo (stop.skipWhile isBlank)) := by
  have sign (other : Position) : (both (char '=') (many isBlank)).followedBy next
      (here.moveTo other) = (other.readChar '=').bind fun stop =>
        next (here.moveTo (stop.skipWhile isBlank)) := by
    rw [followedBy_both, followedBy_char]
    congr 1
    funext stop
    exact followedBy_many_of_stops stops
  have atSign : StopsAt ((both (char '=') (many isBlank)).followedBy next)
      (here.moveTo position) isBlank := by
    intro other meets
    obtain ⟨character, rest, after, blank⟩ := Position.exists_of_not_shuns meets
    change (both (char '=') (many isBlank)).followedBy next (here.moveTo other) = none
    rw [sign, Position.readChar_eq_none_of_ne after (ne_of_class blank (by decide)),
      Option.bind_none]
  rw [followedBy_both, followedBy_many_of_stops atSign]
  exact sign _

theorem followedBy_assignment (stops : StopsAt next here isBlank) :
    assignment.followedBy next here =
      (CallMatch.readAssignment here.position).bind fun stop => next (here.moveTo stop) := by
  have behindWord (position : Position) : StopsAt
      ((both (many isBlank) (both (char '=') (many isBlank))).followedBy next)
      (here.moveTo position) isWord := by
    intro other meets
    obtain ⟨character, rest, after, word⟩ := Position.exists_of_not_shuns meets
    have noBlank : other.Shuns isBlank := by
      intro first others split
      rw [after] at split
      rw [← (List.cons.inj split).1]
      exact not_blank_of_part (part_of_word word)
    change (both (many isBlank) (both (char '=') (many isBlank))).followedBy next
      (here.moveTo other) = none
    rw [followedBy_sign stops, Position.skipWhile_of_shuns noBlank,
      Position.readChar_eq_none_of_ne after, Option.bind_none]
    exact ne_of_class (part_of_word word) (by decide)
  rw [assignment, followedBy_both, followedBy_char, CallMatch.readAssignment]
  simp only [Option.bind_eq_bind, Option.bind_assoc]
  congr 1
  funext variableStart
  rw [followedBy_both, followedBy_word (behindWord variableStart)]
  congr 1
  funext variableStop
  exact followedBy_sign stops variableStop

/-- No target begins with a blank or an at sign. -/
private theorem readCalled_eq_none_of_head {position : Position} {character : Char} {rest : Text}
    (after : position.after = character :: rest) (other : Target.canBegin character = false) :
    Target.readCalled position = none := by
  apply Target.readCalled_eq_none
  intro first others split
  rw [after] at split
  rwa [← (List.cons.inj split).1]

theorem not_canBegin_of_blank {character : Char} (blank : isBlank character = true) :
    Target.canBegin character = false := by
  have opening : character ≠ '[' := ne_of_class blank (by decide)
  have dot : character ≠ '.' := ne_of_class blank (by decide)
  simp [Target.canBegin, not_word_of_blank blank, opening, dot]

private theorem readAssignment_eq_none {position : Position} {character : Char} {rest : Text}
    (after : position.after = character :: rest) (other : character ≠ '@') :
    CallMatch.readAssignment position = none := by
  rw [CallMatch.readAssignment, Position.readChar_eq_none_of_ne after other]
  rfl

theorem followedBy_target (captured : here.groups 1 = some keyword)
    (fresh : here.groups 2 = none ∧ here.groups 3 = none ∧ here.groups 4 = none) :
    (both (optional assignment) called).followedBy finish here =
      (Target.readCalled ((CallMatch.readAssignment here.position).getD here.position)).map
        (complete keyword) := by
  have target (position : Position) : called.followedBy finish (here.moveTo position) =
      (Target.readCalled position).map (complete keyword) :=
    @followedBy_called keyword (here.moveTo position) captured fresh
  have stops : StopsAt (called.followedBy finish) here isBlank := by
    intro position meets
    obtain ⟨character, rest, after, blank⟩ := Position.exists_of_not_shuns meets
    rw [target, readCalled_eq_none_of_head after (not_canBegin_of_blank blank), Option.map_none]
  rw [followedBy_both, followedBy_optional, followedBy_assignment stops,
    followedBy_called captured fresh]
  cases read : CallMatch.readAssignment here.position with
  | none => rfl
  | some stop =>
      -- An assignment begins with an at sign and no target does, so it cannot be left out.
      obtain ⟨rest, after⟩ := CallMatch.sigil_of_readAssignment read
      rw [Option.bind_some, Option.getD_some, target,
        readCalled_eq_none_of_head after (by decide), Option.map_none, Option.or_none]

theorem followedBy_behind_keyword (captured : here.groups 1 = some keyword)
    (fresh : here.groups 2 = none ∧ here.groups 3 = none ∧ here.groups 4 = none) :
    (both (atLeastOne isBlank) (both (optional assignment) called)).followedBy finish here =
      here.position.readBlanks.bind fun afterBlanks =>
        (Target.readCalled ((CallMatch.readAssignment afterBlanks).getD afterBlanks)).map
          (complete keyword) := by
  have target (position : Position) :
      (both (optional assignment) called).followedBy finish (here.moveTo position) =
        (Target.readCalled ((CallMatch.readAssignment position).getD position)).map
          (complete keyword) :=
    @followedBy_target keyword (here.moveTo position) captured fresh
  have stops : StopsAt ((both (optional assignment) called).followedBy finish) here isBlank := by
    intro position meets
    obtain ⟨character, rest, after, blank⟩ := Position.exists_of_not_shuns meets
    rw [target, readAssignment_eq_none after (ne_of_class blank (by decide)),
      Option.getD_none,
      readCalled_eq_none_of_head after (not_canBegin_of_blank blank), Option.map_none]
  rw [followedBy_both, followedBy_blanks stops]
  congr 1
  funext afterBlanks
  exact target afterBlanks

private theorem readBlanks_eq_none_of_letters {position stop : Position} {letter : Char}
    {word : List Char} (small : letter.isLower = true)
    (read : position.readLetters (letter :: word) = some stop) : position.readBlanks = none := by
  obtain ⟨run, reads, spelled⟩ := Position.reads_of_readLetters read
  cases spelled with
  | @cons _ character _ rest fits _ =>
      have solid := not_blank_of_part (part_of_word (isWord_of_isLetter small fits))
      have after : position.after = character :: (rest ++ stop.after) := reads.after
      rw [Position.readBlanks, after]
      simp only [solid, Bool.false_eq_true, if_false]

/-- Of two spellings the longer one is tried first, and behind the shorter one no blank can stand
then. -/
theorem followedBy_spellings {front word : List Char} {letter : Char}
    (small : letter.isLower = true)
    (solid : ∀ position : Position, position.readBlanks = none →
      next (here.moveTo position) = none) :
    (both (letters front) (optional (letters (letter :: word)))).followedBy next here =
      ((here.position.readLetters (front ++ letter :: word)).or
        (here.position.readLetters front)).bind fun stop => next (here.moveTo stop) := by
  rw [followedBy_both, followedBy_letters, Position.readLetters_append]
  cases here.position.readLetters front with
  | none => rfl
  | some short =>
      simp only [Option.bind_some, followedBy_optional, followedBy_letters]
      change ((short.readLetters (letter :: word)).bind fun stop => next (here.moveTo stop)).or
        (next (here.moveTo short)) = _
      cases read : short.readLetters (letter :: word) with
      | none => rfl
      | some long =>
          rw [solid short (readBlanks_eq_none_of_letters small read), Option.or_none]
          rfl

theorem followedBy_keyword_letters
    (solid : ∀ position : Position, position.readBlanks = none →
      next (here.moveTo position) = none) :
    (both (letters CallMatch.execLetters) (optional (letters ['u', 't', 'e']))).followedBy
        next here =
      (CallMatch.readKeyword here.position).bind fun stop => next (here.moveTo stop) :=
  followedBy_spellings (by decide) solid

theorem precedesWord_of_readKeyword {position stop : Position}
    (read : CallMatch.readKeyword position = some stop) : position.precedesWord = true := by
  obtain ⟨word, reads, spelled⟩ := CallMatch.reads_of_readKeyword read
  obtain ⟨character, rest, rfl, -⟩ := spelled.first
  rw [Position.precedesWord, reads.after]
  exact spelled.isWord character List.mem_cons_self

theorem followedBy_call (position : Position) :
    call.followedBy finish (.begin position) = (CallMatch.at? position).map some := by
  have behind (stop : Position) :
      (both (atLeastOne isBlank) (both (optional assignment) called)).followedBy finish
          (((Reading.begin position).moveTo stop).capture 1 position) =
        stop.readBlanks.bind fun afterBlanks =>
          (Target.readCalled ((CallMatch.readAssignment afterBlanks).getD afterBlanks)).map
            (complete ⟨position, stop⟩) :=
    @followedBy_behind_keyword ⟨position, stop⟩
      (((Reading.begin position).moveTo stop).capture 1 position) rfl ⟨rfl, rfl, rfl⟩
  rw [call, followedBy_both, followedBy_boundary, followedBy_both, Expression.keyword,
    followedBy_group, followedBy_keyword_letters, CallMatch.at?]
  · change (if position.followsWord != position.precedesWord then
      (CallMatch.readKeyword position).bind _ else none) = _
    cases read : CallMatch.readKeyword position with
    | none => simp
    | some stop =>
        -- A word character follows, so this is a boundary exactly if none goes before.
        rw [precedesWord_of_readKeyword read]
        simp only [Option.bind_some, Option.bind_eq_bind]
        change (if position.followsWord != true then
          (both (atLeastOne isBlank) (both (optional assignment) called)).followedBy finish
            (((Reading.begin position).moveTo stop).capture 1 position) else none) = _
        rw [behind]
        cases position.followsWord with
        | true => simp
        | false =>
            cases stop.readBlanks with
            | none => rfl
            | some afterBlanks =>
                simp only [Option.bind_some]
                cases Target.readCalled
                  ((CallMatch.readAssignment afterBlanks).getD afterBlanks) with
                | none => rfl
                | some target => rfl
  · intro stop noBlanks
    change (both (atLeastOne isBlank) (both (optional assignment) called)).followedBy finish
      (((Reading.begin position).moveTo stop).capture 1 position) = none
    rw [behind, noBlanks, Option.bind_none]

end Expression

namespace CallMatch

/-- The reader of calls gives what the groups of the match give, and it fails only where there is no
match. -/
theorem map_ofReading?_match? (position : Position) :
    (Expression.call.match? position).map ofReading? = (at? position).map some :=
  (Expression.call.match?_eq position ofReading?).trans (Expression.followedBy_call position)

theorem at?_eq_match? (position : Position) :
    at? position = (Expression.call.match? position).bind ofReading? := by
  have whole := map_ofReading?_match? position
  cases matched : Expression.call.match? position with
  | none =>
      rw [matched] at whole
      exact Option.map_eq_none_iff.mp whole.symm
  | some reading =>
      rw [matched, Option.map_some] at whole
      obtain ⟨found, read, same⟩ := Option.map_eq_some_iff.mp whole.symm
      rw [read, same]
      rfl

theorem exists_at?_of_match? {position : Position} {reading : Reading}
    (matched : Expression.call.match? position = some reading) :
    ∃ found, at? position = some found := by
  have whole := map_ofReading?_match? position
  rw [matched, Option.map_some] at whole
  obtain ⟨found, read, -⟩ := Option.map_eq_some_iff.mp whole.symm
  exact ⟨found, read⟩

end CallMatch

end ProcedureAtlas
