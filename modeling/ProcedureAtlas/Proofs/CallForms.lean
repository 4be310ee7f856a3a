import ProcedureAtlas.Proofs.NormalForm
import ProcedureAtlas.Proofs.WrittenPieces

/-!
# Calls as they are written

A call has one of two keywords, at most one assignment, and a target with up to three names. Here
every such text is read at the front of a script: in any letter case, with any blanks, with brackets
or without, and whatever stands behind it, as long as the last name ends there. The target is the one
that is written, and no comment covers the keyword or the name.

Two things alone keep it from being a call, and both can be seen in the text: the operand of the
keyword begins with the word `ON` or `AS`, or the called name is one of the two keywords.
-/

namespace ProcedureAtlas

set_option autoImplicit false

/-! ## Targets -/

/-- What a call runs: `name`, `schema.name`, `database.schema.name` or `database..name`. -/
inductive WrittenTarget where
  | plain (name : WrittenName)
  | inSchema (schema name : WrittenName)
  | inDatabase (database schema name : WrittenName)
  | inDefaultSchema (database name : WrittenName)

namespace WrittenTarget

def text : WrittenTarget → Text
  | plain name => name.text
  | inSchema schema name => schema.text ++ (['.'] ++ name.text)
  | inDatabase database schema name =>
      database.text ++ (['.'] ++ (schema.text ++ (['.'] ++ name.text)))
  | inDefaultSchema database name => database.text ++ (['.'] ++ (['.'] ++ name.text))

def names : WrittenTarget → List WrittenName
  | plain name => [name]
  | inSchema schema name => [schema, name]
  | inDatabase database schema name => [database, schema, name]
  | inDefaultSchema database name => [database, name]

def schema : WrittenTarget → Option Text
  | plain _ | inDefaultSchema _ _ => none
  | inSchema schema _ | inDatabase _ schema _ => some schema.name

def name : WrittenTarget → Text
  | plain name | inSchema _ name | inDatabase _ _ name | inDefaultSchema _ name => name.name

variable {position stop : Position}

/-- Each of the four forms is read as it is meant. -/
theorem exists_readCalled (target : WrittenTarget) (reads : position.Reads target.text stop)
    (ended : EndsTarget stop.after) :
    ∃ found, Target.readCalled position = some found ∧
      found.schema.map Segment.name = target.schema ∧ found.name.name = target.name ∧
      found.stop = stop := by
  have free (written : WrittenName) (_ : written.isBracketed = false) := ended.shuns_name
  cases target with
  | plain name =>
      have undotted := Segment.readDotted_eq_none_of_written name reads (free name) ended.shuns_dot
      obtain ⟨opened, read⟩ := Target.exists_readName name reads (free name)
      have called : Target.readCalled position = some ⟨none, ⟨opened, name.name⟩, stop⟩ := by
        simp only [Target.readCalled, Target.readDatabaseSchemaName, Target.readDatabaseName,
          Target.readSchemaName, Target.readDotName_eq_none name reads, undotted, read,
          Option.bind_eq_bind, Option.bind_none, Option.none_or]
      exact ⟨_, called, rfl, rfl, rfl⟩
  | inSchema schema name =>
      obtain ⟨dot, schemaReads, rest⟩ := Position.Reads.cut reads
      obtain ⟨afterDot, dotReads, nameReads⟩ := rest.cut
      obtain ⟨schemaStart, nameStart, read⟩ :=
        Target.exists_readSchemaName schema name schemaReads dotReads nameReads (free name)
      rw [Target.readCalled_eq_readSchemaName schema name schemaReads dotReads nameReads
        (free name) ended.shuns_dot, read]
      exact ⟨_, rfl, rfl, rfl, rfl⟩
  | inDatabase database schema name =>
      obtain ⟨dot, databaseReads, rest⟩ := Position.Reads.cut reads
      obtain ⟨afterDot, dotReads, rest⟩ := rest.cut
      obtain ⟨nextDot, schemaReads, rest⟩ := rest.cut
      obtain ⟨afterNextDot, nextDotReads, nameReads⟩ := rest.cut
      obtain ⟨_, databaseRead⟩ :=
        Segment.exists_readDotted_of_written database databaseReads dotReads
      obtain ⟨schemaStart, nameStart, read⟩ :=
        Target.exists_readSchemaName schema name schemaReads nextDotReads nameReads (free name)
      have called : Target.readCalled position =
          some ⟨some ⟨schemaStart, schema.name⟩, ⟨nameStart, name.name⟩, stop⟩ := by
        simp only [Target.readCalled, Target.readDatabaseSchemaName, databaseRead, read,
          Option.bind_eq_bind, Option.bind_some, Option.some_or]
      exact ⟨_, called, rfl, rfl, rfl⟩
  | inDefaultSchema database name =>
      obtain ⟨dot, databaseReads, rest⟩ := Position.Reads.cut reads
      obtain ⟨nextDot, dotReads, rest⟩ := rest.cut
      obtain ⟨afterDots, nextDotReads, nameReads⟩ := rest.cut
      obtain ⟨_, databaseRead⟩ :=
        Segment.exists_readDotted_of_written database databaseReads dotReads
      obtain ⟨opened, read⟩ := Target.exists_readName name nameReads (free name)
      -- The second dot is no schema, so the longest reading does not fit.
      have noSchema : Target.readSchemaName nextDot = none := by
        simp only [Target.readSchemaName, Segment.readDotted,
          Segment.read_eq_none_of_dot nextDotReads, Option.bind_eq_bind, Option.bind_none]
      have called : Target.readCalled position = some ⟨none, ⟨opened, name.name⟩, stop⟩ := by
        simp only [Target.readCalled, Target.readDatabaseSchemaName, Target.readDatabaseName,
          Target.readDotName, databaseRead, noSchema, Position.readChar_of_reads nextDotReads,
          read, Option.bind_eq_bind, Option.bind_some, Option.none_or, Option.some_or]
      exact ⟨_, called, rfl, rfl, rfl⟩

theorem exists_first (target : WrittenTarget) :
    ∃ character rest, target.text = character :: rest ∧ WrittenName.begins character = true := by
  cases target with
  | plain name => exact name.exists_first
  | inSchema front _ | inDatabase front _ _ | inDefaultSchema front _ =>
      obtain ⟨character, rest, text, first⟩ := front.exists_first
      exact ⟨character, _, congrArg (· ++ _) text, first⟩

/-- The names have no two dashes outside brackets. -/
def Undashed (target : WrittenTarget) : Prop :=
  ∀ written ∈ target.names, written.isBracketed = false → ¬['-', '-'] <:+: written.name

theorem quiet (target : WrittenTarget) (undashed : target.Undashed) {rest : Text}
    (ended : EndsTarget rest) : Lexeme.Quiet target.text rest := by
  have dot (text : Text) : Lexeme.Quiet ['.'] text := Lexeme.quiet_of_plain (by decide) text
  have dotted (written : WrittenName) (member : written ∈ target.names) (text : Text) :
      Lexeme.Quiet written.text ('.' :: text) :=
    written.quiet (undashed written member) (by simp) (by simp)
  have last (written : WrittenName) (member : written ∈ target.names) :
      Lexeme.Quiet written.text rest := by
    refine written.quiet (undashed written member) ?_ ?_ <;>
      · intro next
        obtain ⟨others, split⟩ := List.head?_eq_some_iff.mp next
        obtain ⟨-, dash, -, closing⟩ := ended _ _ split
        contradiction
  cases target with
  | plain name => exact last name (by simp [names])
  | inSchema schema name =>
      exact (dotted schema (by simp [names]) _).append
        ((dot _).append (last name (by simp [names])))
  | inDatabase database schema name =>
      exact (dotted database (by simp [names]) _).append ((dot _).append
        ((dotted schema (by simp [names]) _).append
          ((dot _).append (last name (by simp [names])))))
  | inDefaultSchema database name =>
      exact (dotted database (by simp [names]) _).append ((dot _).append
        ((dot _).append (last name (by simp [names]))))

end WrittenTarget

/-! ## Assignments -/

/-- `@variable =`, with any blanks around the sign. -/
structure WrittenAssignment where
  variableName : Text
  inhabited : variableName ≠ []
  words : ∀ character ∈ variableName, isWord character = true
  before : Text
  beforeBlank : ∀ character ∈ before, isBlank character = true
  behind : Text
  behindBlank : ∀ character ∈ behind, isBlank character = true

namespace WrittenAssignment

def text (assignment : WrittenAssignment) : Text :=
  ['@'] ++ (assignment.variableName ++ (assignment.before ++ (['='] ++ assignment.behind)))

variable {position stop : Position}

theorem read (assignment : WrittenAssignment) (reads : position.Reads assignment.text stop)
    (ended : stop.Shuns isBlank) : CallMatch.readAssignment position = some stop := by
  obtain ⟨nameStart, sigilReads, rest⟩ := Position.Reads.cut reads
  obtain ⟨nameStop, nameReads, rest⟩ := rest.cut
  obtain ⟨sign, beforeReads, rest⟩ := rest.cut
  obtain ⟨afterSign, signReads, behindReads⟩ := rest.cut
  have nameEnded : nameStop.Shuns isWord := by
    have blanks := assignment.beforeBlank
    cases before : assignment.before with
    | nil =>
        rw [before] at beforeReads
        obtain rfl := (Position.Reads.refl nameStop).stop_unique beforeReads
        exact Position.shuns_of_after signReads.after (by decide)
    | cons character others =>
        rw [before] at beforeReads blanks
        exact Position.shuns_of_after beforeReads.after
          (not_word_of_blank (blanks character List.mem_cons_self))
  have nameRead : nameStart.readWord = some nameStop := by
    obtain ⟨character, others, split⟩ := List.exists_cons_of_ne_nil assignment.inhabited
    have words := assignment.words
    rw [split] at nameReads words
    exact Position.readWord_of_reads nameReads words nameEnded
  have blanks : nameStop.skipWhile isBlank = sign :=
    Position.skipWhile_of_reads beforeReads assignment.beforeBlank
      (Position.shuns_of_after signReads.after (by decide))
  have lastBlanks : afterSign.skipWhile isBlank = stop :=
    Position.skipWhile_of_reads behindReads assignment.behindBlank ended
  simp only [CallMatch.readAssignment, Position.readChar_of_reads sigilReads, nameRead, blanks,
    Position.readChar_of_reads signReads, lastBlanks, Option.bind_eq_bind, Option.bind_some]

theorem isPlain (assignment : WrittenAssignment) :
    assignment.text.all Lexeme.isPlain = true := by
  refine List.all_eq_true.mpr fun character member => ?_
  simp only [text, List.mem_append, List.mem_singleton] at member
  rcases member with rfl | named | before | rfl | behind
  · decide
  · exact Lexeme.isPlain_of_word (assignment.words character named)
  · exact Lexeme.isPlain_of_blank (assignment.beforeBlank character before)
  · decide
  · exact Lexeme.isPlain_of_blank (assignment.behindBlank character behind)

end WrittenAssignment

/-! ## Clauses -/

/-- The text begins with the given word, in any letter case, and the word ends there. Letter case is
that of `isLetter`, for which the long s is an s. -/
def BeginsWithWord (letters : List Char) (text : Text) : Prop :=
  ∃ word rest, text = word ++ rest ∧
    List.Forall₂ (fun letter character => isLetter letter character = true) letters word ∧
    ∀ character others, rest = character :: others → isWord character = false

/-- The text begins with the word `ON` or the word `AS`. -/
def OpensClause (text : Text) : Prop :=
  BeginsWithWord ['o', 'n'] text ∨ BeginsWithWord ['a', 's'] text

theorem Position.precedesWord_eq_false_iff (position : Position) :
    position.precedesWord = false ↔
      ∀ character others, position.after = character :: others → isWord character = false := by
  unfold precedesWord
  cases position.after with
  | nil => simp
  | cons first rest => simp

theorem beginsWithWord_iff (letters : List Char) (position : Position) :
    BeginsWithWord letters position.after ↔
      ∃ stop, position.readLetters letters = some stop ∧ stop.precedesWord = false := by
  constructor
  · rintro ⟨word, rest, split, spelled, ended⟩
    have reads : position.Reads word ⟨position.addRun word, rest⟩ := Position.reads_addRun split
    exact ⟨_, Position.readLetters_of_reads reads spelled,
      (Position.precedesWord_eq_false_iff _).mpr ended⟩
  · rintro ⟨stop, read, ended⟩
    obtain ⟨word, reads, spelled⟩ := Position.reads_of_readLetters read
    exact ⟨word, stop.after, reads.after, spelled, (stop.precedesWord_eq_false_iff).mp ended⟩

theorem CallMatch.opensClause_iff (found : CallMatch) :
    found.opensClause = true ↔ OpensClause (found.keywordStop.skipWhile isBlank).after := by
  unfold opensClause OpensClause
  rw [beginsWithWord_iff, beginsWithWord_iff]
  cases readOn : (found.keywordStop.skipWhile isBlank).readLetters ['o', 'n'] with
  | some stop =>
      -- No word begins both with an o and with an a.
      have noAs : (found.keywordStop.skipWhile isBlank).readLetters ['a', 's'] = none := by
        apply Position.readLetters_eq_none_of_other readOn
        intro character letter
        have lowered : character.toLower = 'o' := by simpa [isLetter] using letter
        simp [isLetter, lowered]
      simp [readOn, noAs]
  | none =>
      cases readAs : (found.keywordStop.skipWhile isBlank).readLetters ['a', 's'] with
      | none => simp [readOn, readAs]
      | some stop => simp [readOn, readAs]

/-! ## Calls -/

structure WrittenCall where
  keyword : Text
  isKeyword : CallMatch.IsKeyword keyword
  gap : Gap
  assignment : Option WrittenAssignment
  target : WrittenTarget

namespace WrittenCall

/-- What stands behind the keyword and its gap. -/
def operand (call : WrittenCall) : Text :=
  match call.assignment with
  | none => call.target.text
  | some assignment => assignment.text ++ call.target.text

def text (call : WrittenCall) : Text :=
  call.keyword ++ (call.gap.text ++ call.operand)

/-- The match of a written call that is read from `position` to `stop`. -/
structure IsMatch (call : WrittenCall) (position stop : Position) (found : CallMatch) : Prop where
  matched : CallMatch.at? position = some found
  operand : (found.keywordStop.skipWhile isBlank).after = call.operand ++ stop.after
  schema : found.target.schema.map Segment.name = call.target.schema
  name : found.target.name.name = call.target.name
  stop : found.target.stop = stop

variable {position stop : Position}

theorem readKeyword (call : WrittenCall) (reads : position.Reads call.keyword stop)
    (gap : ¬stop.Shuns isBlank) : CallMatch.readKeyword position = some stop := by
  unfold CallMatch.readKeyword
  rcases call.isKeyword with short | long
  · have read := SpelledWord.read ⟨call.keyword, short⟩ reads
    have noLong : position.readLetters CallMatch.executeLetters = none :=
      Position.readLetters_longer read (show 'u'.isLower = true by decide) gap
    rw [noLong, read, Option.none_or]
  · rw [SpelledWord.read ⟨call.keyword, long⟩ reads, Option.some_or]

theorem operand_shuns_blank (call : WrittenCall) (reads : position.Reads call.operand stop) :
    position.Shuns isBlank := by
  unfold operand at reads
  split at reads
  · obtain ⟨character, rest, text, first⟩ := call.target.exists_first
    rw [text] at reads
    exact Position.shuns_of_after reads.after (WrittenName.not_blank_of_begins first)
  · have after : position.after = '@' :: _ := reads.after
    exact Position.shuns_of_after after (by decide)

theorem exists_target (call : WrittenCall) (reads : position.Reads call.operand stop) :
    ∃ start, (CallMatch.readAssignment position).getD position = start ∧
      start.Reads call.target.text stop := by
  obtain ⟨character, others, text, first⟩ := call.target.exists_first
  unfold operand at reads
  split at reads
  · have noSigil : position.readChar '@' = none := by
      have after := reads.after
      rw [text] at after
      refine Position.readChar_eq_none_of_ne after ?_
      rintro rfl
      exact absurd first (by decide)
    refine ⟨position, ?_, reads⟩
    simp only [CallMatch.readAssignment, noSigil, Option.bind_eq_bind, Option.bind_none,
      Option.getD_none]
  · rename_i assignment _
    obtain ⟨start, assignmentReads, targetReads⟩ := reads.cut
    have ended : start.Shuns isBlank := by
      have after := targetReads.after
      rw [text] at after
      exact Position.shuns_of_after after (WrittenName.not_blank_of_begins first)
    refine ⟨start, ?_, targetReads⟩
    rw [assignment.read assignmentReads ended, Option.getD_some]

/-- A call is matched wherever it stands, unless it stands right behind a word. -/
theorem exists_isMatch (call : WrittenCall) (reads : position.Reads call.text stop)
    (ended : EndsTarget stop.after) (apart : position.followsWord = false) :
    ∃ found, call.IsMatch position stop found := by
  obtain ⟨keywordStop, keywordReads, rest⟩ := Position.Reads.cut reads
  obtain ⟨operandStart, gapReads, operandReads⟩ := rest.cut
  have keyword := call.readKeyword keywordReads (call.gap.not_shuns gapReads)
  have operandEnded := call.operand_shuns_blank operandReads
  have blanks := call.gap.read gapReads operandEnded
  obtain ⟨start, assigned, targetReads⟩ := call.exists_target operandReads
  obtain ⟨target, called, schema, name, targetStop⟩ :=
    call.target.exists_readCalled targetReads ended
  refine ⟨⟨position, keywordStop, target⟩, ?_, ?_, schema, name, targetStop⟩
  · simp only [CallMatch.at?, keyword, blanks, assigned, called, apart, Option.bind_eq_bind,
      Option.bind_some, Bool.false_eq_true, if_false]
  · rw [Position.skipWhile_of_reads gapReads call.gap.blank operandEnded]
    exact operandReads.after

theorem quiet (call : WrittenCall) (undashed : call.target.Undashed) {rest : Text}
    (ended : EndsTarget rest) : Lexeme.Quiet call.text rest := by
  have keyword : call.keyword.all Lexeme.isPlain = true :=
    List.all_eq_true.mpr fun character member =>
      Lexeme.isPlain_of_word (call.isKeyword.isWord character member)
  have gap : call.gap.text.all Lexeme.isPlain = true :=
    List.all_eq_true.mpr fun character member =>
      Lexeme.isPlain_of_blank (call.gap.blank character member)
  have target := call.target.quiet undashed ended
  have operand : Lexeme.Quiet call.operand rest := by
    unfold WrittenCall.operand
    split
    · exact target
    · rename_i assignment _
      exact (Lexeme.quiet_of_plain assignment.isPlain _).append target
  exact (Lexeme.quiet_of_plain keyword _).append ((Lexeme.quiet_of_plain gap _).append operand)

end WrittenCall

/-! ## The first call of a script -/

theorem CallMatch.call_eq {position : Position} {found : CallMatch}
    (matched : at? position = some found) :
    found.call =
      ⟨found.target.schema.map Segment.name, found.target.name.name, position.offset⟩ := by
  have written := at?_isWritten matched
  have keyword := (parts_of_at? matched).keyword
  unfold call
  rw [written.name.bare_eq, keyword]
  cases schema : found.target.schema with
  | none => rfl
  | some segment =>
      rw [Option.map_some, Option.map_some, (written.schema segment schema).bare_eq]

/-- A match at the front of a script comes first if it is a call. If it is none, no call begins
there. -/
theorem Call.head?_ofScript_iff {script : Text} {found : CallMatch}
    (matched : CallMatch.at? (.start script) = some found) :
    (Call.ofScript script).head? = some found.call ↔
      found.isCall (Comments.ofText script) = true := by
  have covers := CallMatch.scanFrom_covers (Comments.ofText script) 0 .nothing script
  change CallMatch.Covers _ (.start script) 0 (CallMatch.scan script) at covers
  constructor
  · intro head
    have member := List.mem_of_head? head
    obtain ⟨site, inside, same⟩ := List.mem_map.mp member
    obtain ⟨siteMatched, accepted⟩ := covers.accepted site inside
    have text := covers.text site inside
    have offset : site.keyword.offset = 0 := by
      have offsets := congrArg Call.offset same
      rw [CallMatch.call_eq matched] at offsets
      exact offsets
    have here : site.keyword = .start script := by
      apply Position.ext_of_index text
      by_contra elsewhere
      have behind : (Position.start script).index < site.keyword.index :=
        Nat.pos_of_ne_zero elsewhere
      have later := (Position.offset_lt_iff text.symm).mpr behind
      rw [offset] at later
      exact Nat.not_lt_zero _ later
    rw [here, matched] at siteMatched
    rwa [Option.some.inj siteMatched]
  · intro accepted
    cases script with
    | nil => cases matched
    | cons character rest =>
        rw [Position.start] at matched
        rw [Call.ofScript, CallMatch.scan, CallMatch.scanFrom_cons, matched]
        simp only [accepted, if_true, List.map_cons, List.head?_cons]

namespace WrittenCall

variable {call : WrittenCall} {rest : Text} {stop : Position} {found : CallMatch}

/-- Both the keyword and the name lie in the quiet text of the call. -/
theorem IsMatch.not_isCommented (isMatch : call.IsMatch (.start (call.text ++ rest)) stop found)
    (reads : (Position.start (call.text ++ rest)).Reads call.text stop)
    (quiet : Lexeme.Quiet call.text rest) :
    found.isCommented (Comments.ofText (call.text ++ rest)) = false := by
  have parts := CallMatch.parts_of_at? isMatch.matched
  obtain ⟨keyword, name, stopped⟩ := parts.order
  have length : 0 < found.target.name.name.length :=
    List.length_pos_of_ne_nil (CallMatch.at?_isWritten isMatch.matched).name.ne_nil
  rw [isMatch.stop] at stopped
  have free (place : Position) (text : place.text = (Position.start (call.text ++ rest)).text)
      (before : place.index < stop.index) :
      (Comments.ofText (call.text ++ rest)).covers place.offset = false := by
    have inside := (Position.offset_lt_iff (text.trans reads.text.symm)).mpr before
    rw [reads.offset] at inside
    exact Comments.not_covers_of_quiet quiet (Nat.lt_of_lt_of_eq inside (Nat.zero_add _))
  rw [CallMatch.isCommented, parts.keyword, free _ rfl (by omega), free _ parts.text (by omega)]
  rfl

theorem IsMatch.isCall_iff (isMatch : call.IsMatch (.start (call.text ++ rest)) stop found)
    (reads : (Position.start (call.text ++ rest)).Reads call.text stop)
    (quiet : Lexeme.Quiet call.text rest) :
    found.isCall (Comments.ofText (call.text ++ rest)) = true ↔
      ¬OpensClause (call.operand ++ rest) ∧ ¬CallMatch.IsKeyword call.target.name := by
  have unprinted : found.isPrinted = false := by
    rw [CallMatch.isPrinted, (CallMatch.parts_of_at? isMatch.matched).keyword]
    rfl
  have after : stop.after = rest := (List.append_cancel_left reads.after).symm
  have clause := found.opensClause_iff
  rw [isMatch.operand, after] at clause
  have keyword := found.targetsKeyword_iff
  rw [isMatch.name] at keyword
  rw [← clause, ← keyword, CallMatch.isCall, isMatch.not_isCommented reads quiet, unprinted]
  simp [and_comm]

/-- Calls are read as they are written. Let a script begin with a call in any of its forms, with no
two dashes in a bare name and with a last name that ends where the rest of the script begins. The
first call of the script stands at its front, with exactly the schema and the name that are written,
if and only if the operand does not begin with the word `ON` or `AS` and the name is no keyword. -/
theorem written_call_comes_first (call : WrittenCall) (rest : Text)
    (undashed : call.target.Undashed) (ended : EndsTarget rest) :
    (Call.ofScript (call.text ++ rest)).head? =
        some ⟨call.target.schema, call.target.name, 0⟩ ↔
      ¬OpensClause (call.operand ++ rest) ∧ ¬CallMatch.IsKeyword call.target.name := by
  have reads : (Position.start (call.text ++ rest)).Reads call.text
      ⟨Passed.nothing.addRun call.text, rest⟩ := Position.reads_addRun rfl
  obtain ⟨found, isMatch⟩ := call.exists_isMatch reads ended rfl
  have read : found.call = ⟨call.target.schema, call.target.name, 0⟩ := by
    rw [CallMatch.call_eq isMatch.matched, isMatch.schema, isMatch.name]
    rfl
  rw [← read, Call.head?_ofScript_iff isMatch.matched]
  exact isMatch.isCall_iff reads (call.quiet undashed ended)

/-- The dashes stand in brackets, and the word `as` in front of a dash is not where a clause would
begin. -/
theorem clause_word_is_called :
    EndsTarget [';', '-', '-'] ∧
    (Call.ofScript "eXecute\t@r= [a--b]..as-y;--".toList).head? =
      some ⟨none, ['a', 's', '-', 'y'], 0⟩ := by
  have ended : EndsTarget [';', '-', '-'] := by
    rintro _ _ ⟨⟩
    decide
  let call : WrittenCall :=
    ⟨['e', 'X', 'e', 'c', 'u', 't', 'e'], Or.inr (by decide),
      ⟨['\t'], by decide, List.all_eq_true.mp (by decide)⟩,
      some ⟨['r'], by decide, List.all_eq_true.mp (by decide), [], by simp, [' '],
        List.all_eq_true.mp (by decide)⟩,
      .inDefaultSchema
        ⟨['a', '-', '-', 'b'], true, ⟨⟨_, _, rfl, by decide⟩, List.all_eq_true.mp (by decide)⟩⟩
        ⟨['a', 's', '-', 'y'], false,
          ⟨⟨_, _, rfl, by decide⟩, List.all_eq_true.mp (by decide)⟩⟩⟩
  have script : "eXecute\t@r= [a--b]..as-y;--".toList = call.text ++ [';', '-', '-'] := by decide
  have undashed : call.target.Undashed := by
    simp only [WrittenTarget.Undashed, call, WrittenTarget.names, List.forall_mem_cons]
    refine ⟨fun bare => ?_, fun _ => by decide, by simp⟩
    cases bare
  have noClause : ¬OpensClause (call.operand ++ [';', '-', '-']) := by
    rintro (⟨_, _, split, spelled, -⟩ | ⟨_, _, split, spelled, -⟩) <;>
      · cases spelled with
        | cons fits _ =>
            obtain ⟨rfl, -⟩ := List.cons.inj split
            exact absurd fits (by decide)
  rw [script]
  refine ⟨ended, (written_call_comes_first call _ undashed ended).mpr ⟨noClause, ?_⟩⟩
  unfold CallMatch.IsKeyword
  decide

end WrittenCall

end ProcedureAtlas
