import ProcedureAtlas.Proofs.WrittenForms

/-!
# Words, gaps and names as they are written

Calls and headers are put together from a few pieces: words in any letter case, gaps of blanks, and
names that are bare or in brackets. A piece carries what makes it well formed. It is read from its
front to its end, provided that what follows does not go on with it; nothing follows a bracket that
would.

Names with dots between them are read in the longest reading that fits, so it is also said where a
longer reading does not fit.
-/

namespace ProcedureAtlas

set_option autoImplicit false

/-! ## Words and gaps -/

/-- A word in any letter case. -/
structure SpelledWord (letters : List Char) where
  text : Text
  spelled : text.map Char.toLower = letters

structure Gap where
  text : Text
  inhabited : text ≠ []
  blank : ∀ character ∈ text, isBlank character = true

namespace SpelledWord

variable {letters : List Char}

theorem spells (word : SpelledWord letters) :
    List.Forall₂ (fun letter character => isLetter letter character = true) letters word.text := by
  obtain ⟨text, rfl⟩ := word
  rw [List.forall₂_map_left_iff]
  refine List.forall₂_same.mpr fun character _ => ?_
  rw [isLetter, beq_self_eq_true, Bool.true_or, Bool.true_or]

theorem read (word : SpelledWord letters) {position stop : Position}
    (reads : position.Reads word.text stop) : position.readLetters letters = some stop :=
  Position.readLetters_of_reads reads word.spells

theorem exists_first {letter : Char} (word : SpelledWord (letter :: letters)) :
    ∃ character rest, word.text = character :: rest ∧ character.toLower = letter := by
  obtain ⟨character, rest, text, lowered, -⟩ := List.map_eq_cons_iff.mp word.spelled
  exact ⟨character, rest, text, lowered⟩

variable {letter : Char} {position stop : Position}

theorem isWord_first (word : SpelledWord (letter :: letters)) (small : letter.isLower = true) :
    ∃ character rest, word.text = character :: rest ∧ isWord character = true := by
  obtain ⟨character, rest, text, rfl⟩ := word.exists_first
  refine ⟨character, rest, text, isWord_of_isLetter small ?_⟩
  rw [isLetter, beq_self_eq_true, Bool.true_or, Bool.true_or]

theorem shuns_blank (word : SpelledWord (letter :: letters)) (small : letter.isLower = true)
    (reads : position.Reads word.text stop) : position.Shuns isBlank := by
  obtain ⟨character, rest, text, first⟩ := word.isWord_first small
  rw [text] at reads
  exact Position.shuns_of_after reads.after (not_blank_of_part (part_of_word first))

theorem readLetters_eq_none (word : SpelledWord (letter :: letters))
    (reads : position.Reads word.text stop) {other : Char} {others : List Char}
    (apart : letter ≠ other) (simple : other ≠ 'k' ∧ other ≠ 's') :
    position.readLetters (other :: others) = none := by
  obtain ⟨character, rest, text, rfl⟩ := word.exists_first
  rw [text] at reads
  apply Position.readLetters_eq_none reads.after
  simp [isLetter, apart, simple.1, simple.2]

end SpelledWord

namespace Gap

variable {position stop : Position}

theorem exists_first (gap : Gap) :
    ∃ character rest, gap.text = character :: rest ∧ isBlank character = true := by
  obtain ⟨character, rest, text⟩ := List.exists_cons_of_ne_nil gap.inhabited
  exact ⟨character, rest, text, gap.blank character (text ▸ List.mem_cons_self)⟩

theorem read (gap : Gap) (reads : position.Reads gap.text stop) (ended : stop.Shuns isBlank) :
    position.readBlanks = some stop := by
  obtain ⟨character, rest, text, -⟩ := gap.exists_first
  have blanks := gap.blank
  rw [text] at reads blanks
  exact Position.readBlanks_of_reads reads blanks ended

theorem not_shuns (gap : Gap) (reads : position.Reads gap.text stop) :
    ¬position.Shuns isBlank := by
  obtain ⟨character, rest, text, blank⟩ := gap.exists_first
  intro shuns
  have after := reads.after
  rw [text] at after
  rw [shuns character _ after] at blank
  cases blank

end Gap

/-- A word is not taken for a longer one when a gap follows it. -/
theorem Position.readLetters_longer {position stop : Position} {front back : List Char}
    {letter : Char} (read : position.readLetters front = some stop) (small : letter.isLower = true)
    (gap : ¬stop.Shuns isBlank) : position.readLetters (front ++ letter :: back) = none := by
  rw [readLetters_append, read, Option.bind_some]
  exact readLetters_eq_none_of_blank small gap

/-! ## Names -/

/-- A name as it is written, bare or in brackets. -/
structure WrittenName where
  name : Text
  isBracketed : Bool
  isName : IsName name

namespace WrittenName

def text (written : WrittenName) : Text :=
  if written.isBracketed then bracket written.name else written.name

def bracketed {name : Text} (isName : IsName name) : WrittenName :=
  ⟨name, true, isName⟩

/-- The characters that a written name can begin with. -/
def begins (character : Char) : Bool :=
  isWord character || character == '['

/-- The characters that would belong to a bare name in front of them. -/
def continues (character : Char) : Bool :=
  isSegmentPart character || character == ']'

theorem exists_first (written : WrittenName) :
    ∃ character rest, written.text = character :: rest ∧ begins character = true := by
  unfold text
  split
  · exact ⟨'[', _, rfl, by decide⟩
  · obtain ⟨character, rest, split, word⟩ := written.isName.first
    exact ⟨character, rest, split, by rw [begins, word, Bool.true_or]⟩

theorem not_blank_of_begins {character : Char} (first : begins character = true) :
    isBlank character = false := by
  rw [begins, Bool.or_eq_true, beq_iff_eq] at first
  rcases first with word | rfl
  · exact not_blank_of_part (part_of_word word)
  · decide

variable {position stop : Position}

theorem ended_of_bracketed {name : Text} (isName : IsName name) :
    (bracketed isName).isBracketed = false → stop.Shuns continues := by
  intro bare
  cases bare

theorem shuns (written : WrittenName) (reads : position.Reads written.text stop)
    {accept : Char → Bool}
    (apart : ∀ character, begins character = true → accept character = false) :
    position.Shuns accept := by
  obtain ⟨character, rest, text, first⟩ := written.exists_first
  rw [text] at reads
  exact Position.shuns_of_after reads.after (apart character first)

theorem readChar_eq_none (written : WrittenName) (reads : position.Reads written.text stop)
    {expected : Char} (other : begins expected = false) : position.readChar expected = none := by
  refine Position.readChar_eq_none (written.shuns reads fun character first => ?_)
    (show (· == expected) expected = true from beq_self_eq_true expected)
  refine beq_false_of_ne ?_
  rintro rfl
  rw [first] at other
  cases other

/-- Dashes in brackets open no comment; in a bare name no two of them may meet. -/
theorem quiet (written : WrittenName)
    (undashed : written.isBracketed = false → ¬['-', '-'] <:+: written.name) {rest : Text}
    (noDash : rest.head? ≠ some '-') (noClosing : rest.head? ≠ some ']') :
    Lexeme.Quiet written.text rest := by
  unfold text
  cases bracketed : written.isBracketed with
  | true => exact Lexeme.quiet_of_bracket written.isName noClosing
  | false => exact Lexeme.quiet_of_parts written.isName.parts (undashed bracketed) noDash

end WrittenName

/-- What follows a written target: nothing, or a character that is neither a word character nor a
dash, a dot or a closing bracket. -/
def EndsTarget (rest : Text) : Prop :=
  ∀ character others, rest = character :: others →
    isWord character = false ∧ character ≠ '-' ∧ character ≠ '.' ∧ character ≠ ']'

namespace EndsTarget

variable {stop : Position} (ended : EndsTarget stop.after)

include ended

theorem shuns_name : stop.Shuns WrittenName.continues := by
  intro character others after
  obtain ⟨word, dash, -, closing⟩ := ended character others after
  simp [WrittenName.continues, isSegmentPart, word, dash, closing]

theorem shuns_dot : stop.Shuns (· == '.') := by
  intro character others after
  obtain ⟨-, -, dot, -⟩ := ended character others after
  exact beq_false_of_ne dot

end EndsTarget

namespace Segment

variable {position dot afterDot stop : Position}

theorem exists_read_of_written (written : WrittenName)
    (reads : position.Reads written.text stop)
    (ended : written.isBracketed = false → stop.Shuns WrittenName.continues) :
    ∃ opened, Segment.read position = some (⟨opened, written.name⟩, stop) := by
  unfold WrittenName.text at reads
  cases bracketed : written.isBracketed with
  | true =>
      rw [bracketed, if_pos rfl] at reads
      exact exists_read_of_bracket written.isName reads
  | false =>
      rw [bracketed, if_neg Bool.false_ne_true] at reads
      have free := ended bracketed
      have unopened : position.skipChar '[' = position := by
        obtain ⟨character, rest, split, word⟩ := written.isName.first
        rw [split] at reads
        rw [Position.skipChar, Position.readChar_eq_none_of_ne reads.after
          (ne_of_class (part_of_word word) (by decide)), Option.getD_none]
      have unclosed : stop.skipChar ']' = stop := by
        rw [Position.skipChar, Position.readChar_eq_none free (by decide), Option.getD_none]
      refine ⟨position, read_of_reads written.isName unopened reads ?_ unclosed⟩
      intro character rest after
      exact (Bool.or_eq_false_iff.mp (free character rest after)).1

theorem exists_readDotted_of_written (written : WrittenName)
    (reads : position.Reads written.text dot) (dotReads : dot.Reads ['.'] afterDot) :
    ∃ opened, Segment.readDotted position = some (⟨opened, written.name⟩, afterDot) := by
  obtain ⟨opened, read⟩ := exists_read_of_written written reads fun _ =>
    Position.shuns_of_after dotReads.after (by decide)
  refine ⟨opened, ?_⟩
  simp only [readDotted, read, Position.readChar_of_reads dotReads, Option.bind_eq_bind,
    Option.bind_some]

theorem readDotted_eq_none_of_written (written : WrittenName)
    (reads : position.Reads written.text stop)
    (ended : written.isBracketed = false → stop.Shuns WrittenName.continues)
    (last : stop.Shuns (· == '.')) : Segment.readDotted position = none := by
  obtain ⟨opened, read⟩ := exists_read_of_written written reads ended
  have noDot : stop.readChar '.' = none := Position.readChar_eq_none last (by decide)
  simp only [readDotted, read, noDot, Option.bind_eq_bind, Option.bind_some, Option.bind_none]

theorem read_eq_none_of_dot (dotReads : position.Reads ['.'] stop) :
    Segment.read position = none := by
  have unopened : position.skipChar '[' = position := by
    rw [Position.skipChar, Position.readChar_eq_none_of_ne dotReads.after (by decide),
      Option.getD_none]
  have after : position.after = '.' :: stop.after := dotReads.after
  unfold Segment.read
  simp only [unopened, after]
  exact if_neg (by decide)

end Segment

namespace Target

variable {position dot afterDot stop : Position}

theorem exists_readName (written : WrittenName) (reads : position.Reads written.text stop)
    (ended : written.isBracketed = false → stop.Shuns WrittenName.continues) :
    ∃ opened, readName position = some ⟨none, ⟨opened, written.name⟩, stop⟩ := by
  obtain ⟨opened, read⟩ := Segment.exists_read_of_written written reads ended
  exact ⟨opened, by simp only [readName, read, Option.bind_eq_bind, Option.bind_some]⟩

theorem exists_readSchemaName (schema name : WrittenName)
    (schemaReads : position.Reads schema.text dot) (dotReads : dot.Reads ['.'] afterDot)
    (nameReads : afterDot.Reads name.text stop)
    (ended : name.isBracketed = false → stop.Shuns WrittenName.continues) :
    ∃ schemaStart nameStart, readSchemaName position =
      some ⟨some ⟨schemaStart, schema.name⟩, ⟨nameStart, name.name⟩, stop⟩ := by
  obtain ⟨schemaStart, schemaRead⟩ :=
    Segment.exists_readDotted_of_written schema schemaReads dotReads
  obtain ⟨nameStart, nameRead⟩ := Segment.exists_read_of_written name nameReads ended
  refine ⟨schemaStart, nameStart, ?_⟩
  simp only [readSchemaName, schemaRead, nameRead, Option.bind_eq_bind, Option.bind_some]

/-- Where no dot follows a name, there is no schema in front of another name. -/
theorem readSchemaName_eq_none (name : WrittenName) (reads : position.Reads name.text stop)
    (ended : name.isBracketed = false → stop.Shuns WrittenName.continues)
    (last : stop.Shuns (· == '.')) : readSchemaName position = none := by
  simp only [readSchemaName, Segment.readDotted_eq_none_of_written name reads ended last,
    Option.bind_eq_bind, Option.bind_none]

theorem readDotName_eq_none (name : WrittenName) (reads : position.Reads name.text stop) :
    readDotName position = none := by
  simp only [readDotName, name.readChar_eq_none reads (show WrittenName.begins '.' = false by
    decide), Option.bind_eq_bind, Option.bind_none]

theorem readCalled_eq_readSchemaName (schema name : WrittenName)
    (schemaReads : position.Reads schema.text dot) (dotReads : dot.Reads ['.'] afterDot)
    (nameReads : afterDot.Reads name.text stop)
    (ended : name.isBracketed = false → stop.Shuns WrittenName.continues)
    (last : stop.Shuns (· == '.')) : readCalled position = readSchemaName position := by
  obtain ⟨schemaStart, schemaRead⟩ :=
    Segment.exists_readDotted_of_written schema schemaReads dotReads
  simp only [readCalled, readDatabaseSchemaName, readDatabaseName, schemaRead,
    readSchemaName_eq_none name nameReads ended last, readDotName_eq_none name nameReads,
    Option.bind_eq_bind, Option.bind_some, Option.none_or]
  obtain ⟨_, _, read⟩ := exists_readSchemaName schema name schemaReads dotReads nameReads ended
  rw [read, Option.some_or]

end Target

end ProcedureAtlas
