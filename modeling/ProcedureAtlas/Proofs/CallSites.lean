import ProcedureAtlas.Proofs.Readers

/-!
# Where calls can begin

A call begins at a whole keyword with blanks and the beginning of a target behind it. Inside what a
call takes, there is one place only where this can happen again: at the end of the called name,
behind a dash. An assigned variable that spells a keyword has an equals sign behind it, and the
segments in front of the name have a bracket or a dot behind them.

The stretches where nothing can begin are put together in the order in which a call is read: the
blanks, the assignment, the segments with their dots. What is left is the keyword itself, whose
letters follow one another, and the name.
-/

namespace ProcedureAtlas

set_option autoImplicit false

namespace CallMatch

/-- One of the two keywords, in any case. -/
def IsKeyword (word : Text) : Prop :=
  word.map Char.toLower = execLetters ∨ word.map Char.toLower = executeLetters

theorem isWord_of_letter {character : Char} (letter : character.toLower ∈ executeLetters) :
    isWord character = true := by
  have small : executeLetters.all Char.isLower = true := by decide
  apply isWord_of_isLetter (List.all_eq_true.mp small character.toLower letter)
  simp [isLetter]

theorem IsKeyword.isWord {word : Text} (keyword : IsKeyword word) :
    ∀ character ∈ word, ProcedureAtlas.isWord character = true := by
  intro character member
  apply isWord_of_letter
  have lowered : character.toLower ∈ word.map Char.toLower := List.mem_map_of_mem member
  rcases keyword with short | long
  · rw [short] at lowered
    exact List.mem_append_left ['u', 't', 'e'] lowered
  · rwa [long] at lowered

theorem IsKeyword.first {word : Text} (keyword : IsKeyword word) :
    ∃ character rest, word = character :: rest ∧ character.toLower = 'e' := by
  cases word with
  | nil => rcases keyword with short | long <;> simp [execLetters, executeLetters] at *
  | cons character rest =>
      refine ⟨character, rest, rfl, ?_⟩
      rcases keyword with short | long
      · exact (List.cons.inj short).1
      · exact (List.cons.inj long).1

theorem not_isKeyword_letter (letter : Char) : ¬IsKeyword [letter] := by
  simp [IsKeyword, execLetters, executeLetters]

private theorem map_toLower_of_spelled {letters run : Text}
    (spelled : List.Forall₂ (fun letter character => isLetter letter character = true) letters run)
    (simple : 'k' ∉ letters ∧ 's' ∉ letters) : run.map Char.toLower = letters := by
  induction spelled with
  | nil => rfl
  | @cons letter character letters run fits _ ih =>
      rw [List.mem_cons, List.mem_cons, not_or, not_or] at simple
      have lowered : character.toLower = letter := by
        simpa [isLetter, Ne.symm simple.1.1, Ne.symm simple.2.1] using fits
      rw [List.map_cons, lowered, ih ⟨simple.1.2, simple.2.2⟩]

theorem reads_of_readKeyword {position stop : Position}
    (read : readKeyword position = some stop) :
    ∃ word, position.Reads word stop ∧ IsKeyword word := by
  rw [readKeyword, Option.or_eq_some_iff] at read
  rcases read with long | ⟨-, short⟩
  · obtain ⟨word, reads, spelled⟩ := Position.reads_of_readLetters long
    exact ⟨word, reads, Or.inr (map_toLower_of_spelled spelled (by decide))⟩
  · obtain ⟨word, reads, spelled⟩ := Position.reads_of_readLetters short
    exact ⟨word, reads, Or.inl (map_toLower_of_spelled spelled (by decide))⟩

/-! ## Beginnings -/

/-- A call may begin here: no word goes before, the longest run of segment characters is a keyword,
and behind it stand blanks and then something that is not an equals sign. -/
structure Opens (position : Position) : Prop where
  apart : position.followsWord = false
  keyword : IsKeyword (position.after.takeWhile isSegmentPart)
  blank : ∃ character rest, position.after.dropWhile isSegmentPart = character :: rest ∧
    isBlank character = true
  next : ∃ character rest,
    (position.after.dropWhile isSegmentPart).dropWhile isBlank = character :: rest ∧ character ≠ '='

theorem Opens.first {position : Position} (opens : Opens position) :
    ∃ character rest, position.after = character :: rest ∧ character.toLower = 'e' := by
  obtain ⟨character, rest, taken, letter⟩ := opens.keyword.first
  cases after : position.after with
  | nil =>
      rw [after] at taken
      cases taken
  | cons first others =>
      refine ⟨first, others, rfl, ?_⟩
      rw [after, List.takeWhile_cons] at taken
      split at taken
      · rw [(List.cons.inj taken).1]
        exact letter
      · cases taken

/-- A run of segment characters that is as long as it can be is what a beginning inside it sees. -/
theorem longest_run {position stop : Position} {run : Text} (reads : position.Reads run stop)
    (parts : ∀ character ∈ run, isSegmentPart character = true)
    (longest : stop.Shuns isSegmentPart) :
    position.after.takeWhile isSegmentPart = run ∧
      position.after.dropWhile isSegmentPart = stop.after := by
  have ended : stop.after.takeWhile isSegmentPart = [] ∧
      stop.after.dropWhile isSegmentPart = stop.after := by
    cases after : stop.after with
    | nil => exact ⟨rfl, rfl⟩
    | cons character rest =>
        have other : ¬isSegmentPart character = true := by
          rw [longest character rest after]
          exact Bool.false_ne_true
        exact ⟨List.takeWhile_cons_of_neg other, List.dropWhile_cons_of_neg other⟩
  rw [reads.after, List.takeWhile_append_of_pos parts, List.dropWhile_append_of_pos parts, ended.1,
    ended.2, List.append_nil]
  exact ⟨rfl, rfl⟩

private theorem followsWord_of_reads {start position : Position} {run : Text}
    (reads : start.Reads run position) (inhabited : run ≠ [])
    (words : ∀ character ∈ run, isWord character = true) : position.followsWord = true := by
  obtain ⟨front, last, rfl⟩ := List.eq_nil_or_concat run |>.resolve_left inhabited
  have before := reads.before
  rw [List.concat_eq_append, List.reverse_append] at before
  change position.before = last :: _ at before
  rw [Position.followsWord, before]
  exact words last (by simp)

/-- Nothing can begin from `start` up to, but excluding, `stop`. -/
structure Barren (start stop : Position) : Prop where
  reads : ∃ run, start.Reads run stop
  closed : ∀ position : Position, position.text = start.text → start.index ≤ position.index →
    position.index < stop.index → ¬Opens position

namespace Barren

variable {start middle stop : Position}

theorem refl (position : Position) : Barren position position :=
  ⟨⟨[], .refl position⟩, fun _ _ lower upper => absurd upper (Nat.not_lt.mpr lower)⟩

theorem trans (first : Barren start middle) (second : Barren middle stop) : Barren start stop := by
  obtain ⟨front, frontReads⟩ := first.reads
  obtain ⟨back, backReads⟩ := second.reads
  refine ⟨⟨front ++ back, frontReads.trans backReads⟩, ?_⟩
  intro position text lower upper
  by_cases early : position.index < middle.index
  · exact first.closed position text lower early
  · exact second.closed position (text.trans frontReads.text.symm) (Nat.le_of_not_lt early) upper

theorem of_characters {run : Text} (reads : start.Reads run stop)
    (other : ∀ character ∈ run, character.toLower ≠ 'e') : Barren start stop := by
  refine ⟨⟨run, reads⟩, ?_⟩
  intro position text lower upper opens
  obtain ⟨front, back, split, -, rest⟩ := reads.split text lower (Nat.le_of_lt upper)
  obtain ⟨character, others, after, letter⟩ := opens.first
  cases back with
  | nil =>
      have same := rest.index
      rw [List.length_nil] at same
      omega
  | cons first back =>
      have here : first = character := by
        have both := rest.after
        rw [after] at both
        exact (List.cons.inj both).1.symm
      subst here
      refine other first ?_ letter
      rw [split]
      simp

theorem of_character {character : Char} (reads : start.Reads [character] stop)
    (other : character.toLower ≠ 'e') : Barren start stop :=
  of_characters reads (by simpa using other)

theorem of_blanks {run : Text} (reads : start.Reads run stop)
    (blanks : ∀ character ∈ run, isBlank character = true) : Barren start stop := by
  apply of_characters reads
  intro character member letter
  have word : isWord character = true := isWord_of_letter (by rw [letter]; decide)
  rw [not_word_of_blank (blanks character member)] at word
  cases word

end Barren

/-! ## The parts of a call -/

private theorem bracket_not_letter {run : Text} {bracket : Char}
    (either : run = [] ∨ run = [bracket]) (other : bracket.toLower ≠ 'e') :
    ∀ character ∈ run, character.toLower ≠ 'e' := by
  rcases either with rfl | rfl
  · simp
  · simpa using other

theorem barren_opening {position nameStop stop : Position} {segment : Segment}
    (spans : segment.Spans position nameStop stop) : Barren position segment.position := by
  obtain ⟨run, reads, either⟩ := spans.opening
  exact .of_characters reads (bracket_not_letter either (by decide))

/-- A run of segment characters with no blank behind it. -/
theorem barren_of_parts {start stop : Position} {run : Text} (reads : start.Reads run stop)
    (parts : ∀ character ∈ run, isSegmentPart character = true)
    (longest : stop.Shuns isSegmentPart)
    (followed : ∃ character rest, stop.after = character :: rest ∧ isBlank character = false) :
    Barren start stop := by
  refine ⟨⟨run, reads⟩, ?_⟩
  intro other text lower upper opens
  obtain ⟨front, back, split, -, rest⟩ := reads.split text lower (Nat.le_of_lt upper)
  have backParts : ∀ character ∈ back, isSegmentPart character = true := by
    intro character member
    apply parts
    rw [split]
    exact List.mem_append_right front member
  obtain ⟨character, others, left, blank⟩ := opens.blank
  obtain ⟨first, more, after, solid⟩ := followed
  rw [(longest_run rest backParts longest).2, after] at left
  rw [(List.cons.inj left).1, blank] at solid
  cases solid

/-- In a word that begins with another letter every later position follows a word character. -/
theorem barren_of_word {start stop : Position} {first : Char} {word : Text}
    (reads : start.Reads (first :: word) stop) (other : first.toLower ≠ 'e')
    (words : ∀ character ∈ first :: word, isWord character = true) : Barren start stop := by
  refine ⟨⟨_, reads⟩, ?_⟩
  intro position text lower upper opens
  obtain ⟨front, back, split, frontReads, -⟩ := reads.split text lower (Nat.le_of_lt upper)
  cases front with
  | nil =>
      obtain rfl : start = position := (Position.Reads.refl start).stop_unique frontReads
      obtain ⟨character, rest, after, letter⟩ := opens.first
      rw [reads.after, List.cons_append] at after
      rw [(List.cons.inj after).1] at other
      exact other letter
  | cons character front =>
      have follows := followsWord_of_reads frontReads (List.cons_ne_nil _ _) fun letter member =>
        words letter (by rw [split]; exact List.mem_append_left back member)
      rw [opens.apart] at follows
      cases follows

/-- In front of a dot a segment ends in a bracket or at the dot, so no blank follows its name. -/
theorem barren_of_readDotted {position stop : Position} {segment : Segment}
    (read : Segment.readDotted position = some (segment, stop)) : Barren position stop := by
  obtain ⟨nameStop, dot, spans, dotted⟩ := Segment.spans_of_readDotted read
  obtain ⟨closing, closes, either⟩ := spans.closing
  have followed : ∃ character rest, nameStop.after = character :: rest ∧
      isBlank character = false := by
    rcases either with rfl | rfl
    · exact ⟨'.', stop.after, by rw [closes.after, dotted.after]; rfl, by decide⟩
    · exact ⟨']', dot.after, closes.after, by decide⟩
  have inside : Barren segment.position nameStop :=
    barren_of_parts spans.name spans.isName.parts spans.longest followed
  have closed : Barren nameStop dot :=
    .of_characters closes (bracket_not_letter either (by decide))
  have ended : Barren dot stop := .of_character dotted (by decide)
  exact (barren_opening spans).trans (inside.trans (closed.trans ended))

/-- A variable that spells a keyword is followed by an equals sign. -/
private theorem barren_variable {position variableStop : Position} {rest : Text}
    (read : position.readWord = some variableStop)
    (sign : variableStop.after.dropWhile isBlank = '=' :: rest) : Barren position variableStop := by
  obtain ⟨word, reads, -, words, -⟩ := Position.reads_of_readWord read
  refine ⟨⟨word, reads⟩, ?_⟩
  intro other text lower upper opens
  obtain ⟨front, back, split, frontReads, -⟩ := reads.split text lower (Nat.le_of_lt upper)
  cases front with
  | nil =>
      -- The beginning is the variable itself.
      obtain rfl : position = other := (Position.Reads.refl position).stop_unique frontReads
      have parts : ∀ character ∈ word, isSegmentPart character = true :=
        fun character member => part_of_word (words character member)
      have longest : variableStop.Shuns isSegmentPart := by
        intro character others after
        cases part : isSegmentPart character with
        | false => rfl
        | true =>
            rw [after, List.dropWhile_cons_of_neg (by simp [not_blank_of_part part])] at sign
            exact absurd (List.cons.inj sign).1 (ne_of_class part (by decide))
      obtain ⟨character, others, next, unequal⟩ := opens.next
      rw [(longest_run reads parts longest).2, sign] at next
      exact unequal (List.cons.inj next).1.symm
  | cons first front =>
      have follows := followsWord_of_reads frontReads (List.cons_ne_nil _ _) fun character member =>
        words character (by rw [split]; exact List.mem_append_left back member)
      rw [opens.apart] at follows
      cases follows

theorem sigil_of_readAssignment {position stop : Position}
    (read : readAssignment position = some stop) : ∃ rest, position.after = '@' :: rest := by
  simp only [readAssignment, Option.bind_eq_bind, Option.bind_eq_some_iff] at read
  obtain ⟨variableStart, sigil, -⟩ := read
  exact ⟨_, (Position.reads_of_readChar sigil).after⟩

theorem barren_of_readAssignment {position stop : Position}
    (read : readAssignment position = some stop) : Barren position stop := by
  simp only [readAssignment, Option.bind_eq_bind, Option.bind_eq_some_iff] at read
  obtain ⟨variableStart, sigilRead, variableStop, wordRead, afterSign, signRead, same⟩ := read
  obtain rfl := Option.some.inj same
  have signReads := Position.reads_of_readChar signRead
  have sigil : Barren position variableStart :=
    .of_character (Position.reads_of_readChar sigilRead) (by decide)
  have assigned : Barren variableStart variableStop := barren_variable wordRead signReads.after
  have gap : Barren variableStop (variableStop.skipWhile isBlank) :=
    .of_blanks (Position.reads_skipWhile isBlank variableStop) fun _ => List.mem_takeWhile_imp
  have sign : Barren (variableStop.skipWhile isBlank) afterSign :=
    .of_character signReads (by decide)
  have last : Barren afterSign (afterSign.skipWhile isBlank) :=
    .of_blanks (Position.reads_skipWhile isBlank afterSign) fun _ => List.mem_takeWhile_imp
  exact sigil.trans (assigned.trans (gap.trans (sign.trans last)))

/-- Nothing begins in front of the last segment of a target, which is its name. -/
def Leads (position : Position) (target : Target) : Prop :=
  ∃ lead nameStop, Barren position lead ∧ target.name.Spans lead nameStop target.stop

namespace Leads

variable {position stop : Position} {target : Target}

theorem behind (barren : Barren position stop) (leads : Leads stop target) :
    Leads position target := by
  obtain ⟨lead, nameStop, rest, spans⟩ := leads
  exact ⟨lead, nameStop, barren.trans rest, spans⟩

theorem of_readName (read : Target.readName position = some target) : Leads position target := by
  obtain ⟨nameRead, -⟩ := Target.read_of_readName read
  obtain ⟨nameStop, spans⟩ := Segment.spans_of_read nameRead
  exact ⟨position, nameStop, .refl position, spans⟩

theorem of_readSchemaName (read : Target.readSchemaName position = some target) :
    Leads position target := by
  obtain ⟨_, afterSchema, schemaRead, nameRead, -⟩ := Target.read_of_readSchemaName read
  obtain ⟨nameStop, spans⟩ := Segment.spans_of_read nameRead
  exact ⟨afterSchema, nameStop, barren_of_readDotted schemaRead, spans⟩

theorem of_readDotName (read : Target.readDotName position = some target) :
    Leads position target := by
  simp only [Target.readDotName, Option.bind_eq_bind, Option.bind_eq_some_iff] at read
  obtain ⟨afterDot, dotRead, nameRead⟩ := read
  have dot : Barren position afterDot :=
    .of_character (Position.reads_of_readChar dotRead) (by decide)
  exact (of_readName nameRead).behind dot

theorem of_readDatabaseName (read : Target.readDatabaseName position = some target) :
    Leads position target := by
  simp only [Target.readDatabaseName, Option.bind_eq_bind, Option.bind_eq_some_iff] at read
  obtain ⟨⟨_, afterDatabase⟩, databaseRead, nameRead⟩ := read
  exact (of_readDotName nameRead).behind (barren_of_readDotted databaseRead)

theorem of_readDatabaseSchemaName (read : Target.readDatabaseSchemaName position = some target) :
    Leads position target := by
  simp only [Target.readDatabaseSchemaName, Option.bind_eq_bind, Option.bind_eq_some_iff] at read
  obtain ⟨⟨_, afterDatabase⟩, databaseRead, nameRead⟩ := read
  exact (of_readSchemaName nameRead).behind (barren_of_readDotted databaseRead)

theorem of_readCalled (read : Target.readCalled position = some target) :
    Leads position target := by
  simp only [Target.readCalled, Option.or_eq_some_iff] at read
  rcases read with databaseSchema | ⟨-, database | ⟨-, schema | ⟨-, dot | ⟨-, name⟩⟩⟩⟩
  · exact of_readDatabaseSchemaName databaseSchema
  · exact of_readDatabaseName database
  · exact of_readSchemaName schema
  · exact of_readDotName dot
  · exact of_readName name

end Leads

/-! ## Matches -/

/-- What a match is made of, from left to right. -/
structure Parts (position : Position) (found : CallMatch) : Prop where
  apart : position.followsWord = false
  keyword : found.keyword = position
  keywordStop : readKeyword position = some found.keywordStop
  target : ∃ afterBlanks, found.keywordStop.readBlanks = some afterBlanks ∧
    Target.readCalled ((readAssignment afterBlanks).getD afterBlanks) = some found.target

theorem parts_of_at? {position : Position} {found : CallMatch}
    (matched : at? position = some found) : found.Parts position := by
  simp only [at?, Option.bind_eq_bind, Option.bind_eq_some_iff] at matched
  obtain ⟨keywordStop, keyword, afterBlanks, blanks, target, called, same⟩ := matched
  split at same
  · cases same
  · rename_i apart
    obtain rfl := Option.some.inj same
    exact ⟨Bool.eq_false_iff.mpr apart, rfl, keyword, afterBlanks, blanks, called⟩

namespace Parts

variable {position : Position} {found : CallMatch}

/-- Behind the keyword of a match stand blanks, and behind those a variable or a target. -/
theorem keyword_run (parts : found.Parts position) :
    ∃ word, position.Reads word found.keywordStop ∧ IsKeyword word ∧
      found.keywordStop.Shuns isSegmentPart := by
  obtain ⟨afterBlanks, blanks, -⟩ := parts.target
  obtain ⟨word, reads, keyword⟩ := reads_of_readKeyword parts.keywordStop
  obtain ⟨run, blankReads, inhabited, allBlank, -⟩ := Position.reads_of_readBlanks blanks
  refine ⟨word, reads, keyword, ?_⟩
  intro character rest after
  obtain ⟨first, others, rfl⟩ := List.exists_cons_of_ne_nil inhabited
  have here : character = first := by
    have both := blankReads.after
    rw [after] at both
    exact (List.cons.inj both).1
  cases part : isSegmentPart character with
  | false => rfl
  | true =>
      have solid := not_blank_of_part part
      rw [here, allBlank first List.mem_cons_self] at solid
      cases solid

theorem opens (parts : found.Parts position) : Opens position := by
  obtain ⟨word, reads, keyword, longest⟩ := parts.keyword_run
  obtain ⟨afterBlanks, blanks, called⟩ := parts.target
  obtain ⟨run, blankReads, inhabited, allBlank, rfl⟩ := Position.reads_of_readBlanks blanks
  obtain ⟨taken, left⟩ := longest_run reads (fun _ member => part_of_word (keyword.isWord _ member))
    longest
  refine ⟨parts.apart, ?_, ?_, ?_⟩
  · rwa [taken]
  · obtain ⟨first, others, rfl⟩ := List.exists_cons_of_ne_nil inhabited
    exact ⟨first, _, left.trans blankReads.after, allBlank first List.mem_cons_self⟩
  · rw [left]
    change ∃ character rest, (found.keywordStop.skipWhile isBlank).after = character :: rest ∧ _
    generalize found.keywordStop.skipWhile isBlank = afterBlanks at called
    cases assignment : readAssignment afterBlanks with
    | some stop =>
        obtain ⟨rest, after⟩ := sigil_of_readAssignment assignment
        exact ⟨'@', rest, after, by decide⟩
    | none =>
        rw [assignment, Option.getD_none] at called
        by_contra none
        have shuns : afterBlanks.Shuns Target.canBegin := by
          intro character rest after
          by_cases equal : character = '='
          · rw [equal]
            decide
          · exact absurd ⟨character, rest, after, equal⟩ none
        rw [Target.readCalled_eq_none shuns] at called
        cases called

theorem closed_in_keyword (parts : found.Parts position) {other : Position}
    (text : other.text = position.text) (lower : position.index < other.index)
    (upper : other.index < found.keywordStop.index) : ¬Opens other := by
  intro opens
  obtain ⟨word, reads, keyword, -⟩ := parts.keyword_run
  obtain ⟨front, back, rfl, frontReads, -⟩ :=
    reads.split text (Nat.le_of_lt lower) (Nat.le_of_lt upper)
  have inhabited : front ≠ [] := by
    rintro rfl
    have same := frontReads.index
    rw [List.length_nil] at same
    omega
  have follows := followsWord_of_reads frontReads inhabited fun character member =>
    keyword.isWord character (List.mem_append_left back member)
  rw [opens.apart] at follows
  cases follows

/-- From the end of the keyword up to the name nothing begins. -/
theorem leads (parts : found.Parts position) : Leads found.keywordStop found.target := by
  obtain ⟨afterBlanks, blanks, called⟩ := parts.target
  obtain ⟨run, blankReads, -, allBlank, -⟩ := Position.reads_of_readBlanks blanks
  have target := Leads.of_readCalled called
  cases assignment : readAssignment afterBlanks with
  | none =>
      rw [assignment, Option.getD_none] at target
      exact target.behind (.of_blanks blankReads allBlank)
  | some stop =>
      rw [assignment, Option.getD_some] at target
      have assigned := barren_of_readAssignment assignment
      exact target.behind ((Barren.of_blanks blankReads allBlank).trans assigned)

theorem order (parts : found.Parts position) :
    position.index < found.keywordStop.index ∧
      found.keywordStop.index ≤ found.target.name.position.index ∧
      found.target.name.position.index + found.target.name.name.length ≤
        found.target.stop.index := by
  obtain ⟨word, reads, keyword, -⟩ := parts.keyword_run
  obtain ⟨lead, nameStop, barren, spans⟩ := parts.leads
  obtain ⟨_, leadReads⟩ := barren.reads
  obtain ⟨_, openingReads, -⟩ := spans.opening
  obtain ⟨_, closingReads, -⟩ := spans.closing
  obtain ⟨_, _, rfl, -⟩ := keyword.first
  have keywordIndex := reads.index
  have leadIndex := leadReads.index
  have openingIndex := openingReads.index
  have nameIndex := spans.name.index
  have closingIndex := closingReads.index
  rw [List.length_cons] at keywordIndex
  omega

theorem text (parts : found.Parts position) : found.target.name.position.text = position.text := by
  obtain ⟨word, reads, -⟩ := parts.keyword_run
  obtain ⟨lead, nameStop, barren, spans⟩ := parts.leads
  obtain ⟨_, leadReads⟩ := barren.reads
  obtain ⟨_, openingReads, -⟩ := spans.opening
  rw [openingReads.text, leadReads.text, reads.text]

/-- Everything but the name is closed, so a beginning inside a match is inside the name. -/
theorem within_name (parts : found.Parts position) {other : Position} (opens : Opens other)
    (text : other.text = position.text) (lower : position.index < other.index)
    (upper : other.index < found.target.stop.index) :
    ∃ lead nameStop, found.target.name.Spans lead nameStop found.target.stop ∧
      found.target.name.position.index ≤ other.index ∧ other.index < nameStop.index := by
  obtain ⟨word, reads, -⟩ := parts.keyword_run
  obtain ⟨lead, nameStop, barren, spans⟩ := parts.leads
  obtain ⟨closing, closingReads, bracket⟩ := spans.closing
  have start : found.keywordStop.text = position.text := reads.text
  have behindKeyword : found.keywordStop.index ≤ other.index := by
    by_contra inside
    exact parts.closed_in_keyword text lower (Nat.lt_of_not_le inside) opens
  have beforeName : Barren found.keywordStop found.target.name.position :=
    barren.trans (barren_opening spans)
  have behindName : Barren nameStop found.target.stop :=
    .of_characters closingReads (bracket_not_letter bracket (by decide))
  refine ⟨lead, nameStop, spans, ?_, ?_⟩
  · by_contra inside
    exact beforeName.closed other (text.trans start.symm) behindKeyword (Nat.lt_of_not_le inside)
      opens
  · by_contra outside
    refine behindName.closed other ?_ (Nat.le_of_not_lt outside) upper opens
    rw [spans.name.text, parts.text, text]

theorem begins_in_name (parts : found.Parts position) {other : Position} (opens : Opens other)
    (text : other.text = position.text) (lower : position.index < other.index)
    (upper : other.index < found.target.stop.index) :
    ∃ front keyword, found.target.name.name = front ++ keyword ∧
      found.target.name.position.Reads front other ∧ IsKeyword keyword := by
  obtain ⟨lead, nameStop, spans, behindStart, beforeStop⟩ :=
    parts.within_name opens text lower upper
  obtain ⟨front, back, split, frontReads, backReads⟩ :=
    spans.name.split (text.trans parts.text.symm) behindStart (Nat.le_of_lt beforeStop)
  have backParts : ∀ character ∈ back, isSegmentPart character = true := by
    intro character member
    apply spans.isName.parts
    rw [split]
    exact List.mem_append_right front member
  -- The name cannot be longer, so what the beginning sees of it is its rest.
  have keyword := opens.keyword
  rw [(longest_run backReads backParts spans.longest).1] at keyword
  exact ⟨front, back, split, frontReads, keyword⟩

end Parts

/-! ## Names that end in a keyword -/

/-- A keyword behind a dash at the end of a name. -/
def EndsInKeyword (name : Text) : Prop :=
  ∃ front keyword, name = front ++ '-' :: keyword ∧ IsKeyword keyword

def Shadows (earlier : CallMatch) (position : Position) : Prop :=
  earlier.target.name.position.offset ≤ position.offset ∧
    position.offset <
      earlier.target.name.position.offset + Text.byteLength earlier.target.name.name

theorem targetsKeyword_iff (found : CallMatch) :
    found.targetsKeyword = true ↔ IsKeyword found.target.name.name := by
  have short : execLetters.map Char.toLower = execLetters := by decide
  have long : executeLetters.map Char.toLower = executeLetters := by decide
  rw [targetsKeyword, Bool.or_eq_true, Text.sameLetters, Text.sameLetters, short, long, beq_iff_eq,
    beq_iff_eq, IsKeyword]

/-- A beginning inside a match whose target is no keyword stands behind a dash of its name. -/
theorem Parts.shadows {position other : Position} {earlier : CallMatch}
    (parts : earlier.Parts position) (proper : earlier.targetsKeyword = false)
    (opens : Opens other) (text : other.text = position.text)
    (lower : position.index < other.index) (upper : other.index < earlier.target.stop.index) :
    earlier.Shadows other ∧ EndsInKeyword earlier.target.name.name := by
  obtain ⟨front, keyword, split, reads, spelled⟩ := parts.begins_in_name opens text lower upper
  constructor
  · have inhabited : keyword ≠ [] := by
      rintro rfl
      obtain ⟨_, _, impossible, -⟩ := spelled.first
      cases impossible
    have positive := Text.byteLength_pos inhabited
    rw [Shadows, reads.offset, split, Text.byteLength_append]
    omega
  · rcases List.eq_nil_or_concat front with rfl | ⟨front, last, rfl⟩
    · rw [List.nil_append] at split
      rw [← split, ← targetsKeyword_iff, proper] at spelled
      cases spelled
    · -- A part of a name in front of a beginning is no word character, which leaves the dash.
      obtain ⟨_, _, -, spans⟩ := parts.leads
      have part : isSegmentPart last = true := by
        apply spans.isName.parts
        rw [split]
        simp
      have noWord : isWord last = false := by
        have apart := opens.apart
        rw [Position.followsWord, reads.before, List.concat_eq_append, List.reverse_append] at apart
        exact apart
      have dash : last = '-' := by
        simpa [isSegmentPart, noWord] using part
      refine ⟨front, keyword, ?_, spelled⟩
      rw [split, List.concat_eq_append, List.append_assoc, dash]
      rfl

end CallMatch

end ProcedureAtlas
