import ProcedureAtlas.Proofs.NormalForm
import ProcedureAtlas.Proofs.WrittenPieces

/-!
# Headers as they are written

A header has one of three verbs, one of two nouns, and a name with or without a schema. Here every
such text is read: in any letter case, with any blanks between the words, with brackets or without,
whatever the names spell. The one condition is that the name ends where the text behind it begins.
A header at the front of a script is what the script declares, and the script makes a record under
any label.
-/

namespace ProcedureAtlas

set_option autoImplicit false

/-- `CREATE`, `CREATE OR ALTER` or `ALTER`. -/
inductive WrittenVerb where
  | create (word : SpelledWord ['c', 'r', 'e', 'a', 't', 'e'])
  | createOrAlter (first : SpelledWord ['c', 'r', 'e', 'a', 't', 'e']) (gap : Gap)
      (or : SpelledWord ['o', 'r']) (nextGap : Gap)
      (last : SpelledWord ['a', 'l', 't', 'e', 'r'])
  | alter (word : SpelledWord ['a', 'l', 't', 'e', 'r'])

/-- `PROC` or `PROCEDURE`. -/
inductive WrittenNoun where
  | proc (word : SpelledWord ['p', 'r', 'o', 'c'])
  | procedure (word : SpelledWord ['p', 'r', 'o', 'c', 'e', 'd', 'u', 'r', 'e'])

structure WrittenHeader where
  verb : WrittenVerb
  gap : Gap
  noun : WrittenNoun
  nameGap : Gap
  schema : Option WrittenName
  name : WrittenName

def WrittenVerb.text : WrittenVerb → Text
  | .create word => word.text
  | .createOrAlter first gap or nextGap last =>
      first.text ++ (gap.text ++ (or.text ++ (nextGap.text ++ last.text)))
  | .alter word => word.text

def WrittenNoun.text : WrittenNoun → Text
  | .proc word => word.text
  | .procedure word => word.text

namespace WrittenHeader

/-- The name with its schema and a dot, if it has one. -/
def declared (header : WrittenHeader) : Text :=
  match header.schema with
  | none => header.name.text
  | some schema => schema.text ++ (['.'] ++ header.name.text)

def text (header : WrittenHeader) : Text :=
  header.verb.text ++
    (header.gap.text ++ (header.noun.text ++ (header.nameGap.text ++ header.declared)))

end WrittenHeader

/-! ## Nouns and verbs -/

section Words

variable {position stop next afterNoun : Position}

theorem WrittenNoun.shuns_blank (noun : WrittenNoun) (reads : position.Reads noun.text stop) :
    position.Shuns isBlank := by
  cases noun with
  | proc word => exact word.shuns_blank (by decide) reads
  | procedure word => exact word.shuns_blank (by decide) reads

theorem WrittenNoun.readOr_eq_none (noun : WrittenNoun) (reads : position.Reads noun.text stop) :
    position.readLetters ['o', 'r'] = none := by
  cases noun with
  | proc word => exact word.readLetters_eq_none reads (by decide) (by decide)
  | procedure word => exact word.readLetters_eq_none reads (by decide) (by decide)

theorem WrittenNoun.read (noun : WrittenNoun) (reads : position.Reads noun.text stop)
    (gap : ¬stop.Shuns isBlank) : HeaderMatch.readNoun position = some stop := by
  unfold HeaderMatch.readNoun
  cases noun with
  | procedure word => rw [word.read reads, Option.some_or]
  | proc word =>
      have short := word.read reads
      have long : position.readLetters ['p', 'r', 'o', 'c', 'e', 'd', 'u', 'r', 'e'] = none :=
        Position.readLetters_longer short (by decide) gap
      rw [long, short, Option.none_or]

theorem readOrAlter_of_written {gap nextGap : Gap} {or : SpelledWord ['o', 'r']}
    {alter : SpelledWord ['a', 'l', 't', 'e', 'r']}
    (reads : position.Reads (gap.text ++ (or.text ++ (nextGap.text ++ alter.text))) stop) :
    HeaderMatch.readOrAlter position = some stop := by
  obtain ⟨orStart, gapReads, rest⟩ := reads.cut
  obtain ⟨orStop, orReads, rest⟩ := rest.cut
  obtain ⟨alterStart, nextGapReads, alterReads⟩ := rest.cut
  simp only [HeaderMatch.readOrAlter, gap.read gapReads (or.shuns_blank (by decide) orReads),
    or.read orReads, nextGap.read nextGapReads (alter.shuns_blank (by decide) alterReads),
    alter.read alterReads, Option.bind_eq_bind, Option.bind_some]

/-- Behind a verb stand a gap and a noun, so no shorter verb is taken for a longer one. -/
theorem WrittenVerb.read (verb : WrittenVerb) (gap : Gap) (noun : WrittenNoun)
    (reads : position.Reads verb.text stop) (gapReads : stop.Reads gap.text next)
    (nounReads : next.Reads noun.text afterNoun) : HeaderMatch.readVerb position = some stop := by
  unfold HeaderMatch.readVerb
  cases verb with
  | create word =>
      have noAlter : HeaderMatch.readOrAlter stop = none := by
        simp only [HeaderMatch.readOrAlter, gap.read gapReads (noun.shuns_blank nounReads),
          noun.readOr_eq_none nounReads, Option.bind_eq_bind, Option.bind_some, Option.bind_none]
      simp only [word.read reads, noAlter, Option.getD_none]
  | createOrAlter first gap or nextGap last =>
      obtain ⟨firstStop, firstReads, rest⟩ := Position.Reads.cut reads
      simp only [first.read firstReads, readOrAlter_of_written rest, Option.getD_some]
  | alter word =>
      have noCreate : position.readLetters ['c', 'r', 'e', 'a', 't', 'e'] = none :=
        word.readLetters_eq_none reads (by decide) (by decide)
      simp only [noCreate, word.read reads]

theorem WrittenVerb.exists_first (verb : WrittenVerb) :
    ∃ character rest, verb.text = character :: rest ∧ isWord character = true := by
  cases verb with
  | create word => exact word.isWord_first (by decide)
  | alter word => exact word.isWord_first (by decide)
  | createOrAlter first gap or nextGap last =>
      obtain ⟨character, rest, text, word⟩ := first.isWord_first (by decide)
      exact ⟨character, _, congrArg (· ++ _) text, word⟩

end Words

/-! ## Headers -/

namespace WrittenHeader

variable {position stop : Position}

theorem exists_readDeclared (header : WrittenHeader) (reads : position.Reads header.declared stop)
    (ended : EndsTarget stop.after) :
    ∃ target, Target.readDeclared position = some target ∧
      target.schema.map Segment.name = header.schema.map WrittenName.name ∧
      target.name.name = header.name.name := by
  have free (_ : header.name.isBracketed = false) := ended.shuns_name
  unfold declared at reads
  unfold Target.readDeclared
  cases schema : header.schema with
  | none =>
      rw [schema] at reads
      obtain ⟨opened, read⟩ := Target.exists_readName header.name reads free
      rw [Target.readSchemaName_eq_none header.name reads free ended.shuns_dot, read]
      exact ⟨_, rfl, rfl, rfl⟩
  | some written =>
      rw [schema] at reads
      obtain ⟨dot, schemaReads, rest⟩ := Position.Reads.cut reads
      obtain ⟨afterDot, dotReads, nameReads⟩ := rest.cut
      obtain ⟨schemaStart, nameStart, read⟩ :=
        Target.exists_readSchemaName written header.name schemaReads dotReads nameReads free
      rw [read]
      exact ⟨_, rfl, rfl, rfl⟩

theorem shuns_blank (header : WrittenHeader) (reads : position.Reads header.declared stop) :
    position.Shuns isBlank := by
  unfold declared at reads
  split at reads
  · exact header.name.shuns reads fun _ => WrittenName.not_blank_of_begins
  · rename_i schema _
    obtain ⟨dot, schemaReads, -⟩ := reads.cut
    exact schema.shuns schemaReads fun _ => WrittenName.not_blank_of_begins

/-- A header is matched wherever it stands, unless it stands right behind a word. -/
theorem exists_at? (header : WrittenHeader) (reads : position.Reads header.text stop)
    (ended : EndsTarget stop.after) (apart : position.followsWord = false) :
    ∃ target, HeaderMatch.at? position = some ⟨position, target⟩ ∧
      target.schema.map Segment.name = header.schema.map WrittenName.name ∧
      target.name.name = header.name.name := by
  obtain ⟨afterVerb, verbReads, rest⟩ := Position.Reads.cut reads
  obtain ⟨noun, gapReads, rest⟩ := rest.cut
  obtain ⟨afterNoun, nounReads, rest⟩ := rest.cut
  obtain ⟨name, nameGapReads, declaredReads⟩ := rest.cut
  have verb := header.verb.read header.gap header.noun verbReads gapReads nounReads
  have blanks := header.gap.read gapReads (header.noun.shuns_blank nounReads)
  have nounRead := header.noun.read nounReads (header.nameGap.not_shuns nameGapReads)
  have nameBlanks := header.nameGap.read nameGapReads (header.shuns_blank declaredReads)
  obtain ⟨target, declared, parts⟩ := header.exists_readDeclared declaredReads ended
  refine ⟨target, ?_, parts⟩
  simp only [HeaderMatch.at?, verb, blanks, nounRead, nameBlanks, declared, apart,
    Option.bind_eq_bind, Option.bind_some, Bool.false_eq_true, if_false]

theorem not_covers_start (header : WrittenHeader) (rest : Text) :
    (Comments.ofText (header.text ++ rest)).covers 0 = false := by
  obtain ⟨character, others, text, word⟩ := header.verb.exists_first
  have plain : [character].all Lexeme.isPlain = true := by
    rw [List.all_cons, Lexeme.isPlain_of_word word]
    rfl
  unfold WrittenHeader.text
  rw [text, List.append_assoc]
  exact Comments.not_covers_of_quiet (Lexeme.quiet_of_plain plain _)
    (Text.byteLength_pos (List.cons_ne_nil _ _))

theorem declares (header : WrittenHeader) {rest : Text} (ended : EndsTarget rest) :
    Declaration.ofScript? (header.text ++ rest) =
      some ⟨header.schema.map WrittenName.name, header.name.name⟩ := by
  have reads : (Position.start (header.text ++ rest)).Reads header.text
      ⟨Passed.nothing.addRun header.text, rest⟩ := Position.reads_addRun rfl
  obtain ⟨target, matched, schema, name⟩ := header.exists_at? reads ended rfl
  have found := HeaderMatch.find?_of_start matched (header.not_covers_start rest)
  rw [Declaration.ofScript?, found, Option.map_some, HeaderMatch.declaration_eq matched, schema,
    name]

/-- Headers are read as they are written. Let a script begin with a header in any of its forms, with
a name that ends where the rest of the script begins. Then the script declares exactly the schema and
the name that are written in the header, whatever they spell. Under any label it makes a record with
them as its identity, in the default schema when none is written, and displays both in brackets. -/
theorem written_header_is_declared (header : WrittenHeader) (rest : Text)
    (ended : EndsTarget rest) :
    Declaration.ofScript? (header.text ++ rest) =
      some ⟨header.schema.map WrittenName.name, header.name.name⟩ ∧
    ∀ label, ∃ record, Record.ofSource ⟨label, header.text ++ rest⟩ = .ok record ∧
      record.label = label ∧
      record.identity =
        ⟨(header.schema.map WrittenName.name).getD Identifier.defaultSchema, header.name.name⟩ ∧
      record.display =
        bracket ((header.schema.map WrittenName.name).getD Identifier.defaultSchema) ++
          '.' :: bracket header.name.name := by
  have declared := header.declares ended
  refine ⟨declared, fun label => ?_⟩
  obtain ⟨record, made, labelled, -, identity⟩ :=
    @Record.exists_of_declared ⟨label, header.text ++ rest⟩ _ declared
  refine ⟨record, made, labelled, identity, ?_⟩
  have schemaWritten : IsName
      ((header.schema.map WrittenName.name).getD Identifier.defaultSchema) := by
    cases header.schema with
    | none => exact isName_defaultSchema
    | some schema => exact schema.isName
  rw [Record.display, identity, Identity.display, Identifier.qualified,
    schemaWritten.bracketed_eq, header.name.isName.bracketed_eq]
  simp [bracket]

/-- The names in a header can spell its own words and hold what opens a comment elsewhere. -/
theorem keywords_are_declared :
    EndsTarget ['(', '-', '-'] ∧
    Declaration.ofScript? "cReate\tOR\n alTER pRoC  [or].proc--x(--".toList =
      some ⟨some ['o', 'r'], ['p', 'r', 'o', 'c', '-', '-', 'x']⟩ ∧
    ∃ record, Record.ofSource ⟨['a'], "cReate\tOR\n alTER pRoC  [or].proc--x(--".toList⟩ =
        .ok record ∧
      record.display = "[or].[proc--x]".toList := by
  have ended : EndsTarget ['(', '-', '-'] := by
    rintro _ _ ⟨⟩
    decide
  let header : WrittenHeader :=
    ⟨.createOrAlter ⟨['c', 'R', 'e', 'a', 't', 'e'], by decide⟩
        ⟨['\t'], by decide, List.all_eq_true.mp (by decide)⟩
        ⟨['O', 'R'], by decide⟩
        ⟨['\n', ' '], by decide, List.all_eq_true.mp (by decide)⟩
        ⟨['a', 'l', 'T', 'E', 'R'], by decide⟩,
      ⟨[' '], by decide, List.all_eq_true.mp (by decide)⟩,
      .proc ⟨['p', 'R', 'o', 'C'], by decide⟩,
      ⟨[' ', ' '], by decide, List.all_eq_true.mp (by decide)⟩,
      some ⟨['o', 'r'], true, ⟨⟨_, _, rfl, by decide⟩, List.all_eq_true.mp (by decide)⟩⟩,
      ⟨['p', 'r', 'o', 'c', '-', '-', 'x'], false,
        ⟨⟨_, _, rfl, by decide⟩, List.all_eq_true.mp (by decide)⟩⟩⟩
  have script : "cReate\tOR\n alTER pRoC  [or].proc--x(--".toList =
      header.text ++ ['(', '-', '-'] := by decide
  obtain ⟨declared, records⟩ := written_header_is_declared header _ ended
  obtain ⟨record, made, -, -, shown⟩ := records ['a']
  rw [script]
  exact ⟨ended, declared, record, made, shown⟩

end WrittenHeader

end ProcedureAtlas
