import ProcedureAtlas.Proofs.CallForms
import ProcedureAtlas.Proofs.HeaderForms

/-!
# Calls by displayed names

A procedure is displayed by its schema and its name, both in brackets. Here another script calls it
by exactly that text. The header of the calling script declares the caller, and the one place where
a call can begin in it is its keyword. The match there is neither in a comment nor behind `print`
nor in front of a clause, whatever the names are.

It is no call when the displayed name is itself one of the two keywords: a target is compared with
the keywords after its brackets are gone. A procedure with such a name can be declared, but its
displayed name does not call it. Every other procedure is called by its displayed name.
-/

namespace ProcedureAtlas

set_option autoImplicit false

open Position

theorem IsName.of_word {character : Char} (word : isWord character = true) : IsName [character] :=
  ⟨⟨character, [], rfl, word⟩, List.forall_mem_singleton.mpr (part_of_word word)⟩

/-- A script that declares a procedure and calls another by its displayed name. -/
def callerScript (schema name displayed : Text) : Text :=
  "CREATE PROCEDURE [".toList ++ schema ++ "].[".toList ++ name ++ "] AS EXEC ".toList ++ displayed

def callerSource (label : Text) (declared called : Identity) : Source :=
  ⟨label, callerScript declared.schema declared.name called.display⟩

/-- The words, blanks, dots and names in brackets that such a script is made of. -/
def callerPieces (schema name : Text) (called : Identity) : List Text :=
  [['C', 'R', 'E', 'A', 'T', 'E'], [' '], ['P', 'R', 'O', 'C', 'E', 'D', 'U', 'R', 'E'], [' '],
    bracket schema, ['.'], bracket name, [' ', 'A', 'S', ' '], ['E', 'X', 'E', 'C'], [' '],
    bracket called.schema, ['.'], bracket called.name]

def callerPlace (schema name : Text) (called : Identity) (index : Nat) : Position :=
  place (callerPieces schema name called) index

theorem reads_callerPlace {schema name : Text} {called : Identity} (index : Nat) {piece : Text}
    (given : (callerPieces schema name called)[index]? = some piece) :
    (callerPlace schema name called index).Reads piece
      (callerPlace schema name called (index + 1)) :=
  reads_place given

section Caller

variable {schema name : Text} {called : Identity} (schemaWritten : IsName schema)
  (nameWritten : IsName name) (calledSchema : IsName called.schema)
  (calledName : IsName called.name)

include calledSchema calledName in
theorem callerScript_eq :
    callerScript schema name called.display = (callerPieces schema name called).flatten := by
  unfold callerScript Identity.display Identifier.qualified callerPieces bracket
  rw [calledSchema.bracketed_eq, calledName.bracketed_eq]
  simp

include schemaWritten nameWritten calledSchema calledName in
theorem commentless_caller : Lexeme.Commentless (callerPieces schema name called).flatten := by
  have whole : (callerPieces schema name called).flatten =
      "CREATE PROCEDURE ".toList ++ (bracket schema ++ (['.'] ++ (bracket name ++
        (" AS EXEC ".toList ++ (bracket called.schema ++ (['.'] ++
          (bracket called.name ++ []))))))) := by
    simp [callerPieces]
  rw [whole]
  apply Lexeme.commentless_of_plain (by decide)
  apply Lexeme.commentless_of_bracket schemaWritten (by simp)
  apply Lexeme.commentless_of_plain (by decide)
  apply Lexeme.commentless_of_bracket nameWritten (by simp)
  apply Lexeme.commentless_of_plain (by decide)
  apply Lexeme.commentless_of_bracket calledSchema (by simp)
  apply Lexeme.commentless_of_plain (by decide)
  apply Lexeme.commentless_of_bracket calledName (by simp)
  exact Lexeme.commentless_nil

/-! ## The header -/

def callerHeader : WrittenHeader where
  verb := .create ⟨['C', 'R', 'E', 'A', 'T', 'E'], by decide⟩
  gap := ⟨[' '], by decide, List.all_eq_true.mp (by decide)⟩
  noun := .procedure ⟨['P', 'R', 'O', 'C', 'E', 'D', 'U', 'R', 'E'], by decide⟩
  nameGap := ⟨[' '], by decide, List.all_eq_true.mp (by decide)⟩
  schema := some (.bracketed schemaWritten)
  name := .bracketed nameWritten

theorem reads_callerHeader : (callerPlace schema name called 0).Reads
    (callerHeader schemaWritten nameWritten).text (callerPlace schema name called 7) :=
  (reads_callerPlace 0 rfl).trans <| (reads_callerPlace 1 rfl).trans <|
    (reads_callerPlace 2 rfl).trans <| (reads_callerPlace 3 rfl).trans <|
      (reads_callerPlace 4 rfl).trans <| (reads_callerPlace 5 rfl).trans (reads_callerPlace 6 rfl)

include schemaWritten nameWritten in
theorem exists_header_of_caller :
    ∃ target, HeaderMatch.at? (callerPlace schema name called 0) =
        some ⟨callerPlace schema name called 0, target⟩ ∧
      target.schema.map Segment.name = some schema ∧ target.name.name = name := by
  have ended : EndsTarget (callerPlace schema name called 7).after := by
    intro character others after
    obtain ⟨rfl, -⟩ := List.cons.inj after
    decide
  exact (callerHeader schemaWritten nameWritten).exists_at?
    (reads_callerHeader schemaWritten nameWritten) ended rfl

/-! ## The call -/

theorem before_keyword : (callerPlace schema name called 8).before =
    ' ' :: 'S' :: 'A' :: ' ' :: (callerPlace schema name called 7).before :=
  (@reads_callerPlace schema name called 7 _ rfl).before

/-- The match at the keyword of the script. -/
structure IsCallerMatch (schema name : Text) (called : Identity) (found : CallMatch) : Prop where
  matched : CallMatch.at? (callerPlace schema name called 8) = some found
  keywordStop : found.keywordStop = callerPlace schema name called 9
  schema : found.target.schema.map Segment.name = some called.schema
  name : found.target.name.name = called.name

def callerCall : WrittenCall where
  keyword := ['E', 'X', 'E', 'C']
  isKeyword := Or.inl (by decide)
  gap := ⟨[' '], by decide, List.all_eq_true.mp (by decide)⟩
  assignment := none
  target := .inSchema (.bracketed calledSchema) (.bracketed calledName)

theorem reads_callerCall : (callerPlace schema name called 8).Reads
    (callerCall calledSchema calledName).text (callerPlace schema name called 13) :=
  (reads_callerPlace 8 rfl).trans <| (reads_callerPlace 9 rfl).trans <|
    (reads_callerPlace 10 rfl).trans <| (reads_callerPlace 11 rfl).trans (reads_callerPlace 12 rfl)

include calledSchema calledName in
theorem exists_callerMatch : ∃ found, IsCallerMatch schema name called found := by
  have ended : EndsTarget (callerPlace schema name called 13).after := by
    intro character others after
    cases after
  have apart : (callerPlace schema name called 8).followsWord = false := by
    unfold followsWord
    rw [before_keyword]
    exact not_word_of_blank (by decide)
  obtain ⟨found, isMatch⟩ := (callerCall calledSchema calledName).exists_isMatch
    (reads_callerCall calledSchema calledName) ended apart
  have keyword := (callerCall calledSchema calledName).readKeyword
    (@reads_callerPlace schema name called 8 _ rfl)
    ((callerCall calledSchema calledName).gap.not_shuns (reads_callerPlace 9 rfl))
  have keywordStop := (CallMatch.parts_of_at? isMatch.matched).keywordStop
  exact ⟨found, isMatch.matched, Option.some.inj (keywordStop.symm.trans keyword),
    isMatch.schema, isMatch.name⟩

include schemaWritten nameWritten in
theorem barren_of_header : CallMatch.Barren (callerPlace schema name called 0)
    (callerPlace schema name called 8) := by
  have create := CallMatch.barren_of_word (@reads_callerPlace schema name called 0 _ rfl)
    (by decide) (List.all_eq_true.mp (by decide))
  have gap := CallMatch.Barren.of_blanks (@reads_callerPlace schema name called 1 _ rfl)
    (List.all_eq_true.mp (by decide))
  have procedure := CallMatch.barren_of_word (@reads_callerPlace schema name called 2 _ rfl)
    (by decide) (List.all_eq_true.mp (by decide))
  have lastGap := CallMatch.Barren.of_blanks (@reads_callerPlace schema name called 3 _ rfl)
    (List.all_eq_true.mp (by decide))
  have declaredSchema := CallMatch.barren_of_bracket schemaWritten
    (@reads_callerPlace schema name called 4 _ rfl)
  have dot := CallMatch.Barren.of_character (@reads_callerPlace schema name called 5 _ rfl)
    (by decide)
  have declaredName := CallMatch.barren_of_bracket nameWritten
    (@reads_callerPlace schema name called 6 _ rfl)
  have body := CallMatch.Barren.of_characters (@reads_callerPlace schema name called 7 _ rfl)
    (by simp only [List.forall_mem_cons]; simp)
  exact create.trans (gap.trans (procedure.trans (lastGap.trans (declaredSchema.trans
    (dot.trans (declaredName.trans body))))))

include calledSchema calledName in
theorem barren_of_target : CallMatch.Barren (callerPlace schema name called 9)
    (callerPlace schema name called 13) := by
  have gap := CallMatch.Barren.of_blanks (@reads_callerPlace schema name called 9 _ rfl)
    (List.all_eq_true.mp (by decide))
  have targetSchema := CallMatch.barren_of_bracket calledSchema
    (@reads_callerPlace schema name called 10 _ rfl)
  have dot := CallMatch.Barren.of_character (@reads_callerPlace schema name called 11 _ rfl)
    (by decide)
  have targetName := CallMatch.barren_of_bracket calledName
    (@reads_callerPlace schema name called 12 _ rfl)
  exact gap.trans (targetSchema.trans (dot.trans targetName))

namespace IsCallerMatch

variable {found : CallMatch} (callerMatch : IsCallerMatch schema name called found)

include callerMatch

/-- No clause follows, because what follows is a bracket. -/
theorem opensClause_eq : found.opensClause = false := by
  have gap := @reads_callerPlace schema name called 9 _ rfl
  have schemaReads := @reads_callerPlace schema name called 10 _ rfl
  have skipped : (callerPlace schema name called 9).skipWhile isBlank =
      callerPlace schema name called 10 :=
    skipWhile_of_reads gap (List.all_eq_true.mp (by decide))
      (shuns_of_after schemaReads.after (by decide))
  have noOn : (callerPlace schema name called 10).readLetters ['o', 'n'] = none :=
    readLetters_eq_none schemaReads.after (by decide)
  have noAs : (callerPlace schema name called 10).readLetters ['a', 's'] = none :=
    readLetters_eq_none schemaReads.after (by decide)
  simp only [CallMatch.opensClause, callerMatch.keywordStop, skipped, noOn, noAs, Option.or_none]

/-- The line up to the keyword ends in a letter and a blank. -/
theorem isPrinted_eq : found.isPrinted = false := by
  have keyword := (CallMatch.parts_of_at? callerMatch.matched).keyword
  have line : (start found.keyword.before).after =
      ' ' :: 'S' :: 'A' :: ' ' :: (callerPlace schema name called 7).before := by
    rw [keyword]
    exact before_keyword
  have skipped := skipWhile_of_reads (reads_pass line) (List.all_eq_true.mp (by decide))
    (shuns_of_after (show _ = 'S' :: _ from rfl) (show CallMatch.isLineBlank 'S' = false by
      decide))
  have unquoted : ((start found.keyword.before).pass ' ' ('S' :: 'A' :: ' ' ::
      (callerPlace schema name called 7).before)).readChar '\'' = none :=
    readChar_eq_none_of_ne rfl (by decide)
  simp only [CallMatch.isPrinted, skipped, unquoted]

include schemaWritten nameWritten calledSchema calledName

theorem isCall_iff :
    found.isCall (Comments.ofText (callerPieces schema name called).flatten) = true ↔
      ¬CallMatch.IsKeyword called.name := by
  have quiet := Comments.not_covers_of_commentless
    (commentless_caller schemaWritten nameWritten calledSchema calledName)
  have uncommented :
      found.isCommented (Comments.ofText (callerPieces schema name called).flatten) = false := by
    rw [CallMatch.isCommented, quiet, quiet]
    rfl
  have keyword := CallMatch.targetsKeyword_iff found
  rw [callerMatch.name] at keyword
  rw [← keyword, CallMatch.isCall, uncommented, callerMatch.opensClause_eq,
    callerMatch.isPrinted_eq]
  simp

theorem opens_unique (other : Position)
    (text : other.text = (callerPlace schema name called 8).text) (opens : CallMatch.Opens other) :
    other = callerPlace schema name called 8 := by
  have parts := CallMatch.parts_of_at? callerMatch.matched
  have header := @barren_of_header schema name called schemaWritten nameWritten
  have target := @barren_of_target schema name called calledSchema calledName
  obtain ⟨_, headerReads⟩ := header.reads
  obtain ⟨_, targetReads⟩ := target.reads
  have exec := @reads_callerPlace schema name called 8 _ rfl
  apply ext_of_index text
  by_contra elsewhere
  rcases Nat.lt_or_gt_of_ne elsewhere with before | behind
  · exact header.closed other (text.trans headerReads.text) (Nat.zero_le _) before opens
  · by_cases inside : other.index < (callerPlace schema name called 9).index
    · rw [← callerMatch.keywordStop] at inside
      exact parts.closed_in_keyword text behind inside opens
    · by_cases within : other.index < (callerPlace schema name called 13).index
      · exact target.closed other (text.trans exec.text.symm) (Nat.le_of_not_lt inside) within opens
      · -- Nothing is left to be read behind the target.
        have whole : (callerPlace schema name called 13).text = other.text := by
          rw [targetReads.text, exec.text, text]
        obtain ⟨run, reads⟩ := exists_reads whole (Nat.le_of_not_lt within)
        obtain ⟨character, rest, after, -⟩ := opens.first
        have nothing : [] = run ++ other.after := reads.after
        rw [after] at nothing
        simp at nothing

end IsCallerMatch

/-! ## What the script declares and calls -/

include schemaWritten nameWritten calledSchema calledName

theorem declaration_of_caller :
    Declaration.ofScript? (callerScript schema name called.display) = some ⟨some schema, name⟩ := by
  obtain ⟨target, matched, schemaRead, nameRead⟩ :=
    @exists_header_of_caller schema name called schemaWritten nameWritten
  have declared := HeaderMatch.declaration_eq matched
  have quiet := Comments.not_covers_of_commentless
    (commentless_caller schemaWritten nameWritten calledSchema calledName)
  have start : callerPlace schema name called 0 =
      .start (callerScript schema name called.display) := by
    rw [callerScript_eq calledSchema calledName]
    exact place_zero _
  rw [start] at matched declared
  have found : HeaderMatch.find? (callerScript schema name called.display) =
      some ⟨.start (callerScript schema name called.display), target⟩ := by
    apply HeaderMatch.find?_of_start matched
    rw [callerScript_eq calledSchema calledName]
    exact quiet _
  rw [Declaration.ofScript?, found, Option.map_some, declared, schemaRead, nameRead]

theorem references_of_caller :
    (¬CallMatch.IsKeyword called.name →
      Reference.ofScript (callerScript schema name called.display) =
        [⟨some called.schema, called.name⟩]) ∧
    (CallMatch.IsKeyword called.name →
      Reference.ofScript (callerScript schema name called.display) = []) := by
  obtain ⟨found, callerMatch⟩ := @exists_callerMatch schema name called calledSchema calledName
  have isCall := callerMatch.isCall_iff schemaWritten nameWritten calledSchema calledName
  have scanned := CallMatch.scan_of_alone callerMatch.matched
    (callerMatch.opens_unique schemaWritten nameWritten calledSchema calledName)
  have text : (callerPlace schema name called 8).text =
      (callerPieces schema name called).flatten := text_place _ 8
  rw [text] at scanned
  unfold Reference.ofScript Call.ofScript
  rw [callerScript_eq calledSchema calledName, scanned]
  constructor
  · intro proper
    have written : found.call.schema = some called.schema := by
      obtain ⟨segment, given, same⟩ := Option.map_eq_some_iff.mp callerMatch.schema
      change found.target.schema.map (fun segment => Identifier.bare segment.name) = _
      rw [given, Option.map_some, same, calledSchema.bare_eq]
    have bare : found.call.name = called.name := by
      change Identifier.bare found.target.name.name = _
      rw [callerMatch.name, calledName.bare_eq]
    rw [if_pos (isCall.mpr proper), List.map_singleton, List.map_singleton, Reference.ofCall,
      written, bare]
  · intro keyword
    rw [if_neg (fun accepted => isCall.mp accepted keyword)]
    rfl

theorem exists_record_of_caller (label : Text) :
    ∃ record, Record.ofSource (callerSource label ⟨schema, name⟩ called) = .ok record ∧
      record.identity = ⟨schema, name⟩ ∧ record.text = callerScript schema name called.display ∧
      (¬CallMatch.IsKeyword called.name →
        record.references = [⟨some called.schema, called.name⟩]) := by
  have declared : Declaration.ofScript? (callerSource label ⟨schema, name⟩ called).text =
      some ⟨some schema, name⟩ :=
    declaration_of_caller schemaWritten nameWritten calledSchema calledName
  obtain ⟨record, made, -, text, identity⟩ := Record.exists_of_declared declared
  refine ⟨record, made, identity, text, ?_⟩
  intro proper
  rw [record.references_eq, text]
  exact (references_of_caller schemaWritten nameWritten calledSchema calledName).1 proper

end Caller

theorem exists_record_of_letters {schema name calledSchema calledName : Char}
    (words : [schema, name, calledSchema, calledName].all isWord = true)
    (label : Text) :
    ∃ record, Record.ofSource
        (callerSource label ⟨[schema], [name]⟩ ⟨[calledSchema], [calledName]⟩) = .ok record ∧
      record.identity = ⟨[schema], [name]⟩ ∧
      record.references = [⟨some [calledSchema], [calledName]⟩] := by
  have named (letter : Char) (listed : letter ∈ [schema, name, calledSchema, calledName]) :
      IsName [letter] := .of_word (List.all_eq_true.mp words letter listed)
  obtain ⟨record, made, identity, -, calls⟩ :=
    @exists_record_of_caller [schema] [name] ⟨[calledSchema], [calledName]⟩ (named _ (by simp))
      (named _ (by simp)) (named _ (by simp)) (named _ (by simp)) label
  exact ⟨record, made, identity, calls (CallMatch.not_isKeyword_letter calledName)⟩

/-! ## Catalogs -/

namespace Catalog

theorem ofSources_of_made (policy : Policy) {sources : List Source} {records : List Record}
    (made : List.Forall₂ (fun source record => Record.ofSource source = .ok record)
      sources records) :
    ofSources policy sources = .ok (ofRecords policy [] records) := by
  have read : readSources policy sources = .ok (records, []) := by
    induction made with
    | nil => rfl
    | cons first made ih =>
        rw [readSources, first]
        change (readSources policy _ >>= _) = _
        rw [ih]
        rfl
  rw [ofSources, read]
  rfl

variable {catalog : Catalog} {caller callee : catalog.Entry}

/-- A record whose key no other record has is found under its own name. -/
theorem lookup_own (alone : ∀ entry, (catalog.record entry).identity.key =
      (catalog.record callee).identity.key → entry = callee) :
    catalog.lookupIdentity (catalog.record callee).identity = .ok (some callee) := by
  obtain ⟨schemaWritten, nameWritten⟩ := (catalog.record callee).isName_identity
  have own : catalog.candidates (catalog.record callee).identity.name
      (catalog.record callee).identity.schema = [callee] := by
    apply List.perm_singleton.mp
    apply (List.perm_ext_iff_of_nodup ((List.nodup_finRange _).filter _)
      (List.nodup_singleton callee)).mpr
    intro entry
    change entry ∈ catalog.candidates _ _ ↔ _
    rw [mem_candidates, Record.isMatch, Identity.isMatch_iff_key, nameWritten.bare_eq,
      schemaWritten.bare_eq, List.mem_singleton]
    constructor
    · exact alone entry
    · intro same
      rw [same]
      rfl
  rw [lookupIdentity, lookup_eq, own]
  rfl

theorem edges_of_reference
    (references : (catalog.record caller).references =
      [⟨some (catalog.record callee).identity.schema, (catalog.record callee).identity.name⟩])
    (alone : ∀ entry, (catalog.record entry).identity.key =
      (catalog.record callee).identity.key → entry = callee) :
    catalog.edges caller = .ok [callee] := by
  obtain ⟨calledSchema, calledName⟩ := (catalog.record callee).isName_identity
  have identity : Reference.identity ⟨some (catalog.record callee).identity.schema,
      (catalog.record callee).identity.name⟩ = .ok (catalog.record callee).identity := by
    apply Identity.ofOptional_of_isName _ calledName
    intro written same
    rw [← Option.some.inj same]
    exact calledSchema
  rw [edges, references, edgesOf_cons _ identity, lookup_own alone]
  rfl

theorem edges_of_caller {schema name : Text} (schemaWritten : IsName schema)
    (nameWritten : IsName name)
    (text : (catalog.record caller).text =
      callerScript schema name (catalog.record callee).display)
    (alone : ∀ entry, (catalog.record entry).identity.key =
      (catalog.record callee).identity.key → entry = callee) :
    (¬CallMatch.IsKeyword (catalog.record callee).identity.name →
      catalog.edges caller = .ok [callee]) ∧
    (CallMatch.IsKeyword (catalog.record callee).identity.name →
      catalog.edges caller = .ok []) := by
  obtain ⟨calledSchema, calledName⟩ := (catalog.record callee).isName_identity
  obtain ⟨proper, keyword⟩ :=
    references_of_caller schemaWritten nameWritten calledSchema calledName
  have scanned : (catalog.record caller).references = Reference.ofScript
      (callerScript schema name (catalog.record callee).identity.display) := by
    rw [(catalog.record caller).references_eq, text]
    rfl
  constructor
  · intro other
    exact edges_of_reference (scanned.trans (proper other)) alone
  · intro reserved
    rw [edges, scanned, keyword reserved]
    rfl

/-- Two scripts that call each other's procedures make a catalog of two records, and each of them is
the one edge of the other. -/
theorem exists_circle (policy : Policy) (label otherLabel : Text) {first second : Identity}
    (written : IsName first.schema ∧ IsName first.name)
    (otherWritten : IsName second.schema ∧ IsName second.name) (apart : first.key ≠ second.key)
    (proper : ¬CallMatch.IsKeyword first.name) (otherProper : ¬CallMatch.IsKeyword second.name) :
    ∃ opener closer, ofSources policy [callerSource label first second,
        callerSource otherLabel second first] = .ok (ofRecords policy [] [opener, closer]) ∧
      opener.identity = first ∧ closer.identity = second ∧
      opener.references = [⟨some second.schema, second.name⟩] ∧
      closer.references = [⟨some first.schema, first.name⟩] ∧
      (ofRecords policy [] [opener, closer]).edges (0 : Fin 2) = .ok [(1 : Fin 2)] ∧
      (ofRecords policy [] [opener, closer]).edges (1 : Fin 2) = .ok [(0 : Fin 2)] := by
  obtain ⟨opener, opened, openerIdentity, -, openerCalls⟩ :=
    exists_record_of_caller written.1 written.2 otherWritten.1 otherWritten.2 label
  obtain ⟨closer, closed, closerIdentity, -, closerCalls⟩ :=
    exists_record_of_caller otherWritten.1 otherWritten.2 written.1 written.2 otherLabel
  have keys : opener.identity.key ≠ closer.identity.key := by
    rw [openerIdentity, closerIdentity]
    exact apart
  refine ⟨opener, closer, ofSources_of_made policy (.cons opened (.cons closed .nil)),
    openerIdentity, closerIdentity, openerCalls otherProper, closerCalls proper, ?_, ?_⟩
  · apply edges_of_reference
    · change opener.references = [⟨some closer.identity.schema, closer.identity.name⟩]
      rw [openerCalls otherProper, closerIdentity]
    · intro entry same
      match entry with
      | ⟨0, _⟩ => exact absurd same keys
      | ⟨1, _⟩ => rfl
  · apply edges_of_reference
    · change closer.references = [⟨some opener.identity.schema, opener.identity.name⟩]
      rw [closerCalls proper, openerIdentity]
    · intro entry same
      match entry with
      | ⟨0, _⟩ => rfl
      | ⟨1, _⟩ => exact absurd same.symm keys

/-- Such a circle of two procedures whose names have one letter each. -/
theorem exists_letterCircle (policy : Policy) (label otherLabel : Text) :
    ∃ opener closer, ofSources policy [callerSource label ⟨['s'], ['x']⟩ ⟨['s'], ['y']⟩,
        callerSource otherLabel ⟨['s'], ['y']⟩ ⟨['s'], ['x']⟩] =
          .ok (ofRecords policy [] [opener, closer]) ∧
      opener.identity = ⟨['s'], ['x']⟩ ∧ closer.identity = ⟨['s'], ['y']⟩ ∧
      opener.references = [⟨some ['s'], ['y']⟩] ∧ closer.references = [⟨some ['s'], ['x']⟩] ∧
      (ofRecords policy [] [opener, closer]).edges (0 : Fin 2) = .ok [(1 : Fin 2)] ∧
      (ofRecords policy [] [opener, closer]).edges (1 : Fin 2) = .ok [(0 : Fin 2)] :=
  exists_circle policy label otherLabel ⟨.of_word (by decide), .of_word (by decide)⟩
    ⟨.of_word (by decide), .of_word (by decide)⟩ (by decide) (CallMatch.not_isKeyword_letter 'x')
    (CallMatch.not_isKeyword_letter 'y')

/-- The catalog of a source and of a script that calls its procedure. No other record has the key
of the called one. -/
theorem exists_caller_catalog (policy : Policy) {source : Source} {record : Record}
    {label schema name : Text} {sources : List Source}
    (made : Record.ofSource source = .ok record) (schemaWritten : IsName schema)
    (nameWritten : IsName name) (distinct : Key.ofName schema name ≠ record.identity.key)
    (either : sources = [source, ⟨label, callerScript schema name record.display⟩] ∨
      sources = [⟨label, callerScript schema name record.display⟩, source]) :
    ∃ (catalog : Catalog) (callee caller : catalog.Entry),
      ofSources policy sources = .ok catalog ∧ catalog.record callee = record ∧
      (catalog.record caller).identity = ⟨schema, name⟩ ∧
      (catalog.record caller).text = callerScript schema name record.display ∧
      ∀ entry, (catalog.record entry).identity.key = record.identity.key → entry = callee := by
  obtain ⟨calledSchema, calledName⟩ := record.isName_identity
  obtain ⟨calling, callingMade, identity, text, -⟩ :=
    exists_record_of_caller schemaWritten nameWritten calledSchema calledName label
  change Record.ofSource ⟨label, callerScript schema name record.display⟩ = _ at callingMade
  have apart : calling.identity.key ≠ record.identity.key := by
    rw [identity]
    exact distinct
  rcases either with first | second
  · rw [first, ofSources_of_made policy (.cons made (.cons callingMade .nil))]
    refine ⟨ofRecords policy [] [record, calling], (0 : Fin 2), (1 : Fin 2), rfl, rfl, identity,
      text, ?_⟩
    intro entry same
    match entry with
    | ⟨0, _⟩ => rfl
    | ⟨1, _⟩ => exact absurd same apart
  · rw [second, ofSources_of_made policy (.cons callingMade (.cons made .nil))]
    refine ⟨ofRecords policy [] [calling, record], (1 : Fin 2), (0 : Fin 2), rfl, rfl, identity,
      text, ?_⟩
    intro entry same
    match entry with
    | ⟨0, _⟩ => exact absurd same apart
    | ⟨1, _⟩ => rfl

/-- A declared procedure is called by its displayed name unless that name is a keyword. The catalog
of its source and of a script that calls it so, in either order, gives the caller the one edge to
it; where the name is a keyword the caller has no edge. -/
theorem displayed_name_calls_unless_keyword (policy : Policy) (source : Source) (record : Record)
    (label schema name : Text) (sources : List Source)
    (made : Record.ofSource source = .ok record) (schemaWritten : IsName schema)
    (nameWritten : IsName name) (distinct : Key.ofName schema name ≠ record.identity.key)
    (either : sources = [source, ⟨label, callerScript schema name record.display⟩] ∨
      sources = [⟨label, callerScript schema name record.display⟩, source]) :
    ∃ (catalog : Catalog) (callee caller : catalog.Entry),
      ofSources policy sources = .ok catalog ∧ catalog.record callee = record ∧
      (catalog.record caller).identity = ⟨schema, name⟩ ∧
      (catalog.record caller).text = callerScript schema name record.display ∧
      (¬CallMatch.IsKeyword record.identity.name → catalog.edges caller = .ok [callee]) ∧
      (CallMatch.IsKeyword record.identity.name → catalog.edges caller = .ok []) := by
  obtain ⟨catalog, callee, caller, built, rfl, identity, text, alone⟩ :=
    exists_caller_catalog policy made schemaWritten nameWritten distinct either
  exact ⟨catalog, callee, caller, built, rfl, identity, text,
    edges_of_caller schemaWritten nameWritten text alone⟩

/-- Clause words, a keyword as a schema and a keyword behind a dash are all called. -/
theorem dashed_keyword_is_called :
    ∃ (record : Record) (catalog : Catalog) (callee caller : catalog.Entry),
      Record.ofSource ⟨['r'], "alter proc [on].as-exec".toList⟩ = .ok record ∧
      ofSources .strict [⟨['c'], callerScript "exec".toList "print".toList record.display⟩,
        ⟨['r'], "alter proc [on].as-exec".toList⟩] = .ok catalog ∧
      catalog.record callee = record ∧ catalog.edges caller = .ok [callee] := by
  have declared : Declaration.ofScript? (Source.mk ['r'] "alter proc [on].as-exec".toList).text =
      some ⟨some "on".toList, "as-exec".toList⟩ := by decide +kernel
  obtain ⟨record, made, -, -, identity⟩ := Record.exists_of_declared declared
  have schemaWritten : IsName "exec".toList :=
    ⟨⟨'e', ['x', 'e', 'c'], rfl, by decide⟩, List.all_eq_true.mp (by decide)⟩
  have nameWritten : IsName "print".toList :=
    ⟨⟨'p', ['r', 'i', 'n', 't'], rfl, by decide⟩, List.all_eq_true.mp (by decide)⟩
  have distinct : Key.ofName "exec".toList "print".toList ≠ record.identity.key := by
    rw [identity]
    decide +kernel
  have proper : ¬CallMatch.IsKeyword record.identity.name := by
    rw [identity]
    unfold CallMatch.IsKeyword
    decide +kernel
  obtain ⟨catalog, callee, caller, built, found, -, -, called, -⟩ :=
    displayed_name_calls_unless_keyword .strict _ record ['c'] "exec".toList "print".toList _ made
      schemaWritten nameWritten distinct (Or.inr rfl)
  exact ⟨record, catalog, callee, caller, made, built, found, called proper⟩

/-- A procedure named by a keyword is declared and found, but its displayed name does not call
it. -/
theorem keyword_name_is_not_called :
    ∃ (record : Record) (catalog : Catalog) (callee caller : catalog.Entry),
      Record.ofSource ⟨['r'], "CREATE PROC [EXEC]".toList⟩ = .ok record ∧
      ofSources .strict [⟨['r'], "CREATE PROC [EXEC]".toList⟩,
        ⟨['c'], callerScript ['a'] ['b'] record.display⟩] = .ok catalog ∧
      catalog.record callee = record ∧ (catalog.record caller).identity = ⟨['a'], ['b']⟩ ∧
      catalog.lookupIdentity record.identity = .ok (some callee) ∧
      catalog.edges caller = .ok [] := by
  have declared : Declaration.ofScript? (Source.mk ['r'] "CREATE PROC [EXEC]".toList).text =
      some ⟨none, "EXEC".toList⟩ := by decide +kernel
  obtain ⟨record, made, -, -, identity⟩ := Record.exists_of_declared declared
  have schemaWritten : IsName ['a'] :=
    ⟨⟨'a', [], rfl, by decide⟩, List.all_eq_true.mp (by decide)⟩
  have nameWritten : IsName ['b'] :=
    ⟨⟨'b', [], rfl, by decide⟩, List.all_eq_true.mp (by decide)⟩
  have distinct : Key.ofName ['a'] ['b'] ≠ record.identity.key := by
    rw [identity]
    decide +kernel
  have keyword : CallMatch.IsKeyword record.identity.name := by
    rw [identity]
    exact Or.inl (by decide)
  obtain ⟨catalog, callee, caller, built, rfl, callerIdentity, text, alone⟩ :=
    exists_caller_catalog .strict made schemaWritten nameWritten distinct (Or.inl rfl)
  exact ⟨_, catalog, callee, caller, made, built, rfl, callerIdentity, lookup_own alone,
    (edges_of_caller schemaWritten nameWritten text alone).2 keyword⟩

end Catalog

end ProcedureAtlas
