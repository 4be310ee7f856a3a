import ProcedureAtlas.Proofs.CallScan
import ProcedureAtlas.Proofs.Exposure
import ProcedureAtlas.Proofs.HeaderScan

/-!
# Identifiers and comments

A call is told by a keyword and a name that begin outside the comments. Between the two a comment can
only begin at dashes in a database or a schema, and it would not end before the name; so the keyword
and the schema of a call are never commented. A header is told by its beginning alone, and a comment
can begin at dashes of its schema or of its name. In both, whether a name runs into a comment is a
matter of exposed dashes.
-/

namespace ProcedureAtlas

set_option autoImplicit false

namespace Segment.Spans

variable {position nameStop stop start : Position} {segment : Segment} {script : Text}

theorem text_eq (spans : segment.Spans position nameStop stop) :
    segment.position.text = position.text := by
  obtain ⟨_, reads, -⟩ := spans.opening
  exact reads.text

theorem stop_text (spans : segment.Spans position nameStop stop) : stop.text = position.text := by
  obtain ⟨_, reads, -⟩ := spans.closing
  rw [reads.text, spans.name.text, spans.text_eq]

theorem avoids_opening (spans : segment.Spans position nameStop stop) {characters : List Char}
    (other : '[' ∉ characters) : Avoids characters position segment.position := by
  obtain ⟨run, reads, either⟩ := spans.opening
  exact .of_optional reads either other

theorem avoids_closing (spans : segment.Spans position nameStop stop) {characters : List Char}
    (other : ']' ∉ characters) : Avoids characters nameStop stop := by
  obtain ⟨run, reads, either⟩ := spans.closing
  exact .of_optional reads either other

theorem avoids_first (spans : segment.Spans position nameStop stop) {characters : List Char}
    (other : characters.any isWord = false) :
    ∃ next, Avoids characters segment.position next ∧ segment.position.offset < next.offset := by
  obtain ⟨character, rest, split, word⟩ := spans.isName.first
  have after := spans.name.after
  rw [split] at after
  have reads := Position.reads_pass after
  refine ⟨_, .of_class reads (by simpa using word) other, ?_⟩
  rw [reads.offset]
  have positive := Text.byteLength_pos (List.cons_ne_nil character [])
  omega

/-- Words and blanks in front of a segment leave its beginning outside the comments. -/
theorem begins_free (spans : segment.Spans position nameStop stop)
    (quiet : Avoids commentOpeners start position) (text : start.text = script)
    (free : (Comments.ofText script).covers start.offset = false) :
    (Comments.ofText script).covers segment.position.offset = false := by
  obtain ⟨next, first, longer⟩ :=
    @avoids_first _ _ _ _ spans commentOpeners (by decide)
  have whole := quiet.trans (spans.avoids_opening (by decide))
  exact (whole.trans first).free text free whole.offset_le longer

theorem avoids_line (spans : segment.Spans position nameStop stop) :
    Avoids lineBreakers position stop := by
  have name : Avoids lineBreakers segment.position nameStop :=
    .of_class spans.name spans.isName.parts (by decide)
  exact (spans.avoids_opening (by decide)).trans (name.trans (spans.avoids_closing (by decide)))

end Segment.Spans

/-! ## Targets -/

/-- Where the segments of a called name stand: on one line, the schema in front of the name. -/
structure Target.Follows (position : Position) (target : Target) : Prop where
  name : ∃ lead nameStop, Avoids lineBreakers position lead ∧
    target.name.Spans lead nameStop target.stop
  schema : ∀ schema, target.schema = some schema → ∃ lead schemaStop dot,
    Avoids lineBreakers position lead ∧ schema.Spans lead schemaStop dot ∧
      ∃ run, dot.Reads run target.name.position

namespace Target.Follows

variable {position stop : Position} {target : Target}

theorem behind (line : Avoids lineBreakers position stop) (follows : target.Follows stop) :
    target.Follows position := by
  constructor
  · obtain ⟨lead, nameStop, rest, spans⟩ := follows.name
    exact ⟨lead, nameStop, line.trans rest, spans⟩
  · intro schema given
    obtain ⟨lead, schemaStop, dot, rest, spans⟩ := follows.schema schema given
    exact ⟨lead, schemaStop, dot, line.trans rest, spans⟩

theorem avoids_dotted {segment : Segment}
    (read : Segment.readDotted position = some (segment, stop)) :
    Avoids lineBreakers position stop := by
  obtain ⟨nameStop, dot, spans, dotted⟩ := Segment.spans_of_readDotted read
  exact spans.avoids_line.trans (.of_optional dotted (Or.inr rfl) (by decide))

theorem of_readName (read : Target.readName position = some target) : target.Follows position := by
  obtain ⟨nameRead, unnamed⟩ := Target.read_of_readName read
  obtain ⟨nameStop, spans⟩ := Segment.spans_of_read nameRead
  refine ⟨⟨position, nameStop, ⟨[], .refl position, by simp⟩, spans⟩, ?_⟩
  rw [unnamed]
  exact nofun

theorem of_readSchemaName (read : Target.readSchemaName position = some target) :
    target.Follows position := by
  obtain ⟨schema, afterSchema, schemaRead, nameRead, named⟩ := Target.read_of_readSchemaName read
  obtain ⟨nameStop, spans⟩ := Segment.spans_of_read nameRead
  obtain ⟨schemaStop, dot, schemaSpans, dotted⟩ := Segment.spans_of_readDotted schemaRead
  refine ⟨⟨afterSchema, nameStop, avoids_dotted schemaRead, spans⟩, ?_⟩
  rw [named]
  rintro _ ⟨⟩
  obtain ⟨opening, openingReads, -⟩ := spans.opening
  exact ⟨position, schemaStop, dot, ⟨[], .refl position, by simp⟩, schemaSpans, _,
    dotted.trans openingReads⟩

theorem of_readDotName (read : Target.readDotName position = some target) :
    target.Follows position := by
  simp only [Target.readDotName, Option.bind_eq_bind, Option.bind_eq_some_iff] at read
  obtain ⟨afterDot, dotRead, nameRead⟩ := read
  apply (of_readName nameRead).behind
  exact .of_optional (Position.reads_of_readChar dotRead) (Or.inr rfl) (by decide)

theorem of_readCalled (read : Target.readCalled position = some target) :
    target.Follows position := by
  simp only [Target.readCalled, Option.or_eq_some_iff] at read
  rcases read with databaseSchema | ⟨-, database | ⟨-, schema | ⟨-, dot | ⟨-, name⟩⟩⟩⟩
  · simp only [Target.readDatabaseSchemaName, Option.bind_eq_bind,
      Option.bind_eq_some_iff] at databaseSchema
    obtain ⟨⟨_, afterDatabase⟩, databaseRead, nameRead⟩ := databaseSchema
    exact (of_readSchemaName nameRead).behind (avoids_dotted databaseRead)
  · simp only [Target.readDatabaseName, Option.bind_eq_bind, Option.bind_eq_some_iff] at database
    obtain ⟨⟨_, afterDatabase⟩, databaseRead, nameRead⟩ := database
    exact (of_readDotName nameRead).behind (avoids_dotted databaseRead)
  · exact of_readSchemaName schema
  · exact of_readDotName dot
  · exact of_readName name

end Target.Follows

/-- The name is what the script reads at its position. -/
def Segment.StandsIn (script : Text) (segment : Segment) : Prop :=
  segment.position.text = script ∧ segment.name <+: segment.position.after

namespace Target

def StandsIn (script : Text) (target : Target) : Prop :=
  (∀ schema, target.schema = some schema → schema.StandsIn script) ∧ target.name.StandsIn script

/-- No byte of the schema and of the name lies in a comment. -/
def Free (comments : Comments) (target : Target) : Prop :=
  (∀ schema, target.schema = some schema → schema.Free comments) ∧ target.name.Free comments

def Exposed (target : Target) : Prop :=
  (∃ schema, target.schema = some schema ∧ schema.Exposed) ∨ target.name.Exposed

end Target

theorem Segment.Spans.standsIn {position nameStop stop : Position} {segment : Segment}
    {script : Text} (spans : segment.Spans position nameStop stop)
    (text : position.text = script) : segment.StandsIn script :=
  ⟨spans.text_eq.trans text, nameStop.after, spans.name.after.symm⟩

theorem Target.Follows.standsIn {position : Position} {target : Target} {script : Text}
    (follows : target.Follows position) (text : position.text = script) :
    target.StandsIn script := by
  constructor
  · intro schema given
    obtain ⟨lead, schemaStop, dot, line, spans, -⟩ := follows.schema schema given
    exact spans.standsIn (line.text_eq.trans text)
  · obtain ⟨lead, nameStop, line, spans⟩ := follows.name
    exact spans.standsIn (line.text_eq.trans text)

/-! ## Calls -/

/-- What is read from a free byte up to a free byte is free if a comment could only begin behind
`middle`, where one line goes on beyond the second byte. -/
theorem free_between {start middle stop next : Position} {script : Text}
    (quiet : Avoids commentOpeners start middle) (line : Avoids lineBreakers middle stop)
    (further : Avoids lineBreakers stop next) (longer : stop.offset < next.offset)
    (text : start.text = script)
    (begins : (Comments.ofText script).covers start.offset = false)
    (ends : (Comments.ofText script).covers stop.offset = false) {offset : Nat}
    (lower : start.offset ≤ offset) (upper : offset ≤ stop.offset) :
    (Comments.ofText script).covers offset = false := by
  rw [Bool.eq_false_iff]
  intro covered
  obtain ⟨opening, same, opens, later, before⟩ :=
    Position.exists_opensComment text begins covered lower
  have behind := opens.behind quiet (same.trans text.symm) (Nat.le_of_lt later)
  obtain ⟨_, quietReads, -⟩ := quiet
  obtain ⟨run, reads, inline⟩ := line.trans further
  have whole : opening.text = middle.text := by rw [same, quietReads.text, text]
  have early : opening.index < next.index := by
    apply (Position.offset_lt_iff (whole.trans reads.text.symm)).mp
    omega
  obtain ⟨front, character, back, rfl, rest, either⟩ := opens.split reads whole behind early
  -- A slash is not read here, so this is a comment to the end of the line.
  obtain rfl : character = '-' := by
    rcases either with ⟨dash, -⟩ | ⟨rfl, -⟩
    · exact dash
    · exact absurd (inline '/' (by simp)) (by decide)
  have single : ∀ other ∈ back, other ≠ '\n' := by
    rintro other member rfl
    exact inline '\n' (by simp [member]) (by decide)
  have reached := opens.covers_line rest single (Nat.le_trans before upper) longer
  rw [same, ends] at reached
  cases reached

namespace CallMatch

variable {script : Text} {found : CallMatch}

theorem avoids_assignment {position stop : Position}
    (read : readAssignment position = some stop) : Avoids commentOpeners position stop := by
  simp only [readAssignment, Option.bind_eq_bind, Option.bind_eq_some_iff] at read
  obtain ⟨variableStart, sigilRead, variableStop, wordRead, afterSign, signRead, same⟩ := read
  obtain rfl := Option.some.inj same
  obtain ⟨word, wordReads, -, words, -⟩ := Position.reads_of_readWord wordRead
  have sigil : Avoids commentOpeners position variableStart :=
    .of_optional (Position.reads_of_readChar sigilRead) (Or.inr rfl) (by decide)
  have gap : Avoids commentOpeners variableStop (variableStop.skipWhile isBlank) :=
    .of_blanks (Position.reads_skipWhile isBlank variableStop) fun _ => List.mem_takeWhile_imp
  have sign : Avoids commentOpeners (variableStop.skipWhile isBlank) afterSign :=
    .of_optional (Position.reads_of_readChar signRead) (Or.inr rfl) (by decide)
  have last : Avoids commentOpeners afterSign (afterSign.skipWhile isBlank) :=
    .of_blanks (Position.reads_skipWhile isBlank afterSign) fun _ => List.mem_takeWhile_imp
  exact sigil.trans ((Avoids.of_words wordReads words).trans (gap.trans (sign.trans last)))

theorem Parts.avoids_keyword {position : Position} (parts : found.Parts position) :
    Avoids commentOpeners position found.keywordStop := by
  obtain ⟨word, reads, keyword, -⟩ := parts.keyword_run
  exact .of_words reads keyword.isWord

/-- No comment begins between the keyword of a match and its target. -/
theorem Parts.exists_target {position : Position} (parts : found.Parts position) :
    ∃ target, Avoids commentOpeners position target ∧ found.target.Follows target := by
  obtain ⟨afterBlanks, blanks, called⟩ := parts.target
  obtain ⟨run, blankReads, -, allBlank, -⟩ := Position.reads_of_readBlanks blanks
  refine ⟨_, parts.avoids_keyword.trans ((Avoids.of_blanks blankReads allBlank).trans ?_),
    .of_readCalled called⟩
  cases assignment : readAssignment afterBlanks with
  | none => exact ⟨[], .refl afterBlanks, by simp⟩
  | some stop => exact avoids_assignment assignment

def KeywordFree (comments : Comments) (found : CallMatch) : Prop :=
  ∀ offset, found.keyword.offset ≤ offset → offset < found.keywordStop.offset →
    comments.covers offset = false

/-- A match in a script that is a call. -/
structure IsSite (script : Text) (found : CallMatch) : Prop where
  text : found.keyword.text = script
  matched : at? found.keyword = some found
  accepted : found.isCall (Comments.ofText script) = true

theorem isSite_of_mem_scan (member : found ∈ scan script) : IsSite script found := by
  have covers := scanFrom_covers (Comments.ofText script) 0 .nothing script
  obtain ⟨matched, accepted⟩ := covers.accepted found member
  exact ⟨covers.text found member, matched, accepted⟩

namespace IsSite

variable (site : IsSite script found)

include site

theorem uncommented :
    (Comments.ofText script).covers found.keyword.offset = false ∧
      (Comments.ofText script).covers found.target.name.position.offset = false := by
  have accepted := site.accepted
  simp only [isCall, isCommented, Bool.and_eq_true, Bool.not_eq_true',
    Bool.or_eq_false_iff] at accepted
  exact accepted.1.1.2

/-- In a call nothing up to the first byte of the name lies in a comment. -/
theorem free_up_to_name {offset : Nat} (lower : found.keyword.offset ≤ offset)
    (upper : offset ≤ found.target.name.position.offset) :
    (Comments.ofText script).covers offset = false := by
  obtain ⟨begins, ends⟩ := site.uncommented
  obtain ⟨target, quiet, follows⟩ := (parts_of_at? site.matched).exists_target
  obtain ⟨lead, nameStop, line, spans⟩ := follows.name
  obtain ⟨next, first, longer⟩ :=
    @Segment.Spans.avoids_first _ _ _ _ spans lineBreakers (by decide)
  exact free_between quiet (line.trans (spans.avoids_opening (by decide))) first longer site.text
    begins ends lower upper

theorem keyword_free : found.KeywordFree (Comments.ofText script) := by
  intro offset lower upper
  have keyword := (parts_of_at? site.matched).avoids_keyword
  exact keyword.free site.text site.uncommented.1 lower upper

theorem schema_free {schema : Segment} (given : found.target.schema = some schema) :
    schema.Free (Comments.ofText script) := by
  obtain ⟨target, quiet, follows⟩ := (parts_of_at? site.matched).exists_target
  obtain ⟨lead, schemaStop, dot, line, spans, run, behind⟩ := follows.schema schema given
  obtain ⟨_, closing, -⟩ := spans.closing
  have before := quiet.offset_le
  have inside := (line.trans (spans.avoids_opening (by decide))).offset_le
  have rest := (spans.name.trans (closing.trans behind)).offset
  rw [Text.byteLength_append] at rest
  intro offset lower upper
  apply site.free_up_to_name
  · omega
  · omega

theorem name_free_iff :
    found.target.name.Free (Comments.ofText script) ↔ ¬found.target.name.Exposed := by
  have parts := parts_of_at? site.matched
  obtain ⟨lead, nameStop, -, spans⟩ := parts.leads
  exact spans.free_iff (parts.text.trans site.text) site.uncommented.2

theorem standsIn : found.target.StandsIn script := by
  obtain ⟨target, quiet, follows⟩ := (parts_of_at? site.matched).exists_target
  exact follows.standsIn (quiet.text_eq.trans site.text)

end IsSite

end CallMatch

/-! ## Headers -/

theorem Preamble.avoids {start stop : Position} (preamble : Preamble start stop) :
    Avoids commentOpeners start stop := by
  obtain ⟨run, reads, -, held⟩ := preamble
  exact .of_class reads held (by decide)

theorem Segment.Free.begins {comments : Comments} {segment : Segment}
    (free : segment.Free comments) (isName : IsName segment.name) :
    comments.covers segment.position.offset = false := by
  obtain ⟨character, rest, split, -⟩ := isName.first
  have positive : 0 < Text.byteLength segment.name :=
    Text.byteLength_pos (split ▸ List.cons_ne_nil character rest)
  exact free _ (Nat.le_refl _) (by omega)

namespace Segment.Spans

variable {start position schemaStop dot lead nameStop stop opening : Position}
  {schema name : Segment} {script : Text}

theorem behind_of_free (spans : schema.Spans position schemaStop dot)
    (free : schema.Free (Comments.ofText script)) (text : schema.position.text = script)
    (opens : opening.OpensComment) (whole : opening.text = script)
    (lower : schema.position.index ≤ opening.index) : schemaStop.index ≤ opening.index := by
  by_contra inside
  have stopText : opening.text = schemaStop.text := by rw [spans.name.text, text, whole]
  have upper := (Position.offset_lt_iff stopText).mpr (Nat.lt_of_not_le inside)
  have behind : schema.position.offset ≤ opening.offset := by
    by_contra reverse
    have before := (Position.offset_lt_iff (whole.trans text.symm)).mp (Nat.lt_of_not_le reverse)
    omega
  have covered := opens.covers
  rw [whole, free opening.offset behind (spans.name.offset ▸ upper)] at covered
  cases covered

theorem begins_free_behind (schemaSpans : schema.Spans position schemaStop dot)
    (dotted : dot.Reads ['.'] lead) (spans : name.Spans lead nameStop stop)
    (quiet : Avoids commentOpeners start position) (text : start.text = script)
    (begins : (Comments.ofText script).covers start.offset = false)
    (free : schema.Free (Comments.ofText script)) :
    (Comments.ofText script).covers name.position.offset = false := by
  obtain ⟨next, first, longer⟩ :=
    @avoids_first _ _ _ _ spans commentOpeners (by decide)
  have front := quiet.trans (schemaSpans.avoids_opening (by decide))
  have point : Avoids commentOpeners dot lead := .of_optional dotted (Or.inr rfl) (by decide)
  have back := (schemaSpans.avoids_closing (by decide)).trans
    (point.trans (spans.avoids_opening (by decide)))
  have schemaText := front.text_eq.trans text
  have stopText := schemaSpans.name.text.trans schemaText
  rw [Bool.eq_false_iff]
  intro covered
  have order : start.offset ≤ name.position.offset := by
    have reads := schemaSpans.name.offset
    have before := front.offset_le
    have behind := back.offset_le
    omega
  -- The comment over the name begins neither before the schema nor in it nor behind it.
  obtain ⟨opening, same, opens, later, before⟩ :=
    Position.exists_opensComment text begins covered order
  have behindFront := opens.behind front (same.trans text.symm) (Nat.le_of_lt later)
  have behindSchema := schemaSpans.behind_of_free free schemaText opens same behindFront
  have behindNext := opens.behind (back.trans first) (same.trans stopText.symm) behindSchema
  have nextText := (back.trans first).text_eq.trans stopText
  have early := (Position.offset_lt_iff (same.trans nextText.symm)).mp
    (Nat.lt_of_le_of_lt before longer)
  omega

end Segment.Spans

namespace HeaderMatch

variable {script : Text} {found : HeaderMatch}

theorem IsFree.target_free_iff (free : IsFree script found) :
    found.target.Free (Comments.ofText script) ↔ ¬found.target.Exposed := by
  obtain ⟨-, position, preamble, declared⟩ :=
    parts_of_at? ((matched?_eq _).symm.trans free.matched)
  have quiet := preamble.avoids
  have start := quiet.text_eq.trans free.text
  rw [Target.readDeclared, Option.or_eq_some_iff] at declared
  rcases declared with schemaName | ⟨-, nameOnly⟩
  · obtain ⟨schema, afterSchema, schemaRead, nameRead, named⟩ :=
      Target.read_of_readSchemaName schemaName
    obtain ⟨schemaStop, dot, schemaSpans, dotted⟩ := Segment.spans_of_readDotted schemaRead
    obtain ⟨nameStop, spans⟩ := Segment.spans_of_read nameRead
    have schema_iff := schemaSpans.free_iff (schemaSpans.text_eq.trans start)
      (schemaSpans.begins_free quiet free.text free.free)
    have nameText : found.target.name.position.text = script := by
      rw [spans.text_eq, dotted.text, schemaSpans.stop_text, start]
    simp only [Target.Free, Target.Exposed, named, Option.some.injEq, forall_eq', exists_eq_left',
      not_or]
    constructor
    · rintro ⟨schemaFree, nameFree⟩
      exact ⟨schema_iff.mp schemaFree,
        (spans.free_iff nameText (nameFree.begins spans.isName)).mp nameFree⟩
    · rintro ⟨schemaHidden, nameHidden⟩
      have schemaFree := schema_iff.mpr schemaHidden
      have begins := schemaSpans.begins_free_behind dotted spans quiet free.text free.free schemaFree
      exact ⟨schemaFree, (spans.free_iff nameText begins).mpr nameHidden⟩
  · obtain ⟨nameRead, unnamed⟩ := Target.read_of_readName nameOnly
    obtain ⟨nameStop, spans⟩ := Segment.spans_of_read nameRead
    have begins := spans.begins_free quiet free.text free.free
    have name := spans.free_iff (spans.text_eq.trans start) begins
    simp [Target.Free, Target.Exposed, unnamed, name]

theorem IsFree.standsIn (free : IsFree script found) : found.target.StandsIn script := by
  obtain ⟨-, position, preamble, declared⟩ :=
    parts_of_at? ((matched?_eq _).symm.trans free.matched)
  have follows : found.target.Follows position := by
    rw [Target.readDeclared, Option.or_eq_some_iff] at declared
    rcases declared with schemaName | ⟨-, nameOnly⟩
    · exact .of_readSchemaName schemaName
    · exact .of_readName nameOnly
  exact follows.standsIn (preamble.avoids.text_eq.trans free.text)

end HeaderMatch

/-- What is read as a keyword, a schema or a name lies outside the comments, but for names with
exposed dashes. -/
theorem identifiers_free_unless_exposed (script : Text) :
    (∀ found ∈ CallMatch.scan script, found.target.StandsIn script ∧
      found.KeywordFree (Comments.ofText script) ∧
      (∀ schema, found.target.schema = some schema → schema.Free (Comments.ofText script)) ∧
      (found.target.name.Free (Comments.ofText script) ↔ ¬found.target.name.Exposed)) ∧
    ∀ found, HeaderMatch.find? script = some found → found.target.StandsIn script ∧
      (found.target.Free (Comments.ofText script) ↔ ¬found.target.Exposed) := by
  constructor
  · intro found member
    have site := CallMatch.isSite_of_mem_scan member
    exact ⟨site.standsIn, site.keyword_free, fun schema => site.schema_free, site.name_free_iff⟩
  · intro found result
    have list := HeaderMatch.isHeaderList_headersFrom 0 .nothing script
    have free := (list.isFree_of_find? result).2
    exact ⟨free.standsIn, free.target_free_iff⟩

theorem bracketed_dashes_stay_free :
    ∃ found header, found ∈ CallMatch.scan "create proc [a--b] as exec s.c-d --e".toList ∧
      HeaderMatch.find? "create proc [a--b] as exec s.c-d --e".toList = some header ∧
      found.target.name.name = ['c', '-', 'd'] ∧
      header.target.name.name = ['a', '-', '-', 'b'] ∧
      found.KeywordFree (Comments.ofText "create proc [a--b] as exec s.c-d --e".toList) ∧
      (found.target.name.Free (Comments.ofText "create proc [a--b] as exec s.c-d --e".toList) ↔
        ¬found.target.name.Exposed) ∧
      (header.target.Free (Comments.ofText "create proc [a--b] as exec s.c-d --e".toList) ↔
        ¬header.target.Exposed) := by
  have calls : ∃ found ∈ CallMatch.scan "create proc [a--b] as exec s.c-d --e".toList,
      found.target.name.name = ['c', '-', 'd'] := by decide +kernel
  have headers : (HeaderMatch.find? "create proc [a--b] as exec s.c-d --e".toList).map
      (fun header => header.target.name.name) = some ['a', '-', '-', 'b'] := by decide +kernel
  obtain ⟨found, member, foundName⟩ := calls
  obtain ⟨header, result, headerName⟩ := Option.map_eq_some_iff.mp headers
  obtain ⟨ofCalls, ofHeaders⟩ :=
    identifiers_free_unless_exposed "create proc [a--b] as exec s.c-d --e".toList
  obtain ⟨-, keyword, -, name⟩ := ofCalls found member
  exact ⟨found, header, member, result, foundName, headerName, keyword, name,
    (ofHeaders header result).2⟩

/-- A comment directly behind a name is read as a part of it, in a call and in a header. -/
theorem trailing_comment_joins_name :
    (∃ found ∈ CallMatch.scan "EXEC a--b".toList, found.target.name.name = ['a', '-', '-', 'b'] ∧
      ¬found.target.name.Free (Comments.ofText "EXEC a--b".toList)) ∧
    ∃ found, HeaderMatch.find? "CREATE PROC a--b".toList = some found ∧
      found.target.name.name = ['a', '-', '-', 'b'] ∧
      ¬found.target.name.Free (Comments.ofText "CREATE PROC a--b".toList) := by
  have calls : ∃ found ∈ CallMatch.scan "EXEC a--b".toList,
      found.target.name.name = ['a', '-', '-', 'b'] ∧ found.target.name.position.offset = 5 := by
    decide +kernel
  have headers : (HeaderMatch.find? "CREATE PROC a--b".toList).map (fun found =>
      (found.target.name.name, found.target.name.position.offset)) =
        some (['a', '-', '-', 'b'], 12) := by
    decide +kernel
  have behindCall : (Comments.ofText "EXEC a--b".toList).covers 6 = true := by decide +kernel
  have behindHeader : (Comments.ofText "CREATE PROC a--b".toList).covers 13 = true := by
    decide +kernel
  constructor
  · obtain ⟨found, member, name, offset⟩ := calls
    refine ⟨found, member, name, ?_⟩
    intro free
    rw [free 6 (by omega) (by rw [offset, name]; decide)] at behindCall
    cases behindCall
  · obtain ⟨found, result, same⟩ := Option.map_eq_some_iff.mp headers
    obtain ⟨name, offset⟩ := Prod.mk.inj same
    refine ⟨found, result, name, ?_⟩
    intro free
    rw [free 13 (by omega) (by rw [offset, name]; decide)] at behindHeader
    cases behindHeader

end ProcedureAtlas
