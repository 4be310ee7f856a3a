import ProcedureAtlas.Proofs.Coverage
import ProcedureAtlas.Proofs.HeaderExpression

/-!
# Which header is found

The headers of a script are its matches from left to right, each search going on at the end of the
header before. The first of them that begins outside the comments is found. A header that begins in a
comment can end behind it, and what begins inside its extent is then never looked at. So the first
uncommented match of a script is found exactly if no commented header swallows its beginning.
-/

namespace ProcedureAtlas

set_option autoImplicit false

namespace Position

/-- The position behind the first `index` characters of a text. -/
def ofIndex (text : Text) (index : Nat) : Position :=
  ⟨Passed.nothing.addRun (text.take index), text.drop index⟩

theorem eq_ofIndex {position : Position} {text : Text} (whole : position.text = text) :
    position = ofIndex text position.index := by
  have length : position.index = position.before.reverse.length := by
    rw [List.length_reverse, position.index_eq]
  rw [← whole]
  apply ext_of_parts
  · rw [ofIndex, Position.text, length, List.take_left]
    simp [Passed.addRun, Passed.nothing]
  · rw [ofIndex, Position.text, length, List.drop_left]

end Position

/-! ## The parts of a header -/

theorem Position.words_of_readLetters {position stop : Position} {letters : List Char}
    (small : letters.all Char.isLower = true)
    (read : position.readLetters letters = some stop) :
    ∃ run, position.Reads run stop ∧ run.length = letters.length ∧
      ∀ character ∈ run, isWord character = true := by
  obtain ⟨run, reads, spelled⟩ := reads_of_readLetters read
  refine ⟨run, reads, spelled.length_eq.symm, ?_⟩
  clear read reads
  induction spelled with
  | nil => simp
  | @cons letter character letters run fits _ ih =>
      rw [List.all_cons, Bool.and_eq_true] at small
      exact List.forall_mem_cons.mpr ⟨isWord_of_isLetter small.1 fits, ih small.2⟩

theorem Target.reads_of_readDeclared {position : Position} {target : Target}
    (read : readDeclared position = some target) : ∃ run, position.Reads run target.stop := by
  have leads : CallMatch.Leads position target := by
    rw [readDeclared, Option.or_eq_some_iff] at read
    rcases read with schema | ⟨-, name⟩
    · exact .of_readSchemaName schema
    · exact .of_readName name
  obtain ⟨lead, nameStop, barren, spans⟩ := leads
  obtain ⟨_, leadReads⟩ := barren.reads
  obtain ⟨_, opening, -⟩ := spans.opening
  obtain ⟨_, closing, -⟩ := spans.closing
  exact ⟨_, leadReads.trans (opening.trans (spans.name.trans closing))⟩

/-- Words and blanks are read from the one position to the other. -/
def Preamble (start stop : Position) : Prop :=
  ∃ run, start.Reads run stop ∧ run ≠ [] ∧
    ∀ character ∈ run, (isWord character || isBlank character) = true

namespace Preamble

variable {start middle stop : Position}

theorem trans (first : Preamble start middle) (second : Preamble middle stop) :
    Preamble start stop := by
  obtain ⟨front, frontReads, inhabited, frontHeld⟩ := first
  obtain ⟨back, backReads, -, backHeld⟩ := second
  refine ⟨front ++ back, frontReads.trans backReads, by simp [inhabited], ?_⟩
  intro character member
  rcases List.mem_append.mp member with before | behind
  · exact frontHeld character before
  · exact backHeld character behind

theorem of_letters {letter : Char} {word : List Char}
    (read : start.readLetters (letter :: word) = some stop)
    (small : (letter :: word).all Char.isLower = true) : Preamble start stop := by
  obtain ⟨run, reads, length, words⟩ := Position.words_of_readLetters small read
  refine ⟨run, reads, List.ne_nil_of_length_eq_add_one length, ?_⟩
  intro character member
  rw [words character member, Bool.true_or]

theorem of_blanks (read : start.readBlanks = some stop) : Preamble start stop := by
  obtain ⟨run, reads, inhabited, blanks, -⟩ := Position.reads_of_readBlanks read
  refine ⟨run, reads, inhabited, ?_⟩
  intro character member
  rw [blanks character member, Bool.or_true]

theorem of_orAlter (read : HeaderMatch.readOrAlter start = some stop) : Preamble start stop := by
  simp only [HeaderMatch.readOrAlter, Option.bind_eq_bind, Option.bind_eq_some_iff] at read
  obtain ⟨word, blanks, afterOr, either, nextWord, gap, alter⟩ := read
  exact (of_blanks blanks).trans ((of_letters either (by decide)).trans
    ((of_blanks gap).trans (of_letters alter (by decide))))

theorem of_verb (read : HeaderMatch.readVerb start = some stop) : Preamble start stop := by
  rw [HeaderMatch.readVerb] at read
  split at read
  · rename_i short create
    cases longer : HeaderMatch.readOrAlter short with
    | none =>
        rw [longer, Option.getD_none] at read
        obtain rfl := Option.some.inj read
        exact of_letters create (by decide)
    | some long =>
        rw [longer, Option.getD_some] at read
        obtain rfl := Option.some.inj read
        exact (of_letters create (by decide)).trans (of_orAlter longer)
  · exact of_letters read (by decide)

theorem of_noun (read : HeaderMatch.readNoun start = some stop) : Preamble start stop := by
  rw [HeaderMatch.readNoun, Option.or_eq_some_iff] at read
  rcases read with long | ⟨-, short⟩
  · exact of_letters long (by decide)
  · exact of_letters short (by decide)

end Preamble

namespace HeaderMatch

theorem parts_of_at? {position : Position} {found : HeaderMatch}
    (matched : at? position = some found) :
    found.start = position ∧
      ∃ name, Preamble position name ∧ Target.readDeclared name = some found.target := by
  simp only [at?, Option.bind_eq_bind, Option.bind_eq_some_iff] at matched
  obtain ⟨afterVerb, verb, noun, gap, afterNoun, nounRead, name, blanks, target, declared, same⟩ :=
    matched
  split at same
  · cases same
  · obtain rfl := Option.some.inj same
    exact ⟨rfl, name, (Preamble.of_verb verb).trans ((Preamble.of_blanks gap).trans
      ((Preamble.of_noun nounRead).trans (Preamble.of_blanks blanks))), declared⟩

theorem order_of_at? {position : Position} {found : HeaderMatch}
    (matched : at? position = some found) : position.index < found.target.stop.index := by
  obtain ⟨-, name, ⟨run, reads, inhabited, -⟩, declared⟩ := parts_of_at? matched
  obtain ⟨rest, restReads⟩ := Target.reads_of_readDeclared declared
  have positive := List.length_pos_iff.mpr inhabited
  have first := reads.index
  have second := restReads.index
  omega

/-- What is declared is what was read: a name has neither blanks nor brackets around it. -/
theorem declaration_eq {position : Position} {found : HeaderMatch}
    (matched : at? position = some found) :
    found.declaration = ⟨found.target.schema.map Segment.name, found.target.name.name⟩ := by
  have written := at?_isWritten matched
  have schema : found.target.schema.map (fun segment => Identifier.bare segment.name) =
      found.target.schema.map Segment.name := by
    cases given : found.target.schema with
    | none => rfl
    | some segment => exact congrArg some (written.schema segment given).bare_eq
  exact congrArg₂ Declaration.mk schema written.name.bare_eq

/-! ## Headers from left to right -/

def matched? (position : Position) : Option HeaderMatch :=
  (Expression.header.match? position).bind (ofReading? position)

theorem matched?_eq (position : Position) : matched? position = at? position :=
  (at?_eq_match? position).symm

/-- The position is inside the extent of a header, behind its beginning. -/
def Contains (found : HeaderMatch) (position : Position) : Prop :=
  found.start.index < position.index ∧ position.index < found.target.stop.index

/-- The headers of a script from an index on. Each is the first match that is left, and the search
goes on at its end. -/
inductive IsHeaderList (script : Text) : Nat → List HeaderMatch → Prop where
  | nil {index : Nat}
      (none : ∀ position : Position, position.text = script → index ≤ position.index →
        matched? position = none) :
      IsHeaderList script index []
  | cons {index : Nat} {found : HeaderMatch} {others : List HeaderMatch}
      (text : found.start.text = script) (matched : matched? found.start = some found)
      (lower : index ≤ found.start.index)
      (first : ∀ position : Position, position.text = script → index ≤ position.index →
        position.index < found.start.index → matched? position = none)
      (rest : IsHeaderList script found.target.stop.index others) :
      IsHeaderList script index (found :: others)

theorem matched?_eq_none_of_end {here position : Position} (text : position.text = here.text)
    (ended : here.after = []) (order : here.index ≤ position.index) : matched? position = none := by
  obtain ⟨run, reads⟩ := Position.exists_reads text.symm order
  have after : position.after = [] := by
    have whole := reads.after
    rw [ended] at whole
    exact (List.append_eq_nil_iff.mp whole.symm).2
  rw [matched?_eq]
  simp [at?, readVerb, Position.readLetters, after]

namespace IsHeaderList

variable {script : Text} {index : Nat} {headers others : List HeaderMatch}

theorem extend {later : Nat} (list : IsHeaderList script later headers) (order : index ≤ later)
    (empty : ∀ position : Position, position.text = script → index ≤ position.index →
      position.index < later → matched? position = none) :
    IsHeaderList script index headers := by
  have before {position : Position} (text : position.text = script)
      (lower : index ≤ position.index)
      (rest : later ≤ position.index → matched? position = none) : matched? position = none := by
    by_cases early : position.index < later
    · exact empty position text lower early
    · exact rest (Nat.le_of_not_lt early)
  cases list with
  | nil none => exact nil fun position text lower => before text lower (none position text)
  | cons text matched lower first rest =>
      refine cons text matched (Nat.le_trans order lower) ?_ rest
      intro position same above below
      exact before same above fun late => first position same late below

theorem start_le_of_cons {found : HeaderMatch}
    (list : IsHeaderList script index (found :: others)) {position : Position}
    {other : HeaderMatch} (text : position.text = script) (lower : index ≤ position.index)
    (matched : matched? position = some other) : found.start.index ≤ position.index := by
  cases list with
  | cons _ _ _ first _ =>
      by_contra before
      rw [first position text lower (Nat.lt_of_not_le before)] at matched
      cases matched

theorem unique (left : IsHeaderList script index headers)
    (right : IsHeaderList script index others) : headers = others := by
  induction left generalizing others with
  | nil none =>
      cases right with
      | nil _ => rfl
      | cons text matched lower _ _ =>
          rw [none _ text lower] at matched
          cases matched
  | @cons index found rest text matched lower first list ih =>
      cases right with
      | nil none =>
          rw [none _ text lower] at matched
          cases matched
      | @cons _ other later otherText otherMatched otherLower otherFirst otherList =>
          -- Neither of the two first matches is before the other.
          have same : found.start = other.start := by
            apply Position.ext_of_index (text.trans otherText.symm)
            apply Nat.le_antisymm
            · exact (cons text matched lower first list).start_le_of_cons otherText otherLower
                otherMatched
            · exact (cons otherText otherMatched otherLower otherFirst otherList).start_le_of_cons
                text lower matched
          rw [same, otherMatched] at matched
          obtain rfl := Option.some.inj matched
          rw [ih otherList]

theorem bounds (list : IsHeaderList script index headers) :
    ∀ found ∈ headers, found.start.text = script ∧ matched? found.start = some found ∧
      index ≤ found.start.index := by
  induction list with
  | nil _ => simp
  | cons text matched lower _ _ ih =>
      have order := order_of_at? ((matched?_eq _).symm.trans matched)
      refine List.forall_mem_cons.mpr ⟨⟨text, matched, lower⟩, ?_⟩
      intro later member
      obtain ⟨laterText, laterMatched, behind⟩ := ih later member
      exact ⟨laterText, laterMatched, by omega⟩

theorem complete (list : IsHeaderList script index headers) {position : Position}
    {found : HeaderMatch} (text : position.text = script) (lower : index ≤ position.index)
    (matched : matched? position = some found) :
    found ∈ headers ∨ ∃ earlier ∈ headers, earlier.Contains position := by
  induction list with
  | nil none =>
      rw [none position text lower] at matched
      cases matched
  | @cons index other rest otherText otherMatched otherLower first list ih =>
      have reached := (cons otherText otherMatched otherLower first list).start_le_of_cons text lower
        matched
      by_cases inside : position.index < other.target.stop.index
      · rcases Nat.eq_or_lt_of_le reached with equal | behind
        · have same := Position.ext_of_index (otherText.trans text.symm) equal
          rw [same, matched] at otherMatched
          exact Or.inl (List.mem_cons.mpr (Or.inl (Option.some.inj otherMatched)))
        · exact Or.inr ⟨other, List.mem_cons_self, behind, inside⟩
      · rcases ih (Nat.le_of_not_lt inside) with member | ⟨earlier, member, contains⟩
        · exact Or.inl (List.mem_cons_of_mem _ member)
        · exact Or.inr ⟨earlier, List.mem_cons_of_mem _ member, contains⟩

theorem not_contains (list : IsHeaderList script index headers) {earlier found : HeaderMatch}
    (earlierMember : earlier ∈ headers) (member : found ∈ headers) :
    ¬earlier.Contains found.start := by
  induction list with
  | nil _ => cases member
  | @cons index first rest text matched _ _ list ih =>
      have order := order_of_at? ((matched?_eq _).symm.trans matched)
      rintro ⟨lower, upper⟩
      rcases List.mem_cons.mp earlierMember with rfl | earlierLater
      · rcases List.mem_cons.mp member with rfl | later
        · exact Nat.lt_irrefl _ lower
        · have behind := (list.bounds found later).2.2
          omega
      · rcases List.mem_cons.mp member with rfl | later
        · have behind := (list.bounds earlier earlierLater).2.2
          omega
        · exact ih earlierLater later ⟨lower, upper⟩

/-- The first header of the list that a test accepts is the accepted match that begins first, as long
as that one is listed. -/
theorem find?_eq_some (list : IsHeaderList script index headers) {accept : HeaderMatch → Bool}
    {found : HeaderMatch} (member : found ∈ headers) (accepted : accept found = true)
    (least : ∀ other ∈ headers, accept other = true → found.start.index ≤ other.start.index) :
    headers.find? accept = some found := by
  have order := order_of_at? ((matched?_eq _).symm.trans (list.bounds found member).2.1)
  induction list with
  | nil _ => cases member
  | @cons index first rest text matched _ _ list ih =>
      have firstOrder := order_of_at? ((matched?_eq _).symm.trans matched)
      rcases List.mem_cons.mp member with rfl | later
      · rw [List.find?_cons_of_pos accepted]
      · have behind := (list.bounds found later).2.2
        have rejected : ¬accept first = true := by
          intro held
          have before := least first List.mem_cons_self held
          omega
        rw [List.find?_cons_of_neg rejected]
        exact ih later fun other otherMember => least other (List.mem_cons_of_mem _ otherMember)

end IsHeaderList

/-! ## The search -/

/-- The headers from here on, once `skip` characters have been passed over. -/
def headersFrom : Nat → Passed → Text → List HeaderMatch
  | _, _, [] => []
  | skip + 1, passed, character :: after => headersFrom skip (passed.add character) after
  | 0, passed, character :: after =>
      match at? ⟨passed, character :: after⟩ with
      | none => headersFrom 0 (passed.add character) after
      | some found => found :: headersFrom (found.length - 1) (passed.add character) after

private theorem headersFrom_cons (passed : Passed) (character : Char) (after : Text) :
    headersFrom 0 passed (character :: after) =
      match at? ⟨passed, character :: after⟩ with
      | none => headersFrom 0 (passed.add character) after
      | some found => found :: headersFrom (found.length - 1) (passed.add character) after := by
  rfl

theorem findFrom_eq (comments : Comments) (skip : Nat) (passed : Passed) (after : Text) :
    findFrom comments skip passed after =
      (headersFrom skip passed after).find? fun found => !comments.covers found.start.offset := by
  fun_induction findFrom comments skip passed after with
  | case1 => rfl
  | case2 skip passed character after ih => exact ih
  | case3 passed character after unmatched ih =>
      rw [headersFrom_cons, unmatched]
      exact ih
  | case4 passed character after found matched covered ih =>
      rw [headersFrom_cons, matched, ih]
      exact (List.find?_cons_of_neg (by simp [covered])).symm
  | case5 passed character after found matched free =>
      rw [headersFrom_cons, matched]
      exact (List.find?_cons_of_pos (by simp [free])).symm

theorem isHeaderList_headersFrom (skip : Nat) (passed : Passed) (after : Text) :
    IsHeaderList (Position.mk passed after).text (passed.index + skip)
      (headersFrom skip passed after) := by
  have step (passed : Passed) (character : Char) (after : Text) :
      (Position.mk (passed.add character) after).text =
        (Position.mk passed (character :: after)).text :=
    (@Position.reads_pass ⟨passed, character :: after⟩ character after rfl).text
  fun_induction headersFrom skip passed after with
  | case1 skip passed =>
      apply IsHeaderList.nil
      intro position text lower
      exact matched?_eq_none_of_end text rfl (Nat.le_trans (Nat.le_add_right _ _) lower)
  | case2 skip passed character after ih =>
      have index : passed.index + 1 + skip = passed.index + skip.succ := by omega
      rw [← step, ← index]
      exact ih
  | case3 passed character after unmatched ih =>
      rw [step] at ih
      apply ih.extend (Nat.le_succ _)
      intro position text lower upper
      have same : position = ⟨passed, character :: after⟩ :=
        Position.ext_of_index text (Nat.le_antisymm (Nat.le_of_lt_succ upper) lower)
      rw [same, matched?_eq, unmatched]
  | case4 passed character after found matched ih =>
      have start := (parts_of_at? matched).1
      have order := order_of_at? matched
      have length : passed.index + 1 + (found.length - 1) = found.target.stop.index := by
        rw [HeaderMatch.length, start]
        change passed.index < _ at order
        change passed.index + 1 + (_ - passed.index - 1) = _
        omega
      rw [step] at ih
      apply IsHeaderList.cons
      · rw [start]
      · rw [start, matched?_eq, matched]
      · rw [start]
        exact Nat.le_refl _
      · intro position _ lower upper
        rw [start] at upper
        exact absurd upper (Nat.not_lt.mpr lower)
      · rw [← length]
        exact ih

theorem find?_eq {script : Text} {headers : List HeaderMatch}
    (list : IsHeaderList script 0 headers) :
    find? script =
      headers.find? fun found => !(Comments.ofText script).covers found.start.offset := by
  have given : IsHeaderList script 0 (headersFrom 0 .nothing script) :=
    isHeaderList_headersFrom 0 .nothing script
  rw [find?, findFrom_eq, list.unique given]

/-! ## The first uncommented header -/

/-- A match that begins outside the comments. -/
structure IsFree (script : Text) (found : HeaderMatch) : Prop where
  text : found.start.text = script
  matched : matched? found.start = some found
  free : (Comments.ofText script).covers found.start.offset = false

/-- Of the matches that begin outside the comments the first. -/
structure IsFirstFree (script : Text) (found : HeaderMatch) : Prop extends IsFree script found where
  least : ∀ other, IsFree script other → found.start.index ≤ other.start.index

/-- The header begins in a comment, and the position is inside its extent. -/
def Swallows (comments : Comments) (earlier : HeaderMatch) (position : Position) : Prop :=
  comments.covers earlier.start.offset = true ∧ earlier.Contains position

/-- No match outside the comments begins before the given one. This can be computed. -/
theorem IsFree.isFirstFree {script : Text} {found : HeaderMatch} (free : IsFree script found)
    (earlier : ∀ index < found.start.index,
      (Comments.ofText script).covers (Position.ofIndex script index).offset = true ∨
        at? (Position.ofIndex script index) = none) :
    IsFirstFree script found := by
  refine ⟨free, ?_⟩
  intro other otherFree
  by_contra before
  have position := Position.eq_ofIndex otherFree.text
  rcases earlier other.start.index (Nat.lt_of_not_le before) with covered | unmatched
  · rw [← position, otherFree.free] at covered
    cases covered
  · rw [← position, ← matched?_eq, otherFree.matched] at unmatched
    cases unmatched

namespace IsHeaderList

variable {script : Text} {headers : List HeaderMatch}

theorem isFree_of_find? (list : IsHeaderList script 0 headers) {found : HeaderMatch}
    (result : find? script = some found) : found ∈ headers ∧ IsFree script found := by
  rw [find?_eq list] at result
  have member := List.mem_of_find?_eq_some result
  obtain ⟨text, matched, -⟩ := list.bounds found member
  exact ⟨member, text, matched, by simpa using List.find?_some result⟩

theorem find?_eq_none (list : IsHeaderList script 0 headers)
    (none : ∀ found, ¬IsFree script found) : find? script = Option.none := by
  cases result : find? script with
  | none => rfl
  | some found => exact absurd (list.isFree_of_find? result).2 (none found)

/-- A header that contains the first free match begins before it, so it begins in a comment. -/
theorem swallows_of_contains (list : IsHeaderList script 0 headers) {earlier found : HeaderMatch}
    (first : IsFirstFree script found) (member : earlier ∈ headers)
    (contains : earlier.Contains found.start) :
    earlier.Swallows (Comments.ofText script) found.start := by
  refine ⟨?_, contains⟩
  obtain ⟨text, matched, -⟩ := list.bounds earlier member
  cases free : (Comments.ofText script).covers earlier.start.offset with
  | true => rfl
  | false =>
      have least := first.least earlier ⟨text, matched, free⟩
      exact absurd contains.1 (Nat.not_lt.mpr least)

theorem find?_eq_some_iff (list : IsHeaderList script 0 headers) {found : HeaderMatch}
    (first : IsFirstFree script found) :
    find? script = some found ↔
      ∀ earlier ∈ headers, ¬earlier.Swallows (Comments.ofText script) found.start := by
  constructor
  · intro result earlier member swallows
    exact list.not_contains member (list.isFree_of_find? result).1 swallows.2
  · intro unswallowed
    have member : found ∈ headers := by
      rcases list.complete first.text (Nat.zero_le _) first.matched with
        member | ⟨earlier, member, contains⟩
      · exact member
      · exact absurd (list.swallows_of_contains first member contains) (unswallowed earlier member)
    rw [find?_eq list]
    apply list.find?_eq_some member
    · simp [first.free]
    · intro other otherMember accepted
      obtain ⟨text, matched, -⟩ := list.bounds other otherMember
      exact first.least other ⟨text, matched, by simpa using accepted⟩

end IsHeaderList

/-- The headers of a script are settled by the expression alone. The first uncommented match is found
unless a commented header swallows it, and without such a match nothing is declared. -/
theorem declares_first_header_unless_swallowed (script : Text) :
    ∃ headers, (∀ other, IsHeaderList script 0 other ↔ other = headers) ∧
      find? script =
        headers.find? (fun found => !(Comments.ofText script).covers found.start.offset) ∧
      (∀ found, IsFirstFree script found → (find? script = some found ↔
        ∀ earlier ∈ headers, ¬earlier.Swallows (Comments.ofText script) found.start)) ∧
      ((∀ found, ¬IsFree script found) → Declaration.ofScript? script = none) ∧
      ∀ found, find? script = some found → IsFree script found ∧
        Declaration.ofScript? script =
          some ⟨found.target.schema.map Segment.name, found.target.name.name⟩ := by
  have list : IsHeaderList script 0 (headersFrom 0 .nothing script) :=
    isHeaderList_headersFrom 0 .nothing script
  refine ⟨headersFrom 0 .nothing script, ?_, find?_eq list, ?_, ?_, ?_⟩
  · intro other
    constructor
    · intro otherList
      exact otherList.unique list
    · rintro rfl
      exact list
  · intro found first
    exact list.find?_eq_some_iff first
  · intro none
    rw [Declaration.ofScript?, list.find?_eq_none none]
    rfl
  · intro found result
    have free := (list.isFree_of_find? result).2
    refine ⟨free, ?_⟩
    rw [Declaration.ofScript?, result, Option.map_some,
      declaration_eq ((matched?_eq _).symm.trans free.matched)]

/-- A commented header that ends with its comment swallows nothing. -/
theorem declares_header_behind_comment :
    ∃ found headers, IsFirstFree "--create proc a\nalter procedure [s].b-c".toList found ∧
      IsHeaderList "--create proc a\nalter procedure [s].b-c".toList 0 headers ∧
      (∀ earlier ∈ headers, ¬earlier.Swallows
        (Comments.ofText "--create proc a\nalter procedure [s].b-c".toList) found.start) ∧
      Declaration.ofScript? "--create proc a\nalter procedure [s].b-c".toList =
        some ⟨some ['s'], ['b', '-', 'c']⟩ := by
  obtain ⟨headers, lists, -, first, -, result⟩ :=
    declares_first_header_unless_swallowed "--create proc a\nalter procedure [s].b-c".toList
  let script := "--create proc a\nalter procedure [s].b-c".toList
  let found : HeaderMatch := ⟨.ofIndex script 16, some ⟨.ofIndex script 33, ['s']⟩,
    ⟨.ofIndex script 36, ['b', '-', 'c']⟩, .ofIndex script 39⟩
  have free : IsFree script found :=
    ⟨by decide +kernel, (matched?_eq _).trans (by decide +kernel), by decide +kernel⟩
  have isFirst : IsFirstFree script found := free.isFirstFree (by decide +kernel)
  have search : find? script = some found := by decide +kernel
  exact ⟨found, headers, isFirst, (lists headers).mpr rfl, (first found isFirst).mp search,
    (result found search).2⟩

/-- The blanks behind a commented `CREATE PROC` may be the end of its line. -/
theorem commented_header_swallows_next :
    ∃ found, IsFirstFree "-- CREATE PROC\nCREATE PROC a".toList found ∧
      found.target.name.name = ['a'] ∧
      Declaration.ofScript? "-- CREATE PROC\nCREATE PROC a".toList = none := by
  let script := "-- CREATE PROC\nCREATE PROC a".toList
  let found : HeaderMatch :=
    ⟨.ofIndex script 15, none, ⟨.ofIndex script 27, ['a']⟩, .ofIndex script 28⟩
  have free : IsFree script found :=
    ⟨by decide +kernel, (matched?_eq _).trans (by decide +kernel), by decide +kernel⟩
  exact ⟨found, free.isFirstFree (by decide +kernel), rfl, by decide +kernel⟩

end HeaderMatch

end ProcedureAtlas
