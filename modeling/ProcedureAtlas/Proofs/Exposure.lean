import ProcedureAtlas.Proofs.Coverage

/-!
# Names that run into comments

A name takes dashes, and two dashes begin a comment. So a name that was read can reach into a
comment, unless it stands in a string or in brackets. This is said here for one segment: if its first
byte is outside the comments, then all of it is, except where two dashes stand exposed.
-/

namespace ProcedureAtlas

set_option autoImplicit false

/-! ## Strings and brackets -/

namespace Lexeme

theorem untilClosed_ends {close : Char} {text back : Text}
    (split : text = untilClosed close text ++ back) (rest : back ≠ []) :
    ∃ body, untilClosed close text = body ++ [close] := by
  fun_induction untilClosed close text with
  | case1 => exact absurd split.symm rest
  | case2 last => exact absurd (by simpa using split) rest
  | case3 tail ih =>
      simp only [List.cons_append, List.cons.injEq, true_and] at split
      obtain ⟨body, ended⟩ := ih split
      exact ⟨close :: close :: body, by rw [ended]; rfl⟩
  | case4 => exact ⟨[], rfl⟩
  | case5 character follower tail inside ih =>
      simp only [List.cons_append, List.cons.injEq, true_and] at split
      obtain ⟨body, ended⟩ := ih split
      exact ⟨character :: body, by rw [ended]; rfl⟩

theorem ends_of_quoted {text : Text} {front back : List Lexeme} {lexeme : Lexeme}
    (cut : ofText text = front ++ lexeme :: back)
    (quoted : lexeme.kind = .string ∨ lexeme.kind = .bracketed) (rest : joined back ≠ []) :
    ∃ body close, lexeme.text = body ++ [close] ∧ (close = '\'' ∨ close = ']') := by
  obtain ⟨character, tail, whole, rfl⟩ := exists_first_of_cut cut
  have split : character :: tail = (first character tail).text ++ joined back := whole.symm
  rw [first] at quoted split ⊢
  split_ifs at quoted split ⊢
  · simp only [List.cons_append, List.cons.injEq, true_and] at split
    obtain ⟨body, ended⟩ := untilClosed_ends split rest
    exact ⟨character :: body, '\'', by rw [ended]; rfl, Or.inl rfl⟩
  · simp only [List.cons_append, List.cons.injEq, true_and] at split
    obtain ⟨body, ended⟩ := untilClosed_ends split rest
    exact ⟨character :: body, ']', by rw [ended]; rfl, Or.inr rfl⟩
  all_goals simp at quoted

end Lexeme

namespace Position

variable {position start middle stop opening : Position} {run : Text}

/-- What is read inside a string or a bracketed name stays there as long as nothing closes it. -/
theorem Shielded.free (shielded : position.Shielded) (reads : position.Reads run stop)
    (closes : ∀ character ∈ run, character ≠ '\'' ∧ character ≠ ']') {offset : Nat}
    (lower : position.offset ≤ offset) (upper : offset < stop.offset) :
    (Comments.ofText position.text).covers offset = false := by
  obtain ⟨front, lexeme, back, read, left, cuts, -, inhabited, quoted⟩ := shielded
  have plain : lexeme.isComment = false := by
    rcases quoted with kind | kind <;> simp [Lexeme.isComment, kind]
  have within : Text.byteLength run ≤ Text.byteLength left := by
    have both := cuts.after
    rw [reads.after] at both
    rcases List.append_eq_append_iff.mp both with ⟨more, rfl, -⟩ | ⟨more, rfl, behind⟩
    · rw [Text.byteLength_append]
      omega
    · cases more with
      | nil => rw [List.append_nil]
      | cons character more =>
          have rest : Lexeme.joined back ≠ [] := by
            rw [behind]
            exact List.cons_ne_nil _ _
          obtain ⟨body, close, ended, delimiter⟩ := Lexeme.ends_of_quoted cuts.cut quoted rest
          have last : close ∈ left := by
            rw [cuts.text] at ended
            have final := congrArg List.getLast? ended
            rw [List.getLast?_append_of_ne_nil _ inhabited, List.getLast?_concat] at final
            exact List.mem_of_getLast? final
          have excluded := closes close (List.mem_append_left _ last)
          rcases delimiter with quote | bracket
          · exact absurd quote excluded.1
          · exact absurd bracket excluded.2
  rw [reads.offset] at upper
  exact Comments.not_covers_of_takes cuts.cut plain (cuts.takes lower (by omega))

/-- From a seam on the parts of a name are lexemes of their own, up to the first two dashes. -/
theorem IsSeam.exists_dashes (seam : position.IsSeam) {name rest : Text}
    (after : position.after = name ++ rest)
    (parts : ∀ character ∈ name, isSegmentPart character = true)
    (dashes : ['-', '-'] <:+: name) :
    ∃ opening front back, name = front ++ '-' :: '-' :: back ∧ position.Reads front opening ∧
      opening.OpensComment := by
  induction name generalizing position with
  | nil => simp at dashes
  | cons character name ih =>
      have part := parts character List.mem_cons_self
      have noString : character ≠ '\'' := ne_of_class part (by decide)
      have noBracket : character ≠ '[' := ne_of_class part (by decide)
      by_cases begins : ['-', '-'] <+: character :: name
      · obtain ⟨back, spelled⟩ := begins
        refine ⟨position, [], back, spelled.symm, .refl position, seam, '-', '-' :: (back ++ rest), ?_,
          Lexeme.isComment_first.mpr (Or.inl ⟨rfl, rfl⟩)⟩
        rw [after, ← spelled]
        rfl
      · have later : ['-', '-'] <:+: name :=
          (List.infix_cons_iff.mp dashes).resolve_left begins
        have noComment : (Lexeme.first character (name ++ rest)).isComment = false := by
          rw [Bool.eq_false_iff, ne_eq, Lexeme.isComment_first]
          rintro (⟨rfl, dash⟩ | ⟨rfl, -⟩)
          · cases name with
            | nil => simp at later
            | cons follower name => simp_all
          · exact absurd part (by decide)
        have next := seam.pass after (Lexeme.first_eq_other noString noBracket noComment)
        obtain ⟨opening, front, back, rfl, reads, opens⟩ :=
          ih next rfl (fun other member => parts other (List.mem_cons_of_mem _ member)) later
        exact ⟨opening, character :: front, back, rfl, (reads_pass after).trans reads, opens⟩

theorem OpensComment.split (opens : opening.OpensComment) (reads : start.Reads run stop)
    (text : opening.text = start.text) (lower : start.index ≤ opening.index)
    (upper : opening.index < stop.index) :
    ∃ front character back, run = front ++ character :: back ∧
      opening.Reads (character :: back) stop ∧
      (character = '-' ∧ (back ++ stop.after).head? = some '-' ∨
        character = '/' ∧ (back ++ stop.after).head? = some '*') := by
  obtain ⟨front, back, rfl, -, rest⟩ := reads.split text lower (Nat.le_of_lt upper)
  cases back with
  | nil =>
      have same := rest.index
      rw [List.length_nil] at same
      omega
  | cons character back =>
      obtain ⟨first, following, after, comment⟩ := opens.comment
      have both := rest.after
      rw [after, List.cons_append, List.cons.injEq] at both
      obtain ⟨rfl, rfl⟩ := both
      exact ⟨front, first, back, rfl, rest, Lexeme.isComment_first.mp comment⟩

/-- A comment that begins with a dash goes on to the end of its line. -/
theorem OpensComment.covers_line (opens : opening.OpensComment) {rest : Text}
    (reads : opening.Reads ('-' :: rest) stop) (inline : ∀ character ∈ rest, character ≠ '\n')
    {offset : Nat} (lower : opening.offset ≤ offset) (upper : offset < stop.offset) :
    (Comments.ofText opening.text).covers offset = true := by
  obtain ⟨first, following, after, comment⟩ := opens.comment
  have both := reads.after
  rw [after, List.cons_append, List.cons.injEq] at both
  obtain ⟨rfl, rfl⟩ := both
  apply opens.seam.covers after comment lower
  have line : (rest ++ stop.after).head? = some '-' := by
    rcases Lexeme.isComment_first.mp comment with ⟨-, dash⟩ | ⟨slash, -⟩
    · exact dash
    · cases slash
  have taken : Lexeme.untilNewline (rest ++ stop.after) =
      rest ++ Lexeme.untilNewline stop.after := by
    apply List.takeWhile_append_of_pos
    intro character member
    simpa using inline character member
  have lexeme : Lexeme.first '-' (rest ++ stop.after) =
      ⟨.lineComment, '-' :: (rest ++ Lexeme.untilNewline stop.after)⟩ := by
    rw [Lexeme.first, if_neg (by decide), if_neg (by decide), if_pos ⟨rfl, line⟩, taken]
  rw [reads.offset, Text.byteLength_cons] at upper
  rw [lexeme, Text.byteLength_cons, Text.byteLength_append]
  omega

end Position

/-! ## Runs in which no comment begins -/

/-- None of the characters is read on the way. -/
def Avoids (characters : List Char) (start stop : Position) : Prop :=
  ∃ run, start.Reads run stop ∧ ∀ character ∈ run, character ∉ characters

def commentOpeners : List Char := ['-', '/']

/-- A slash begins a block comment, a newline ends a line comment. -/
def lineBreakers : List Char := ['/', '\n']

namespace Avoids

variable {characters : List Char} {start middle stop : Position} {run : Text}

theorem trans (first : Avoids characters start middle) (second : Avoids characters middle stop) :
    Avoids characters start stop := by
  obtain ⟨front, frontReads, frontAvoids⟩ := first
  obtain ⟨back, backReads, backAvoids⟩ := second
  refine ⟨front ++ back, frontReads.trans backReads, ?_⟩
  intro character member
  rcases List.mem_append.mp member with before | behind
  · exact frontAvoids character before
  · exact backAvoids character behind

theorem offset_le (avoids : Avoids characters start stop) : start.offset ≤ stop.offset := by
  obtain ⟨run, reads, -⟩ := avoids
  rw [reads.offset]
  exact Nat.le_add_right _ _

theorem text_eq (avoids : Avoids characters start stop) : stop.text = start.text := by
  obtain ⟨run, reads, -⟩ := avoids
  exact reads.text

theorem of_class {accept : Char → Bool} (reads : start.Reads run stop)
    (held : ∀ character ∈ run, accept character = true)
    (excluded : characters.any accept = false) : Avoids characters start stop := by
  refine ⟨run, reads, ?_⟩
  intro character member avoided
  exact List.any_eq_false.mp excluded character avoided (held character member)

theorem of_optional {character : Char} (reads : start.Reads run stop)
    (either : run = [] ∨ run = [character]) (other : character ∉ characters) :
    Avoids characters start stop := by
  refine ⟨run, reads, ?_⟩
  rcases either with rfl | rfl
  · simp
  · simpa using other

theorem of_blanks (reads : start.Reads run stop)
    (blanks : ∀ character ∈ run, isBlank character = true) : Avoids commentOpeners start stop :=
  of_class reads blanks (by decide)

theorem of_words (reads : start.Reads run stop)
    (words : ∀ character ∈ run, isWord character = true) : Avoids commentOpeners start stop :=
  of_class reads words (by decide)

end Avoids

theorem Position.OpensComment.behind {start stop opening : Position}
    (opens : opening.OpensComment) (quiet : Avoids commentOpeners start stop)
    (text : opening.text = start.text) (lower : start.index ≤ opening.index) :
    stop.index ≤ opening.index := by
  by_contra inside
  obtain ⟨run, reads, other⟩ := quiet
  obtain ⟨front, character, back, rfl, -, either⟩ :=
    opens.split reads text lower (Nat.lt_of_not_le inside)
  apply other character (by simp)
  rcases either with ⟨rfl, -⟩ | ⟨rfl, -⟩
  · exact List.mem_cons_self
  · exact List.mem_cons_of_mem _ List.mem_cons_self

theorem Avoids.free {start stop : Position} (quiet : Avoids commentOpeners start stop)
    {script : Text} (text : start.text = script)
    (begins : (Comments.ofText script).covers start.offset = false) {offset : Nat}
    (lower : start.offset ≤ offset) (upper : offset < stop.offset) :
    (Comments.ofText script).covers offset = false := by
  rw [Bool.eq_false_iff]
  intro covered
  obtain ⟨opening, same, opens, later, before⟩ :=
    Position.exists_opensComment text begins covered lower
  have outside := opens.behind quiet (same.trans text.symm) (Nat.le_of_lt later)
  obtain ⟨run, reads, -⟩ := quiet
  have early := (Position.offset_lt_iff (same.trans (text.symm.trans reads.text.symm))).mp
    (Nat.lt_of_le_of_lt before upper)
  omega

/-! ## Segments -/

namespace Segment

/-- No byte of the name lies in a comment. -/
def Free (comments : Comments) (segment : Segment) : Prop :=
  ∀ offset, segment.position.offset ≤ offset →
    offset < segment.position.offset + Text.byteLength segment.name →
      comments.covers offset = false

/-- The name holds two dashes that stand neither in a string nor in brackets. -/
def Exposed (segment : Segment) : Prop :=
  ['-', '-'] <:+: segment.name ∧ ¬segment.position.Shielded

namespace Spans

variable {position nameStop stop start : Position} {segment : Segment} {script : Text}

theorem after_ne_nil (spans : segment.Spans position nameStop stop) :
    segment.position.after ≠ [] := by
  obtain ⟨character, rest, split, -⟩ := spans.isName.first
  rw [spans.name.after, split]
  exact List.cons_ne_nil _ _

/-- A comment that begins inside a name begins with two dashes of it. -/
theorem dashes_of_opensComment (spans : segment.Spans position nameStop stop) {opening : Position}
    (opens : opening.OpensComment) (text : opening.text = segment.position.text)
    (lower : segment.position.index ≤ opening.index) (upper : opening.index < nameStop.index) :
    ['-', '-'] <:+: segment.name := by
  obtain ⟨front, character, back, split, -, either⟩ := opens.split spans.name text lower upper
  have part : isSegmentPart character = true := by
    apply spans.isName.parts
    rw [split]
    simp
  rcases either with ⟨rfl, dash⟩ | ⟨rfl, -⟩
  · cases back with
    | nil =>
        obtain ⟨rest, after⟩ := List.head?_eq_some_iff.mp dash
        exact absurd (spans.longest '-' rest after) (by decide)
    | cons follower back =>
        obtain rfl : follower = '-' := by simpa using dash
        exact ⟨front, back, by rw [split]; simp⟩
  · exact absurd part (by decide)

theorem free_iff (spans : segment.Spans position nameStop stop)
    (text : segment.position.text = script)
    (begins : (Comments.ofText script).covers segment.position.offset = false) :
    segment.Free (Comments.ofText script) ↔ ¬segment.Exposed := by
  have ends := spans.name.offset
  constructor
  · rintro free ⟨dashes, unshielded⟩
    have seam : segment.position.IsSeam := by
      rcases Position.seam_or_shielded_or_covered spans.after_ne_nil with seam | shielded | covered
      · exact seam
      · exact absurd shielded unshielded
      · rw [text, begins] at covered
        cases covered
    obtain ⟨opening, front, back, split, reads, opens⟩ :=
      seam.exists_dashes spans.name.after spans.isName.parts dashes
    have covered := opens.covers
    have positive : 0 < Text.byteLength ('-' :: '-' :: back) :=
      Text.byteLength_pos (List.cons_ne_nil _ _)
    have upper : opening.offset < segment.position.offset + Text.byteLength segment.name := by
      rw [reads.offset, split, Text.byteLength_append]
      omega
    rw [reads.text, text, free opening.offset (by rw [reads.offset]; omega) upper] at covered
    cases covered
  · intro hidden offset lower upper
    rw [← ends] at upper
    by_cases dashes : ['-', '-'] <:+: segment.name
    · have shielded : segment.position.Shielded := by
        by_contra unshielded
        exact hidden ⟨dashes, unshielded⟩
      rw [← text]
      apply shielded.free spans.name _ lower upper
      intro character member
      have part := spans.isName.parts character member
      exact ⟨ne_of_class part (by decide), ne_of_class part (by decide)⟩
    · rw [Bool.eq_false_iff]
      intro covered
      obtain ⟨opening, same, opens, later, before⟩ :=
        Position.exists_opensComment text begins covered lower
      have whole : opening.text = segment.position.text := same.trans text.symm
      have early := (Position.offset_lt_iff (whole.trans spans.name.text.symm)).mp
        (Nat.lt_of_le_of_lt before upper)
      exact dashes (spans.dashes_of_opensComment opens whole (Nat.le_of_lt later) early)

end Spans

end Segment

end ProcedureAtlas
