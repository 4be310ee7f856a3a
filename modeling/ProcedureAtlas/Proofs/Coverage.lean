import ProcedureAtlas.Proofs.CommentScan
import ProcedureAtlas.Proofs.Readers

/-!
# What comments cover

Whether a byte lies in a comment is asked by bisection among the spans. Their ends ascend, so the
answer is that of going through all of them, and it can be told by the lexemes: a byte is covered if
the lexeme that it belongs to is a comment.

A position is a seam if the cut of its text goes through it. A comment that covers a byte but not a
position before it begins between the two, at a seam with two dashes or with a slash and a star.
-/

namespace ProcedureAtlas

set_option autoImplicit false

/-! ## Bisection -/

namespace Comments

/-- The spans stand one behind another. -/
structure Ascending (spans : Array Span) : Prop where
  ordered : ∀ (index : Nat) (span : Span), spans[index]? = some span → span.start ≤ span.stop
  apart : ∀ (left right : Nat) (earlier later : Span), left < right →
    spans[left]? = some earlier → spans[right]? = some later → earlier.stop ≤ later.start

theorem Ascending.stops {spans : Array Span} (ascending : Ascending spans) (left right : Nat)
    (earlier later : Span) (order : left ≤ right) (leftGiven : spans[left]? = some earlier)
    (rightGiven : spans[right]? = some later) : earlier.stop ≤ later.stop := by
  rcases Nat.eq_or_lt_of_le order with rfl | less
  · rw [Option.some.inj (leftGiven.symm.trans rightGiven)]
  · have apart := ascending.apart _ _ _ _ less leftGiven rightGiven
    exact Nat.le_trans apart (ascending.ordered _ _ rightGiven)

/-- The index parts the spans that end by `offset` from those that end later. -/
structure Divides (spans : Array Span) (offset index : Nat) : Prop where
  below : ∀ (other : Nat) (span : Span), other < index → spans[other]? = some span →
    span.stop ≤ offset
  above : ∀ (other : Nat) (span : Span), index ≤ other → spans[other]? = some span →
    offset < span.stop

theorem partitionFrom_divides {spans : Array Span} (ascending : Ascending spans)
    (offset low high : Nat) (bound : high ≤ spans.size)
    (below : ∀ (other : Nat) (span : Span), other < low → spans[other]? = some span →
      span.stop ≤ offset)
    (above : ∀ (other : Nat) (span : Span), high ≤ other → spans[other]? = some span →
      offset < span.stop) :
    Divides spans offset (partitionFrom spans offset low high) := by
  fun_induction partitionFrom spans offset low high with
  | case1 low high window middle found early ih =>
      apply ih bound
      · intro other span order given
        exact Nat.le_trans (ascending.stops _ _ _ _ (by omega) given found) early
      · exact above
  | case2 low high window middle found late ih =>
      apply ih (by omega) below
      intro other span order given
      have later := ascending.stops _ _ _ _ order found given
      omega
  | case3 low high window outside =>
      rw [Array.getElem?_eq_none_iff] at outside
      omega
  | case4 low high closed =>
      apply Divides.mk below
      intro other span order given
      exact above other span (by omega) given

/-- Outside the window of all spans there is nothing to be known. -/
theorem Ascending.divides {spans : Array Span} (ascending : Ascending spans) (offset : Nat) :
    Divides spans offset (partitionFrom spans offset 0 spans.size) := by
  apply partitionFrom_divides ascending offset 0 _ (Nat.le_refl _)
  · intro other span order
    omega
  · intro other span order given
    rw [Array.getElem?_eq_none order] at given
    cases given

theorem covers_iff_of_ascending {comments : Comments} (ascending : Ascending comments.spans)
    (offset : Nat) :
    comments.covers offset = true ↔
      ∃ span ∈ comments.spans.toList, span.start ≤ offset ∧ offset < span.stop := by
  have divides := ascending.divides offset
  rw [covers]
  generalize partitionFrom comments.spans offset 0 comments.spans.size = index at divides
  constructor
  · intro covered
    split at covered
    · rename_i span given
      have member : span ∈ comments.spans := Array.mem_of_getElem? given
      exact ⟨span, Array.mem_toList_iff.mpr member, of_decide_eq_true covered,
        divides.above index span (Nat.le_refl _) given⟩
    · cases covered
  · rintro ⟨span, member, lower, upper⟩
    obtain ⟨place, given⟩ := Array.mem_iff_getElem?.mp (Array.mem_toList_iff.mp member)
    have order : index ≤ place := by
      by_contra before
      have early := divides.below place span (Nat.lt_of_not_le before) given
      omega
    have bound : place < comments.spans.size := (Array.getElem?_eq_some_iff.mp given).1
    cases first : comments.spans[index]? with
    | none =>
        rw [Array.getElem?_eq_none_iff] at first
        omega
    | some other =>
        apply decide_eq_true
        -- An earlier span that ends behind the byte would reach into this one.
        have late := divides.above index other (Nat.le_refl _) first
        rcases Nat.eq_or_lt_of_le order with rfl | less
        · rw [Option.some.inj (first.symm.trans given)]
          exact lower
        · have apart := ascending.apart _ _ _ _ less first given
          omega

end Comments

/-! ## Lexemes and bytes -/

namespace Lexeme

theorem bounds_of_mem_commentSpans {offset : Nat} {lexemes : List Lexeme} {span : Span}
    (member : span ∈ commentSpans offset lexemes) :
    offset ≤ span.start ∧ span.start ≤ span.stop ∧
      span.stop ≤ offset + Text.byteLength (joined lexemes) := by
  obtain ⟨front, lexeme, back, rfl, -, start, stop⟩ := mem_commentSpans.mp member
  rw [joined_append, Text.byteLength_append, byteLength_joined_cons]
  omega

theorem commentSpans_pairwise (offset : Nat) (lexemes : List Lexeme) :
    (commentSpans offset lexemes).Pairwise fun earlier later => earlier.stop ≤ later.start := by
  induction lexemes generalizing offset with
  | nil => exact .nil
  | cons lexeme lexemes ih =>
      simp only [commentSpans]
      split
      · apply List.Pairwise.cons _ (ih _)
        intro later member
        exact (bounds_of_mem_commentSpans member).1
      · exact ih _

/-- The lexeme takes the byte at an offset when the lexemes before it are `front`. -/
def Takes (front : List Lexeme) (lexeme : Lexeme) (offset : Nat) : Prop :=
  Text.byteLength (joined front) ≤ offset ∧
    offset < Text.byteLength (joined front) + lexeme.text.byteLength

end Lexeme

namespace Comments

theorem ascending_ofText (text : Text) : Ascending (ofText text).spans := by
  constructor
  · intro index span given
    have member : span ∈ (ofText text).spans.toList :=
      Array.mem_toList_iff.mpr (Array.mem_of_getElem? given)
    rw [spans_ofText] at member
    exact (Lexeme.bounds_of_mem_commentSpans member).2.1
  · intro left right earlier later order leftGiven rightGiven
    obtain ⟨leftBound, rfl⟩ := Array.getElem?_eq_some_iff.mp leftGiven
    obtain ⟨rightBound, rfl⟩ := Array.getElem?_eq_some_iff.mp rightGiven
    have apart := Lexeme.commentSpans_pairwise 0 (Lexeme.ofText text)
    rw [← spans_ofText] at apart
    exact List.pairwise_iff_getElem.mp apart left right leftBound rightBound order

theorem covers_iff_spans (text : Text) (offset : Nat) :
    (ofText text).covers offset = true ↔
      ∃ span ∈ Lexeme.commentSpans 0 (Lexeme.ofText text),
        span.start ≤ offset ∧ offset < span.stop := by
  rw [covers_iff_of_ascending (ascending_ofText text), spans_ofText]

theorem covers_iff (text : Text) (offset : Nat) :
    (ofText text).covers offset = true ↔
      ∃ front lexeme back, Lexeme.ofText text = front ++ lexeme :: back ∧
        lexeme.isComment = true ∧ Lexeme.Takes front lexeme offset := by
  rw [covers_iff_spans]
  constructor
  · rintro ⟨span, member, lower, upper⟩
    obtain ⟨front, lexeme, back, cut, comment, start, stop⟩ := Lexeme.mem_commentSpans.mp member
    refine ⟨front, lexeme, back, cut, comment, ?_⟩
    rw [Lexeme.Takes]
    omega
  · rintro ⟨front, lexeme, back, cut, comment, takes⟩
    have member : ⟨Text.byteLength (Lexeme.joined front),
        Text.byteLength (Lexeme.joined front) + lexeme.text.byteLength⟩ ∈
          Lexeme.commentSpans 0 (Lexeme.ofText text) :=
      Lexeme.mem_commentSpans.mpr
        ⟨front, lexeme, back, cut, comment, (Nat.zero_add _).symm, rfl⟩
    exact ⟨_, member, takes⟩

theorem not_covers_of_takes {text : Text} {front back : List Lexeme} {lexeme : Lexeme}
    (cut : Lexeme.ofText text = front ++ lexeme :: back) (plain : lexeme.isComment = false)
    {offset : Nat} (takes : Lexeme.Takes front lexeme offset) :
    (ofText text).covers offset = false := by
  rw [Bool.eq_false_iff, ne_eq, covers_iff_spans, cut, Lexeme.commentSpans_append,
    Lexeme.commentSpans]
  rw [Lexeme.Takes] at takes
  simp only [plain, Bool.false_eq_true, if_false]
  rintro ⟨span, member, lower, upper⟩
  rcases List.mem_append.mp member with before | behind
  · have bounds := Lexeme.bounds_of_mem_commentSpans before
    omega
  · have bounds := Lexeme.bounds_of_mem_commentSpans behind
    omega

end Comments

/-! ## Seams -/

namespace Lexeme

theorem isComment_first {character : Char} {rest : Text} :
    (first character rest).isComment = true ↔
      (character = '-' ∧ rest.head? = some '-') ∨ (character = '/' ∧ rest.head? = some '*') := by
  rw [first]
  split_ifs with string bracketed line block
  · simp [isComment, string]
  · simp [isComment, bracketed]
  · exact iff_of_true rfl (Or.inl line)
  · exact iff_of_true rfl (Or.inr block)
  · exact iff_of_false Bool.false_ne_true (not_or.mpr ⟨line, block⟩)

theorem first_eq_other {character : Char} {rest : Text} (noString : character ≠ '\'')
    (noBracket : character ≠ '[') (noComment : (first character rest).isComment = false) :
    first character rest = ⟨.other, [character]⟩ := by
  rw [Bool.eq_false_iff, ne_eq, isComment_first, not_or] at noComment
  rw [first, if_neg noString, if_neg noBracket, if_neg noComment.1, if_neg noComment.2]

theorem text_of_other {character : Char} {rest : Text}
    (other : (first character rest).kind = .other) :
    (first character rest).text = [character] := by
  rw [first] at other ⊢
  split_ifs at other ⊢
  rfl

theorem exists_first_of_cut {text : Text} {front back : List Lexeme} {lexeme : Lexeme}
    (cut : ofText text = front ++ lexeme :: back) :
    ∃ character rest, joined (lexeme :: back) = character :: rest ∧
      first character rest = lexeme := by
  have behind := ofText_joined cut
  cases text : joined (lexeme :: back) with
  | nil =>
      rw [text, ofText_nil] at behind
      cases behind
  | cons character rest =>
      obtain ⟨_, -, step⟩ := exists_ofText_cons character rest
      rw [text, step, List.cons.injEq] at behind
      exact ⟨character, rest, rfl, behind.1⟩

end Lexeme

namespace Position

variable {position : Position}

/-- The cut of the text goes through the position. -/
def IsSeam (position : Position) : Prop :=
  ∃ front, Lexeme.ofText position.text = front ++ Lexeme.ofText position.after

theorem IsSeam.exists_front (seam : position.IsSeam) :
    ∃ front, Lexeme.ofText position.text = front ++ Lexeme.ofText position.after ∧
      Text.byteLength (Lexeme.joined front) = position.offset := by
  obtain ⟨front, cut⟩ := seam
  refine ⟨front, cut, ?_⟩
  have whole := Lexeme.joined_ofText position.text
  rw [cut, Lexeme.joined_append, Lexeme.joined_ofText] at whole
  rw [List.append_cancel_right whole, Text.byteLength_reverse, ← position.offset_eq]

/-- At a seam in front of a comment the comment covers what it takes. -/
theorem IsSeam.covers (seam : position.IsSeam) {character : Char} {rest : Text}
    (after : position.after = character :: rest)
    (comment : (Lexeme.first character rest).isComment = true) {offset : Nat}
    (lower : position.offset ≤ offset)
    (upper : offset < position.offset + (Lexeme.first character rest).text.byteLength) :
    (Comments.ofText position.text).covers offset = true := by
  obtain ⟨front, cut, length⟩ := seam.exists_front
  obtain ⟨back, -, step⟩ := Lexeme.exists_ofText_cons character rest
  rw [after, step] at cut
  apply (Comments.covers_iff _ _).mpr
  refine ⟨front, _, _, cut, comment, ?_⟩
  rw [Lexeme.Takes, length]
  exact ⟨lower, upper⟩

theorem IsSeam.pass (seam : position.IsSeam) {character : Char} {rest : Text}
    (after : position.after = character :: rest)
    (single : Lexeme.first character rest = ⟨.other, [character]⟩) :
    (position.pass character rest).IsSeam := by
  obtain ⟨front, cut⟩ := seam
  obtain ⟨back, split, step⟩ := Lexeme.exists_ofText_cons character rest
  rw [single] at split step
  obtain rfl : rest = back := by simpa using split
  refine ⟨front ++ [⟨.other, [character]⟩], ?_⟩
  rw [(reads_pass after).text, cut, after, step, List.append_assoc]
  rfl

structure OpensComment (position : Position) : Prop where
  seam : position.IsSeam
  comment : ∃ character rest, position.after = character :: rest ∧
    (Lexeme.first character rest).isComment = true

theorem OpensComment.covers (opens : position.OpensComment) :
    (Comments.ofText position.text).covers position.offset = true := by
  obtain ⟨character, rest, after, comment⟩ := opens.comment
  apply opens.seam.covers after comment (Nat.le_refl _)
  obtain ⟨body, text, -⟩ := Lexeme.exists_first_text character rest
  have positive := Text.byteLength_pos (text ▸ List.cons_ne_nil character body)
  omega

theorem exists_of_cut {text : Text} {front back : List Lexeme} {lexeme : Lexeme}
    (cut : Lexeme.ofText text = front ++ lexeme :: back) :
    ∃ position : Position, position.text = text ∧ position.IsSeam ∧
      position.offset = Text.byteLength (Lexeme.joined front) ∧
      position.after = Lexeme.joined (lexeme :: back) := by
  have split : (Position.start text).after =
      Lexeme.joined front ++ Lexeme.joined (lexeme :: back) := by
    rw [← Lexeme.joined_append, ← cut, Lexeme.joined_ofText]
    rfl
  have reads := reads_addRun split
  refine ⟨_, reads.text, ⟨front, ?_⟩, ?_, rfl⟩
  · rw [reads.text, Lexeme.ofText_joined cut]
    exact cut
  · rw [reads.offset]
    exact Nat.zero_add _

/-- A comment that covers a byte but not a position before it begins between the two. -/
theorem exists_opensComment {text : Text} {offset : Nat} (whole : position.text = text)
    (free : (Comments.ofText text).covers position.offset = false)
    (covered : (Comments.ofText text).covers offset = true) (order : position.offset ≤ offset) :
    ∃ opening : Position, opening.text = text ∧ opening.OpensComment ∧
      position.index < opening.index ∧ opening.offset ≤ offset := by
  obtain ⟨front, lexeme, back, cut, comment, takes⟩ := (Comments.covers_iff _ _).mp covered
  obtain ⟨opening, same, seam, begins, after⟩ := exists_of_cut cut
  obtain ⟨character, rest, text, rfl⟩ := Lexeme.exists_first_of_cut cut
  rw [text] at after
  rw [Lexeme.Takes, ← begins] at takes
  refine ⟨opening, same, ⟨seam, character, rest, after, comment⟩, ?_, takes.1⟩
  apply (offset_lt_iff (whole.trans same.symm)).mp
  by_contra early
  -- A comment that begins no later would cover the position too.
  have reached := seam.covers after comment (Nat.le_of_not_lt early) (by omega)
  rw [same, free] at reached
  cases reached

/-! ## Inside a lexeme -/

/-- The position cuts a lexeme of its text in two: `read` is behind it and `left` in front of it. -/
structure Cuts (position : Position) (front : List Lexeme) (lexeme : Lexeme) (back : List Lexeme)
    (read left : Text) : Prop where
  cut : Lexeme.ofText position.text = front ++ lexeme :: back
  text : lexeme.text = read ++ left
  before : position.before.reverse = Lexeme.joined front ++ read
  after : position.after = left ++ Lexeme.joined back

/-- The position is inside a string or a bracketed name. -/
def Shielded (position : Position) : Prop :=
  ∃ front lexeme back read left, position.Cuts front lexeme back read left ∧ read ≠ [] ∧ left ≠ [] ∧
    (lexeme.kind = .string ∨ lexeme.kind = .bracketed)

variable {front back : List Lexeme} {lexeme : Lexeme} {read left : Text}

theorem Cuts.offset (cuts : position.Cuts front lexeme back read left) :
    position.offset = Text.byteLength (Lexeme.joined front) + Text.byteLength read := by
  rw [position.offset_eq, ← Text.byteLength_reverse, cuts.before, Text.byteLength_append]

theorem Cuts.takes (cuts : position.Cuts front lexeme back read left) {offset : Nat}
    (lower : position.offset ≤ offset) (upper : offset < position.offset + Text.byteLength left) :
    Lexeme.Takes front lexeme offset := by
  rw [cuts.offset] at lower upper
  rw [Lexeme.Takes, cuts.text, Text.byteLength_append]
  omega

private theorem exists_cut_of_joined {lexemes : List Lexeme} {before after : Text}
    (whole : Lexeme.joined lexemes = before ++ after) (inhabited : after ≠ []) :
    ∃ front lexeme back read left, lexemes = front ++ lexeme :: back ∧
      lexeme.text = read ++ left ∧ left ≠ [] ∧ before = Lexeme.joined front ++ read ∧
      after = left ++ Lexeme.joined back := by
  induction lexemes generalizing before with
  | nil =>
      have empty := List.append_eq_nil_iff.mp whole.symm
      exact absurd empty.2 inhabited
  | cons lexeme lexemes ih =>
      have later {behind : Text} (given : Lexeme.joined lexemes = behind ++ after)
          (split : before = lexeme.text ++ behind) :
          ∃ front found back read left, lexeme :: lexemes = front ++ found :: back ∧
            found.text = read ++ left ∧ left ≠ [] ∧ before = Lexeme.joined front ++ read ∧
            after = left ++ Lexeme.joined back := by
        obtain ⟨front, found, back, read, left, rfl, text, rest, rfl, rfl⟩ := ih given
        refine ⟨lexeme :: front, found, back, read, left, rfl, text, rest, ?_, rfl⟩
        rw [split, ← List.append_assoc]
        rfl
      rcases List.append_eq_append_iff.mp whole with ⟨behind, split, given⟩ | ⟨left, text, split⟩
      · exact later given split
      · cases left with
        | nil =>
            rw [List.append_nil] at text
            rw [List.nil_append] at split
            exact @later [] split.symm (by rw [text, List.append_nil])
        | cons character tail =>
            exact ⟨[], lexeme, lexemes, before, character :: tail, rfl, text, List.cons_ne_nil _ _,
              rfl, split⟩

theorem exists_cuts (inhabited : position.after ≠ []) :
    ∃ front lexeme back read left, position.Cuts front lexeme back read left ∧ left ≠ [] := by
  have whole : Lexeme.joined (Lexeme.ofText position.text) =
      position.before.reverse ++ position.after := Lexeme.joined_ofText position.text
  obtain ⟨front, lexeme, back, read, left, cut, text, rest, before, after⟩ :=
    exists_cut_of_joined whole inhabited
  exact ⟨front, lexeme, back, read, left, ⟨cut, text, before, after⟩, rest⟩

theorem Cuts.isSeam (cuts : position.Cuts front lexeme back [] left) : position.IsSeam := by
  refine ⟨front, ?_⟩
  have behind := Lexeme.ofText_joined cuts.cut
  have after : position.after = Lexeme.joined (lexeme :: back) := by
    rw [cuts.after, ← List.nil_append left, ← cuts.text]
    rfl
  rw [after, behind, cuts.cut]

/-- A position in front of a character is a seam, or shielded, or inside a comment. -/
theorem seam_or_shielded_or_covered (inhabited : position.after ≠ []) :
    position.IsSeam ∨ position.Shielded ∨
      (Comments.ofText position.text).covers position.offset = true := by
  obtain ⟨front, lexeme, back, read, left, cuts, rest⟩ := exists_cuts inhabited
  have positive := Text.byteLength_pos rest
  have takes := cuts.takes (Nat.le_refl _) (Nat.lt_add_of_pos_right positive)
  cases read with
  | nil => exact Or.inl cuts.isSeam
  | cons character read =>
      have inside := List.cons_ne_nil character read
      have covered (comment : lexeme.isComment = true) :
          (Comments.ofText position.text).covers position.offset = true :=
        (Comments.covers_iff _ _).mpr ⟨front, lexeme, back, cuts.cut, comment, takes⟩
      cases kind : lexeme.kind with
      | string => exact Or.inr (Or.inl ⟨_, _, _, _, _, cuts, inside, rest, Or.inl kind⟩)
      | bracketed => exact Or.inr (Or.inl ⟨_, _, _, _, _, cuts, inside, rest, Or.inr kind⟩)
      | lineComment => exact Or.inr (Or.inr (covered (by simp [Lexeme.isComment, kind])))
      | blockComment => exact Or.inr (Or.inr (covered (by simp [Lexeme.isComment, kind])))
      | other =>
          -- A single character cannot be cut.
          obtain ⟨_, _, -, rfl⟩ := Lexeme.exists_first_of_cut cuts.cut
          have single := Lexeme.text_of_other kind
          rw [cuts.text, List.cons_append, List.cons.injEq] at single
          exact absurd (List.append_eq_nil_iff.mp single.2).2 rest

end Position

end ProcedureAtlas
