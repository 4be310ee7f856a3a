import ProcedureAtlas.Proofs.Coverage

/-!
# Searching the spans

The spans of a script are kept in the order in which the scan closes them. Each of them is the byte
span of a comment among the lexemes. It therefore begins with two dashes or with a slash and a star,
takes these two bytes at least, and leaves off no later than the lexeme behind it begins.

Spans of this kind can be searched by bisection. The index that is found counts the spans that end
by the byte asked for, so the only span that can hold the byte stands at that index. The main
statement says that bisection answers for every byte, within the script or behind its end, as going
through all spans would.
-/

namespace ProcedureAtlas

set_option autoImplicit false

def Span.Holds (span : Span) (offset : Nat) : Prop :=
  span.start ≤ offset ∧ offset < span.stop

/-! ## How comments begin -/

namespace Lexeme

theorem opening_of_isComment {character : Char} {rest : Text}
    (comment : (first character rest).isComment = true) :
    ['-', '-'] <+: (first character rest).text ∨ ['/', '*'] <+: (first character rest).text := by
  rcases isComment_first.mp comment with ⟨rfl, dash⟩ | ⟨rfl, star⟩
  · left
    obtain ⟨tail, rfl⟩ := List.head?_eq_some_iff.mp dash
    have text : (first '-' ('-' :: tail)).text = '-' :: '-' :: untilNewline tail := rfl
    rw [text]
    exact List.prefix_append ['-', '-'] _
  · right
    obtain ⟨tail, rfl⟩ := List.head?_eq_some_iff.mp star
    have text : (first '/' ('*' :: tail)).text = '/' :: '*' :: untilOuter 1 tail := rfl
    rw [text]
    exact List.prefix_append ['/', '*'] _

theorem length_commentSpans (offset : Nat) (lexemes : List Lexeme) :
    (commentSpans offset lexemes).length = lexemes.countP isComment := by
  induction lexemes generalizing offset with
  | nil => rfl
  | cons lexeme lexemes ih =>
      simp only [commentSpans, List.countP_cons]
      split <;> simp only [List.length_cons, ih, Nat.add_zero]

end Lexeme

namespace Comments

/-! ## What a span takes -/

/-- The bytes of a span are those of a comment, which begins in one of the two ways. -/
theorem exists_opening {text : Text} {span : Span}
    (member : span ∈ Lexeme.commentSpans 0 (Lexeme.ofText text)) :
    ∃ comment rest : Text, (['-', '-'] <+: comment ∨ ['/', '*'] <+: comment) ∧
      text.utf8.drop span.start = comment.utf8 ++ rest.utf8 ∧
      span.stop = span.start + comment.byteLength := by
  obtain ⟨front, lexeme, back, cut, isComment, start, stop⟩ := Lexeme.mem_commentSpans.mp member
  obtain ⟨character, rest, -, rfl⟩ := Lexeme.exists_first_of_cut cut
  refine ⟨_, Lexeme.joined back, Lexeme.opening_of_isComment isComment, ?_, stop⟩
  have whole : text.utf8 = (Lexeme.joined front).utf8 ++
      ((Lexeme.first character rest).text.utf8 ++ (Lexeme.joined back).utf8) := by
    rw [← Text.utf8_append, ← Text.utf8_append, ← Lexeme.joined_ofText text, cut,
      Lexeme.joined_append]
    rfl
  rw [whole, start, Nat.zero_add, ← Text.length_utf8, List.drop_left]

theorem two_le_of_opening {comment : Text}
    (opening : ['-', '-'] <+: comment ∨ ['/', '*'] <+: comment) : 2 ≤ comment.byteLength := by
  rcases opening with ⟨rest, rfl⟩ | ⟨rest, rfl⟩
  · rw [Text.byteLength_append]
    exact Nat.le_add_right 2 _
  · rw [Text.byteLength_append]
    exact Nat.le_add_right 2 _

/-- What bisection asks of spans, and what the bytes of a text show where they stand. -/
structure IsSearchable (text : Text) (spans : List Span) : Prop where
  ascends : spans.Pairwise fun earlier later =>
    earlier.start < later.start ∧ earlier.stop < later.stop
  disjoint : spans.Pairwise fun earlier later =>
    ∀ offset, ¬(earlier.Holds offset ∧ later.Holds offset)
  long : ∀ span ∈ spans, span.start + 2 ≤ span.stop
  opened : ∀ span ∈ spans, Text.utf8 ['-', '-'] <+: text.utf8.drop span.start ∨
    Text.utf8 ['/', '*'] <+: text.utf8.drop span.start
  ended : ∀ span ∈ spans, span.stop ≤ text.utf8.length

theorem isSearchable_commentSpans (text : Text) :
    IsSearchable text (Lexeme.commentSpans 0 (Lexeme.ofText text)) := by
  have long : ∀ span ∈ Lexeme.commentSpans 0 (Lexeme.ofText text),
      span.start + 2 ≤ span.stop := by
    intro span member
    obtain ⟨comment, rest, opening, -, stop⟩ := exists_opening member
    have two := two_le_of_opening opening
    omega
  have apart := Lexeme.commentSpans_pairwise 0 (Lexeme.ofText text)
  constructor
  · apply apart.imp_of_mem
    intro earlier later member laterMember order
    have earlierLong := long earlier member
    have laterLong := long later laterMember
    omega
  · apply apart.imp
    rintro earlier later order offset ⟨⟨-, before⟩, behind, -⟩
    omega
  · exact long
  · intro span member
    obtain ⟨comment, rest, opening, bytes, -⟩ := exists_opening member
    have whole : comment.utf8 <+: text.utf8.drop span.start := by
      rw [bytes]
      exact List.prefix_append _ _
    exact opening.imp (fun begins => (Text.utf8_isPrefix begins).trans whole)
      fun begins => (Text.utf8_isPrefix begins).trans whole
  · intro span member
    have bounds := Lexeme.bounds_of_mem_commentSpans member
    rw [Lexeme.joined_ofText] at bounds
    rw [Text.length_utf8]
    omega

/-! ## The index that is found -/

theorem partitionFrom_le (spans : Array Span) (offset : Nat) {low high : Nat}
    (window : low ≤ high) : partitionFrom spans offset low high ≤ high := by
  fun_induction partitionFrom spans offset low high with
  | case1 low high inside span found early ih => exact ih (by omega)
  | case2 low high inside span found late ih =>
      have within := ih (by omega)
      omega
  | case3 low high inside outside => exact window
  | case4 low high closed => exact window

/-- The spans before a dividing index are those that end by the offset. -/
theorem Divides.eq_countP {spans : Array Span} {offset index : Nat}
    (divides : Divides spans offset index) (bound : index ≤ spans.size) :
    index = spans.toList.countP fun span => decide (span.stop ≤ offset) := by
  have before : (spans.toList.take index).countP (fun span => decide (span.stop ≤ offset)) =
      index := by
    have all : ∀ span ∈ spans.toList.take index, decide (span.stop ≤ offset) = true := by
      intro span member
      obtain ⟨other, given⟩ := List.mem_iff_getElem?.mp member
      rw [List.getElem?_take] at given
      split at given
      · rename_i order
        rw [Array.getElem?_toList] at given
        exact decide_eq_true (divides.below other span order given)
      · cases given
    rw [List.countP_eq_length.mpr all, List.length_take, Array.length_toList]
    omega
  have behind : (spans.toList.drop index).countP (fun span => decide (span.stop ≤ offset)) = 0 := by
    apply List.countP_eq_zero.mpr
    intro span member
    obtain ⟨other, given⟩ := List.mem_iff_getElem?.mp member
    rw [List.getElem?_drop, Array.getElem?_toList] at given
    have late := divides.above (index + other) span (Nat.le_add_right _ _) given
    rw [decide_eq_true_eq]
    omega
  rw [← List.take_append_drop index spans.toList, List.countP_append, before, behind,
    Nat.add_zero]

/-- The spans of a script ascend, do not overlap, begin like a comment with two bytes at least and
end within the script, and there is one for each comment. For every offset bisection finds the
number of spans that end by it, and tells whether one of the spans holds it. -/
theorem bisection_agrees_with_spans (text : Text) :
    IsSearchable text (ofText text).spans.toList ∧
      (ofText text).count = (Lexeme.ofText text).countP Lexeme.isComment ∧
      ∀ offset,
        partitionFrom (ofText text).spans offset 0 (ofText text).count =
            (ofText text).spans.toList.countP (fun span => decide (span.stop ≤ offset)) ∧
          ((ofText text).covers offset = true ↔
            ∃ span ∈ (ofText text).spans.toList, span.Holds offset) := by
  have ascending := ascending_ofText text
  refine ⟨?_, ?_, ?_⟩
  · rw [spans_ofText]
    exact isSearchable_commentSpans text
  · rw [count, ← Array.length_toList, spans_ofText, Lexeme.length_commentSpans]
  · intro offset
    have bound := partitionFrom_le (ofText text).spans offset (Nat.zero_le (ofText text).count)
    exact ⟨(ascending.divides offset).eq_countP bound, covers_iff_of_ascending ascending offset⟩

end Comments

end ProcedureAtlas
