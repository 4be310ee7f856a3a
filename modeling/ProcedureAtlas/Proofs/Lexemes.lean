import Mathlib.Data.List.TakeWhile
import ProcedureAtlas.Script.Comment

/-!
# The lexemes of a script

To tell comments from code a script is cut from left to right into lexemes: quoted strings, bracketed
names, comments of two kinds, and single characters. The kind of a lexeme is told by its first two
characters; whatever is open at the end of the script ends there. Nothing is left out, so the lexemes
put together are the script.

The cut is made on characters. Bytes come in only with the spans, which count what stands before a
lexeme and what it takes.
-/

namespace ProcedureAtlas

set_option autoImplicit false

inductive LexemeKind where
  | string
  | bracketed
  | lineComment
  | blockComment
  | other
deriving DecidableEq, Repr

structure Lexeme where
  kind : LexemeKind
  text : Text
deriving DecidableEq, Repr

namespace Lexeme

/-- What is left of a quoted run. Its closing character written twice does not close it. -/
def untilClosed (close : Char) : Text → Text
  | [] => []
  | [last] => [last]
  | character :: follower :: tail =>
      if character = close then
        if follower = close then
          character :: follower :: untilClosed close tail
        else
          [character]
      else
        character :: untilClosed close (follower :: tail)

/-- What is left of a block comment in which `depth` blocks are open. -/
def untilOuter : Nat → Text → Text
  | 0, _ => []
  | _ + 1, [] => []
  | _ + 1, [last] => [last]
  | depth + 1, character :: follower :: tail =>
      if character = '/' ∧ follower = '*' then
        character :: follower :: untilOuter (depth + 2) tail
      else if character = '*' ∧ follower = '/' then
        character :: follower :: untilOuter depth tail
      else
        character :: untilOuter (depth + 1) (follower :: tail)

def untilNewline (text : Text) : Text :=
  text.takeWhile (· != '\n')

def first (character : Char) (rest : Text) : Lexeme :=
  if character = '\'' then
    ⟨.string, character :: untilClosed '\'' rest⟩
  else if character = '[' then
    ⟨.bracketed, character :: untilClosed ']' rest⟩
  else if character = '-' ∧ rest.head? = some '-' then
    ⟨.lineComment, character :: untilNewline rest⟩
  else if character = '/' ∧ rest.head? = some '*' then
    ⟨.blockComment, character :: '*' :: untilOuter 1 rest.tail⟩
  else
    ⟨.other, [character]⟩

/-- The lexemes from here on, once `skip` characters have been passed over. -/
def cutFrom : Nat → Text → List Lexeme
  | _, [] => []
  | skip + 1, _ :: rest => cutFrom skip rest
  | 0, character :: rest =>
      first character rest :: cutFrom ((first character rest).text.length - 1) rest

def ofText (text : Text) : List Lexeme :=
  cutFrom 0 text

def joined (lexemes : List Lexeme) : Text :=
  lexemes.flatMap Lexeme.text

def isComment (lexeme : Lexeme) : Bool :=
  lexeme.kind == .lineComment || lexeme.kind == .blockComment

/-- The byte spans of the comments among lexemes that stand one behind another from `offset` on. -/
def commentSpans : Nat → List Lexeme → List Span
  | _, [] => []
  | offset, lexeme :: lexemes =>
      let stop := offset + lexeme.text.byteLength
      if lexeme.isComment then
        ⟨offset, stop⟩ :: commentSpans stop lexemes
      else
        commentSpans stop lexemes

/-! ## Cutting a script -/

theorem untilClosed_prefix (close : Char) (text : Text) : untilClosed close text <+: text := by
  fun_induction untilClosed close text with
  | case1 => exact List.prefix_rfl
  | case2 => exact List.prefix_rfl
  | case3 _ ih => simpa using ih
  | case4 => simp
  | case5 _ _ _ _ ih => simpa using ih

theorem untilOuter_prefix (depth : Nat) (text : Text) : untilOuter depth text <+: text := by
  fun_induction untilOuter depth text with
  | case1 => exact List.nil_prefix
  | case2 => exact List.prefix_rfl
  | case3 => exact List.prefix_rfl
  | case4 _ _ _ _ _ ih => simpa using ih
  | case5 _ _ _ _ _ _ ih => simpa using ih
  | case6 _ _ _ _ _ _ ih => simpa using ih

/-- A lexeme takes the character that it was told by and a beginning of what follows. -/
theorem exists_first_text (character : Char) (rest : Text) :
    ∃ body, (first character rest).text = character :: body ∧ body <+: rest := by
  rw [first]
  split_ifs with quote bracket line block
  · exact ⟨_, rfl, untilClosed_prefix _ rest⟩
  · exact ⟨_, rfl, untilClosed_prefix _ rest⟩
  · exact ⟨_, rfl, List.takeWhile_prefix _⟩
  · refine ⟨_, rfl, ?_⟩
    cases rest with
    | nil => simp at block
    | cons follower tail =>
        simp only [List.head?_cons, Option.some.injEq] at block
        rw [block.2]
        simpa using untilOuter_prefix 1 tail
  · exact ⟨[], rfl, List.nil_prefix⟩

theorem cutFrom_eq (skip : Nat) (text : Text) : cutFrom skip text = ofText (text.drop skip) := by
  induction text generalizing skip with
  | nil => simp [ofText, cutFrom]
  | cons character rest ih =>
      cases skip with
      | zero => rfl
      | succ skip =>
          rw [List.drop_succ_cons, ← ih]
          rfl

theorem ofText_nil : ofText [] = [] := rfl

/-- A script is its first lexeme and the script behind it. -/
theorem exists_ofText_cons (character : Char) (rest : Text) :
    ∃ back, character :: rest = (first character rest).text ++ back ∧
      ofText (character :: rest) = first character rest :: ofText back := by
  obtain ⟨body, text, back, split⟩ := exists_first_text character rest
  refine ⟨back, ?_, ?_⟩
  · rw [text, ← split]
    rfl
  · have kept : rest.drop ((first character rest).text.length - 1) = back := by
      rw [text, ← split]
      simp
    rw [← kept, ← cutFrom_eq]
    rfl

/-- What holds of the empty script, and of a script once it holds of what its first lexeme leaves,
holds of every script. -/
theorem text_induction {motive : Text → Prop} (nil : motive [])
    (cons : ∀ character rest back, character :: rest = (first character rest).text ++ back →
      ofText (character :: rest) = first character rest :: ofText back → motive back →
        motive (character :: rest))
    (text : Text) : motive text := by
  induction length : text.length using Nat.strong_induction_on generalizing text with
  | h bound ih =>
      cases text with
      | nil => exact nil
      | cons character rest =>
          obtain ⟨back, split, cut⟩ := exists_ofText_cons character rest
          refine cons character rest back split cut (ih _ ?_ back rfl)
          obtain ⟨body, text, -⟩ := exists_first_text character rest
          have whole := congrArg List.length split
          rw [length, List.length_append, text, List.length_cons] at whole
          omega

theorem joined_ofText (text : Text) : joined (ofText text) = text := by
  induction text using text_induction with
  | nil => rfl
  | cons character rest back split cut ih =>
      rw [cut, joined, List.flatMap_cons, split]
      exact congrArg _ ih

theorem joined_append (front back : List Lexeme) :
    joined (front ++ back) = joined front ++ joined back :=
  List.flatMap_append

theorem byteLength_joined_cons (lexeme : Lexeme) (lexemes : List Lexeme) :
    Text.byteLength (joined (lexeme :: lexemes)) =
      lexeme.text.byteLength + Text.byteLength (joined lexemes) := by
  rw [joined, List.flatMap_cons, Text.byteLength_append]
  rfl

/-- Between two lexemes the cut begins anew. -/
theorem ofText_joined {text : Text} {front back : List Lexeme} (cut : ofText text = front ++ back) :
    ofText (joined back) = back := by
  induction text using text_induction generalizing front with
  | nil =>
      obtain ⟨rfl, rfl⟩ := List.append_eq_nil_iff.mp (cut.symm.trans ofText_nil)
      rfl
  | cons character rest behind _ step ih =>
      cases front with
      | nil =>
          rw [List.nil_append] at cut
          rw [← cut, joined_ofText]
      | cons lexeme front =>
          rw [step, List.cons_append, List.cons.injEq] at cut
          exact ih cut.2

/-! ## Spans -/

theorem commentSpans_append (offset : Nat) (front back : List Lexeme) :
    commentSpans offset (front ++ back) =
      commentSpans offset front ++
        commentSpans (offset + Text.byteLength (joined front)) back := by
  induction front generalizing offset with
  | nil => rfl
  | cons lexeme front ih =>
      simp only [List.cons_append, commentSpans, ih, byteLength_joined_cons, Nat.add_assoc]
      split <;> rfl

theorem mem_commentSpans {offset : Nat} {lexemes : List Lexeme} {span : Span} :
    span ∈ commentSpans offset lexemes ↔
      ∃ front lexeme back, lexemes = front ++ lexeme :: back ∧ lexeme.isComment = true ∧
        span.start = offset + Text.byteLength (joined front) ∧
        span.stop = span.start + lexeme.text.byteLength := by
  constructor
  · intro member
    induction lexemes generalizing offset with
    | nil => cases member
    | cons lexeme lexemes ih =>
        have later (behind : span ∈ commentSpans (offset + lexeme.text.byteLength) lexemes) :
            ∃ front found back, lexeme :: lexemes = front ++ found :: back ∧
              found.isComment = true ∧ span.start = offset + Text.byteLength (joined front) ∧
              span.stop = span.start + found.text.byteLength := by
          obtain ⟨front, found, back, rfl, comment, start, stop⟩ := ih behind
          refine ⟨lexeme :: front, found, back, rfl, comment, ?_, stop⟩
          rw [start, byteLength_joined_cons, Nat.add_assoc]
        simp only [commentSpans] at member
        split at member
        · rename_i comment
          rcases List.mem_cons.mp member with rfl | behind
          · exact ⟨[], lexeme, lexemes, rfl, comment, rfl, rfl⟩
          · exact later behind
        · exact later member
  · rintro ⟨front, lexeme, back, rfl, comment, start, stop⟩
    rw [commentSpans_append, commentSpans]
    simp only [comment, if_true, ← start, ← stop]
    exact List.mem_append_right _ List.mem_cons_self

end Lexeme

end ProcedureAtlas
