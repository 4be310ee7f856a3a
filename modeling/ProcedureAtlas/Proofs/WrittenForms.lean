import ProcedureAtlas.Proofs.CallScan
import ProcedureAtlas.Proofs.Coverage
import ProcedureAtlas.Proofs.HeaderScan

/-!
# Reading what was written

Elsewhere it is said what a reader has read once it has read something. Here it is the other way
round: where a text is written in a certain form, the reader does read it, and stops behind it. This
goes from single characters to bracketed names and to a schema with its name.

A script is laid out in pieces. Each piece is read from the place in front of it to the place behind
it, so a proof about the script only names its places. Pieces that are plain characters or bracketed
names open no comment.
-/

namespace ProcedureAtlas

set_option autoImplicit false

namespace Position

variable {position stop : Position} {run word : Text}

/-! ## Characters -/

theorem readChar_of_reads {expected : Char} (reads : position.Reads [expected] stop) :
    position.readChar expected = some stop := by
  have after : position.after = expected :: stop.after := reads.after
  unfold readChar
  rw [after]
  change (if expected = expected then some (position.pass expected stop.after) else none) = _
  rw [if_pos rfl, (reads_pass after).stop_unique reads]

theorem skipChar_of_reads {expected : Char} (reads : position.Reads [expected] stop) :
    position.skipChar expected = stop := by
  unfold skipChar
  rw [readChar_of_reads reads]
  rfl

theorem Reads.rest {character : Char} (reads : position.Reads (character :: run) stop) :
    (position.pass character (run ++ stop.after)).Reads run stop := by
  constructor
  · rw [reads.before, List.reverse_cons, List.append_assoc]
    rfl
  · rfl

theorem Reads.cut {front back : Text} (reads : position.Reads (front ++ back) stop) :
    ∃ middle, position.Reads front middle ∧ middle.Reads back stop := by
  have after : position.after = front ++ (back ++ stop.after) := by
    rw [reads.after, List.append_assoc]
  refine ⟨_, reads_addRun after, ?_⟩
  constructor
  · rw [reads.before, List.reverse_append, List.append_assoc]
    rfl
  · rfl

theorem readLetters_of_reads {letters : List Char} (reads : position.Reads word stop)
    (spelled : List.Forall₂ (fun letter character => isLetter letter character = true)
      letters word) : position.readLetters letters = some stop := by
  induction spelled generalizing position with
  | nil => exact congrArg some ((Reads.refl position).stop_unique reads)
  | @cons letter character letters word fits spelled ih =>
      have after : position.after = character :: (word ++ stop.after) := reads.after
      unfold readLetters
      rw [after]
      change (if isLetter letter character then readLetters letters _ else none) = _
      rw [if_pos fits]
      exact ih reads.rest

theorem skipWhile_of_reads {accept : Char → Bool} (reads : position.Reads run stop)
    (accepted : ∀ character ∈ run, accept character = true) (ended : stop.Shuns accept) :
    position.skipWhile accept = stop := by
  induction run generalizing position with
  | nil =>
      obtain rfl : position = stop := (Reads.refl position).stop_unique reads
      exact skipWhile_of_shuns ended
  | cons character run ih =>
      have after : position.after = character :: (run ++ stop.after) := reads.after
      rw [← skipWhile_pass position after (accepted character List.mem_cons_self)]
      apply ih reads.rest
      intro later member
      exact accepted later (List.mem_cons_of_mem character member)

theorem readBlanks_of_reads {character : Char} (reads : position.Reads (character :: run) stop)
    (blanks : ∀ blank ∈ character :: run, isBlank blank = true) (ended : stop.Shuns isBlank) :
    position.readBlanks = some stop := by
  have after : position.after = character :: (run ++ stop.after) := reads.after
  unfold readBlanks
  rw [after]
  change (if isBlank character then some (position.skipWhile isBlank) else none) = _
  rw [if_pos (blanks character List.mem_cons_self), skipWhile_of_reads reads blanks ended]

theorem readWord_of_reads {character : Char} (reads : position.Reads (character :: run) stop)
    (words : ∀ letter ∈ character :: run, isWord letter = true) (ended : stop.Shuns isWord) :
    position.readWord = some stop := by
  have after : position.after = character :: (run ++ stop.after) := reads.after
  unfold readWord
  rw [after]
  simp only [words character List.mem_cons_self, if_true, skipWhile_of_reads reads words ended]

theorem shuns_of_after {accept : Char → Bool} {character : Char} {rest : Text}
    (after : position.after = character :: rest) (other : accept character = false) :
    position.Shuns accept := by
  intro first others split
  rw [after] at split
  rwa [← (List.cons.inj split).1]

/-! ## Places -/

/-- The place in front of the piece with the given index, in a text laid out in pieces. -/
def place (pieces : List Text) (index : Nat) : Position :=
  ⟨Passed.nothing.addRun (pieces.take index).flatten, (pieces.drop index).flatten⟩

theorem place_zero (pieces : List Text) : place pieces 0 = start pieces.flatten :=
  ext_of_parts rfl rfl

theorem text_place (pieces : List Text) (index : Nat) :
    (place pieces index).text = pieces.flatten := by
  have before : (place pieces index).before = (pieces.take index).flatten.reverse :=
    List.append_nil _
  unfold text
  rw [before, List.reverse_reverse]
  change _ ++ (pieces.drop index).flatten = _
  rw [← List.flatten_append, List.take_append_drop]

theorem reads_place {pieces : List Text} {index : Nat} {piece : Text}
    (given : pieces[index]? = some piece) :
    (place pieces index).Reads piece (place pieces (index + 1)) := by
  obtain ⟨bound, here⟩ := List.getElem?_eq_some_iff.mp given
  constructor
  · change (pieces.take (index + 1)).flatten.reverse ++ [] =
      piece.reverse ++ ((pieces.take index).flatten.reverse ++ [])
    rw [List.append_nil, List.append_nil, ← List.reverse_append, ← here,
      ← List.take_append_getElem bound, List.flatten_append, List.flatten_singleton]
  · change (pieces.drop index).flatten = piece ++ (pieces.drop (index + 1)).flatten
    rw [List.drop_eq_getElem_cons bound, here, List.flatten_cons]

end Position

/-! ## Names -/

def bracket (name : Text) : Text :=
  '[' :: (name ++ [']'])

theorem exists_reads_of_bracket {position stop : Position} {name : Text}
    (reads : position.Reads (bracket name) stop) :
    ∃ opened nameStop, position.Reads ['['] opened ∧ opened.Reads name nameStop ∧
      nameStop.Reads [']'] stop := by
  have whole : position.Reads (['['] ++ (name ++ [']'])) stop := reads
  obtain ⟨opened, opening, rest⟩ := whole.cut
  obtain ⟨nameStop, named, closing⟩ := rest.cut
  exact ⟨opened, nameStop, opening, named, closing⟩

private theorem shuns_part_of_closing {nameStop stop : Position}
    (closing : nameStop.Reads [']'] stop) : nameStop.Shuns isSegmentPart :=
  Position.shuns_of_after closing.after (by decide)

/-- A segment is read where its name is as long as it can be, with the brackets that are there. -/
theorem Segment.read_of_reads {position opened nameStop stop : Position} {name : Text}
    (written : IsName name) (opening : position.skipChar '[' = opened)
    (named : opened.Reads name nameStop) (longest : nameStop.Shuns isSegmentPart)
    (closing : nameStop.skipChar ']' = stop) :
    Segment.read position = some (⟨opened, name⟩, stop) := by
  have taken := (CallMatch.longest_run named written.parts longest).1
  have skipped := Position.skipWhile_of_reads named written.parts longest
  obtain ⟨character, rest, split, word⟩ := written.first
  have after : opened.after = character :: (rest ++ nameStop.after) := by
    rw [named.after, split]
    rfl
  rw [after, List.takeWhile_cons_of_pos (part_of_word word)] at taken
  unfold Segment.read
  simp only [opening, after, word, if_true, taken,
    Position.skipWhile_pass opened after (part_of_word word), skipped, closing]

theorem Segment.exists_read_of_bracket {position stop : Position} {name : Text}
    (written : IsName name) (reads : position.Reads (bracket name) stop) :
    ∃ opened, Segment.read position = some (⟨opened, name⟩, stop) := by
  obtain ⟨opened, nameStop, opening, named, closing⟩ := exists_reads_of_bracket reads
  exact ⟨opened, read_of_reads written (Position.skipChar_of_reads opening) named
    (shuns_part_of_closing closing) (Position.skipChar_of_reads closing)⟩

/-- A bracket is not a blank, so no call begins in a name in brackets. -/
theorem CallMatch.barren_of_bracket {position stop : Position} {name : Text}
    (written : IsName name) (reads : position.Reads (bracket name) stop) :
    Barren position stop := by
  obtain ⟨opened, nameStop, opening, named, closing⟩ := exists_reads_of_bracket reads
  have inside : Barren opened nameStop := by
    apply barren_of_parts named written.parts (shuns_part_of_closing closing)
    exact ⟨']', stop.after, closing.after, by decide⟩
  have first : Barren position opened := .of_character opening (by decide)
  have last : Barren nameStop stop := .of_character closing (by decide)
  exact first.trans (inside.trans last)

/-! ## Comments -/

namespace Lexeme

/-- The front of a text is cut into lexemes of its own, and none of them is a comment. -/
def Quiet (front rest : Text) : Prop :=
  ∃ lexemes, ofText (front ++ rest) = lexemes ++ ofText rest ∧ joined lexemes = front ∧
    ∀ lexeme ∈ lexemes, lexeme.isComment = false

/-- A text in which nothing is a comment. -/
def Commentless (text : Text) : Prop :=
  ∀ lexeme ∈ ofText text, lexeme.isComment = false

/-- A character that opens neither a comment nor a string nor a name in brackets. -/
def isPlain (character : Char) : Bool :=
  character != '\'' && character != '[' && character != '-' && character != '/'

theorem isPlain_of_word {character : Char} (word : isWord character = true) :
    isPlain character = true := by
  have part := part_of_word word
  simp only [isPlain, Bool.and_eq_true, bne_iff_ne]
  refine ⟨⟨⟨ne_of_class part (by decide), ne_of_class part (by decide)⟩, ?_⟩,
    ne_of_class part (by decide)⟩
  rintro rfl
  cases word

theorem isPlain_of_blank {character : Char} (blank : isBlank character = true) :
    isPlain character = true := by
  simp only [isPlain, Bool.and_eq_true, bne_iff_ne]
  exact ⟨⟨⟨ne_of_class blank (by decide), ne_of_class blank (by decide)⟩,
    ne_of_class blank (by decide)⟩, ne_of_class blank (by decide)⟩

theorem commentless_nil : Commentless [] := by
  intro lexeme member
  cases member

theorem quiet_nil (rest : Text) : Quiet [] rest :=
  ⟨[], rfl, rfl, by simp⟩

theorem Quiet.append {front back rest : Text} (first : Quiet front (back ++ rest))
    (second : Quiet back rest) : Quiet (front ++ back) rest := by
  obtain ⟨lexemes, cut, text, plain⟩ := first
  obtain ⟨others, otherCut, otherText, otherPlain⟩ := second
  refine ⟨lexemes ++ others, ?_, ?_, ?_⟩
  · rw [List.append_assoc, cut, otherCut, List.append_assoc]
  · rw [joined_append, text, otherText]
  · exact List.forall_mem_append.mpr ⟨plain, otherPlain⟩

theorem Quiet.commentless {front rest : Text} (quiet : Quiet front rest)
    (others : Commentless rest) : Commentless (front ++ rest) := by
  obtain ⟨lexemes, cut, -, plain⟩ := quiet
  intro lexeme member
  rw [cut] at member
  rcases List.mem_append.mp member with early | late
  · exact plain lexeme early
  · exact others lexeme late

theorem quiet_first {character : Char} {rest back : Text}
    (split : character :: rest = (first character rest).text ++ back)
    (plain : (first character rest).isComment = false) :
    Quiet (first character rest).text back := by
  obtain ⟨others, again, cut⟩ := exists_ofText_cons character rest
  obtain rfl : others = back := List.append_cancel_left (again.symm.trans split)
  refine ⟨[first character rest], ?_, List.flatMap_singleton .., ?_⟩
  · rw [← split, cut]
    rfl
  · exact List.forall_mem_singleton.mpr plain

theorem quiet_of_other {character : Char} {rest : Text}
    (other : first character rest = ⟨.other, [character]⟩) : Quiet [character] rest := by
  have quiet := @quiet_first character rest rest (by rw [other]; rfl) (by rw [other]; rfl)
  rwa [other] at quiet

theorem quiet_of_plain {run : Text} (plain : run.all isPlain = true) (rest : Text) :
    Quiet run rest := by
  induction run with
  | nil => exact quiet_nil rest
  | cons character run ih =>
      rw [List.all_cons, Bool.and_eq_true] at plain
      have apart := plain.1
      simp only [isPlain, Bool.and_eq_true, bne_iff_ne] at apart
      have single : first character (run ++ rest) = ⟨.other, [character]⟩ := by
        unfold first
        rw [if_neg apart.1.1.1, if_neg apart.1.1.2, if_neg (fun both => apart.1.2 both.1),
          if_neg (fun both => apart.2 both.1)]
      exact (quiet_of_other single).append (ih plain.2)

/-- Word characters and dashes are quiet as long as no two dashes meet. -/
theorem quiet_of_parts {run rest : Text}
    (parts : ∀ character ∈ run, isSegmentPart character = true)
    (undashed : ¬['-', '-'] <:+: run) (ended : rest.head? ≠ some '-') : Quiet run rest := by
  induction run with
  | nil => exact quiet_nil rest
  | cons character run ih =>
      have part := parts character List.mem_cons_self
      have noComment : (first character (run ++ rest)).isComment = false := by
        rw [Bool.eq_false_iff, ne_eq, isComment_first]
        rintro (⟨rfl, next⟩ | ⟨slash, -⟩)
        · cases run with
          | nil => exact ended next
          | cons follower run =>
              obtain rfl := Option.some.inj next
              exact undashed ⟨[], run, rfl⟩
        · exact ne_of_class part (by decide) slash
      have single := first_eq_other (ne_of_class part (by decide)) (ne_of_class part (by decide))
        noComment
      have others := ih (fun other member => parts other (List.mem_cons_of_mem character member))
        fun inside => undashed (inside.trans (List.suffix_cons character run).isInfix)
      exact (quiet_of_other single).append others

theorem commentless_of_plain {run rest : Text} (plain : run.all isPlain = true)
    (quiet : Commentless rest) : Commentless (run ++ rest) :=
  (quiet_of_plain plain rest).commentless quiet

/-- A closing bracket that is not written twice ends a name in brackets. -/
theorem untilClosed_of_name {name rest : Text} (inside : ∀ character ∈ name, character ≠ ']')
    (single : rest.head? ≠ some ']') :
    untilClosed ']' (name ++ ']' :: rest) = name ++ [']'] := by
  induction name with
  | nil =>
      cases rest with
      | nil => rfl
      | cons follower tail =>
          have other : follower ≠ ']' := fun same => single (congrArg some same)
          rw [List.nil_append, untilClosed, if_pos rfl, if_neg other]
          rfl
  | cons character name ih =>
      have later := ih fun other member => inside other (List.mem_cons_of_mem character member)
      obtain ⟨follower, tail, next⟩ : ∃ follower tail, name ++ ']' :: rest = follower :: tail :=
        List.exists_cons_of_ne_nil (by simp)
      rw [next] at later
      rw [List.cons_append, next, untilClosed, if_neg (inside character List.mem_cons_self), later]
      rfl

theorem quiet_of_bracket {name rest : Text} (written : IsName name)
    (single : rest.head? ≠ some ']') : Quiet (bracket name) rest := by
  have inside : ∀ character ∈ name, character ≠ ']' := by
    intro character member
    exact ne_of_class (written.parts character member) (by decide)
  have lexeme : first '[' (name ++ ']' :: rest) = ⟨.bracketed, bracket name⟩ := by
    unfold first
    rw [if_neg (by decide), if_pos rfl, untilClosed_of_name inside single]
    rfl
  have whole : '[' :: (name ++ ']' :: rest) = (first '[' (name ++ ']' :: rest)).text ++ rest := by
    rw [lexeme, bracket, List.cons_append, List.append_assoc]
    rfl
  have quiet := quiet_first whole (by rw [lexeme]; rfl)
  rwa [lexeme] at quiet

theorem commentless_of_bracket {name rest : Text} (written : IsName name)
    (single : rest.head? ≠ some ']') (quiet : Commentless rest) :
    Commentless (bracket name ++ rest) :=
  (quiet_of_bracket written single).commentless quiet

end Lexeme

namespace Comments

theorem not_covers_of_commentless {text : Text} (quiet : Lexeme.Commentless text)
    (offset : Nat) : (ofText text).covers offset = false := by
  rw [Bool.eq_false_iff]
  intro covered
  obtain ⟨front, lexeme, back, cut, comment, -⟩ := (covers_iff text offset).mp covered
  have plain := quiet lexeme (by rw [cut]; simp)
  rw [plain] at comment
  cases comment

/-- A quiet front has no commented byte, whatever follows it. -/
theorem not_covers_of_quiet {front rest : Text} (quiet : Lexeme.Quiet front rest) {offset : Nat}
    (inside : offset < Text.byteLength front) :
    (ofText (front ++ rest)).covers offset = false := by
  obtain ⟨lexemes, cut, text, plain⟩ := quiet
  rw [Bool.eq_false_iff]
  intro covered
  obtain ⟨before, lexeme, back, otherCut, comment, lower, -⟩ := (covers_iff _ offset).mp covered
  rw [cut] at otherCut
  rcases List.append_eq_append_iff.mp otherCut with ⟨more, rfl, -⟩ | ⟨more, rfl, behind⟩
  · -- The comment begins behind the front.
    rw [Lexeme.joined_append, text, Text.byteLength_append] at lower
    omega
  · cases more with
    | nil =>
        rw [List.append_nil] at text
        rw [text] at lower
        omega
    | cons found more =>
        obtain ⟨rfl, -⟩ := List.cons.inj behind
        rw [plain lexeme (by simp)] at comment
        cases comment

end Comments

/-! ## Scans with one match -/

theorem HeaderMatch.find?_of_start {script : Text} {found : HeaderMatch}
    (matched : at? (.start script) = some found)
    (free : (Comments.ofText script).covers found.start.offset = false) :
    find? script = some found := by
  cases script with
  | nil => cases matched
  | cons character rest =>
      rw [Position.start] at matched
      rw [find?, findFrom_cons, matched]
      simp only [free, Bool.false_eq_true, if_false]

/-- Where a call can begin in one place only, the scan finds the match there if it is a call. -/
theorem CallMatch.scan_of_alone {position : Position} {found : CallMatch}
    (matched : at? position = some found)
    (alone : ∀ other : Position, other.text = position.text → Opens other → other = position) :
    scan position.text =
      if found.isCall (Comments.ofText position.text) then [found] else [] := by
  have covers := scanFrom_covers (Comments.ofText position.text) 0 .nothing position.text
  change Covers _ (.start position.text) 0 (scan position.text) at covers
  have same : ∀ site ∈ scan position.text, site = found := by
    intro site member
    obtain ⟨siteMatched, -⟩ := covers.accepted site member
    have here := alone site.keyword (covers.text site member) (parts_of_at? siteMatched).opens
    rw [here, matched] at siteMatched
    exact (Option.some.inj siteMatched).symm
  have keyword := (parts_of_at? matched).keyword
  cases list : scan position.text with
  | nil =>
      split
      · rename_i accepted
        have either := covers.complete position found rfl (Nat.zero_le _) matched accepted
        rw [list] at either
        simp at either
      · rfl
  | cons site others =>
      rw [list, List.forall_mem_cons] at same
      obtain ⟨rfl, repeated⟩ := same
      have accepted := (covers.accepted site (by rw [list]; exact List.mem_cons_self)).2
      rw [if_pos accepted]
      cases others with
      | nil => rfl
      | cons second others =>
          -- A second site would be the same match, and so begin behind its own end.
          have apart := covers.apart
          rw [list, List.pairwise_cons] at apart
          have behind := apart.1 second List.mem_cons_self
          rw [repeated second List.mem_cons_self, keyword] at behind
          have order := (parts_of_at? matched).order
          omega

end ProcedureAtlas
