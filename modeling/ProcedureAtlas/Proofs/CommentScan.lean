import ProcedureAtlas.Proofs.Lexemes

/-!
# What the scan for comments finds

The scan reads bytes and the lexemes are cut from characters. All delimiters are ASCII characters, and
no byte of any other character is below 0x80, so the scan can pass over a character as a whole: what
it does at the first byte of a character it decides by the character.

Between two lexemes the scan is back in code, at the offset where the next lexeme begins. The main
statement says that its spans are those of the comments among the lexemes.
-/

namespace ProcedureAtlas

set_option autoImplicit false

namespace Text

theorem utf8_cons (character : Char) (rest : Text) :
    utf8 (character :: rest) = String.utf8EncodeChar character ++ utf8 rest :=
  List.flatMap_cons

theorem utf8_append (left right : Text) : utf8 (left ++ right) = utf8 left ++ utf8 right :=
  List.flatMap_append

theorem utf8_isPrefix {front text : Text} (begins : front <+: text) : utf8 front <+: utf8 text := by
  obtain ⟨rest, rfl⟩ := begins
  rw [utf8_append]
  exact List.prefix_append _ _

theorem length_utf8 (text : Text) : text.utf8.length = byteLength text := by
  induction text with
  | nil => rfl
  | cons character rest ih =>
      simp [utf8_cons, byteLength_cons, String.length_utf8EncodeChar, ih]

/-- The only byte of an ASCII character. -/
def asciiByte (character : Char) : UInt8 :=
  UInt8.ofNat character.toNat

theorem utf8EncodeChar_ascii {character : Char} (ascii : character.toNat < 0x80) :
    String.utf8EncodeChar character = [asciiByte character] := by
  have small : character.val.toNat ≤ 127 := Nat.le_of_lt_succ ascii
  simp only [String.utf8EncodeChar, small, if_true]
  rfl

theorem high_of_mem_utf8EncodeChar {character : Char} (high : ¬character.toNat < 0x80) {byte : UInt8}
    (member : byte ∈ String.utf8EncodeChar character) : 0x80 ≤ byte.toNat := by
  have large : ¬character.val.toNat ≤ 127 := fun small => high (Nat.lt_succ_of_le small)
  simp only [String.utf8EncodeChar, large, if_false] at member
  split_ifs at member <;>
    simp only [List.mem_cons, List.not_mem_nil, or_false] at member <;>
    rcases member with rfl | rfl | rfl | rfl <;>
    simp <;> omega

theorem asciiByte_inj {left right : Char} (leftAscii : left.toNat < 0x80)
    (rightAscii : right.toNat < 0x80) : asciiByte left = asciiByte right ↔ left = right := by
  constructor
  · intro same
    have codes := congrArg UInt8.toNat same
    simp only [asciiByte, UInt8.toNat_ofNat'] at codes
    apply Char.toNat_inj.mp
    omega
  · exact congrArg asciiByte

theorem head?_utf8 {text : Text} {expected : Char} (ascii : expected.toNat < 0x80) :
    text.utf8.head? = some (asciiByte expected) ↔ text.head? = some expected := by
  cases text with
  | nil => simp [utf8]
  | cons character rest =>
      rw [utf8_cons]
      by_cases small : character.toNat < 0x80
      · simp [utf8EncodeChar_ascii small, asciiByte_inj small ascii]
      · have other : character ≠ expected := by
          rintro rfl
          exact small ascii
        cases encoded : String.utf8EncodeChar character with
        | nil =>
            have length := String.length_utf8EncodeChar character
            have positive := character.utf8Size_pos
            simp [encoded] at length
            omega
        | cons byte bytes =>
            have high := high_of_mem_utf8EncodeChar small (encoded ▸ List.mem_cons_self)
            have differs : byte ≠ asciiByte expected := by
              rintro rfl
              simp [asciiByte] at high
              omega
            simp [differs, other]

theorem utf8_cons_ascii {character : Char} (ascii : character.toNat < 0x80) (rest : Text) :
    utf8 (character :: rest) = asciiByte character :: rest.utf8 := by
  rw [utf8_cons, utf8EncodeChar_ascii ascii]
  rfl

theorem utf8Size_ascii {character : Char} (ascii : character.toNat < 0x80) :
    character.utf8Size = 1 := by
  rw [← String.length_utf8EncodeChar, utf8EncodeChar_ascii ascii]
  rfl

theorem byteLength_pair {left right : Char} (leftAscii : left.toNat < 0x80)
    (rightAscii : right.toNat < 0x80) (rest : Text) :
    byteLength (left :: right :: rest) = 2 + byteLength rest := by
  rw [byteLength_cons, byteLength_cons, utf8Size_ascii leftAscii, utf8Size_ascii rightAscii]
  omega

end Text

namespace Comments

open Text

attribute [local simp] scanFrom

/-- The scan stays in its mode at this byte. -/
def Mode.Keeps (byte : UInt8) (follower : Option UInt8) : Mode → Prop
  | .code => byte ≠ quoteByte ∧ byte ≠ openBracketByte ∧
      ¬(byte = dashByte ∧ follower = some dashByte) ∧
      ¬(byte = slashByte ∧ follower = some starByte)
  | .quoted close => byte ≠ close
  | .line _ => byte ≠ newlineByte
  | .block _ _ => ¬(byte = slashByte ∧ follower = some starByte) ∧
      ¬(byte = starByte ∧ follower = some slashByte)

theorem scanFrom_of_keeps {mode : Mode} {byte : UInt8} {rest : Bytes}
    (keeps : mode.Keeps byte rest.head?) (offset : Nat) :
    scanFrom mode offset (byte :: rest) = scanFrom mode (offset + 1) rest := by
  cases rest with
  | nil => cases mode <;> simp_all [Mode.Keeps]
  | cons follower tail =>
      simp only [List.head?_cons] at keeps
      cases mode with
      | code =>
          simp only [Mode.Keeps, Option.some.injEq] at keeps
          simp only [scanFrom, keeps, if_false]
      | quoted close =>
          simp only [Mode.Keeps] at keeps
          simp only [scanFrom, keeps, if_false]
      | line start =>
          simp only [Mode.Keeps] at keeps
          simp only [scanFrom, keeps, if_false]
      | block start depth =>
          simp only [Mode.Keeps, Option.some.injEq] at keeps
          simp only [scanFrom, keeps, if_false]

/-- The closing byte of a quoted run is that of an ASCII character. -/
def Mode.Plain : Mode → Prop
  | .quoted close => close.toNat < 0x80
  | _ => True

theorem Mode.keeps_of_high {mode : Mode} (plain : mode.Plain) {byte : UInt8}
    (high : 0x80 ≤ byte.toNat) (follower : Option UInt8) : mode.Keeps byte follower := by
  have differs {other : UInt8} (small : other.toNat < 0x80) : byte ≠ other := by
    rintro rfl
    omega
  cases mode with
  | code =>
      simp [Mode.Keeps, @differs quoteByte (by decide),
        @differs openBracketByte (by decide), @differs dashByte (by decide),
        @differs slashByte (by decide)]
  | quoted close => exact differs plain
  | line start => exact differs (by decide)
  | block start depth =>
      simp [Mode.Keeps, @differs slashByte (by decide),
        @differs starByte (by decide)]

/-- Bytes that belong to no ASCII character change nothing. -/
theorem scanFrom_append_high {mode : Mode} (plain : mode.Plain) {bytes : Bytes}
    (high : ∀ byte ∈ bytes, 0x80 ≤ byte.toNat) (offset : Nat) (rest : Bytes) :
    scanFrom mode offset (bytes ++ rest) = scanFrom mode (offset + bytes.length) rest := by
  induction bytes generalizing offset with
  | nil => rfl
  | cons byte bytes ih =>
      have keeps := Mode.keeps_of_high plain (high byte List.mem_cons_self) (bytes ++ rest).head?
      rw [List.cons_append, scanFrom_of_keeps keeps,
        ih fun other member => high other (List.mem_cons_of_mem byte member), List.length_cons]
      congr 1
      omega

theorem scanFrom_character {mode : Mode} (plain : mode.Plain) {character : Char} {rest : Text}
    (keeps : character.toNat < 0x80 → mode.Keeps (asciiByte character) rest.utf8.head?)
    (offset : Nat) :
    scanFrom mode offset (utf8 (character :: rest)) =
      scanFrom mode (offset + character.utf8Size) rest.utf8 := by
  rw [utf8_cons, ← String.length_utf8EncodeChar]
  by_cases ascii : character.toNat < 0x80
  · rw [utf8EncodeChar_ascii ascii]
    exact scanFrom_of_keeps (keeps ascii) offset
  · exact scanFrom_append_high plain (fun _ => high_of_mem_utf8EncodeChar ascii) offset rest.utf8

/-! ## Delimiters -/

theorem quoteByte_eq : quoteByte = asciiByte '\'' := rfl

theorem openBracketByte_eq : openBracketByte = asciiByte '[' := rfl

theorem closeBracketByte_eq : closeBracketByte = asciiByte ']' := rfl

theorem dashByte_eq : dashByte = asciiByte '-' := rfl

theorem slashByte_eq : slashByte = asciiByte '/' := rfl

theorem starByte_eq : starByte = asciiByte '*' := rfl

theorem newlineByte_eq : newlineByte = asciiByte '\n' := rfl

theorem scanFrom_code_other {character : Char} {rest : Text} (noString : character ≠ '\'')
    (noBracket : character ≠ '[') (noLine : ¬(character = '-' ∧ rest.head? = some '-'))
    (noBlock : ¬(character = '/' ∧ rest.head? = some '*')) (offset : Nat) :
    scanFrom .code offset (utf8 (character :: rest)) =
      scanFrom .code (offset + character.utf8Size) rest.utf8 := by
  refine @scanFrom_character .code trivial character rest ?_ offset
  intro ascii
  simp (disch := first | assumption | decide) only [Mode.Keeps, quoteByte_eq, openBracketByte_eq,
    dashByte_eq, slashByte_eq, starByte_eq, ne_eq, asciiByte_inj, head?_utf8]
  exact ⟨noString, noBracket, noLine, noBlock⟩

theorem scanFrom_line_other {character : Char} {rest : Text} (inside : character ≠ '\n')
    (start offset : Nat) :
    scanFrom (.line start) offset (utf8 (character :: rest)) =
      scanFrom (.line start) (offset + character.utf8Size) rest.utf8 := by
  refine @scanFrom_character (.line start) trivial character rest ?_ offset
  intro ascii
  simp (disch := first | assumption | decide) only [Mode.Keeps, newlineByte_eq, ne_eq,
    asciiByte_inj]
  exact inside

theorem scanFrom_block_other {character : Char} {rest : Text}
    (noOpening : ¬(character = '/' ∧ rest.head? = some '*'))
    (noEnd : ¬(character = '*' ∧ rest.head? = some '/')) (start depth offset : Nat) :
    scanFrom (.block start depth) offset (utf8 (character :: rest)) =
      scanFrom (.block start depth) (offset + character.utf8Size) rest.utf8 := by
  refine @scanFrom_character (.block start depth) trivial character rest ?_ offset
  intro ascii
  simp (disch := first | assumption | decide) only [Mode.Keeps, slashByte_eq, starByte_eq,
    asciiByte_inj, head?_utf8]
  exact ⟨noOpening, noEnd⟩

section Quoted

variable {close : Char} (ascii : close.toNat < 0x80) (offset : Nat)
include ascii

theorem scanFrom_quoted_other {character : Char} (inside : character ≠ close) (rest : Text) :
    scanFrom (.quoted (asciiByte close)) offset (utf8 (character :: rest)) =
      scanFrom (.quoted (asciiByte close)) (offset + character.utf8Size) rest.utf8 := by
  have plain : (Mode.quoted (asciiByte close)).Plain := by
    simp only [Mode.Plain, asciiByte, UInt8.toNat_ofNat']
    omega
  apply scanFrom_character plain
  intro small same
  exact inside ((asciiByte_inj small ascii).mp same)

theorem scanFrom_escaped (rest : Text) :
    scanFrom (.quoted (asciiByte close)) offset (utf8 (close :: close :: rest)) =
      scanFrom (.quoted (asciiByte close)) (offset + 2) rest.utf8 := by
  simp only [utf8_cons_ascii ascii, scanFrom, if_true]

theorem scanFrom_closed {rest : Text} (single : rest.head? ≠ some close) :
    scanFrom (.quoted (asciiByte close)) offset (utf8 (close :: rest)) =
      scanFrom .code (offset + 1) rest.utf8 := by
  rw [ne_eq, ← head?_utf8 ascii] at single
  rw [utf8_cons_ascii ascii]
  cases bytes : rest.utf8 with
  | nil => simp only [scanFrom, if_true]
  | cons follower tail =>
      simp only [bytes, List.head?_cons, Option.some.injEq] at single
      simp only [scanFrom, single, if_true, if_false]

end Quoted

theorem scanFrom_string (rest : Text) (offset : Nat) :
    scanFrom .code offset (utf8 ('\'' :: rest)) =
      scanFrom (.quoted (asciiByte '\'')) (offset + 1) rest.utf8 := by
  rw [utf8_cons_ascii (by decide), ← quoteByte_eq]
  cases rest.utf8 <;> simp only [scanFrom, if_true]

theorem scanFrom_bracketed (rest : Text) (offset : Nat) :
    scanFrom .code offset (utf8 ('[' :: rest)) =
      scanFrom (.quoted (asciiByte ']')) (offset + 1) rest.utf8 := by
  rw [utf8_cons_ascii (by decide), ← openBracketByte_eq, ← closeBracketByte_eq]
  cases rest.utf8 <;> simp [openBracketByte, quoteByte]

theorem scanFrom_dashes (rest : Text) (offset : Nat) :
    scanFrom .code offset (utf8 ('-' :: '-' :: rest)) =
      scanFrom (.line offset) (offset + 2) rest.utf8 := by
  rw [utf8_cons_ascii (by decide), utf8_cons_ascii (by decide), ← dashByte_eq]
  simp [dashByte, quoteByte, openBracketByte]

theorem scanFrom_block (rest : Text) (offset : Nat) :
    scanFrom .code offset (utf8 ('/' :: '*' :: rest)) =
      scanFrom (.block offset 0) (offset + 2) rest.utf8 := by
  rw [utf8_cons_ascii (by decide), utf8_cons_ascii (by decide), ← slashByte_eq, ← starByte_eq]
  simp [slashByte, starByte, dashByte, quoteByte, openBracketByte]

theorem scanFrom_opened (start depth offset : Nat) (rest : Text) :
    scanFrom (.block start depth) offset (utf8 ('/' :: '*' :: rest)) =
      scanFrom (.block start (depth + 1)) (offset + 2) rest.utf8 := by
  rw [utf8_cons_ascii (by decide), utf8_cons_ascii (by decide), ← slashByte_eq, ← starByte_eq]
  simp only [scanFrom, and_self, if_true]

/-- At the end of a block the comment ends with it, or the block around it goes on. -/
theorem scanFrom_ended (start depth offset : Nat) (rest : Text) :
    scanFrom (.block start depth) offset (utf8 ('*' :: '/' :: rest)) =
      match depth with
      | 0 => ⟨start, offset + 2⟩ :: scanFrom .code (offset + 2) rest.utf8
      | outer + 1 => scanFrom (.block start outer) (offset + 2) rest.utf8 := by
  rw [utf8_cons_ascii (by decide), utf8_cons_ascii (by decide), ← slashByte_eq, ← starByte_eq]
  cases depth <;> simp [slashByte, starByte]

/-! ## One lexeme -/

theorem scanFrom_untilClosed {close : Char} (ascii : close.toNat < 0x80) {text back : Text}
    (split : text = Lexeme.untilClosed close text ++ back) (offset : Nat) :
    scanFrom (.quoted (asciiByte close)) offset text.utf8 =
      scanFrom .code (offset + byteLength (Lexeme.untilClosed close text)) back.utf8 := by
  have size := utf8Size_ascii ascii
  fun_induction Lexeme.untilClosed close text generalizing offset with
  | case1 =>
      rw [← List.nil_append back, ← split]
      rfl
  | case2 last =>
      obtain rfl : back = [] := by simpa using split
      by_cases closed : last = close
      · rw [closed, scanFrom_closed ascii offset (by simp), byteLength_cons, size]
        rfl
      · rw [scanFrom_quoted_other ascii offset closed]
        rfl
  | case3 tail ih =>
      simp only [List.cons_append, List.cons.injEq, true_and] at split
      rw [scanFrom_escaped ascii, ih split, byteLength_pair ascii ascii, Nat.add_assoc]
  | case4 follower tail differs =>
      obtain rfl : back = follower :: tail := by simpa using split.symm
      rw [scanFrom_closed ascii offset (by simpa using differs), byteLength_cons, size]
      rfl
  | case5 character follower tail inside ih =>
      simp only [List.cons_append, List.cons.injEq, true_and] at split
      rw [scanFrom_quoted_other ascii offset inside, ih split, byteLength_cons, Nat.add_assoc]

theorem scanFrom_untilNewline (start : Nat) {text back : Text}
    (split : text = Lexeme.untilNewline text ++ back) (offset : Nat) :
    scanFrom (.line start) offset text.utf8 =
      ⟨start, offset + byteLength (Lexeme.untilNewline text)⟩ ::
        scanFrom .code (offset + byteLength (Lexeme.untilNewline text)) back.utf8 := by
  induction text generalizing offset with
  | nil =>
      obtain rfl : back = [] := by simpa [Lexeme.untilNewline] using split
      rfl
  | cons character rest ih =>
      by_cases ended : character = '\n'
      · subst ended
        have nothing : Lexeme.untilNewline ('\n' :: rest) = [] := rfl
        rw [nothing, List.nil_append] at split
        -- The newline is the first lexeme behind the comment.
        rw [nothing, ← split, scanFrom_code_other (by decide) (by decide) (by simp) (by simp),
          utf8_cons_ascii (by decide), utf8Size_ascii (by decide)]
        simp only [scanFrom, newlineByte_eq, if_true, byteLength_nil, Nat.add_zero]
      · have taken : Lexeme.untilNewline (character :: rest) =
            character :: Lexeme.untilNewline rest := by
          simp [Lexeme.untilNewline, ended]
        rw [taken, List.cons_append, List.cons.injEq] at split
        rw [scanFrom_line_other ended, ih split.2, taken, byteLength_cons, Nat.add_assoc]

theorem scanFrom_untilOuter (start depth : Nat) {text back : Text}
    (split : text = Lexeme.untilOuter (depth + 1) text ++ back) (offset : Nat) :
    scanFrom (.block start depth) offset text.utf8 =
      ⟨start, offset + byteLength (Lexeme.untilOuter (depth + 1) text)⟩ ::
        scanFrom .code (offset + byteLength (Lexeme.untilOuter (depth + 1) text)) back.utf8 := by
  generalize level : depth + 1 = blocks at split ⊢
  fun_induction Lexeme.untilOuter blocks text generalizing offset depth with
  | case1 => omega
  | case2 =>
      obtain rfl : back = [] := by simpa using split.symm
      rfl
  | case3 _ last =>
      obtain rfl : back = [] := by simpa using split
      rw [scanFrom_block_other (by simp) (by simp), byteLength_cons]
      rfl
  | case4 inner character follower tail pair ih =>
      obtain ⟨rfl, rfl⟩ := pair
      simp only [List.cons_append, List.cons.injEq, true_and] at split
      rw [scanFrom_opened, ih (depth + 1) _ (by omega) split,
        byteLength_pair (by decide) (by decide), Nat.add_assoc]
  | case5 inner character follower tail _ pair ih =>
      obtain ⟨rfl, rfl⟩ := pair
      obtain rfl : depth = inner := by omega
      simp only [List.cons_append, List.cons.injEq, true_and] at split
      rw [scanFrom_ended, byteLength_pair (by decide) (by decide), ← Nat.add_assoc]
      cases depth with
      | zero =>
          obtain rfl : tail = back := by simpa [Lexeme.untilOuter] using split
          rw [Lexeme.untilOuter]
          rfl
      | succ outer => exact ih outer _ rfl split
  | case6 inner character follower tail noOpening noEnd ih =>
      simp only [List.cons_append, List.cons.injEq, true_and] at split
      rw [scanFrom_block_other (by simpa using noOpening) (by simpa using noEnd),
        ih depth _ level split, byteLength_cons, Nat.add_assoc]

/-- In front of a lexeme the scan is in code, and behind it too. -/
theorem scanFrom_first {character : Char} {rest back : Text}
    (split : character :: rest = (Lexeme.first character rest).text ++ back) (offset : Nat) :
    scanFrom .code offset (utf8 (character :: rest)) =
      Lexeme.commentSpans offset [Lexeme.first character rest] ++
        scanFrom .code (offset + byteLength (Lexeme.first character rest).text) back.utf8 := by
  rw [Lexeme.first] at split ⊢
  split_ifs at split ⊢ with string bracketed line block
  · subst string
    simp only [List.cons_append, List.cons.injEq, true_and] at split
    rw [scanFrom_string, scanFrom_untilClosed (by decide) split, byteLength_cons,
      utf8Size_ascii (by decide), Nat.add_assoc]
    rfl
  · subst bracketed
    simp only [List.cons_append, List.cons.injEq, true_and] at split
    rw [scanFrom_bracketed, scanFrom_untilClosed (by decide) split, byteLength_cons,
      utf8Size_ascii (by decide), Nat.add_assoc]
    rfl
  · obtain ⟨rfl, dash⟩ := line
    obtain ⟨tail, rfl⟩ := List.head?_eq_some_iff.mp dash
    have taken : Lexeme.untilNewline ('-' :: tail) = '-' :: Lexeme.untilNewline tail := rfl
    simp only [taken, List.cons_append, List.cons.injEq, true_and] at split
    rw [taken, scanFrom_dashes, scanFrom_untilNewline _ split, Lexeme.commentSpans,
      byteLength_pair (by decide) (by decide), ← Nat.add_assoc]
    rfl
  · obtain ⟨rfl, star⟩ := block
    obtain ⟨tail, rfl⟩ := List.head?_eq_some_iff.mp star
    simp only [List.tail_cons, List.cons_append, List.cons.injEq, true_and] at split
    rw [List.tail_cons, scanFrom_block, scanFrom_untilOuter _ 0 split, Lexeme.commentSpans,
      byteLength_pair (by decide) (by decide), ← Nat.add_assoc]
    rfl
  · obtain rfl : back = rest := by simpa using split.symm
    rw [scanFrom_code_other string bracketed line block, byteLength_cons]
    rfl

/-! ## The whole script -/

theorem scanFrom_eq_commentSpans (text : Text) (offset : Nat) :
    scanFrom .code offset text.utf8 = Lexeme.commentSpans offset (Lexeme.ofText text) := by
  induction text using Lexeme.text_induction generalizing offset with
  | nil => rfl
  | cons character rest back split cut ih =>
      have behind :=
        Lexeme.commentSpans_append offset [Lexeme.first character rest] (Lexeme.ofText back)
      rw [Lexeme.joined, List.flatMap_singleton, List.singleton_append] at behind
      rw [scanFrom_first split, ih, cut, behind]

theorem spans_ofText (text : Text) :
    (ofText text).spans.toList = Lexeme.commentSpans 0 (Lexeme.ofText text) :=
  scanFrom_eq_commentSpans text 0

/-- When the first lexemes have been read the scan is in code, and their bytes lie behind it. -/
theorem scanFrom_behind {text : Text} {front back : List Lexeme}
    (cut : Lexeme.ofText text = front ++ back) :
    scanFrom .code 0 text.utf8 =
      Lexeme.commentSpans 0 front ++
        scanFrom .code (byteLength (Lexeme.joined front)) (utf8 (Lexeme.joined back)) := by
  rw [scanFrom_eq_commentSpans, scanFrom_eq_commentSpans, Lexeme.ofText_joined cut, cut,
    Lexeme.commentSpans_append, Nat.zero_add]

/-- The offset stands between two characters or at an end of the text. -/
def IsBoundary (text : Text) (offset : Nat) : Prop :=
  ∃ front back, text = front ++ back ∧ byteLength front = offset

theorem isBoundary_of_mem_spans {text : Text} {span : Span}
    (member : span ∈ Lexeme.commentSpans 0 (Lexeme.ofText text)) :
    IsBoundary text span.start ∧ IsBoundary text span.stop := by
  obtain ⟨front, lexeme, back, cut, -, start, stop⟩ := Lexeme.mem_commentSpans.mp member
  have whole : text = Lexeme.joined front ++ (lexeme.text ++ Lexeme.joined back) := by
    rw [← Lexeme.joined_ofText text, cut, Lexeme.joined_append]
    rfl
  rw [Nat.zero_add] at start
  constructor
  · exact ⟨_, _, whole, start.symm⟩
  · refine ⟨Lexeme.joined front ++ lexeme.text, Lexeme.joined back, ?_, ?_⟩
    · rw [whole, List.append_assoc]
    · rw [stop, start, byteLength_append]

/-- The spans of the scan are those of the comments among the lexemes. The scan goes from lexeme to
lexeme, and where it is between two of them counts the bytes that it has read. -/
theorem spans_are_comment_lexemes (text : Text) :
    Lexeme.joined (Lexeme.ofText text) = text ∧
      (ofText text).spans.toList = Lexeme.commentSpans 0 (Lexeme.ofText text) ∧
      (∀ span ∈ (ofText text).spans.toList, IsBoundary text span.start ∧ IsBoundary text span.stop ∧
        span.stop ≤ text.utf8.length) ∧
      ∀ front back, Lexeme.ofText text = front ++ back →
        scanFrom .code 0 text.utf8 = Lexeme.commentSpans 0 front ++
            scanFrom .code (byteLength (Lexeme.joined front)) (utf8 (Lexeme.joined back)) ∧
          byteLength (Lexeme.joined front) + (utf8 (Lexeme.joined back)).length =
            text.utf8.length := by
  refine ⟨Lexeme.joined_ofText text, spans_ofText text, ?_, ?_⟩
  · intro span member
    rw [spans_ofText] at member
    obtain ⟨start, stop⟩ := isBoundary_of_mem_spans member
    refine ⟨start, stop, ?_⟩
    obtain ⟨front, back, whole, length⟩ := stop
    rw [length_utf8, whole, byteLength_append]
    omega
  · intro front back cut
    refine ⟨scanFrom_behind cut, ?_⟩
    rw [length_utf8, length_utf8, ← byteLength_append, ← Lexeme.joined_append, ← cut,
      Lexeme.joined_ofText]

/-- A nested block comment behind a character of two bytes, and a line comment behind a string that
holds dashes. -/
theorem nested_block_is_one_span :
    ⟨2, 10⟩ ∈ (ofText "é/*/**/*/ '--' --ü".toList).spans.toList ∧
      IsBoundary "é/*/**/*/ '--' --ü".toList 2 ∧ IsBoundary "é/*/**/*/ '--' --ü".toList 10 ∧
      scanFrom .code 0 (utf8 "é/*/**/*/ '--' --ü".toList) =
        ⟨2, 10⟩ :: scanFrom .code 10 (utf8 " '--' --ü".toList) := by
  obtain ⟨-, -, bounds, behind⟩ := spans_are_comment_lexemes "é/*/**/*/ '--' --ü".toList
  have member : ⟨2, 10⟩ ∈ (ofText "é/*/**/*/ '--' --ü".toList).spans.toList := by decide +kernel
  obtain ⟨start, stop, -⟩ := bounds ⟨2, 10⟩ member
  have cut : Lexeme.ofText "é/*/**/*/ '--' --ü".toList =
      Lexeme.ofText "é/*/**/*/".toList ++ Lexeme.ofText " '--' --ü".toList := by decide +kernel
  have spans : Lexeme.commentSpans 0 (Lexeme.ofText "é/*/**/*/".toList) = [⟨2, 10⟩] := by
    decide +kernel
  have length : byteLength "é/*/**/*/".toList = 10 := by decide +kernel
  obtain ⟨rest, -⟩ := behind _ _ cut
  rw [Lexeme.joined_ofText, Lexeme.joined_ofText, spans, length, List.singleton_append] at rest
  exact ⟨member, start, stop, rest⟩

end Comments

end ProcedureAtlas
