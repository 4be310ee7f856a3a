import ProcedureAtlas.Proofs.Lexemes
import ProcedureAtlas.Proofs.Names

/-!
# Texts in small letters

Two texts differ in the case of ASCII letters only if they become the same when all capital letters
are made small. To show that something does not depend on the case of letters it is enough to show
that it is the same for a text and for the text in small letters.

Here this is shown for what is asked of single characters, for the lower-case form with its rule for
the final sigma, for the bare form of an identifier, and for the lexemes of a script and so for its
comments.
-/

namespace ProcedureAtlas

set_option autoImplicit false

/-! ## Characters -/

theorem toNat_ofNat_of_valid {code : Nat} (valid : code.isValidChar) :
    (Char.ofNat code).toNat = code := by
  have known : Char.ofNat code = Char.ofNatAux code valid := dif_pos valid
  rw [known]
  rfl

private theorem exists_index_of_capital {character : Char}
    (capital : 'A'.toNat ≤ character.toNat ∧ character.toNat ≤ 'Z'.toNat) :
    ∃ index < 26, character = Char.ofNat (0x41 + index) := by
  have lower : 0x41 ≤ character.toNat := capital.1
  have upper : character.toNat ≤ 0x5A := capital.2
  refine ⟨character.toNat - 0x41, by omega, ?_⟩
  rw [Nat.add_sub_cancel' lower, Char.ofNat_toNat]

private theorem toLower_capital :
    ∀ index < 26, (Char.ofNat (0x41 + index)).toLower = Char.ofNat (0x61 + index) := by
  decide

/-- The value does not tell a letter from its capital. -/
def CaseBlind {Value : Type} (value : Char → Value) : Prop :=
  ∀ character, value character.toLower = value character

/-- Whether a value is blind to case is a matter of the letters from `a` to `z`. -/
theorem caseBlind_of_letters {Value : Type} {value : Char → Value}
    (letters : ∀ index < 26,
      value (Char.ofNat (0x61 + index)) = value (Char.ofNat (0x41 + index))) :
    CaseBlind value := by
  intro character
  by_cases capital : 'A'.toNat ≤ character.toNat ∧ character.toNat ≤ 'Z'.toNat
  · obtain ⟨index, bound, rfl⟩ := exists_index_of_capital capital
    rw [toLower_capital index bound, letters index bound]
  · exact congrArg value (dif_neg capital)

theorem caseBlind_toLower : CaseBlind Char.toLower :=
  caseBlind_of_letters (by decide)

/-- One character, or the capital and the small form of one ASCII letter. -/
def SameLetter (left right : Char) : Prop :=
  left = right ∨ ∃ index < 26,
    (left = Char.ofNat (0x41 + index) ∧ right = Char.ofNat (0x61 + index)) ∨
      (left = Char.ofNat (0x61 + index) ∧ right = Char.ofNat (0x41 + index))

theorem SameLetter.toLower_eq {left right : Char} (same : SameLetter left right) :
    left.toLower = right.toLower := by
  have both (index : Nat) (bound : index < 26) :
      (Char.ofNat (0x41 + index)).toLower = (Char.ofNat (0x61 + index)).toLower := by
    rw [← caseBlind_toLower, toLower_capital index bound]
  rcases same with rfl | ⟨index, bound, ⟨rfl, rfl⟩ | ⟨rfl, rfl⟩⟩
  · rfl
  · exact both index bound
  · exact (both index bound).symm

theorem sameLetter_of_toLower {left right : Char} (same : left.toLower = right.toLower) :
    SameLetter left right := by
  have kept {character : Char}
      (small : ¬('A'.toNat ≤ character.toNat ∧ character.toNat ≤ 'Z'.toNat)) :
      character.toLower = character := dif_neg small
  have back : ∀ index < 26, (Char.ofNat (0x61 + index)).toUpper = Char.ofNat (0x41 + index) := by
    decide
  by_cases leftCapital : 'A'.toNat ≤ left.toNat ∧ left.toNat ≤ 'Z'.toNat
  · obtain ⟨index, bound, rfl⟩ := exists_index_of_capital leftCapital
    rw [toLower_capital index bound] at same
    by_cases rightCapital : 'A'.toNat ≤ right.toNat ∧ right.toNat ≤ 'Z'.toNat
    · obtain ⟨other, otherBound, rfl⟩ := exists_index_of_capital rightCapital
      rw [toLower_capital other otherBound] at same
      left
      rw [← back index bound, same, back other otherBound]
    · rw [kept rightCapital] at same
      exact Or.inr ⟨index, bound, Or.inl ⟨rfl, same.symm⟩⟩
  · rw [kept leftCapital] at same
    by_cases rightCapital : 'A'.toNat ≤ right.toNat ∧ right.toNat ≤ 'Z'.toNat
    · obtain ⟨index, bound, rfl⟩ := exists_index_of_capital rightCapital
      rw [toLower_capital index bound] at same
      exact Or.inr ⟨index, bound, Or.inr ⟨same, rfl⟩⟩
    · rw [kept rightCapital] at same
      exact Or.inl same

theorem toLower_eq_iff_sameLetter {left right : Char} :
    left.toLower = right.toLower ↔ SameLetter left right :=
  ⟨sameLetter_of_toLower, SameLetter.toLower_eq⟩

theorem caseBlind_isWord : CaseBlind isWord :=
  caseBlind_of_letters (by decide)

theorem caseBlind_isBlank : CaseBlind isBlank :=
  caseBlind_of_letters (by decide)

theorem caseBlind_utf8Size : CaseBlind Char.utf8Size :=
  caseBlind_of_letters (by decide)

/-- A character is no letter if making letters small neither changes it nor leads to it. -/
def IsUnlettered (character : Char) : Prop :=
  CaseBlind (· = character)

theorem isUnlettered_of_not_alpha {plain : Char} (other : plain.isAlpha = false) :
    IsUnlettered plain := by
  have letters : ∀ index < 26, (Char.ofNat (0x61 + index)).isAlpha = true ∧
      (Char.ofNat (0x41 + index)).isAlpha = true := by
    decide
  have apart {letter : Char} (alpha : letter.isAlpha = true) : letter ≠ plain := by
    rintro rfl
    rw [other] at alpha
    cases alpha
  apply caseBlind_of_letters
  intro index bound
  obtain ⟨small, capital⟩ := letters index bound
  exact propext (iff_of_false (apart small) (apart capital))

theorem IsUnlettered.toLower_eq_iff {plain : Char} (unlettered : IsUnlettered plain)
    (character : Char) : character.toLower = plain ↔ character = plain :=
  iff_of_eq (unlettered character)

theorem IsUnlettered.toLower_eq {plain : Char} (unlettered : IsUnlettered plain) :
    plain.toLower = plain :=
  (unlettered.toLower_eq_iff plain).mpr rfl

theorem IsUnlettered.toLower_beq {plain : Char} (unlettered : IsUnlettered plain)
    (character : Char) : (character.toLower == plain) = (character == plain) := by
  rw [Bool.eq_iff_iff, beq_iff_eq, beq_iff_eq]
  exact unlettered.toLower_eq_iff character

theorem IsUnlettered.caseBlind_beq {plain : Char} (unlettered : IsUnlettered plain) :
    CaseBlind (· == plain) :=
  unlettered.toLower_beq

theorem isUnlettered_opening : IsUnlettered '[' :=
  isUnlettered_of_not_alpha (by decide)

theorem isUnlettered_closing : IsUnlettered ']' :=
  isUnlettered_of_not_alpha (by decide)

theorem isUnlettered_quote : IsUnlettered '\'' :=
  isUnlettered_of_not_alpha (by decide)

theorem isUnlettered_slash : IsUnlettered '/' :=
  isUnlettered_of_not_alpha (by decide)

theorem isUnlettered_star : IsUnlettered '*' :=
  isUnlettered_of_not_alpha (by decide)

theorem isUnlettered_dash : IsUnlettered '-' :=
  isUnlettered_of_not_alpha (by decide)

theorem isUnlettered_dot : IsUnlettered '.' :=
  isUnlettered_of_not_alpha (by decide)

theorem caseBlind_isSegmentPart : CaseBlind isSegmentPart := by
  intro character
  unfold isSegmentPart
  rw [caseBlind_isWord, isUnlettered_dash.toLower_beq]

theorem caseBlind_isLetter (letter : Char) : CaseBlind (isLetter letter) := by
  intro character
  have kelvin : IsUnlettered (Char.ofNat 0x212A) := isUnlettered_of_not_alpha (by decide)
  have longS : IsUnlettered (Char.ofNat 0x17F) := isUnlettered_of_not_alpha (by decide)
  unfold isLetter
  rw [caseBlind_toLower, kelvin.toLower_beq, longS.toLower_beq]

/-! ## Texts -/

namespace Text

/-- The text with its capital ASCII letters made small. -/
def small (text : Text) : Text :=
  text.map Char.toLower

theorem small_nil : small [] = [] := rfl

theorem small_cons (character : Char) (rest : Text) :
    small (character :: rest) = character.toLower :: small rest := rfl

theorem small_append (front back : Text) : small (front ++ back) = small front ++ small back :=
  List.map_append

theorem small_reverse (text : Text) : small text.reverse = (small text).reverse :=
  List.map_reverse

theorem length_small (text : Text) : (small text).length = text.length :=
  List.length_map Char.toLower

theorem byteLength_small (text : Text) : byteLength (small text) = byteLength text := by
  induction text with
  | nil => rfl
  | cons character rest ih =>
      rw [small_cons, byteLength_cons, byteLength_cons, caseBlind_utf8Size, ih]

theorem takeWhile_small {accept : Char → Bool} (blind : CaseBlind accept) (text : Text) :
    (small text).takeWhile accept = small (text.takeWhile accept) := by
  have same : accept ∘ Char.toLower = accept := funext blind
  unfold small
  rw [List.takeWhile_map, same]

theorem dropWhile_small {accept : Char → Bool} (blind : CaseBlind accept) (text : Text) :
    (small text).dropWhile accept = small (text.dropWhile accept) := by
  have same : accept ∘ Char.toLower = accept := funext blind
  unfold small
  rw [List.dropWhile_map, same]

theorem dropEndWhile_small {accept : Char → Bool} (blind : CaseBlind accept) (text : Text) :
    dropEndWhile accept (small text) = small (dropEndWhile accept text) := by
  unfold dropEndWhile
  rw [← small_reverse, dropWhile_small blind, small_reverse]

theorem trim_small (text : Text) : trim (small text) = small (trim text) := by
  unfold trim trimEnd
  rw [dropWhile_small caseBlind_isBlank, dropEndWhile_small caseBlind_isBlank]

theorem sameLetters_small (text other : Text) :
    sameLetters (small text) other = sameLetters text other := by
  have twice : (small text).map Char.toLower = text.map Char.toLower := by
    unfold small
    rw [List.map_map]
    exact List.map_congr_left fun character _ => caseBlind_toLower character
  unfold sameLetters
  rw [twice]

end Text

open Text

theorem Identifier.bare_small (identifier : Text) :
    bare (small identifier) = small (bare identifier) := by
  unfold bare
  rw [trim_small, dropWhile_small isUnlettered_opening.caseBlind_beq,
    dropEndWhile_small isUnlettered_closing.caseBlind_beq, trim_small]

/-! ## The lower-case form -/

theorem caseBlind_lowerCharacter : CaseBlind lowerCharacter :=
  caseBlind_of_letters (by decide)

/-- Of a list of ranges, only those that begin among the ASCII characters matter. -/
theorem caseBlind_holds {ranges low : CodeRanges}
    (cut : ranges.filter (fun range => range.1 < 0x80) = low)
    (letters : ∀ index < 26,
      low.holds (Char.ofNat (0x61 + index)) = low.holds (Char.ofNat (0x41 + index))) :
    CaseBlind ranges.holds := by
  have lowOnly {character : Char} (bound : character.toNat < 0x80) :
      ranges.holds character = low.holds character := by
    rw [← cut]
    unfold CodeRanges.holds
    rw [List.any_filter]
    congr 1
    funext range
    by_cases begins : range.1 < 0x80
    · rw [decide_eq_true begins, Bool.true_and]
    · have beyond : ¬range.1 ≤ character.toNat := by omega
      rw [decide_eq_false begins, decide_eq_false beyond]
      rfl
  have inside : ∀ index < 26, (Char.ofNat (0x61 + index)).toNat < 0x80 ∧
      (Char.ofNat (0x41 + index)).toNat < 0x80 := by
    decide
  apply caseBlind_of_letters
  intro index bound
  obtain ⟨small, capital⟩ := inside index bound
  rw [lowOnly small, lowOnly capital, letters index bound]

theorem meetsCased_small (text : Text) : meetsCased (small text) = meetsCased text := by
  have ignorable : CaseBlind caseIgnorableRanges.holds := by
    apply @caseBlind_holds _ [(0x27, 0x27), (0x2E, 0x2E), (0x3A, 0x3A), (0x5E, 0x5E), (0x60, 0x60)]
    · decide +kernel
    · decide
  have cased : CaseBlind casedRanges.holds := by
    apply @caseBlind_holds _ [(0x41, 0x5A), (0x61, 0x7A)]
    · decide +kernel
    · decide
  unfold meetsCased
  rw [dropWhile_small ignorable]
  cases text.dropWhile caseIgnorableRanges.holds with
  | nil => rfl
  | cons character rest => exact cased character

theorem lowerFrom_small (before text : Text) :
    lowerFrom (small before) (small text) = lowerFrom before text := by
  have sigma : IsUnlettered capitalSigma := isUnlettered_of_not_alpha (by decide)
  induction text generalizing before with
  | nil => rfl
  | cons character rest ih =>
      have behind := ih (character :: before)
      rw [small_cons] at behind ⊢
      unfold lowerFrom lowerSigma
      rw [behind, meetsCased_small, meetsCased_small, caseBlind_lowerCharacter]
      simp only [sigma.toLower_eq_iff]

theorem Text.lower_small (text : Text) : lower (small text) = lower text :=
  lowerFrom_small [] text

/-! ## Lexemes -/

namespace Lexeme

def small (lexeme : Lexeme) : Lexeme :=
  ⟨lexeme.kind, Text.small lexeme.text⟩

theorem untilClosed_small {close : Char} (unlettered : IsUnlettered close) (text : Text) :
    untilClosed close (Text.small text) = Text.small (untilClosed close text) := by
  fun_induction untilClosed close text with
  | case1 => rfl
  | case2 last => rfl
  | case3 tail ih =>
      simp only [small_cons, unlettered.toLower_eq, untilClosed, if_true, ih]
  | case4 follower tail differs =>
      simp only [small_cons, unlettered.toLower_eq, untilClosed, if_true,
        unlettered.toLower_eq_iff, differs, if_false, small_nil]
  | case5 character follower tail inside ih =>
      rw [small_cons] at ih
      simp only [small_cons, untilClosed, unlettered.toLower_eq_iff, inside, if_false, ih]

theorem untilOuter_small (depth : Nat) (text : Text) :
    untilOuter depth (Text.small text) = Text.small (untilOuter depth text) := by
  fun_induction untilOuter depth text with
  | case1 => simp only [untilOuter, small_nil]
  | case2 => rfl
  | case3 depth last => rfl
  | case4 depth character follower tail pair ih =>
      simp only [small_cons, untilOuter, isUnlettered_slash.toLower_eq_iff,
        isUnlettered_star.toLower_eq_iff]
      rw [if_pos pair, ih]
  | case5 depth character follower tail noOpening pair ih =>
      simp only [small_cons, untilOuter, isUnlettered_slash.toLower_eq_iff,
        isUnlettered_star.toLower_eq_iff]
      rw [if_neg noOpening, if_pos pair, ih]
  | case6 depth character follower tail noOpening noEnd ih =>
      rw [small_cons] at ih
      simp only [small_cons, untilOuter, isUnlettered_slash.toLower_eq_iff,
        isUnlettered_star.toLower_eq_iff]
      rw [if_neg noOpening, if_neg noEnd, ih]

theorem untilNewline_small (text : Text) :
    untilNewline (Text.small text) = Text.small (untilNewline text) := by
  have newline : IsUnlettered '\n' := isUnlettered_of_not_alpha (by decide)
  apply takeWhile_small
  intro character
  exact congrArg not (newline.toLower_beq character)

theorem head?_small {plain : Char} (unlettered : IsUnlettered plain) (text : Text) :
    (Text.small text).head? = some plain ↔ text.head? = some plain := by
  cases text with
  | nil => exact Iff.rfl
  | cons character rest =>
      rw [small_cons, List.head?_cons, List.head?_cons, Option.some.injEq, Option.some.injEq]
      exact unlettered.toLower_eq_iff character

theorem first_small (character : Char) (rest : Text) :
    first character.toLower (Text.small rest) = (first character rest).small := by
  have tail : (Text.small rest).tail = Text.small rest.tail := List.map_tail.symm
  unfold first
  simp only [isUnlettered_quote.toLower_eq_iff, isUnlettered_opening.toLower_eq_iff,
    isUnlettered_dash.toLower_eq_iff, isUnlettered_slash.toLower_eq_iff,
    head?_small isUnlettered_dash, head?_small isUnlettered_star,
    untilClosed_small isUnlettered_quote, untilClosed_small isUnlettered_closing,
    untilNewline_small, untilOuter_small, tail]
  split_ifs <;> simp only [small, small_cons, small_nil, isUnlettered_star.toLower_eq]

theorem cutFrom_small (skip : Nat) (text : Text) :
    cutFrom skip (Text.small text) = (cutFrom skip text).map small := by
  induction text generalizing skip with
  | nil => rfl
  | cons character rest ih =>
      cases skip with
      | succ skip => exact ih skip
      | zero =>
          have length : (first character rest).small.text.length =
              (first character rest).text.length := length_small _
          rw [small_cons, cutFrom, cutFrom, first_small, length, ih]
          rfl

theorem commentSpans_small (offset : Nat) (lexemes : List Lexeme) :
    commentSpans offset (lexemes.map small) = commentSpans offset lexemes := by
  induction lexemes generalizing offset with
  | nil => rfl
  | cons lexeme lexemes ih =>
      have length : lexeme.small.text.byteLength = lexeme.text.byteLength := byteLength_small _
      have comment : lexeme.small.isComment = lexeme.isComment := rfl
      simp only [List.map_cons, commentSpans, length, comment, ih]

end Lexeme

end ProcedureAtlas
