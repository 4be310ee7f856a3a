import Mathlib.Data.List.Forall2
import ProcedureAtlas.Proofs.Lookup
import ProcedureAtlas.Proofs.SmallLetters

/-!
# Equality up to case

Two texts are compared letter by letter if both are ASCII, and by their lower-case forms otherwise.
Which route is taken depends on both texts, so it has to be shown that a text keeps its equals when
one of them is spelled in other characters. It does: on either route two texts are the same exactly
when their lower-case forms are equal, and two identities exactly when their keys are.

What that means beyond ASCII is told by two facts about the lower-case form. The Kelvin sign is the
only other character whose lower-case form is ASCII, so the spellings of an ASCII text are those in
which Kelvin signs may stand for the letter k. A capital sigma is the same as a final sigma where it
ends a word, and the same as a small sigma everywhere else.
-/

namespace ProcedureAtlas

set_option autoImplicit false

/-! ## Spellings of ASCII texts -/

def kelvinSign : Char := Char.ofNat 0x212A

/-- The characters whose lower-case form is ASCII: the ASCII characters and the Kelvin sign. -/
def LowersToAscii (character : Char) : Prop :=
  isAscii character = true ∨ character = kelvinSign

def asciiForm (character : Char) : Char :=
  if character = kelvinSign then 'k' else character.toLower

theorem caseBlind_isAscii : CaseBlind isAscii :=
  caseBlind_of_letters (by decide)

theorem asciiForm_of_isAscii {character : Char} (ascii : isAscii character = true) :
    asciiForm character = character.toLower :=
  if_neg (ne_of_class ascii (by decide))

theorem lowerCharacter_of_lowersToAscii {character : Char} (lowers : LowersToAscii character) :
    lowerCharacter character = [asciiForm character] := by
  rcases lowers with ascii | rfl
  · rw [asciiForm_of_isAscii ascii]
    exact if_pos ascii
  · decide

/-- All runs but that of the Kelvin sign lead to characters beyond ASCII. -/
private theorem lowerRuns_stay_beyond :
    (lowerRuns.all fun run =>
      (run.first == 0x212A && run.last == 0x212A) ||
        (decide (0x80 ≤ (run.first : Int) + run.shift) &&
          (decide ((run.last : Int) + run.shift < 0xD800) ||
            (decide (0xDFFF < (run.first : Int) + run.shift) &&
              decide ((run.last : Int) + run.shift < 0x110000))))) = true := by
  decide

theorem exists_beyond_ascii {character : Char} (other : ¬LowersToAscii character) :
    ∃ letter ∈ lowerCharacter character, isAscii letter = false := by
  obtain ⟨beyond, noKelvin⟩ := not_or.mp other
  unfold lowerCharacter
  rw [if_neg beyond]
  split_ifs with dotted
  · exact ⟨Char.ofNat 0x307, by simp, by decide⟩
  · split
    · rename_i run found
      have high := List.all_eq_true.mp lowerRuns_stay_beyond run (List.mem_of_find?_eq_some found)
      have covered := List.find?_some found
      simp only [CaseRun.covers, Bool.and_eq_true, Bool.or_eq_true, decide_eq_true_eq,
        beq_iff_eq] at covered high
      have notKelvin : character.toNat ≠ 0x212A := by
        intro code
        apply noKelvin
        rw [← Char.ofNat_toNat character, code]
        rfl
      have valid : (Int.toNat (character.toNat + run.shift)).isValidChar := by
        unfold Nat.isValidChar
        omega
      refine ⟨_, List.mem_singleton_self _, ?_⟩
      unfold isAscii
      rw [toNat_ofNat_of_valid valid, decide_eq_false_iff_not]
      omega
    · exact ⟨character, List.mem_singleton_self _, eq_false_of_ne_true beyond⟩

theorem lowerFrom_of_lowersToAscii (before text : Text)
    (lowers : ∀ character ∈ text, LowersToAscii character) :
    lowerFrom before text = text.map asciiForm := by
  apply lowerFrom_of_single
  intro character member
  have here := lowers character member
  refine ⟨?_, lowerCharacter_of_lowersToAscii here⟩
  rintro rfl
  rcases here with ascii | kelvin
  · exact absurd ascii (by decide)
  · exact absurd kelvin (by decide)

theorem lowersToAscii_of_lowerFrom (before text : Text)
    (ascii : ∀ letter ∈ lowerFrom before text, isAscii letter = true) :
    ∀ character ∈ text, LowersToAscii character := by
  induction text generalizing before with
  | nil =>
      intro character member
      cases member
  | cons first rest ih =>
      rw [lowerFrom] at ascii
      intro character member
      rcases List.mem_cons.mp member with rfl | later
      · by_contra other
        have form : ∃ letter ∈ (if character = capitalSigma then
            [lowerSigma before rest] else lowerCharacter character), isAscii letter = false := by
          split_ifs with sigma
          · refine ⟨_, List.mem_singleton_self _, ?_⟩
            unfold lowerSigma
            split_ifs <;> decide
          · exact exists_beyond_ascii other
        obtain ⟨letter, inside, beyond⟩ := form
        exact ne_of_class (ascii letter (List.mem_append_left _ inside)) beyond rfl
      · apply ih (first :: before) _ character later
        intro letter inside
        exact ascii letter (List.mem_append_right _ inside)

/-- The second character can stand for the first, which is ASCII, in another spelling. -/
def SpellsLetter (plain character : Char) : Prop :=
  SameLetter plain character ∨ (SameLetter plain 'k' ∧ character = kelvinSign)

theorem spellsLetter_iff {plain character : Char} (ascii : isAscii plain = true) :
    SpellsLetter plain character ↔
      LowersToAscii character ∧ asciiForm plain = asciiForm character := by
  have carried (same : SameLetter plain character) : isAscii character = true := by
    rw [← caseBlind_isAscii, ← same.toLower_eq, caseBlind_isAscii]
    exact ascii
  rw [asciiForm_of_isAscii ascii]
  constructor
  · rintro (same | ⟨letter, rfl⟩)
    · rw [asciiForm_of_isAscii (carried same)]
      exact ⟨Or.inl (carried same), same.toLower_eq⟩
    · exact ⟨Or.inr rfl, letter.toLower_eq⟩
  · rintro ⟨ascii | rfl, same⟩
    · rw [asciiForm_of_isAscii ascii] at same
      exact Or.inl (toLower_eq_iff_sameLetter.mp same)
    · exact Or.inr ⟨toLower_eq_iff_sameLetter.mp same, rfl⟩

theorem forall₂_spellsLetter_iff {plain text : Text}
    (ascii : ∀ letter ∈ plain, isAscii letter = true) :
    List.Forall₂ SpellsLetter plain text ↔
      (∀ character ∈ text, LowersToAscii character) ∧
        plain.map asciiForm = text.map asciiForm := by
  induction plain generalizing text with
  | nil => cases text <;> simp
  | cons letter plain ih =>
      cases text with
      | nil => simp
      | cons character text =>
          obtain ⟨here, behind⟩ := List.forall_mem_cons.mp ascii
          rw [List.forall₂_cons, spellsLetter_iff here, ih behind, List.forall_mem_cons,
            List.map_cons, List.map_cons, List.cons.injEq]
          tauto

theorem Text.sameUpToCase_ascii_iff {plain text : Text} (ascii : plain.all isAscii = true) :
    Text.sameUpToCase plain text = true ↔ List.Forall₂ SpellsLetter plain text := by
  have letters := List.all_eq_true.mp ascii
  have lowered : lower plain = plain.map asciiForm :=
    lowerFrom_of_lowersToAscii [] plain fun letter member => Or.inl (letters letter member)
  rw [sameUpToCase_iff, forall₂_spellsLetter_iff letters, lowered]
  constructor
  · intro same
    have lowers : ∀ character ∈ text, LowersToAscii character := by
      apply lowersToAscii_of_lowerFrom []
      intro letter member
      change letter ∈ lower text at member
      rw [← same] at member
      obtain ⟨plainLetter, inside, rfl⟩ := List.mem_map.mp member
      rw [asciiForm_of_isAscii (letters _ inside), caseBlind_isAscii]
      exact letters _ inside
    exact ⟨lowers, same.trans (lowerFrom_of_lowersToAscii [] text lowers)⟩
  · rintro ⟨lowers, same⟩
    exact same.trans (lowerFrom_of_lowersToAscii [] text lowers).symm

/-! ## Sigmas -/

theorem meetsCased_cons (character : Char) (rest : Text) :
    meetsCased (character :: rest) =
      if caseIgnorableRanges.holds character then meetsCased rest
      else casedRanges.holds character := by
  unfold meetsCased
  rw [List.dropWhile_cons]
  split_ifs <;> rfl

/-- A cased character comes first, apart from characters that are passed over. -/
def MeetsCased (text : Text) : Prop :=
  ∃ passed letter rest, text = passed ++ letter :: rest ∧
    (∀ character ∈ passed, caseIgnorableRanges.holds character = true) ∧
    caseIgnorableRanges.holds letter = false ∧ casedRanges.holds letter = true

theorem meetsCased_iff (text : Text) : meetsCased text = true ↔ MeetsCased text := by
  induction text with
  | nil =>
      refine iff_of_false Bool.false_ne_true ?_
      rintro ⟨passed, letter, rest, split, -⟩
      exact List.append_ne_nil_of_right_ne_nil _ (List.cons_ne_nil _ _) split.symm
  | cons character others ih =>
      rw [meetsCased_cons]
      split_ifs with ignorable
      · rw [ih]
        constructor
        · rintro ⟨passed, letter, rest, rfl, all, found⟩
          exact ⟨character :: passed, letter, rest, rfl,
            List.forall_mem_cons.mpr ⟨ignorable, all⟩, found⟩
        · rintro ⟨passed, letter, rest, split, all, plain, cased⟩
          cases passed with
          | nil =>
              obtain ⟨rfl, -⟩ := List.cons.inj split
              cases plain.symm.trans ignorable
          | cons first passed =>
              obtain ⟨-, split⟩ := List.cons.inj split
              exact ⟨passed, letter, rest, split, (List.forall_mem_cons.mp all).2, plain, cased⟩
      · constructor
        · intro cased
          exact ⟨[], character, others, rfl, List.forall_mem_nil _,
            eq_false_of_ne_true ignorable, cased⟩
        · rintro ⟨passed, letter, rest, split, all, -, cased⟩
          cases passed with
          | nil =>
              obtain ⟨rfl, -⟩ := List.cons.inj split
              exact cased
          | cons first passed =>
              obtain ⟨rfl, -⟩ := List.cons.inj split
              exact absurd (List.forall_mem_cons.mp all).1 ignorable

/-- A word ends between the two texts: it has a cased character before, and none behind. -/
def EndsWord (front back : Text) : Prop :=
  MeetsCased front.reverse ∧ ¬MeetsCased back

theorem lowerSigma_eq_final_iff (front back : Text) :
    lowerSigma front.reverse back = finalSigma ↔ EndsWord front back := by
  unfold lowerSigma EndsWord
  rw [← meetsCased_iff, ← meetsCased_iff]
  cases meetsCased front.reverse <;> cases meetsCased back <;> decide

theorem lowerSigma_eq_small_iff (front back : Text) :
    lowerSigma front.reverse back = smallSigma ↔ ¬EndsWord front back := by
  rw [← lowerSigma_eq_final_iff]
  unfold lowerSigma
  split_ifs <;> decide

def IsSigma (character : Char) : Prop :=
  character = capitalSigma ∨ character = smallSigma ∨ character = finalSigma

set_option maxRecDepth 4000 in
private theorem sigmas_apart : CodeRanges.apart [(0x3A3, 0x3C3)] caseIgnorableRanges = true := by
  decide

theorem IsSigma.not_ignorable {sigma : Char} (isSigma : IsSigma sigma) :
    caseIgnorableRanges.holds sigma = false := by
  apply CodeRanges.not_holds_of_apart sigmas_apart
  rcases isSigma with rfl | rfl | rfl <;> decide

theorem IsSigma.cased {sigma : Char} (isSigma : IsSigma sigma) :
    casedRanges.holds sigma = true := by
  rcases isSigma with rfl | rfl | rfl <;> decide

/-- What is met up to a sigma is decided there, whichever sigma it is and whatever is beyond. -/
theorem meetsCased_sigma {left right : Char} (leftSigma : IsSigma left) (rightSigma : IsSigma right)
    (front leftRest rightRest : Text) :
    meetsCased (front ++ left :: leftRest) = meetsCased (front ++ right :: rightRest) := by
  induction front with
  | nil =>
      rw [List.nil_append, List.nil_append, meetsCased_cons, meetsCased_cons,
        leftSigma.not_ignorable, rightSigma.not_ignorable, leftSigma.cased, rightSigma.cased]
      rfl
  | cons character front ih =>
      rw [List.cons_append, List.cons_append, meetsCased_cons, meetsCased_cons, ih]

/-- The lower-case form depends on what precedes it by the cased characters only. -/
theorem lowerFrom_congr {left right : Text}
    (alike : ∀ passed, meetsCased (passed ++ left) = meetsCased (passed ++ right)) (text : Text) :
    lowerFrom left text = lowerFrom right text := by
  induction text generalizing left right with
  | nil => rfl
  | cons character rest ih =>
      have behind : lowerFrom (character :: left) rest = lowerFrom (character :: right) rest := by
        apply ih
        intro passed
        have further := alike (passed ++ [character])
        rw [List.append_assoc, List.append_assoc] at further
        exact further
      have here : meetsCased left = meetsCased right := alike []
      unfold lowerFrom lowerSigma
      rw [behind, here]

/-- The lower-case form of a character between two texts; what precedes is given nearest first. -/
def lowerAt (before : Text) (character : Char) (after : Text) : Text :=
  if character = capitalSigma then [lowerSigma before after] else lowerCharacter character

theorem lowerFrom_cons (before : Text) (character : Char) (after : Text) :
    lowerFrom before (character :: after) =
      lowerAt before character after ++ lowerFrom (character :: before) after := rfl

/-- One sigma in the place of another changes the lower-case form at that place only. -/
theorem exists_lowerFrom_sigma (before front back : Text) :
    ∃ left right, ∀ sigma, IsSigma sigma → lowerFrom before (front ++ sigma :: back) =
      left ++ lowerAt (front.reverse ++ before) sigma back ++ right := by
  induction front generalizing before with
  | nil =>
      refine ⟨[], lowerFrom (capitalSigma :: before) back, ?_⟩
      intro sigma isSigma
      have behind : lowerFrom (sigma :: before) back = lowerFrom (capitalSigma :: before) back :=
        lowerFrom_congr (fun passed => meetsCased_sigma isSigma (Or.inl rfl) passed _ _) back
      rw [List.nil_append, lowerFrom_cons, behind]
      rfl
  | cons character front ih =>
      obtain ⟨left, right, form⟩ := ih (character :: before)
      refine ⟨lowerAt before character (front ++ capitalSigma :: back) ++ left, right, ?_⟩
      intro sigma isSigma
      have here : lowerAt before character (front ++ sigma :: back) =
          lowerAt before character (front ++ capitalSigma :: back) := by
        unfold lowerAt lowerSigma
        rw [meetsCased_sigma isSigma (Or.inl rfl) front back back]
      rw [List.cons_append, lowerFrom_cons, here, form sigma isSigma, List.reverse_cons,
        List.append_assoc front.reverse]
      simp only [List.append_assoc, List.singleton_append]

/-- A capital sigma is the same as the small one that is its lower-case form there. -/
theorem Text.sameUpToCase_sigma_iff {sigma : Char} (isSigma : IsSigma sigma)
    (form : lowerCharacter sigma = [sigma]) (small : sigma ≠ capitalSigma) (front back : Text) :
    Text.sameUpToCase (front ++ capitalSigma :: back) (front ++ sigma :: back) = true ↔
      lowerSigma front.reverse back = sigma := by
  obtain ⟨left, right, lowered⟩ := exists_lowerFrom_sigma [] front back
  have capitalForm : lowerAt (front.reverse ++ []) capitalSigma back =
      [lowerSigma front.reverse back] := by
    rw [List.append_nil]
    exact if_pos rfl
  have smallForm : lowerAt (front.reverse ++ []) sigma back = [sigma] :=
    (if_neg small).trans form
  rw [sameUpToCase_iff, lower, lower, lowered capitalSigma (Or.inl rfl), lowered sigma isSigma,
    capitalForm, smallForm, List.append_cancel_right_eq, List.append_cancel_left_eq,
    List.singleton_inj]

/-! ## Identities -/

namespace Identity

theorem same_iff_key {left right : Identity} : left.same right = true ↔ left.key = right.key :=
  isMatch_iff_key

theorem same_equivalence : Equivalence fun left right : Identity => left.same right = true where
  refl _ := same_iff_key.mpr rfl
  symm same := same_iff_key.mpr (same_iff_key.mp same).symm
  trans first second := same_iff_key.mpr ((same_iff_key.mp first).trans (same_iff_key.mp second))

/-- On both routes texts are the same exactly when their lower-case forms are equal. Sameness of
identities is therefore an equivalence, and equality of their keys. Among the spellings of an ASCII
text are those with Kelvin signs and no others beyond ASCII, and which small sigma a capital one is
the same as depends on whether it ends a word. -/
theorem same_iff_keys_equal_on_both_routes :
    (∀ left right : Text,
        Text.sameUpToCase left right = true ↔ Text.lower left = Text.lower right) ∧
      (∀ left right : Identity, left.same right = true ↔ left.key = right.key) ∧
      (Equivalence fun left right : Identity => left.same right = true) ∧
      (∀ plain text : Text, plain.all isAscii = true →
        (Text.sameUpToCase plain text = true ↔ List.Forall₂ SpellsLetter plain text)) ∧
      ∀ front back : Text,
        (Text.sameUpToCase (front ++ capitalSigma :: back) (front ++ finalSigma :: back) = true ↔
          EndsWord front back) ∧
        (Text.sameUpToCase (front ++ capitalSigma :: back) (front ++ smallSigma :: back) = true ↔
          ¬EndsWord front back) := by
  refine ⟨fun _ _ => Text.sameUpToCase_iff, fun _ _ => same_iff_key, same_equivalence,
    fun _ _ => Text.sameUpToCase_ascii_iff, ?_⟩
  intro front back
  constructor
  · rw [Text.sameUpToCase_sigma_iff (Or.inr (Or.inr rfl)) (by decide) (by decide),
      lowerSigma_eq_final_iff]
  · rw [Text.sameUpToCase_sigma_iff (Or.inr (Or.inl rfl)) (by decide) (by decide),
      lowerSigma_eq_small_iff]

/-- A name with a Kelvin sign has the key of the name with the letter, and the last of two sigmas
is a final one. -/
theorem kelvin_name_has_key_of_letter :
    (['k', 'i', 't'] : Text).all isAscii = true ∧
      Text.sameUpToCase ['k', 'i', 't'] [kelvinSign, 'i', 't'] = true ∧
      Identity.key ⟨['d', 'b', 'o'], ['k', 'i', 't']⟩ =
        Identity.key ⟨['d', 'b', 'o'], [kelvinSign, 'i', 't']⟩ ∧
      Text.sameUpToCase [smallSigma, capitalSigma] [smallSigma, finalSigma] = true := by
  obtain ⟨routes, keys, -, spellings, sigmas⟩ := same_iff_keys_equal_on_both_routes
  have ascii : (['k', 'i', 't'] : Text).all isAscii = true := by decide
  have name : Text.sameUpToCase ['k', 'i', 't'] [kelvinSign, 'i', 't'] = true :=
    (spellings _ _ ascii).mpr
      (.cons (Or.inr ⟨Or.inl rfl, rfl⟩) (.cons (Or.inl (Or.inl rfl))
        (.cons (Or.inl (Or.inl rfl)) .nil)))
  have schema : Text.sameUpToCase ['d', 'b', 'o'] ['d', 'b', 'o'] = true := (routes _ _).mpr rfl
  have same : Identity.same ⟨['d', 'b', 'o'], ['k', 'i', 't']⟩
      ⟨['d', 'b', 'o'], [kelvinSign, 'i', 't']⟩ = true :=
    Bool.and_eq_true_iff.mpr ⟨name, schema⟩
  have isSigma : IsSigma smallSigma := Or.inr (Or.inl rfl)
  have ends : EndsWord [smallSigma] [] :=
    ⟨⟨[], smallSigma, [], rfl, List.forall_mem_nil _, isSigma.not_ignorable, isSigma.cased⟩,
      (meetsCased_iff []).not.mp Bool.false_ne_true⟩
  exact ⟨ascii, name, (keys _ _).mp same, (sigmas [smallSigma] []).1.mpr ends⟩

end Identity

end ProcedureAtlas
