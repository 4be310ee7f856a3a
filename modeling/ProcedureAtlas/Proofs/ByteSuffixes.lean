import Mathlib.Data.List.Forall2
import Mathlib.Data.List.Infix
import ProcedureAtlas.Folder.Path
import ProcedureAtlas.Proofs.CommentScan
import ProcedureAtlas.Proofs.SmallLetters

/-!
# Suffixes of bytes

Whether a name ends in a suffix is asked of the bytes of the two. A byte that begins a character can
be told from one that goes on with it, so bytes of a text that end those of another begin between
two of its characters. Making letters small changes ASCII bytes only, which are characters of their
own. The question about bytes is therefore one about characters. The main statement says that a
suffix is found exactly where the text can be split between two characters.
-/

namespace ProcedureAtlas

set_option autoImplicit false

namespace Text

theorem utf8_injective {left right : Text} (same : utf8 left = utf8 right) : left = right := by
  have bytes : left.utf8Encode = right.utf8Encode := congrArg List.toByteArray same
  have decoded := congrArg ByteArray.utf8Decode? bytes
  rw [List.utf8Decode?_utf8Encode, List.utf8Decode?_utf8Encode] at decoded
  exact congrArg Array.toList (Option.some.inj decoded)

/-! ## Where characters begin -/

theorem isFirstByte_iff {character : Char} {index : Nat} {byte : UInt8}
    (here : (String.utf8EncodeChar character)[index]? = some byte) :
    byte.IsUTF8FirstByte ↔ index = 0 := by
  obtain ⟨bound, rfl⟩ := List.getElem?_eq_some_iff.mp here
  exact UInt8.isUTF8FirstByte_getElem_utf8EncodeChar

theorem isFirstByte_of_utf8 {text : Text} {byte : UInt8} {rest : Bytes}
    (bytes : utf8 text = byte :: rest) : byte.IsUTF8FirstByte := by
  cases text with
  | nil => cases bytes
  | cons character others =>
      have positive : 0 < (String.utf8EncodeChar character).length := by
        rw [String.length_utf8EncodeChar]
        exact character.utf8Size_pos
      have first : (utf8 (character :: others))[0]? = some byte := by
        rw [bytes]
        rfl
      rw [utf8_cons, List.getElem?_append_left positive] at first
      exact (isFirstByte_iff first).mpr rfl

theorem utf8_ne_of_behind {character : Char} {front back rest : Bytes} {text : Text}
    (split : String.utf8EncodeChar character = front ++ back) (behind : front ≠ [])
    (inside : back ≠ []) : utf8 text ≠ back ++ rest := by
  cases back with
  | nil => exact absurd rfl inside
  | cons byte more =>
      intro bytes
      have here : (String.utf8EncodeChar character)[front.length]? = some byte := by
        rw [split, List.getElem?_append_right (Nat.le_refl _), Nat.sub_self]
        rfl
      have start := (isFirstByte_iff here).mp (isFirstByte_of_utf8 bytes)
      exact behind (List.eq_nil_of_length_eq_zero start)

theorem isSuffix_of_utf8 {suffix text : Text} (bytes : utf8 suffix <:+ utf8 text) :
    suffix <:+ text := by
  induction text with
  | nil =>
      have empty : utf8 suffix = utf8 [] := List.suffix_nil.mp bytes
      rw [utf8_injective empty]
  | cons character rest ih =>
      obtain ⟨front, whole⟩ := bytes
      rw [utf8_cons, List.append_eq_append_iff] at whole
      rcases whole with ⟨back, split, left⟩ | ⟨more, split, left⟩
      · -- The suffix begins with the first character, behind it, or inside it.
        by_cases behind : front = []
        · rw [behind, List.nil_append] at split
          rw [← split, ← utf8_cons] at left
          rw [utf8_injective left]
        · by_cases inside : back = []
          · rw [inside, List.nil_append] at left
            rw [utf8_injective left]
            exact List.suffix_cons character rest
          · exact absurd left (utf8_ne_of_behind split behind inside)
      · have later := ih ⟨more, left.symm⟩
        exact later.trans (List.suffix_cons character rest)

theorem utf8_isSuffix_iff {suffix text : Text} : utf8 suffix <:+ utf8 text ↔ suffix <:+ text := by
  constructor
  · exact isSuffix_of_utf8
  · rintro ⟨front, rfl⟩
    rw [utf8_append]
    exact List.suffix_append _ _

/-! ## Small letters -/

private theorem ascii_lowerByte :
    ∀ code < 0x80, lowerByte (asciiByte (Char.ofNat code)) = asciiByte (Char.ofNat code).toLower ∧
      (Char.ofNat code).toLower.toNat < 0x80 := by
  decide

theorem lowerByte_of_high {byte : UInt8} (high : 0x80 ≤ byte.toNat) : lowerByte byte = byte := by
  apply if_neg
  rintro ⟨-, bound⟩
  have low : byte.toNat ≤ 0x5A := bound
  omega

theorem map_lowerByte_utf8EncodeChar (character : Char) :
    (String.utf8EncodeChar character).map lowerByte =
      String.utf8EncodeChar character.toLower := by
  by_cases ascii : character.toNat < 0x80
  · have known := ascii_lowerByte character.toNat ascii
    rw [Char.ofNat_toNat] at known
    rw [utf8EncodeChar_ascii ascii, utf8EncodeChar_ascii known.2, List.map_singleton, known.1]
  · have same : character.toLower = character := by
      apply dif_neg
      rintro ⟨-, upper⟩
      have bound : character.toNat ≤ 'Z'.toNat := upper
      exact ascii (Nat.lt_of_le_of_lt bound (by decide))
    have kept : ∀ byte ∈ String.utf8EncodeChar character, lowerByte byte = id byte :=
      fun _ member => lowerByte_of_high (high_of_mem_utf8EncodeChar ascii member)
    rw [same, List.map_congr_left kept, List.map_id]

theorem map_lowerByte_utf8 (text : Text) : (utf8 text).map lowerByte = utf8 (small text) := by
  induction text with
  | nil => rfl
  | cons character rest ih =>
      rw [utf8_cons, List.map_append, map_lowerByte_utf8EncodeChar, ih, small_cons, utf8_cons]

/-- A text ends in a suffix up to the case of ASCII letters exactly when its small letters end in
those of the suffix. -/
theorem endsWithLetters_iff {text suffix : Text} :
    endsWithLetters text suffix = true ↔ small suffix <:+ small text := by
  rw [← utf8_isSuffix_iff, ← map_lowerByte_utf8, ← map_lowerByte_utf8, List.suffix_iff_eq_drop]
  unfold endsWithLetters
  rw [Bool.and_eq_true, decide_eq_true_eq, beq_iff_eq, List.length_map, List.length_map,
    List.map_drop, eq_comm (b := suffix.utf8.map lowerByte), and_iff_right_iff_imp]
  intro same
  have lengths := congrArg List.length same
  rw [List.length_map, List.length_drop, List.length_map] at lengths
  omega

/-! ## Splits -/

theorem forall₂_sameLetter_iff {left right : Text} :
    List.Forall₂ SameLetter left right ↔ small left = small right := by
  have lowered : (fun left right => SameLetter left right) =
      fun left right => left.toLower = right.toLower :=
    funext₂ fun _ _ => propext toLower_eq_iff_sameLetter.symm
  unfold small
  rw [← List.forall₂_eq_eq_eq, List.forall₂_map_left_iff, List.forall₂_map_right_iff, ← lowered]

/-- The part of a text that is to be compared is found in its small letters. -/
theorem isSuffix_small_iff {suffix text : Text} :
    small suffix <:+ small text ↔
      ∃ front back, text = front ++ back ∧ List.Forall₂ SameLetter back suffix := by
  constructor
  · rintro ⟨others, whole⟩
    obtain ⟨front, back, split, -, same⟩ := List.map_eq_append_iff.mp whole.symm
    exact ⟨front, back, split, forall₂_sameLetter_iff.mpr same⟩
  · rintro ⟨front, back, rfl, same⟩
    rw [small_append, forall₂_sameLetter_iff.mp same]
    exact List.suffix_append _ _

/-- Letters that differ in case have as many bytes, so the bytes behind the split are as many as
those of the suffix. -/
theorem isBoundary_of_split {text front back suffix : Text} (split : text = front ++ back)
    (same : List.Forall₂ SameLetter back suffix) :
    Comments.IsBoundary text (text.utf8.length - suffix.utf8.length) := by
  have lengths : byteLength back = byteLength suffix := by
    rw [← byteLength_small, forall₂_sameLetter_iff.mp same, byteLength_small]
  refine ⟨front, back, split, ?_⟩
  rw [length_utf8, length_utf8, split, byteLength_append, lengths, Nat.add_sub_cancel]

/-- A text ends in a suffix, as their bytes tell, exactly when it can be split between two
characters and the characters behind the split are those of the suffix up to the case of ASCII
letters. The bytes that were compared begin at such a split. -/
theorem suffix_begins_between_characters (text suffix : Text) :
    (endsWithLetters text suffix = true ↔
        ∃ front back, text = front ++ back ∧ List.Forall₂ SameLetter back suffix) ∧
      (endsWithLetters text suffix = true →
        Comments.IsBoundary text (text.utf8.length - suffix.utf8.length)) := by
  have split : endsWithLetters text suffix = true ↔
      ∃ front back, text = front ++ back ∧ List.Forall₂ SameLetter back suffix := by
    rw [endsWithLetters_iff, isSuffix_small_iff]
  refine ⟨split, ?_⟩
  intro ends
  obtain ⟨front, back, whole, same⟩ := split.mp ends
  exact isBoundary_of_split whole same

/-- The letter stands behind a character of two bytes. -/
theorem letter_behind_accent_is_suffix :
    endsWithLetters ['é', 'K'] ['k'] = true ∧ Comments.IsBoundary ['é', 'K'] 2 := by
  obtain ⟨split, boundary⟩ := suffix_begins_between_characters ['é', 'K'] ['k']
  have letter : SameLetter 'K' 'k' := Or.inr ⟨10, by decide, Or.inl ⟨by decide, by decide⟩⟩
  have ends := split.mpr ⟨['é'], ['K'], rfl, .cons letter .nil⟩
  exact ⟨ends, boundary ends⟩

end Text

end ProcedureAtlas
