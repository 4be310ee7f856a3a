import Mathlib.Data.List.DropRight
import ProcedureAtlas.Proofs.DisplayCalls
import ProcedureAtlas.Proofs.SmallLetters

/-!
# Lookups by identity

An identity is asked for by its stored parts, and a lookup takes the bare form of what it is asked
for. The stored parts are bare forms already. Taking the bare form once more changes nothing unless
blanks between brackets have shielded an inner bracket, which is then kept at one end of a part.

A record never keeps a bracket, so no record's identity equals one that does. A lookup of such an
identity can still find a record, the one that has the name without the bracket. In every other case
a lookup answers by the entries whose identity equals the one asked for.
-/

namespace ProcedureAtlas

set_option autoImplicit false

/-! ## Trimmed texts -/

namespace Text

/-- No blank at either end. -/
structure IsTrimmed (text : Text) : Prop where
  first : ∀ character, text.head? = some character → isBlank character = false
  last : ∀ character, text.getLast? = some character → isBlank character = false

theorem dropWhile_eq_self {accept : Char → Bool} {text : Text}
    (refused : ∀ character, text.head? = some character → accept character = false) :
    text.dropWhile accept = text := by
  cases text with
  | nil => rfl
  | cons character rest =>
      rw [List.dropWhile_cons_of_neg]
      rw [refused character rfl]
      exact Bool.false_ne_true

theorem dropEndWhile_eq_self {accept : Char → Bool} {text : Text}
    (refused : ∀ character, text.getLast? = some character → accept character = false) :
    dropEndWhile accept text = text := by
  unfold dropEndWhile
  rw [dropWhile_eq_self, List.reverse_reverse]
  intro character last
  rw [List.head?_reverse] at last
  exact refused character last

theorem trim_eq_self {text : Text} (trimmed : IsTrimmed text) : trim text = text := by
  unfold trim trimEnd
  rw [dropWhile_eq_self trimmed.first, dropEndWhile_eq_self trimmed.last]

theorem head?_of_dropWhile {accept : Char → Bool} {text : Text} {character : Char}
    (first : (text.dropWhile accept).head? = some character) : accept character = false := by
  rw [← List.find?_not_eq_head?_dropWhile] at first
  have refused := List.find?_some first
  simpa using refused

theorem getLast?_of_dropEndWhile {accept : Char → Bool} {text : Text} {character : Char}
    (last : (dropEndWhile accept text).getLast? = some character) : accept character = false := by
  unfold dropEndWhile at last
  rw [List.getLast?_reverse] at last
  exact head?_of_dropWhile last

theorem isPrefix_dropEndWhile (accept : Char → Bool) (text : Text) :
    dropEndWhile accept text <+: text :=
  List.rdropWhile_prefix accept text

theorem isTrimmed_trim (text : Text) : IsTrimmed (trim text) := by
  constructor
  · intro character first
    -- Cutting the end leaves a front, and a front begins with the same character.
    obtain ⟨cut, whole⟩ := isPrefix_dropEndWhile isBlank (text.dropWhile isBlank)
    apply @head?_of_dropWhile isBlank text
    rw [← whole, List.head?_append]
    exact Option.or_eq_some_iff.mpr (Or.inl first)
  · intro character last
    exact getLast?_of_dropEndWhile last

theorem length_trim_le (text : Text) : (trim text).length ≤ text.length :=
  Nat.le_trans (isPrefix_dropEndWhile isBlank _).length_le (List.dropWhile_suffix isBlank).length_le

end Text

/-! ## The bare form taken twice -/

namespace Identifier

/-- An opening bracket in front or a closing one behind. -/
def KeepsBracket (identifier : Text) : Prop :=
  identifier.head? = some '[' ∨ identifier.getLast? = some ']'

theorem isTrimmed_bare (identifier : Text) : (bare identifier).IsTrimmed :=
  Text.isTrimmed_trim _

theorem bare_eq_self {identifier : Text} (trimmed : identifier.IsTrimmed)
    (clean : ¬KeepsBracket identifier) : bare identifier = identifier := by
  have noOpening : ∀ character, identifier.head? = some character → (character == '[') = false := by
    rintro character first
    apply beq_false_of_ne
    rintro rfl
    exact clean (Or.inl first)
  have noClosing : ∀ character, identifier.getLast? = some character →
      (character == ']') = false := by
    rintro character last
    apply beq_false_of_ne
    rintro rfl
    exact clean (Or.inr last)
  unfold bare
  rw [Text.trim_eq_self trimmed, Text.dropWhile_eq_self noOpening,
    Text.dropEndWhile_eq_self noClosing, Text.trim_eq_self trimmed]

/-- Each step of the bare form cuts something off or leaves the text alone, so a text that comes out
as it was has been left alone by each. -/
theorem not_keepsBracket {identifier : Text} (trimmed : identifier.IsTrimmed)
    (same : bare identifier = identifier) : ¬KeepsBracket identifier := by
  unfold bare at same
  rw [Text.trim_eq_self trimmed] at same
  have opening : identifier.dropWhile (· == '[') <:+ identifier := List.dropWhile_suffix _
  have closing := Text.isPrefix_dropEndWhile (· == ']') (identifier.dropWhile (· == '['))
  have shorter := Text.length_trim_le
    (Text.dropEndWhile (· == ']') (identifier.dropWhile (· == '[')))
  rw [same] at shorter
  have unopened : identifier.dropWhile (· == '[') = identifier :=
    opening.eq_of_length_le (Nat.le_trans shorter closing.length_le)
  rw [unopened] at closing shorter
  have unclosed : Text.dropEndWhile (· == ']') identifier = identifier :=
    closing.eq_of_length_le shorter
  rintro (first | last)
  · rw [← unopened] at first
    cases Text.head?_of_dropWhile first
  · rw [← unclosed] at last
    cases Text.getLast?_of_dropEndWhile last

/-- Taking the bare form once more changes exactly the texts that have kept a bracket. -/
theorem bare_bare_eq_iff (identifier : Text) :
    bare (bare identifier) = bare identifier ↔ ¬KeepsBracket (bare identifier) :=
  ⟨not_keepsBracket (isTrimmed_bare identifier), bare_eq_self (isTrimmed_bare identifier)⟩

end Identifier

/-! ## Brackets in lower-case forms -/

private theorem lowerRuns_land_high :
    (lowerRuns.all fun run => decide (0x5D < (run.first : Int) + run.shift)) = true := by
  decide

private theorem toNat_ofNat_eq_or (code : Nat) :
    (Char.ofNat code).toNat = code ∨ (Char.ofNat code).toNat = 0 := by
  by_cases valid : code.isValidChar
  · exact Or.inl (toNat_ofNat_of_valid valid)
  · have unknown : Char.ofNat code = '\x00' := dif_neg valid
    rw [unknown]
    exact Or.inr rfl

/-- A plain character in front of the small letters is the lower-case form of itself only. -/
theorem mem_lowerCharacter_iff {plain : Char} (unlettered : IsUnlettered plain)
    (positive : 0 < plain.toNat) (low : plain.toNat ≤ 0x5D) (character : Char) :
    plain ∈ lowerCharacter character ↔ plain = character := by
  unfold lowerCharacter
  split_ifs with ascii dotted
  · rw [List.mem_singleton, eq_comm, unlettered.toLower_eq_iff, eq_comm]
  · rw [dotted, List.mem_cons, List.mem_singleton]
    constructor
    · rintro (rfl | rfl)
      · exact absurd low (by decide)
      · exact absurd low (by decide)
    · rintro rfl
      exact absurd low (by decide)
  · have other : plain ≠ character := by
      rintro rfl
      apply ascii
      unfold isAscii
      exact decide_eq_true (by omega)
    split
    · rename_i run found
      have high := List.all_eq_true.mp lowerRuns_land_high run (List.mem_of_find?_eq_some found)
      have covered := List.find?_some found
      simp only [CaseRun.covers, Bool.and_eq_true, decide_eq_true_eq] at covered high
      rw [List.mem_singleton]
      refine iff_of_false ?_ other
      intro same
      rw [same] at low positive
      rcases toNat_ofNat_eq_or (Int.toNat (character.toNat + run.shift)) with value | value
      · omega
      · omega
    · exact List.mem_singleton

theorem Text.mem_lower_iff {plain : Char} (unlettered : IsUnlettered plain)
    (positive : 0 < plain.toNat) (low : plain.toNat ≤ 0x5D) (text : Text) :
    plain ∈ lower text ↔ plain ∈ text := by
  have every (before : Text) : plain ∈ lowerFrom before text ↔ plain ∈ text := by
    induction text generalizing before with
    | nil => exact Iff.rfl
    | cons character rest ih =>
        unfold lowerFrom
        rw [List.mem_append, ih, List.mem_cons]
        apply or_congr_left
        split_ifs with sigma
        · -- No sigma, in whichever form, stands so low.
          rw [sigma, List.mem_singleton]
          unfold lowerSigma
          constructor
          · split_ifs
            · rintro rfl
              exact absurd low (by decide)
            · rintro rfl
              exact absurd low (by decide)
          · rintro rfl
            exact absurd low (by decide)
        · exact mem_lowerCharacter_iff unlettered positive low character
  exact every []

/-- No spelling of a name in other cases keeps a bracket. -/
theorem IsName.not_keepsBracket {name spelling : Text} (written : IsName name)
    (same : Text.sameUpToCase name spelling = true) : ¬Identifier.KeepsBracket spelling := by
  rw [Text.sameUpToCase_iff] at same
  rintro (first | last)
  · have member : '[' ∈ spelling := List.mem_of_mem_head? first
    rw [← Text.mem_lower_iff isUnlettered_opening (by decide) (by decide), ← same,
      Text.mem_lower_iff isUnlettered_opening (by decide) (by decide)] at member
    cases (show isSegmentPart '[' = false by decide).symm.trans (written.parts '[' member)
  · have member : ']' ∈ spelling := List.mem_of_getLast? last
    rw [← Text.mem_lower_iff isUnlettered_closing (by decide) (by decide), ← same,
      Text.mem_lower_iff isUnlettered_closing (by decide) (by decide)] at member
    cases (show isSegmentPart ']' = false by decide).symm.trans (written.parts ']' member)

/-! ## Identities -/

namespace Identity

/-- The identity that a lookup compares with. -/
def bared (identity : Identity) : Identity :=
  ⟨Identifier.bare identity.schema, Identifier.bare identity.name⟩

/-- A bracket at an end of the schema or of the name. -/
def KeepsBracket (identity : Identity) : Prop :=
  Identifier.KeepsBracket identity.schema ∨ Identifier.KeepsBracket identity.name

/-- What an identity can be made from. -/
def IsMade (identity : Identity) : Prop :=
  (∃ schema name, ofWritten schema name = .ok identity) ∨
    ∃ schema name, ofOptional schema name = .ok identity

variable {identity : Identity}

theorem eq_bare_of_ofWritten {schema name : Text} (made : ofWritten schema name = .ok identity) :
    identity = ⟨Identifier.bare schema, Identifier.bare name⟩ := by
  unfold ofWritten at made
  split_ifs at made
  exact (Except.ok.inj made).symm

theorem IsMade.exists_bare (made : identity.IsMade) :
    ∃ schema name, identity = ⟨Identifier.bare schema, Identifier.bare name⟩ := by
  rcases made with ⟨schema, name, written⟩ | ⟨schema, name, written⟩
  · exact ⟨schema, name, eq_bare_of_ofWritten written⟩
  · exact ⟨_, name, eq_bare_of_ofWritten written⟩

theorem IsMade.bared_eq_iff (made : identity.IsMade) :
    identity.bared = identity ↔ ¬identity.KeepsBracket := by
  obtain ⟨schema, name, rfl⟩ := made.exists_bare
  unfold bared KeepsBracket
  rw [Identity.mk.injEq, Identifier.bare_bare_eq_iff, Identifier.bare_bare_eq_iff, not_or]

end Identity

theorem Record.not_keepsBracket {record : Record} {identity : Identity}
    (same : record.identity.same identity = true) : ¬identity.KeepsBracket := by
  obtain ⟨schemaWritten, nameWritten⟩ := record.isName_identity
  unfold Identity.same Identity.isMatch at same
  rw [Bool.and_eq_true] at same
  rintro (schema | name)
  · exact schemaWritten.not_keepsBracket same.2 schema
  · exact nameWritten.not_keepsBracket same.1 name

/-! ## Namesakes -/

namespace Catalog

variable {catalog : Catalog}

/-- The entries whose identity equals the given one, in their order. -/
def namesakes (catalog : Catalog) (identity : Identity) : List catalog.Entry :=
  (List.finRange catalog.records.length).filter fun entry =>
    (catalog.record entry).identity.same identity

theorem mem_namesakes {identity : Identity} {entry : catalog.Entry} :
    entry ∈ catalog.namesakes identity ↔ (catalog.record entry).identity.same identity = true := by
  unfold namesakes
  rw [List.mem_filter]
  exact and_iff_right (List.mem_finRange entry)

theorem nodup_namesakes (catalog : Catalog) (identity : Identity) :
    (catalog.namesakes identity).Nodup :=
  (List.nodup_finRange _).filter _

theorem lookupIdentity_eq (catalog : Catalog) (identity : Identity) :
    catalog.lookupIdentity identity = catalog.only (catalog.namesakes identity.bared) :=
  catalog.lookup_eq identity.name identity.schema

theorem only_eq_some_iff {entries : List catalog.Entry} {entry : catalog.Entry} :
    catalog.only entries = .ok (some entry) ↔ entries = [entry] := by
  match entries with
  | [] => simp [only]
  | [single] => simp [only]
  | first :: second :: others => simp [only]

theorem only_eq_none_iff {entries : List catalog.Entry} :
    catalog.only entries = .ok none ↔ entries = [] := by
  match entries with
  | [] => simp [only]
  | [single] => simp [only]
  | first :: second :: others => simp [only]

theorem only_eq_ambiguous_iff {entries : List catalog.Entry} :
    (∃ display labels, catalog.only entries = .error (.ambiguousProcedure display labels)) ↔
      2 ≤ entries.length := by
  match entries with
  | [] => simp [only]
  | [single] => simp [only]
  | first :: second :: others => simp [only]

def IsDoubled (catalog : Catalog) (identity : Identity) : Prop :=
  ∃ first second : catalog.Entry, first ≠ second ∧
    (catalog.record first).identity.same identity = true ∧
    (catalog.record second).identity.same identity = true

theorem isDoubled_iff {identity : Identity} :
    catalog.IsDoubled identity ↔ 2 ≤ (catalog.namesakes identity).length := by
  unfold IsDoubled
  simp only [← mem_namesakes]
  have distinct := catalog.nodup_namesakes identity
  generalize catalog.namesakes identity = entries at distinct
  match entries with
  | [] => simp
  | [entry] => simp
  | first :: second :: others =>
      refine iff_of_true ⟨first, second, ?_, by simp, by simp⟩ (by simp)
      rintro rfl
      exact (List.nodup_cons.mp distinct).1 List.mem_cons_self

/-- A lookup answers by the entries that have the identity asked for: the one of them, none, or an
ambiguity if there are several. -/
structure AnswersByEquality (catalog : Catalog) (identity : Identity) : Prop where
  found : ∀ entry, catalog.lookupIdentity identity = .ok (some entry) ↔
    ∀ other, (catalog.record other).identity.same identity = true ↔ other = entry
  missing : catalog.lookupIdentity identity = .ok none ↔
    ∀ entry, (catalog.record entry).identity.same identity = false
  ambiguous : (∃ display labels,
      catalog.lookupIdentity identity = .error (.ambiguousProcedure display labels)) ↔
    catalog.IsDoubled identity

theorem namesakes_eq_nil_iff {identity : Identity} :
    catalog.namesakes identity = [] ↔
      ∀ entry, (catalog.record entry).identity.same identity = false := by
  rw [List.eq_nil_iff_forall_not_mem]
  simp only [mem_namesakes, Bool.not_eq_true]

theorem answersByEquality_of_namesakes {identity : Identity}
    (same : catalog.namesakes identity.bared = catalog.namesakes identity) :
    catalog.AnswersByEquality identity := by
  have answer := catalog.lookupIdentity_eq identity
  rw [same] at answer
  constructor
  · intro entry
    rw [answer, only_eq_some_iff, ← List.perm_singleton,
      List.perm_ext_iff_of_nodup (catalog.nodup_namesakes identity) (List.nodup_singleton entry)]
    simp only [mem_namesakes, List.mem_singleton]
  · rw [answer, only_eq_none_iff, namesakes_eq_nil_iff]
  · rw [answer, only_eq_ambiguous_iff, isDoubled_iff]

/-- An identity that keeps a bracket has no namesake, so a lookup of it should find nothing. -/
theorem answersByEquality_iff_of_keepsBracket {identity : Identity}
    (kept : identity.KeepsBracket) :
    catalog.AnswersByEquality identity ↔
      ∀ entry, (catalog.record entry).identity.same identity.bared = false := by
  have alone : catalog.namesakes identity = [] := by
    rw [namesakes_eq_nil_iff]
    intro entry
    rw [← Bool.not_eq_true]
    intro same
    exact Record.not_keepsBracket same kept
  rw [← namesakes_eq_nil_iff]
  constructor
  · intro answers
    have missing := answers.missing.mpr (namesakes_eq_nil_iff.mp alone)
    rw [lookupIdentity_eq, only_eq_none_iff] at missing
    exact missing
  · intro absent
    exact answersByEquality_of_namesakes (absent.trans alone.symm)

/-- A lookup by identity answers by equality of identities unless a stored part has kept a bracket
and some record has the name without it. Taking the bare form of the stored parts once more changes
nothing exactly when they have kept none. -/
theorem answersByEquality_unless_bracket_kept (catalog : Catalog) (identity : Identity)
    (made : identity.IsMade) :
    (identity.bared = identity ↔ ¬identity.KeepsBracket) ∧
      (catalog.AnswersByEquality identity ↔ ¬identity.KeepsBracket ∨
        ∀ entry, (catalog.record entry).identity.same identity.bared = false) := by
  refine ⟨made.bared_eq_iff, ?_⟩
  by_cases kept : identity.KeepsBracket
  · rw [answersByEquality_iff_of_keepsBracket kept]
    exact (or_iff_right (not_not_intro kept)).symm
  · have bare := made.bared_eq_iff.mpr kept
    have same := congrArg catalog.namesakes bare
    exact iff_of_true (answersByEquality_of_namesakes same) (Or.inl kept)

private def loneSource : Source :=
  callerSource ['a'] ⟨Identifier.defaultSchema, ['x']⟩ ⟨['s'], ['y']⟩

private theorem exists_lone_entry :
    ∃ (catalog : Catalog) (entry : catalog.Entry), ofSources .strict [loneSource] = .ok catalog ∧
      (catalog.record entry).identity = ⟨Identifier.defaultSchema, ['x']⟩ ∧
      ∀ other, other = entry := by
  obtain ⟨record, made, identity, -⟩ := @exists_record_of_caller Identifier.defaultSchema ['x']
    ⟨['s'], ['y']⟩ isName_defaultSchema (.of_word (by decide)) (.of_word (by decide))
    (.of_word (by decide)) ['a']
  refine ⟨ofRecords .strict [] [record], (0 : Fin 1),
    ofSources_of_made .strict (.cons made .nil), identity, ?_⟩
  intro other
  exact Subsingleton.elim (α := Fin 1) other 0

/-- The bracket is kept, but no record has the name without it. -/
theorem shielded_bracket_finds_nothing :
    ∃ (identity : Identity) (catalog : Catalog),
      Identity.ofOptional none "[ [y] ]".toList = .ok identity ∧ identity.KeepsBracket ∧
      ofSources .strict [loneSource] = .ok catalog ∧
      identity.bared ≠ identity ∧ catalog.AnswersByEquality identity := by
  obtain ⟨catalog, entry, built, identity, alone⟩ := exists_lone_entry
  have made : Identity.ofOptional none "[ [y] ]".toList =
      .ok ⟨Identifier.defaultSchema, "[y]".toList⟩ := by rfl
  have kept : Identity.KeepsBracket ⟨Identifier.defaultSchema, "[y]".toList⟩ :=
    Or.inr (Or.inl rfl)
  obtain ⟨bared, answers⟩ :=
    answersByEquality_unless_bracket_kept catalog _ (Or.inr ⟨_, _, made⟩)
  refine ⟨_, catalog, made, kept, built, fun same => bared.mp same kept, answers.mpr (Or.inr ?_)⟩
  intro other
  rw [alone other, identity]
  decide

/-- A lookup finds a record whose identity is not the one asked for. -/
theorem shielded_bracket_finds_another :
    ∃ (identity : Identity) (catalog : Catalog) (entry : catalog.Entry),
      Identity.ofOptional none "[ [x] ]".toList = .ok identity ∧
      ofSources .strict [loneSource] = .ok catalog ∧
      catalog.lookupIdentity identity = .ok (some entry) ∧
      (∀ other, (catalog.record other).identity.same identity = false) ∧
      ¬catalog.AnswersByEquality identity := by
  obtain ⟨catalog, entry, built, identity, alone⟩ := exists_lone_entry
  have made : Identity.ofOptional none "[ [x] ]".toList =
      .ok ⟨Identifier.defaultSchema, "[x]".toList⟩ := by rfl
  have same : Identity.bared ⟨Identifier.defaultSchema, "[x]".toList⟩ =
      Identity.bared ⟨Identifier.defaultSchema, ['x']⟩ := by rfl
  have found := lookup_own fun other (_ : (catalog.record other).identity.key =
    (catalog.record entry).identity.key) => alone other
  rw [identity, lookupIdentity_eq, ← same, ← lookupIdentity_eq] at found
  have unequal : ∀ other, (catalog.record other).identity.same
      ⟨Identifier.defaultSchema, "[x]".toList⟩ = false := by
    intro other
    rw [alone other, identity]
    decide
  refine ⟨_, catalog, entry, made, built, found, unequal, ?_⟩
  intro answers
  rw [answers.missing.mpr unequal] at found
  cases found

end Catalog

end ProcedureAtlas
