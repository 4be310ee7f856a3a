import Mathlib.Data.List.TakeWhile
import ProcedureAtlas.Procedure.Record

/-!
# Names that are read from scripts

A name that was read begins with a word character and goes on with word characters and dashes. It
holds neither blanks nor brackets nor dots, so it is its own bare form, and its display can be taken
apart again. Records are made from such names alone.
-/

namespace ProcedureAtlas

set_option autoImplicit false

/-! ## Character classes -/

namespace CodeRanges

/-- No range of the one list meets a range of the other. -/
def apart (left right : CodeRanges) : Bool :=
  left.all fun range => right.all fun other => range.2 < other.1 || other.2 < range.1

theorem not_holds_of_apart {left right : CodeRanges} (disjoint : left.apart right = true)
    {character : Char} (held : left.holds character = true) : right.holds character = false := by
  obtain ⟨range, member, inside⟩ := List.any_eq_true.mp held
  have free := List.all_eq_true.mp disjoint range member
  rw [holds, List.any_eq_false]
  intro other otherMember
  have either := List.all_eq_true.mp free other otherMember
  simp only [Bool.and_eq_true, Bool.or_eq_true, decide_eq_true_eq] at inside either ⊢
  omega

end CodeRanges

/-- The blanks below 0x80 are the six controls and the space. -/
private theorem ascii_blank_not_word :
    ∀ code < 0x80, isBlank (Char.ofNat code) = true → isWord (Char.ofNat code) = false := by
  decide +kernel

theorem not_word_of_blank {character : Char} (blank : isBlank character = true) :
    isWord character = false := by
  by_cases ascii : character.toNat < 0x80
  · have known := ascii_blank_not_word character.toNat ascii
    rw [Char.ofNat_toNat] at known
    exact known blank
  · rw [isWord, if_neg ascii]
    exact CodeRanges.not_holds_of_apart (by decide +kernel) blank

/-- A class tells the characters it holds from those it does not hold. -/
theorem ne_of_class {accept : Char → Bool} {character other : Char}
    (held : accept character = true) (excluded : accept other = false) : character ≠ other := by
  rintro rfl
  rw [held] at excluded
  cases excluded

theorem not_blank_of_part {character : Char} (part : isSegmentPart character = true) :
    isBlank character = false := by
  cases blank : isBlank character with
  | false => rfl
  | true =>
      rw [isSegmentPart, not_word_of_blank blank, Bool.false_or, beq_iff_eq] at part
      exact absurd part (ne_of_class blank (by decide))

theorem part_of_word {character : Char} (word : isWord character = true) :
    isSegmentPart character = true := by
  rw [isSegmentPart, word, Bool.true_or]

private theorem ascii_lower_isWord :
    ∀ code < 0x80, (Char.ofNat code).toLower.isLower = true → isWord (Char.ofNat code) = true := by
  decide +kernel

/-- Whatever counts as a small letter of a keyword is a word character. -/
theorem isWord_of_isLetter {letter character : Char} (small : letter.isLower = true)
    (fits : isLetter letter character = true) : isWord character = true := by
  simp only [isLetter, Bool.or_eq_true, Bool.and_eq_true, beq_iff_eq] at fits
  rcases fits with (lowered | ⟨-, rfl⟩) | ⟨-, rfl⟩
  · by_cases ascii : character.toNat < 0x80
    · have known := ascii_lower_isWord character.toNat ascii
      rw [Char.ofNat_toNat, lowered] at known
      exact known small
    · -- Beyond ASCII a character is its own small letter, and no small letter of a keyword.
      have same : character.toLower = character := by
        apply dif_neg
        rintro ⟨-, upper⟩
        have bound : character.toNat ≤ 'Z'.toNat := upper
        exact ascii (Nat.lt_of_le_of_lt bound (by decide))
      rw [← lowered, same] at small
      have range : (decide (character.val ≥ 'a'.val) && decide (character.val ≤ 'z'.val)) = true :=
        small
      rw [Bool.and_eq_true, decide_eq_true_eq, decide_eq_true_eq] at range
      have bound : character.toNat ≤ 'z'.toNat := range.2
      exact absurd (Nat.lt_of_le_of_lt bound (by decide)) ascii
  · decide +kernel
  · decide +kernel

/-! ## Names -/

/-- A word character, then word characters and dashes. -/
structure IsName (name : Text) : Prop where
  first : ∃ character rest, name = character :: rest ∧ isWord character = true
  parts : ∀ character ∈ name, isSegmentPart character = true

namespace IsName

variable {name : Text}

theorem dropWhile_eq (written : IsName name) {accept : Char → Bool}
    (excluded : ∀ character, isSegmentPart character = true → accept character = false) :
    name.dropWhile accept = name := by
  obtain ⟨character, rest, rfl, word⟩ := written.first
  rw [List.dropWhile_cons_of_neg]
  rw [excluded character (part_of_word word)]
  exact Bool.false_ne_true

theorem dropEndWhile_eq (written : IsName name) {accept : Char → Bool}
    (excluded : ∀ character, isSegmentPart character = true → accept character = false) :
    Text.dropEndWhile accept name = name := by
  have kept : name.reverse.dropWhile accept = name.reverse := by
    cases reversed : name.reverse with
    | nil => rfl
    | cons last front =>
        have member : last ∈ name := by
          rw [← List.mem_reverse, reversed]
          exact List.mem_cons_self
        rw [List.dropWhile_cons_of_neg]
        rw [excluded last (written.parts last member)]
        exact Bool.false_ne_true
  rw [Text.dropEndWhile, kept, List.reverse_reverse]

theorem trim_eq (written : IsName name) : Text.trim name = name := by
  rw [Text.trim, written.dropWhile_eq fun _ => not_blank_of_part, Text.trimEnd]
  exact written.dropEndWhile_eq fun _ => not_blank_of_part

theorem bare_eq (written : IsName name) : Identifier.bare name = name := by
  have noOpening : ∀ character, isSegmentPart character = true → (character == '[') = false :=
    fun _ part => beq_false_of_ne (ne_of_class part (by decide))
  have noClosing : ∀ character, isSegmentPart character = true → (character == ']') = false :=
    fun _ part => beq_false_of_ne (ne_of_class part (by decide))
  rw [Identifier.bare, written.trim_eq, written.dropWhile_eq noOpening,
    written.dropEndWhile_eq noClosing, written.trim_eq]

theorem bracketed_eq (written : IsName name) :
    Identifier.bracketed name = '[' :: (name ++ [']']) := by
  have bare : Identifier.isBracketed name = false := by
    obtain ⟨character, rest, split, word⟩ := written.first
    rw [Identifier.isBracketed, written.trim_eq, split, List.head?_cons]
    have other : character ≠ '[' := ne_of_class (part_of_word word) (by decide)
    simp [other]
  rw [Identifier.bracketed, bare, written.trim_eq, written.bare_eq]
  rfl

end IsName

/-- A schema ends at the first closing bracket, so both parts can be read off the display. -/
theorem qualified_injective {leftSchema leftName rightSchema rightName : Text}
    (leftWritten : IsName leftSchema ∧ IsName leftName)
    (rightWritten : IsName rightSchema ∧ IsName rightName)
    (same : Identifier.qualified leftSchema leftName =
      Identifier.qualified rightSchema rightName) :
    leftSchema = rightSchema ∧ leftName = rightName := by
  have cut {schema : Text} (written : IsName schema) (rest : Text) :
      (schema ++ ']' :: rest).takeWhile (· != ']') = schema := by
    rw [List.takeWhile_append_of_pos]
    · simp
    · intro character member
      have other := ne_of_class (written.parts character member)
        (show isSegmentPart ']' = false by decide)
      simp [other]
  simp only [Identifier.qualified, leftWritten.1.bracketed_eq, leftWritten.2.bracketed_eq,
    rightWritten.1.bracketed_eq, rightWritten.2.bracketed_eq, List.cons_append, List.append_assoc,
    List.nil_append, List.cons.injEq, true_and] at same
  have schemas : leftSchema = rightSchema := by
    rw [← cut leftWritten.1, same, cut rightWritten.1]
  subst schemas
  have names := List.append_cancel_left same
  simp only [List.cons.injEq, true_and] at names
  exact ⟨rfl, List.append_cancel_right names⟩

/-! ## What is read -/

theorem Segment.read_isName {position stop : Position} {segment : Segment}
    (read : Segment.read position = some (segment, stop)) : IsName segment.name := by
  rw [Segment.read] at read
  split at read
  · cases read
  · rename_i character rest _
    split at read
    · rename_i word
      simp only [Option.some.injEq, Prod.mk.injEq] at read
      obtain ⟨rfl, -⟩ := read
      refine ⟨⟨character, _, rfl, word⟩, ?_⟩
      intro part member
      rcases List.mem_cons.mp member with rfl | later
      · exact part_of_word word
      · exact List.mem_takeWhile_imp later
    · cases read

theorem Segment.read_of_readDotted {position stop : Position} {segment : Segment}
    (read : Segment.readDotted position = some (segment, stop)) :
    ∃ dot, Segment.read position = some (segment, dot) ∧ dot.readChar '.' = some stop := by
  simp only [Segment.readDotted, Option.bind_eq_bind, Option.bind_eq_some_iff] at read
  obtain ⟨⟨first, dot⟩, segmentRead, afterDot, dotRead, same⟩ := read
  obtain ⟨rfl, rfl⟩ : first = segment ∧ afterDot = stop := by simpa using same
  exact ⟨dot, segmentRead, dotRead⟩

namespace Target

/-- Both the name of a target and its schema, if it has one, are names. -/
structure IsWritten (target : Target) : Prop where
  name : IsName target.name.name
  schema : ∀ segment, target.schema = some segment → IsName segment.name

theorem read_of_readName {position : Position} {target : Target}
    (read : readName position = some target) :
    Segment.read position = some (target.name, target.stop) ∧ target.schema = none := by
  simp only [readName, Option.bind_eq_bind, Option.bind_eq_some_iff] at read
  obtain ⟨⟨name, stop⟩, nameRead, same⟩ := read
  obtain rfl := Option.some.inj same
  exact ⟨nameRead, rfl⟩

theorem read_of_readSchemaName {position : Position} {target : Target}
    (read : readSchemaName position = some target) :
    ∃ schema afterSchema, Segment.readDotted position = some (schema, afterSchema) ∧
      Segment.read afterSchema = some (target.name, target.stop) ∧
      target.schema = some schema := by
  simp only [readSchemaName, Option.bind_eq_bind, Option.bind_eq_some_iff] at read
  obtain ⟨⟨schema, afterSchema⟩, schemaRead, ⟨name, stop⟩, nameRead, same⟩ := read
  obtain rfl := Option.some.inj same
  exact ⟨schema, afterSchema, schemaRead, nameRead, rfl⟩

theorem readName_isWritten {position : Position} {target : Target}
    (read : readName position = some target) : target.IsWritten := by
  obtain ⟨nameRead, unnamed⟩ := read_of_readName read
  refine ⟨Segment.read_isName nameRead, ?_⟩
  rw [unnamed]
  exact nofun

theorem readSchemaName_isWritten {position : Position} {target : Target}
    (read : readSchemaName position = some target) : target.IsWritten := by
  obtain ⟨schema, afterSchema, schemaRead, nameRead, named⟩ := read_of_readSchemaName read
  obtain ⟨_, segmentRead, -⟩ := Segment.read_of_readDotted schemaRead
  refine ⟨Segment.read_isName nameRead, ?_⟩
  rw [named]
  rintro _ ⟨⟩
  exact Segment.read_isName segmentRead

theorem readDeclared_isWritten {position : Position} {target : Target}
    (read : readDeclared position = some target) : target.IsWritten := by
  rw [readDeclared, Option.or_eq_some_iff] at read
  rcases read with both | ⟨-, one⟩
  · exact readSchemaName_isWritten both
  · exact readName_isWritten one

end Target

namespace HeaderMatch

theorem at?_isWritten {position : Position} {found : HeaderMatch}
    (read : at? position = some found) : found.target.IsWritten := by
  simp only [at?, Option.bind_eq_bind, Option.bind_eq_some_iff] at read
  obtain ⟨_, -, _, -, _, -, _, -, target, declared, same⟩ := read
  split at same
  · cases same
  · obtain rfl := Option.some.inj same
    exact Target.readDeclared_isWritten declared

theorem findFrom_isWritten {comments : Comments} {skip : Nat} {passed : Passed} {after : Text}
    {found : HeaderMatch} (result : findFrom comments skip passed after = some found) :
    found.target.IsWritten := by
  fun_induction findFrom comments skip passed after with
  | case1 => cases result
  | case2 _ _ _ _ ih => exact ih result
  | case3 _ _ _ _ ih => exact ih result
  | case4 _ _ _ _ _ _ ih => exact ih result
  | case5 _ _ _ first read _ =>
      obtain rfl := Option.some.inj result
      exact at?_isWritten read

end HeaderMatch

theorem Declaration.isName_of_script {script : Text} {declaration : Declaration}
    (declared : Declaration.ofScript? script = some declaration) :
    IsName declaration.name ∧ ∀ schema, declaration.schema = some schema → IsName schema := by
  obtain ⟨found, search, rfl⟩ := Option.map_eq_some_iff.mp declared
  have written := HeaderMatch.findFrom_isWritten search
  constructor
  · change IsName (Identifier.bare found.target.name.name)
    rw [written.name.bare_eq]
    exact written.name
  · intro schema given
    obtain ⟨segment, present, rfl⟩ := Option.map_eq_some_iff.mp given
    have name := written.schema segment present
    rw [name.bare_eq]
    exact name

theorem isName_defaultSchema : IsName Identifier.defaultSchema :=
  ⟨⟨'d', ['b', 'o'], rfl, by decide⟩,
    List.all_eq_true.mp (show Identifier.defaultSchema.all isSegmentPart = true by decide)⟩

theorem Record.isName_identity (record : Record) :
    IsName record.identity.schema ∧ IsName record.identity.name := by
  obtain ⟨declaration, declared, read⟩ := Option.map_eq_some_iff.mp record.identity_eq
  obtain ⟨name, schema⟩ := Declaration.isName_of_script declared
  have shown : IsName (declaration.schema.getD Identifier.defaultSchema) := by
    cases given : declaration.schema with
    | none => exact isName_defaultSchema
    | some written => exact schema written given
  rw [Declaration.identity, Identity.ofOptional, Identity.ofWritten] at read
  split at read
  · cases read
  · split at read
    · cases read
    · rw [← Except.ok.inj read]
      change IsName (Identifier.bare _) ∧ IsName (Identifier.bare _)
      rw [shown.bare_eq, name.bare_eq]
      exact ⟨shown, name⟩

theorem Record.identity_eq_of_display {left right : Record} (same : left.display = right.display) :
    left.identity = right.identity := by
  obtain ⟨schemas, names⟩ :=
    qualified_injective left.isName_identity right.isName_identity same
  cases leftIdentity : left.identity
  cases rightIdentity : right.identity
  rw [leftIdentity, rightIdentity] at schemas names
  exact congrArg₂ Identity.mk schemas names

end ProcedureAtlas
