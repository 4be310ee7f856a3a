import ProcedureAtlas.Proofs.NormalForm
import ProcedureAtlas.Proofs.SmallScripts
import ProcedureAtlas.Proofs.Twins

/-!
# Letter case never matters

A text is recased when the case of some of its ASCII letters is changed. Recased sources declare and
call recased names at the same places. They make recased records, in the same positions, and every
lookup of a recased name finds the same positions: keys do not depend on case.

A walk compares the names it shows, and there case does tell names apart. It does no harm, because
an entry that a walk enters is the only one with its key. Two such entries show one name exactly
when they are one entry, so recased catalogs mirror each other position by position.
-/

namespace ProcedureAtlas

set_option autoImplicit false

open Text

/-! ## Identities -/

theorem Identifier.bracketed_small (identifier : Text) :
    bracketed (small identifier) = small (bracketed identifier) := by
  have shut : isBracketed (small identifier) = isBracketed identifier := by
    unfold isBracketed
    rw [trim_small, ← List.head?_reverse, ← List.head?_reverse, ← small_reverse, Bool.eq_iff_iff]
    simp only [Bool.and_eq_true, beq_iff_eq, Lexeme.head?_small isUnlettered_opening,
      Lexeme.head?_small isUnlettered_closing]
  unfold bracketed
  rw [shut, trim_small, bare_small]
  split
  · rfl
  · rw [small_cons, small_append, small_cons, small_nil, isUnlettered_opening.toLower_eq,
      isUnlettered_closing.toLower_eq]

namespace Identity

def small (identity : Identity) : Identity :=
  ⟨Text.small identity.schema, Text.small identity.name⟩

theorem key_small (identity : Identity) : identity.small.key = identity.key := by
  unfold key Key.ofName small
  rw [lower_small, lower_small]

theorem display_small (identity : Identity) :
    identity.small.display = Text.small identity.display := by
  unfold display Identifier.qualified small
  rw [Identifier.bracketed_small, Identifier.bracketed_small, small_append, small_cons,
    isUnlettered_dot.toLower_eq]

theorem ofWritten_small (schema name : Text) :
    ofWritten (Text.small schema) (Text.small name) = (ofWritten schema name).map small := by
  have empty (identifier : Text) :
      Identifier.isEmpty (Text.small identifier) = Identifier.isEmpty identifier := by
    unfold Identifier.isEmpty
    rw [Identifier.bare_small]
    exact List.isEmpty_map
  unfold ofWritten
  rw [empty, empty, Identifier.bare_small, Identifier.bare_small]
  split_ifs <;> rfl

theorem ofOptional_small (schema : Option Text) (name : Text) :
    ofOptional (schema.map Text.small) (Text.small name) = (ofOptional schema name).map small := by
  have usual : Text.small Identifier.defaultSchema = Identifier.defaultSchema := rfl
  unfold ofOptional
  rw [← ofWritten_small]
  cases schema with
  | none => exact congrArg (ofWritten · (Text.small name)) usual.symm
  | some written => rfl

end Identity

namespace Reference

def small (reference : Reference) : Reference :=
  ⟨reference.schema.map Text.small, Text.small reference.name⟩

theorem identity_small (reference : Reference) :
    reference.small.identity = reference.identity.map Identity.small :=
  Identity.ofOptional_small reference.schema reference.name

theorem ofScript_small (script : Text) :
    ofScript (Text.small script) = (ofScript script).map small := by
  unfold ofScript
  rw [Call.ofScript_small, List.map_map, List.map_map]
  rfl

end Reference

/-! ## Records -/

/-- Sources under one label whose texts differ in the case of ASCII letters only. -/
structure Source.Recased (first second : Source) : Prop where
  label : first.label = second.label
  text : Text.small first.text = Text.small second.text

namespace Record

structure Recased (first second : Record) : Prop where
  label : first.label = second.label
  text : Text.small first.text = Text.small second.text

variable {first second : Record}

theorem Recased.references (recased : Recased first second) :
    first.references.map Reference.small = second.references.map Reference.small := by
  rw [first.references_eq, second.references_eq, ← Reference.ofScript_small,
    ← Reference.ofScript_small, recased.text]

theorem identity_small (record : Record) :
    (Declaration.ofScript? (Text.small record.text)).map Declaration.identity =
      some (.ok record.identity.small) := by
  have declared := record.identity_eq
  rw [Declaration.ofScript?_small]
  cases found : Declaration.ofScript? record.text with
  | none =>
      rw [found] at declared
      cases declared
  | some declaration =>
      rw [found, Option.map_some, Option.some.injEq] at declared
      have lowered := Identity.ofOptional_small declaration.schema declaration.name
      change Identity.ofOptional _ _ = Except.map _ declaration.identity at lowered
      rw [declared] at lowered
      exact congrArg some lowered

theorem Recased.identity (recased : Recased first second) :
    first.identity.small = second.identity.small := by
  have declared := first.identity_small
  rw [recased.text, second.identity_small] at declared
  exact (Except.ok.inj (Option.some.inj declared)).symm

theorem Recased.key (recased : Recased first second) :
    first.identity.key = second.identity.key := by
  rw [← Identity.key_small, recased.identity, Identity.key_small]

theorem Recased.display (recased : Recased first second) :
    Text.small first.display = Text.small second.display := by
  unfold Record.display
  rw [← Identity.display_small, recased.identity, Identity.display_small]

theorem ofSource_recased {source other : Source} (recased : source.Recased other) :
    Agree Eq Recased (ofSource source) (ofSource other) := by
  have declared : (Declaration.ofScript? source.text).map Declaration.small =
      (Declaration.ofScript? other.text).map Declaration.small := by
    rw [← Declaration.ofScript?_small, ← Declaration.ofScript?_small, recased.text]
  cases found : Declaration.ofScript? source.text with
  | none =>
      rw [found, Option.map_none, eq_comm, Option.map_eq_none_iff] at declared
      rw [ofSource_of_undeclared found, ofSource_of_undeclared declared]
      exact .error rfl
  | some declaration =>
      rw [found, Option.map_some, eq_comm, Option.map_eq_some_iff] at declared
      obtain ⟨counterpart, alsoFound, -⟩ := declared
      obtain ⟨record, made, label, text, -⟩ := exists_of_declared found
      obtain ⟨twin, alsoMade, alsoLabel, alsoText, -⟩ := exists_of_declared alsoFound
      rw [made, alsoMade]
      apply Agree.ok
      constructor
      · rw [label, alsoLabel, recased.label]
      · rw [text, alsoText, recased.text]

end Record

/-! ## Catalogs -/

namespace Catalog

/-- Catalogs whose records differ, position by position, in the case of ASCII letters only. -/
structure Recased (left right : Catalog) : Prop where
  policy : left.policy = right.policy
  skipped : left.skipped = right.skipped
  records : List.Forall₂ Record.Recased left.records right.records

theorem readSources_recased (policy : Policy) {sources others : List Source}
    (recased : List.Forall₂ Source.Recased sources others) :
    Agree Eq (fun first second => List.Forall₂ Record.Recased first.1 second.1 ∧
      first.2 = second.2) (readSources policy sources) (readSources policy others) := by
  induction recased with
  | nil => exact .ok ⟨List.Forall₂.nil, rfl⟩
  | @cons source other sources others pair recased ih =>
      have records := Record.ofSource_recased pair
      unfold readSources
      generalize Record.ofSource source = made at records ⊢
      generalize Record.ofSource other = alsoMade at records ⊢
      cases records with
      | ok record =>
          apply ih.bind
          intro first second both
          exact .ok ⟨List.Forall₂.cons record both.1, both.2⟩
      | error fault =>
          cases policy with
          | strict =>
              rw [fault, pair.label]
              exact .error rfl
          | skip =>
              apply ih.bind
              intro first second both
              exact .ok ⟨both.1, congrArg₂ List.cons pair.label both.2⟩

theorem ofSources_recased (policy : Policy) {sources others : List Source}
    (recased : List.Forall₂ Source.Recased sources others) :
    Agree Eq Recased (ofSources policy sources) (ofSources policy others) := by
  unfold ofSources
  apply (readSources_recased policy recased).bind
  intro first second both
  exact .ok ⟨rfl, both.2, both.1⟩

end Catalog

def CatalogFailure.small : CatalogFailure → CatalogFailure
  | .malformedDefinition label fault => .malformedDefinition label fault
  | .malformedReference label reference fault => .malformedReference label reference.small fault
  | .ambiguousProcedure display labels => .ambiguousProcedure (Text.small display) labels

/-- Failures that differ in the case of names only. -/
def CatalogFailure.Recased (first second : CatalogFailure) : Prop :=
  first.small = second.small

namespace Catalog

variable {left right : Catalog} (recased : left.Recased right)

/-- Entries in one position, each the only one that some lookup found. -/
structure Paired (first : left.Entry) (second : right.Entry) : Prop where
  position : first.val = second.val
  alone : ∃ name schema, left.candidates name schema = [first]
  counterpart : ∃ name schema, right.candidates name schema = [second]

include recased

/-! ## Lookups -/

theorem Recased.record {first : left.Entry} {second : right.Entry}
    (position : first.val = second.val) :
    (left.record first).Recased (right.record second) := by
  have bound : first.val < right.records.length := position ▸ second.isLt
  have pair := recased.records.get first.isLt bound
  have same : (⟨first.val, bound⟩ : right.Entry) = second := Fin.ext position
  rwa [same] at pair

theorem Recased.candidates {name schema otherName otherSchema : Text}
    (names : Text.small name = Text.small otherName)
    (schemas : Text.small schema = Text.small otherSchema) :
    List.Forall₂ (fun first second => first.val = second.val)
      (left.candidates name schema) (right.candidates otherName otherSchema) := by
  have keys : Key.ofName (Identifier.bare schema) (Identifier.bare name) =
      Key.ofName (Identifier.bare otherSchema) (Identifier.bare otherName) := by
    unfold Key.ofName
    rw [← lower_small (Identifier.bare schema), ← lower_small (Identifier.bare name),
      ← Identifier.bare_small, ← Identifier.bare_small, names, schemas, Identifier.bare_small,
      Identifier.bare_small, lower_small, lower_small]
  have positions {size other : Nat} (same : size = other) :
      List.Forall₂ (fun first second => first.val = second.val)
        (List.finRange size) (List.finRange other) := by
    subst same
    exact List.forall₂_same.mpr fun entry _ => rfl
  unfold Catalog.candidates
  apply List.rel_filter
  · intro first second position
    have key := (recased.record position).key
    change Identity.isMatch _ _ _ = true ↔ Identity.isMatch _ _ _ = true
    rw [Identity.isMatch_iff_key, Identity.isMatch_iff_key, key, keys]
  · exact positions recased.records.length_eq

theorem Recased.lookup {name schema otherName otherSchema : Text}
    (names : Text.small name = Text.small otherName)
    (schemas : Text.small schema = Text.small otherSchema) :
    Agree CatalogFailure.Recased (Option.Rel Paired)
      (left.lookup name schema) (right.lookup otherName otherSchema) := by
  have found := recased.candidates names schemas
  rw [lookup_eq, lookup_eq]
  generalize list : left.candidates name schema = entries at found
  generalize counterlist : right.candidates otherName otherSchema = others at found
  cases found with
  | nil => exact .ok .none
  | @cons first second entries others position rest =>
      have record := recased.record position
      cases rest with
      | nil => exact .ok (.some ⟨position, ⟨name, schema, list⟩, ⟨_, _, counterlist⟩⟩)
      | cons nextPosition rest =>
          have labels : ∀ {entries : List left.Entry} {others : List right.Entry},
              List.Forall₂ (fun first second => first.val = second.val) entries others →
              entries.map (fun entry => (left.record entry).label) =
                others.map fun entry => (right.record entry).label := by
            intro entries others same
            rw [← List.forall₂_eq_eq_eq, List.forall₂_map_left_iff, List.forall₂_map_right_iff]
            exact same.imp fun entry other position => (recased.record position).label
          apply Agree.error
          exact congrArg₂ CatalogFailure.ambiguousProcedure record.display
            (labels (.cons position (.cons nextPosition rest)))

/-! ## Edges and walks -/

theorem Recased.edgesOf (label : Text) {first second : Record} (record : first.Recased second) :
    Agree CatalogFailure.Recased (List.Forall₂ Paired)
      (left.edgesOf label first.references) (right.edgesOf label second.references) := by
  have references := record.references
  rw [← List.forall₂_eq_eq_eq, List.forall₂_map_left_iff, List.forall₂_map_right_iff] at references
  have named : ∀ reference ∈ first.references, ∃ identity, reference.identity = .ok identity := by
    intro reference member
    exact ⟨_, Record.identity_of_reference member⟩
  apply edgesOf_agree
  apply ((List.forall₂_and_left _ _).mpr ⟨named, references⟩).imp
  rintro reference other ⟨⟨identity, made⟩, pair⟩
  have identities : reference.identity.map Identity.small =
      other.identity.map Identity.small := by
    rw [← Reference.identity_small, ← Reference.identity_small, pair]
  cases alsoMade : other.identity with
  | error fault =>
      rw [made, alsoMade] at identities
      cases identities
  | ok counterpart =>
      rw [made, alsoMade] at identities
      have lowered : identity.small = counterpart.small := Except.ok.inj identities
      exact ⟨identity, counterpart, made, rfl, recased.lookup (congrArg Identity.name lowered)
        (congrArg Identity.schema lowered)⟩

theorem Recased.mirrors : left.Mirrors right CatalogFailure.Recased Paired := by
  constructor
  · intro first second paired
    have record := recased.record paired.position
    unfold Catalog.edges
    rw [record.label]
    exact recased.edgesOf _ record
  · intro first second other another paired others
    obtain ⟨name, schema, alone⟩ := others.alone
    obtain ⟨otherName, otherSchema, counterpart⟩ := others.counterpart
    constructor
    · intro shown
      have entries : first = other := eq_of_display_eq alone shown
      have positions : second = another := by
        apply Fin.ext
        rw [← paired.position, ← others.position, entries]
      rw [positions]
    · intro shown
      have entries : second = another := eq_of_display_eq counterpart shown
      have positions : first = other := by
        apply Fin.ext
        rw [paired.position, others.position, entries]
      rw [positions]

end Catalog

/-- The case of ASCII letters changes nothing but the case of names. Recased sources declare and
call recased names at the same offsets; their catalogs are both built or refused for the same
source; and a mapping from a recased start ends in the same way, its lines standing for the same
positions at the same depths with the same marks. -/
theorem letter_case_never_matters (policy : Policy) (style : Style) (sources others : List Source)
    (schema name otherSchema otherName : Text)
    (recased : List.Forall₂ Source.Recased sources others)
    (schemas : Text.small schema = Text.small otherSchema)
    (names : Text.small name = Text.small otherName) :
    List.Forall₂ (fun source other =>
      (Declaration.ofScript? source.text).map Declaration.small =
          (Declaration.ofScript? other.text).map Declaration.small ∧
        (Call.ofScript source.text).map Call.small =
          (Call.ofScript other.text).map Call.small) sources others ∧
    Agree Eq (fun left right => left.Recased right ∧
      (left.map style schema name).lines =
        (left.mapEvents schema name).map (Event.line style) ∧
      (right.map style otherSchema otherName).lines =
        (right.mapEvents otherSchema otherName).map (Event.line style) ∧
      List.Forall₂ (fun first second => first.depth = second.depth ∧
          first.entry.val = second.entry.val ∧ first.isCycle = second.isCycle)
        (left.mapEvents schema name) (right.mapEvents otherSchema otherName) ∧
      Agree CatalogFailure.Recased Eq (left.map style schema name).outcome
        (right.map style otherSchema otherName).outcome)
      (Catalog.ofSources policy sources) (Catalog.ofSources policy others) := by
  constructor
  · apply recased.imp
    intro source other pair
    constructor
    · rw [← Declaration.ofScript?_small, ← Declaration.ofScript?_small, pair.text]
    · rw [← Call.ofScript_small, ← Call.ofScript_small, pair.text]
  · have built := Catalog.ofSources_recased policy recased
    generalize Catalog.ofSources policy sources = first at built ⊢
    generalize Catalog.ofSources policy others = second at built ⊢
    cases built with
    | error failed => exact .error failed
    | @ok left right same =>
        obtain ⟨events, outcome⟩ := same.mirrors.map (same.lookup names schemas) style
        apply Agree.ok
        refine ⟨same, left.map_lines style schema name, right.map_lines style _ _, ?_, outcome⟩
        apply events.imp
        intro event twin pair
        exact ⟨pair.depth, pair.entry.position, pair.isCycle⟩

private def capitalSources : List Source :=
  [⟨['a'], "CREATE PROC Été AS EXEC [DBO].[Σ]".toList⟩, ⟨['b'], "ALTER PROC Σ AS EXEC ÉTÉ".toList⟩]

private def mixedSources : List Source :=
  [⟨['a'], "create Proc ÉTé as exec [Dbo].[Σ]".toList⟩, ⟨['b'], "alter proc Σ as Exec ÉtÉ".toList⟩]

theorem mixed_letters_map_alike :
    ∃ left right, Catalog.ofSources .strict capitalSources = .ok left ∧
      Catalog.ofSources .strict mixedSources = .ok right ∧
      List.Forall₂ (fun first second => first.depth = second.depth ∧
          first.entry.val = second.entry.val ∧ first.isCycle = second.isCycle)
        (left.mapEvents "dbo".toList "Été".toList) (right.mapEvents "DBO".toList "ÉTé".toList) := by
  have recased : List.Forall₂ Source.Recased capitalSources mixedSources :=
    .cons ⟨rfl, by decide +kernel⟩ (.cons ⟨rfl, by decide +kernel⟩ .nil)
  have built : (Catalog.ofSources .strict capitalSources).isOk = true := by decide +kernel
  have agree := (letter_case_never_matters .strict {} capitalSources mixedSources "dbo".toList
    "Été".toList "DBO".toList "ÉTé".toList recased (by decide +kernel) (by decide +kernel)).2
  generalize Catalog.ofSources .strict capitalSources = first at built agree ⊢
  generalize Catalog.ofSources .strict mixedSources = second at agree ⊢
  cases agree with
  | error failed => cases built
  | @ok left right given => exact ⟨left, right, rfl, rfl, given.2.2.2.1⟩

end ProcedureAtlas
