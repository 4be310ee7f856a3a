import ProcedureAtlas.Proofs.NormalForm
import ProcedureAtlas.Proofs.Twins

/-!
# One record in two catalogs

Two catalogs can hold a record in different places and next to different other records. All that a
walk asks of a catalog is a lookup for each reference of each entry it comes to, and a lookup is a
search through the records. Where these searches agree, two walks run in step through entries that
hold the same records, so they print the same lines. Searches for other names do not matter.
-/

namespace ProcedureAtlas

set_option autoImplicit false

namespace Catalog

variable {left right : Catalog} {failures : CatalogFailure → CatalogFailure → Prop}
  {twin : left.Entry → right.Entry → Prop}

/-- Entries that hold one record, wherever they stand. -/
def SameRecord (first : left.Entry) (second : right.Entry) : Prop :=
  left.record first = right.record second

theorem SameRecord.display {first : left.Entry} {second : right.Entry}
    (same : SameRecord first second) : left.display first = right.display second :=
  congrArg Record.display same

/-! ## Lookups and edges -/

theorem sameRecord_of_map (first : Option left.Entry) (second : Option right.Entry)
    (same : first.map left.record = second.map right.record) :
    Option.Rel SameRecord first second := by
  cases first with
  | none =>
      cases second with
      | none => exact .none
      | some other => cases same
  | some entry =>
      cases second with
      | none => cases same
      | some other => exact .some (Option.some.inj same)

theorem lookup_agree {name schema : Text}
    (searches : Agree failures Eq (Record.search left.records name schema)
      (Record.search right.records name schema)) :
    Agree failures (Option.Rel SameRecord) (left.lookup name schema)
      (right.lookup name schema) := by
  rw [← lookup_eq_search, ← lookup_eq_search] at searches
  exact searches.of_map sameRecord_of_map

/-- The search that a lookup of a reference comes down to. -/
def searchFor (records : List Record) (reference : Reference) :
    Except CatalogFailure (Option Record) :=
  Record.search records reference.name (reference.schema.getD Identifier.defaultSchema)

theorem edgesOf_record_agree (record : Record)
    (lookups : ∀ reference ∈ record.references, Agree failures (Option.Rel twin)
      (left.lookup reference.name (reference.schema.getD Identifier.defaultSchema))
      (right.lookup reference.name (reference.schema.getD Identifier.defaultSchema))) :
    Agree failures (List.Forall₂ twin) (left.edgesOf record.label record.references)
      (right.edgesOf record.label record.references) := by
  apply edgesOf_agree
  apply List.forall₂_same.mpr
  intro reference member
  have made := Record.identity_of_reference member
  exact ⟨_, _, made, made, lookups reference member⟩

/-! ## Walks and mappings -/

/-- Walks run in step through the same records as long as the searches agree for every entry that
the one on the left can come to. -/
theorem mirrors_of_searches {inside : left.Entry → Prop}
    (closed : ∀ {caller target}, inside caller → left.Calls caller target → inside target)
    (searches : ∀ {entry}, inside entry → ∀ reference ∈ (left.record entry).references,
      Agree failures Eq (searchFor left.records reference) (searchFor right.records reference)) :
    left.Mirrors right failures fun first second => inside first ∧ SameRecord first second := by
  constructor
  · intro first second paired
    have counterpart : right.edges second =
        right.edgesOf (left.record first).label (left.record first).references := by
      unfold edges
      rw [paired.2]
    have agree := edgesOf_record_agree (left.record first) fun reference member =>
      lookup_agree (searches paired.1 reference member)
    change Agree failures _ (left.edges first) _ at agree
    rw [← counterpart] at agree
    have below : ∀ targets, left.edges first = .ok targets → ∀ target ∈ targets, inside target := by
      intro targets told target member
      exact closed paired.1 (calls_iff.mpr ⟨targets, told, member⟩)
    generalize left.edges first = told at agree below ⊢
    generalize right.edges second = known at agree ⊢
    cases agree with
    | error failed => exact .error failed
    | ok given => exact .ok ((List.forall₂_and_left _ _).mpr ⟨below _ rfl, given⟩)
  · intro first second other another paired others
    rw [paired.2.display, others.2.display]

/-- Mappings that run in step through entries of one name each print the same lines. -/
theorem Mirrors.same_lines (mirrors : left.Mirrors right failures twin)
    (shown : ∀ {first second}, twin first second → left.display first = right.display second)
    {schema name : Text}
    (lookups : Agree failures (Option.Rel twin) (left.lookup name schema)
      (right.lookup name schema)) (style : Style) :
    (left.map style schema name).lines = (right.map style schema name).lines ∧
      Agree failures Eq (left.map style schema name).outcome
        (right.map style schema name).outcome := by
  obtain ⟨events, outcome⟩ := mirrors.map lookups style
  refine ⟨?_, outcome⟩
  rw [Catalog.map_lines, Catalog.map_lines, ← List.forall₂_eq_eq_eq, List.forall₂_map_left_iff,
    List.forall₂_map_right_iff]
  apply events.imp
  intro event counterpart same
  unfold Event.line
  rw [same.depth, same.isCycle, shown same.entry]

/-- Catalogs whose searches all agree map alike. -/
theorem same_lines_of_searches
    (searches : ∀ name schema, Agree failures Eq (Record.search left.records name schema)
      (Record.search right.records name schema)) (style : Style) (schema name : Text) :
    (left.map style schema name).lines = (right.map style schema name).lines ∧
      Agree failures Eq (left.map style schema name).outcome
        (right.map style schema name).outcome := by
  have mirrors : left.Mirrors right failures fun first second =>
      True ∧ SameRecord first second := by
    apply mirrors_of_searches
    · intro caller target inside called
      exact trivial
    · intro entry inside reference member
      exact searches _ _
  simp only [true_and] at mirrors
  exact mirrors.same_lines SameRecord.display (lookup_agree (searches name schema)) style

theorem map_eq_of_same_lines {style : Style} {schema name : Text}
    (alike : (left.map style schema name).lines = (right.map style schema name).lines ∧
      Agree Eq Eq (left.map style schema name).outcome (right.map style schema name).outcome) :
    left.map style schema name = right.map style schema name :=
  congrArg₂ Mapping.mk alike.1 alike.2.eq

end Catalog

end ProcedureAtlas
