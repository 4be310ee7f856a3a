import ProcedureAtlas.Proofs.Counterparts

/-!
# The two policies

A skipping catalog is never refused. It holds the records of the well-formed sources in their order,
and the labels of the others in theirs. A strict catalog is refused for the first source that is not
well formed, and for nothing else.

Once a catalog is built its policy makes no difference. It is asked for only when a reference has no
identity, and the references of a script all have one. So catalogs of the same records give the same
answers, and the skipping catalog of any sources is the strict one of those that are well formed.
-/

namespace ProcedureAtlas

set_option autoImplicit false

/-- Whether a record can be made of the source. -/
def Source.isWellFormed (source : Source) : Bool :=
  (Record.ofSource source).isOk

/-- The failure of a strict catalog at this source. -/
def Source.failure? (source : Source) : Option CatalogFailure :=
  match Record.ofSource source with
  | .ok _ => none
  | .error fault => some (.malformedDefinition source.label fault)

namespace Source

variable {source : Source}

theorem failure?_eq_none_iff : source.failure? = none ↔ source.isWellFormed = true := by
  unfold failure? isWellFormed
  cases Record.ofSource source with
  | ok record => exact iff_of_true rfl rfl
  | error fault => exact iff_of_false (Option.some_ne_none _) Bool.false_ne_true

theorem failure?_eq_some_iff {failure : CatalogFailure} :
    source.failure? = some failure ↔
      ∃ fault, Record.ofSource source = .error fault ∧
        failure = .malformedDefinition source.label fault := by
  unfold failure?
  cases made : Record.ofSource source with
  | ok record => simp
  | error fault => simp [eq_comm]

end Source

namespace Catalog

/-! ## Reading sources -/

theorem readSources_skip (sources : List Source) :
    readSources .skip sources =
      .ok (sources.filterMap fun source => (Record.ofSource source).toOption,
        (sources.filter fun source => !source.isWellFormed).map Source.label) := by
  induction sources with
  | nil => rfl
  | cons source sources ih =>
      rw [readSources, ih, List.filterMap_cons, List.filter_cons]
      unfold Source.isWellFormed
      cases Record.ofSource source with
      | ok record => rfl
      | error fault => rfl

theorem readSources_strict (sources : List Source) :
    readSources .strict sources =
      (sources.findSome? Source.failure?).elim
        (.ok (sources.filterMap fun source => (Record.ofSource source).toOption, [])) .error := by
  induction sources with
  | nil => rfl
  | cons source sources ih =>
      rw [readSources, List.filterMap_cons, List.findSome?_cons]
      cases made : Record.ofSource source with
      | error fault =>
          have failed := Source.failure?_eq_some_iff.mpr ⟨fault, made, rfl⟩
          rw [failed]
          rfl
      | ok record =>
          have passed : source.failure? = none := by
            unfold Source.failure?
            rw [made]
          rw [passed, ih]
          cases sources.findSome? Source.failure? with
          | none => rfl
          | some failure => rfl

theorem ofSources_skip (sources : List Source) :
    ofSources .skip sources =
      .ok (ofRecords .skip ((sources.filter fun source => !source.isWellFormed).map Source.label)
        (sources.filterMap fun source => (Record.ofSource source).toOption)) := by
  rw [ofSources, readSources_skip]
  rfl

theorem ofSources_strict (sources : List Source) :
    ofSources .strict sources =
      (sources.findSome? Source.failure?).elim
        (.ok (ofRecords .strict []
          (sources.filterMap fun source => (Record.ofSource source).toOption))) .error := by
  rw [ofSources, readSources_strict]
  cases sources.findSome? Source.failure? with
  | none => rfl
  | some failure => rfl

theorem exists_strict_iff (sources : List Source) :
    (∃ catalog, ofSources .strict sources = .ok catalog) ↔
      ∀ source ∈ sources, source.isWellFormed = true := by
  have passed : sources.findSome? Source.failure? = none ↔
      ∀ source ∈ sources, source.isWellFormed = true := by
    rw [List.findSome?_eq_none_iff]
    exact forall₂_congr fun source _ => Source.failure?_eq_none_iff
  rw [← passed, ofSources_strict]
  cases sources.findSome? Source.failure? with
  | none => exact iff_of_true ⟨_, rfl⟩ rfl
  | some failure => simp

/-- A strict catalog is refused for the first source that is not well formed. -/
theorem ofSources_strict_eq_error_iff (sources : List Source) (failure : CatalogFailure) :
    ofSources .strict sources = .error failure ↔
      ∃ before source after fault, sources = before ++ source :: after ∧
        (∀ earlier ∈ before, earlier.isWellFormed = true) ∧
        Record.ofSource source = .error fault ∧
        failure = .malformedDefinition source.label fault := by
  have refused : ofSources .strict sources = .error failure ↔
      sources.findSome? Source.failure? = some failure := by
    rw [ofSources_strict]
    cases sources.findSome? Source.failure? with
    | none => simp
    | some other => simp
  rw [refused, List.findSome?_eq_some_iff]
  constructor
  · rintro ⟨before, source, after, split, failed, passed⟩
    obtain ⟨fault, made, told⟩ := Source.failure?_eq_some_iff.mp failed
    refine ⟨before, source, after, fault, split, ?_, made, told⟩
    intro earlier member
    exact Source.failure?_eq_none_iff.mp (passed earlier member)
  · rintro ⟨before, source, after, fault, split, passed, made, told⟩
    refine ⟨before, source, after, split, Source.failure?_eq_some_iff.mpr ⟨fault, made, told⟩, ?_⟩
    intro earlier member
    exact Source.failure?_eq_none_iff.mpr (passed earlier member)

theorem filterMap_well_formed (sources : List Source) :
    ((sources.filter Source.isWellFormed).filterMap fun source =>
        (Record.ofSource source).toOption) =
      sources.filterMap fun source => (Record.ofSource source).toOption := by
  rw [List.filterMap_filter]
  apply List.filterMap_congr
  intro source member
  unfold Source.isWellFormed
  cases Record.ofSource source with
  | ok record => rfl
  | error fault => rfl

/-! ## Catalogs of the same records -/

variable {left right : Catalog}

def SamePlace (first : left.Entry) (second : right.Entry) : Prop :=
  first.val = second.val

section SameRecords

variable (same : left.records = right.records)

include same

theorem lookup_same_place (name schema : Text) :
    Agree Eq (Option.Rel SamePlace) (left.lookup name schema) (right.lookup name schema) := by
  obtain ⟨records, leftSkipped, leftPolicy, leftIndex, rfl⟩ := left
  obtain ⟨others, rightSkipped, rightPolicy, rightIndex, rfl⟩ := right
  obtain rfl : records = others := same
  rw [lookup_eq, lookup_eq]
  -- Which entries match depends neither on what was skipped nor on the policy.
  have equal : candidates ⟨records, rightSkipped, rightPolicy, _, rfl⟩ name schema =
      candidates ⟨records, leftSkipped, leftPolicy, _, rfl⟩ name schema := rfl
  rw [equal]
  match candidates ⟨records, leftSkipped, leftPolicy, _, rfl⟩ name schema with
  | [] => exact .ok .none
  | [entry] => exact .ok (.some rfl)
  | first :: second :: others => exact .error rfl

theorem edgesOf_same_place (record : Record) :
    Agree Eq (List.Forall₂ SamePlace) (left.edgesOf record.label record.references)
      (right.edgesOf record.label record.references) := by
  apply edgesOf_record_agree
  intro reference member
  exact lookup_same_place same _ _

theorem map_eq_of_records (style : Style) (schema name : Text) :
    left.map style schema name = right.map style schema name := by
  apply map_eq_of_same_lines
  apply same_lines_of_searches
  intro other another
  rw [same]
  exact .refl (fun _ => rfl) _

end SameRecords

/-- A skipping catalog is the strict catalog of the well-formed sources. It is always built, with
the records of the well-formed sources and the labels of the others, where a strict catalog is
refused for the first of those others. Every lookup in the two, and the edges of every record,
whether catalogued or not, lead to the same places or fail alike, and so all mappings are equal. -/
theorem skipping_is_strict_on_well_formed (sources : List Source) :
    ((∃ catalog, ofSources .strict sources = .ok catalog) ↔
      ∀ source ∈ sources, source.isWellFormed = true) ∧
    (∀ failure, ofSources .strict sources = .error failure ↔
      ∃ before source after fault, sources = before ++ source :: after ∧
        (∀ earlier ∈ before, earlier.isWellFormed = true) ∧
        Record.ofSource source = .error fault ∧
        failure = .malformedDefinition source.label fault) ∧
    ∃ skipping strict, ofSources .skip sources = .ok skipping ∧
      ofSources .strict (sources.filter Source.isWellFormed) = .ok strict ∧
      skipping.skipped = (sources.filter fun source => !source.isWellFormed).map Source.label ∧
      skipping.records = (sources.filterMap fun source => (Record.ofSource source).toOption) ∧
      strict.records = skipping.records ∧
      (∀ name schema, Agree Eq (Option.Rel SamePlace) (skipping.lookup name schema)
        (strict.lookup name schema)) ∧
      (∀ record : Record, Agree Eq (List.Forall₂ SamePlace)
        (skipping.edgesOf record.label record.references)
        (strict.edgesOf record.label record.references)) ∧
      ∀ style schema name, skipping.map style schema name = strict.map style schema name := by
  refine ⟨exists_strict_iff sources, ofSources_strict_eq_error_iff sources, ?_⟩
  have accepted : ∀ source ∈ sources.filter Source.isWellFormed, source.isWellFormed = true := by
    intro source member
    exact (List.mem_filter.mp member).2
  obtain ⟨strict, built⟩ := (exists_strict_iff _).mpr accepted
  have same := (records_of_ofSources built).trans (filterMap_well_formed sources)
  exact ⟨_, strict, ofSources_skip sources, built, rfl, rfl, same, lookup_same_place same.symm,
    edgesOf_same_place same.symm, map_eq_of_records same.symm⟩

end Catalog

end ProcedureAtlas
