import ProcedureAtlas.Proofs.Lookup

/-!
# A catalog is its list of records

A catalog holds the records of its sources in their order. Its index puts every position into one
bucket, the one of the record's key, and keeps the positions of a bucket ascending. So what a lookup
answers can be said with the list alone, as a search from its first record to its last.
-/

namespace ProcedureAtlas

set_option autoImplicit false

/-! ## Buckets -/

namespace Index

variable {records : List Record} {key : Key} {position : Nat}

theorem mem_bucket_iff :
    position ∈ (ofRecords records).bucket key ↔
      ∃ record, records[position]? = some record ∧ record.identity.key = key := by
  rw [bucket_ofRecords, List.mem_map]
  constructor
  · rintro ⟨⟨record, index⟩, member, rfl⟩
    obtain ⟨listed, same⟩ := List.mem_filter.mp member
    exact ⟨record, List.mem_zipIdx_iff_getElem?.mp listed, of_decide_eq_true same⟩
  · rintro ⟨record, listed, same⟩
    refine ⟨(record, position), List.mem_filter.mpr ⟨?_, decide_eq_true same⟩, rfl⟩
    exact List.mem_zipIdx_iff_getElem?.mpr listed

theorem bucket_ascends (records : List Record) (key : Key) :
    ((ofRecords records).bucket key).Pairwise (· < ·) := by
  rw [bucket_ofRecords]
  have kept : ((records.zipIdx.filter fun entry => entry.1.identity.key = key).map Prod.snd).Sublist
      (records.zipIdx.map Prod.snd) :=
    List.filter_sublist.map Prod.snd
  apply List.Pairwise.sublist kept
  rw [List.zipIdx_map_snd]
  exact List.pairwise_lt_range'

theorem existsUnique_bucket (bound : position < records.length) :
    ∃! key, position ∈ (ofRecords records).bucket key := by
  refine ⟨records[position].identity.key, ?_, ?_⟩
  · exact mem_bucket_iff.mpr ⟨records[position], List.getElem?_eq_getElem bound, rfl⟩
  · intro other member
    obtain ⟨record, listed, same⟩ := mem_bucket_iff.mp member
    rw [List.getElem?_eq_getElem bound] at listed
    rw [← same, Option.some.inj listed]

end Index

/-! ## Searching the list -/

/-- The one record that matches a written name and schema, none, or the ambiguity of several. -/
def Record.search (records : List Record) (name schema : Text) :
    Except CatalogFailure (Option Record) :=
  match records.filter fun record =>
    record.isMatch (Identifier.bare name) (Identifier.bare schema) with
  | [] => .ok none
  | [record] => .ok (some record)
  | first :: second :: others =>
      .error (.ambiguousProcedure first.display ((first :: second :: others).map Record.label))

namespace Catalog

variable {policy : Policy} {sources : List Source} {catalog : Catalog}

theorem records_of_readSources {records : List Record} {skipped : List Text}
    (read : readSources policy sources = .ok (records, skipped)) :
    records = sources.filterMap fun source => (Record.ofSource source).toOption := by
  induction sources generalizing records skipped with
  | nil =>
      cases read
      rfl
  | cons source sources ih =>
      rw [readSources] at read
      cases rest : readSources policy sources with
      | error failure =>
          rw [rest] at read
          split at read
          · cases read
          · split at read
            · cases read
            · cases read
      | ok found =>
          obtain ⟨later, laterSkipped⟩ := found
          rw [rest] at read
          split at read
          · rename_i record made
            cases read
            rw [List.filterMap_cons, made, ih rest]
            rfl
          · rename_i fault made
            split at read
            · cases read
            · cases read
              rw [List.filterMap_cons, made, ih rest]
              rfl

theorem records_of_ofSources (built : ofSources policy sources = .ok catalog) :
    catalog.records = sources.filterMap fun source => (Record.ofSource source).toOption := by
  rw [ofSources] at built
  cases read : readSources policy sources with
  | error failure =>
      rw [read] at built
      cases built
  | ok found =>
      rw [read] at built
      cases built
      exact records_of_readSources read

theorem map_record_candidates (catalog : Catalog) (name schema : Text) :
    (catalog.candidates name schema).map catalog.record =
      catalog.records.filter fun record =>
        record.isMatch (Identifier.bare name) (Identifier.bare schema) := by
  have whole : (List.finRange catalog.records.length).map catalog.record = catalog.records :=
    List.map_get_finRange catalog.records
  conv_rhs => rw [← whole]
  rw [candidates, List.filter_map]
  rfl

theorem lookup_eq_search (catalog : Catalog) (name schema : Text) :
    (catalog.lookup name schema).map (Option.map catalog.record) =
      Record.search catalog.records name schema := by
  rw [lookup_eq, Record.search, ← map_record_candidates]
  match catalog.candidates name schema with
  | [] => rfl
  | [entry] => rfl
  | first :: second :: others =>
      rw [only, Except.map, List.map_cons, List.map_cons]
      · simp [display]
      · simp

/-- The index changes no answer: every lookup in a catalog is a search through its records. -/
theorem lookup_is_linear_search (policy : Policy) (sources : List Source) (catalog : Catalog)
    (built : ofSources policy sources = .ok catalog) :
    catalog.records = (sources.filterMap fun source => (Record.ofSource source).toOption) ∧
      (∀ position < catalog.records.length, ∃! key, position ∈ catalog.index.bucket key) ∧
      (∀ key, (catalog.index.bucket key).Pairwise (· < ·) ∧
        ∀ position ∈ catalog.index.bucket key, position < catalog.records.length) ∧
      ∀ name schema, (catalog.lookup name schema).map (Option.map catalog.record) =
        Record.search catalog.records name schema := by
  refine ⟨records_of_ofSources built, ?_, ?_, catalog.lookup_eq_search⟩
  · intro position bound
    rw [catalog.index_eq]
    exact Index.existsUnique_bucket bound
  · intro key
    rw [catalog.index_eq]
    refine ⟨Index.bucket_ascends catalog.records key, ?_⟩
    intro position member
    obtain ⟨record, listed, -⟩ := Index.mem_bucket_iff.mp member
    exact (List.getElem?_eq_some_iff.mp listed).1

/-- Two sources declare one procedure in different cases, and a third declares nothing. -/
theorem lookup_of_doubled_procedure :
    ∃ catalog, ofSources .skip [⟨['a'], "create proc Dbo.X".toList⟩, ⟨['b'], "select 1".toList⟩,
        ⟨['c'], "alter procedure [x]".toList⟩] = .ok catalog ∧
      catalog.lookup "[x]".toList "DBO".toList =
        .error (.ambiguousProcedure "[Dbo].[X]".toList [['a'], ['c']]) := by
  cases built : ofSources .skip [⟨['a'], "create proc Dbo.X".toList⟩,
      ⟨['b'], "select 1".toList⟩, ⟨['c'], "alter procedure [x]".toList⟩] with
  | error failure =>
      have success : (ofSources .skip [⟨['a'], "create proc Dbo.X".toList⟩,
        ⟨['b'], "select 1".toList⟩, ⟨['c'], "alter procedure [x]".toList⟩]).isOk = true := by
        decide +kernel
      rw [built] at success
      cases success
  | ok catalog =>
      obtain ⟨records, -, -, search⟩ := lookup_is_linear_search _ _ catalog built
      refine ⟨catalog, rfl, ?_⟩
      have answer := search "[x]".toList "DBO".toList
      have told : (Record.search catalog.records "[x]".toList "DBO".toList).map
          (Option.map Record.display) =
            .error (.ambiguousProcedure "[Dbo].[X]".toList [['a'], ['c']]) := by
        rw [records]
        decide +kernel
      rw [← answer] at told
      cases found : catalog.lookup "[x]".toList "DBO".toList with
      | error failure =>
          rw [found] at told
          exact congrArg Except.error (Except.error.inj told)
      | ok entry =>
          rw [found] at told
          cases told

end Catalog

end ProcedureAtlas
