import ProcedureAtlas.Proofs.DisplayCalls
import ProcedureAtlas.Proofs.Policies

/-!
# The order of the sources

Sources in another order make the same records in another order. Entries change their places with
them, and an ambiguity lists its labels, and shows the name of its first record, by place. Nothing
else depends on places: a lookup that finds one record finds the same one, and edges keep the order
of the calls. So a mapping prints the same lines and ends in the same way, up to the order of the
labels of an ambiguity.
-/

namespace ProcedureAtlas

set_option autoImplicit false

/-- Equal failures, and ambiguities that list the same labels in any order. -/
inductive CatalogFailure.SameUpToOrder : CatalogFailure → CatalogFailure → Prop
  | refl (failure : CatalogFailure) : SameUpToOrder failure failure
  | ambiguous {display other : Text} {labels others : List Text} (labelled : labels.Perm others) :
      SameUpToOrder (.ambiguousProcedure display labels) (.ambiguousProcedure other others)

theorem Record.search_perm {records others : List Record} (reordered : records.Perm others)
    (name schema : Text) :
    Agree CatalogFailure.SameUpToOrder Eq (search records name schema)
      (search others name schema) := by
  have found := reordered.filter fun record =>
    record.isMatch (Identifier.bare name) (Identifier.bare schema)
  unfold search
  generalize records.filter _ = kept at found ⊢
  generalize others.filter _ = remaining at found ⊢
  match kept with
  | [] =>
      rw [List.nil_perm.mp found]
      exact .ok rfl
  | [record] =>
      rw [← List.singleton_perm.mp found]
      exact .ok rfl
  | first :: second :: rest =>
      match remaining with
      | [] => cases found.length_eq
      | [record] => cases found.length_eq
      | other :: another :: more => exact .error (.ambiguous (found.map Record.label))

/-- The order of the sources changes no mapping. Strict catalogs of sources in two orders are both
built or both refused, and skipping ones are always built. Whatever the style and the start, the two
print the same lines and end alike, an ambiguity with the same labels in some order. -/
theorem source_order_never_matters (sources others : List Source)
    (reordered : sources.Perm others) :
    ((∃ left, Catalog.ofSources .strict sources = .ok left) ↔
      ∃ right, Catalog.ofSources .strict others = .ok right) ∧
    (∃ left, Catalog.ofSources .skip sources = .ok left) ∧
    (∃ right, Catalog.ofSources .skip others = .ok right) ∧
    ∀ policy left right, Catalog.ofSources policy sources = .ok left →
      Catalog.ofSources policy others = .ok right →
      ∀ style schema name,
        (left.map style schema name).lines = (right.map style schema name).lines ∧
        Agree CatalogFailure.SameUpToOrder Eq (left.map style schema name).outcome
          (right.map style schema name).outcome := by
  refine ⟨?_, ⟨_, Catalog.ofSources_skip sources⟩, ⟨_, Catalog.ofSources_skip others⟩, ?_⟩
  · rw [Catalog.exists_strict_iff, Catalog.exists_strict_iff]
    exact forall_congr' fun source => imp_congr_left reordered.mem_iff
  · intro policy left right built alsoBuilt
    have records : left.records.Perm right.records := by
      rw [Catalog.records_of_ofSources built, Catalog.records_of_ofSources alsoBuilt]
      exact reordered.filterMap _
    exact Catalog.same_lines_of_searches (Record.search_perm records)

/-- The first calls a procedure that both others declare, in different letters. -/
private def doubledSources : List Source :=
  [callerSource ['p'] ⟨['s'], ['x']⟩ ⟨['s'], ['y']⟩,
    callerSource ['q'] ⟨['s'], ['y']⟩ ⟨['s'], ['x']⟩,
    callerSource ['r'] ⟨['S'], ['Y']⟩ ⟨['s'], ['x']⟩]

theorem doubled_sources_map_alike_reversed :
    ∃ left right, doubledSources.Perm doubledSources.reverse ∧
      Catalog.ofSources .strict doubledSources = .ok left ∧
      Catalog.ofSources .strict doubledSources.reverse = .ok right ∧
      (left.map {} ['s'] ['x']).lines = (right.map {} ['s'] ['x']).lines ∧
      Agree CatalogFailure.SameUpToOrder Eq (left.map {} ['s'] ['x']).outcome
        (right.map {} ['s'] ['x']).outcome := by
  have schema : IsName ['s'] := .of_word (by decide)
  have first : IsName ['x'] := .of_word (by decide)
  have second : IsName ['y'] := .of_word (by decide)
  obtain ⟨caller, callerMade, -⟩ :=
    @exists_record_of_caller _ _ ⟨['s'], ['y']⟩ schema first schema second ['p']
  obtain ⟨small, smallMade, -⟩ :=
    @exists_record_of_caller _ _ ⟨['s'], ['x']⟩ schema second schema first ['q']
  obtain ⟨capital, capitalMade, -⟩ := @exists_record_of_caller ['S'] ['Y'] ⟨['s'], ['x']⟩
    (.of_word (by decide)) (.of_word (by decide)) schema first ['r']
  have built : Catalog.ofSources .strict doubledSources = _ :=
    Catalog.ofSources_of_made .strict (.cons callerMade (.cons smallMade (.cons capitalMade .nil)))
  have reversed : Catalog.ofSources .strict doubledSources.reverse = _ :=
    Catalog.ofSources_of_made .strict (.cons capitalMade (.cons smallMade (.cons callerMade .nil)))
  have reordered := (List.reverse_perm doubledSources).symm
  have alike := (source_order_never_matters _ _ reordered).2.2.2 .strict _ _ built reversed
  exact ⟨_, _, reordered, built, reversed, alike {} ['s'] ['x']⟩

end ProcedureAtlas
