import ProcedureAtlas.Proofs.DisplayCalls
import ProcedureAtlas.Proofs.Policies

/-!
# Unrelated sources

A walk can find a record only under a key that it looks up: that of its start, or that of a
reference of an entry within reach. Further sources whose records have none of these keys are
unrelated to the walk. They move the records behind them to other places, and they may call those
records, declare one another's names or form cycles of their own. The searches of the walk pass over
them, so the mapping from the start stays what it was, in its failures too.
-/

namespace ProcedureAtlas

set_option autoImplicit false

open Relation

/-- A list, further values, and the list with these put in at any places. -/
inductive Inserted {Value : Type} : List Value → List Value → List Value → Prop
  | nil : Inserted [] [] []
  | kept {values added extended : List Value} (value : Value)
      (rest : Inserted values added extended) :
      Inserted (value :: values) added (value :: extended)
  | further {values added extended : List Value} (value : Value)
      (rest : Inserted values added extended) :
      Inserted values (value :: added) (value :: extended)

namespace Inserted

variable {Value Result : Type} {values added extended : List Value}

theorem mem_or_mem (inserted : Inserted values added extended) {value : Value}
    (member : value ∈ extended) : value ∈ values ∨ value ∈ added := by
  induction inserted with
  | nil => cases member
  | kept first rest ih =>
      cases member with
      | head => exact Or.inl List.mem_cons_self
      | tail _ later => exact (ih later).imp_left (List.mem_cons_of_mem first)
  | further first rest ih =>
      cases member with
      | head => exact Or.inr List.mem_cons_self
      | tail _ later => exact (ih later).imp_right (List.mem_cons_of_mem first)

theorem filterMap (inserted : Inserted values added extended) (make : Value → Option Result) :
    Inserted (values.filterMap make) (added.filterMap make) (extended.filterMap make) := by
  induction inserted with
  | nil => exact .nil
  | kept value rest ih =>
      rw [List.filterMap_cons, List.filterMap_cons]
      cases make value with
      | none => exact ih
      | some result => exact .kept result ih
  | further value rest ih =>
      rw [List.filterMap_cons, List.filterMap_cons]
      cases make value with
      | none => exact ih
      | some result => exact .further result ih

theorem filter_eq (inserted : Inserted values added extended) {accept : Value → Bool}
    (passed : ∀ value ∈ added, accept value = false) :
    extended.filter accept = values.filter accept := by
  induction inserted with
  | nil => rfl
  | kept value rest ih => rw [List.filter_cons, List.filter_cons, ih passed]
  | further value rest ih =>
      have refused : ¬accept value = true := by
        rw [passed value List.mem_cons_self]
        exact Bool.false_ne_true
      rw [List.filter_cons_of_neg refused]
      apply ih
      intro other member
      exact passed other (List.mem_cons_of_mem value member)

end Inserted

theorem Record.search_of_inserted {records added extended : List Record}
    (inserted : Inserted records added extended) {name schema : Text}
    (passed : ∀ record ∈ added,
      record.isMatch (Identifier.bare name) (Identifier.bare schema) = false) :
    search extended name schema = search records name schema := by
  unfold search
  rw [inserted.filter_eq passed]

theorem Record.isName_reference {record : Record} {reference : Reference}
    (member : reference ∈ record.references) :
    IsName reference.name ∧ IsName (reference.schema.getD Identifier.defaultSchema) := by
  rw [record.references_eq] at member
  obtain ⟨call, called, rfl⟩ := List.mem_map.mp member
  obtain ⟨name, schema⟩ := Call.isName_of_script called
  refine ⟨name, ?_⟩
  change IsName (call.schema.getD _)
  cases written : call.schema with
  | none => exact isName_defaultSchema
  | some given => exact schema given written

namespace Catalog

/-- A record that no lookup of a walk from `start` can find, whatever catalog it is put into. -/
structure Unrelated (catalog : Catalog) (start : catalog.Entry) (record : Record) : Prop where
  named : record.identity.key ≠ (catalog.record start).identity.key
  referenced : ∀ entry, ReflTransGen catalog.Calls start entry →
    ∀ reference ∈ (catalog.record entry).references,
      record.identity.key ≠
        Key.ofName (reference.schema.getD Identifier.defaultSchema) reference.name

variable {catalog : Catalog} {start : catalog.Entry} {record : Record}

theorem Unrelated.not_match_start (unrelated : catalog.Unrelated start record) {name schema : Text}
    (found : catalog.lookup name schema = .ok (some start)) :
    record.isMatch (Identifier.bare name) (Identifier.bare schema) = false := by
  have matched : start ∈ catalog.candidates name schema := by
    rw [candidates_of_lookup found]
    exact List.mem_singleton_self start
  rw [mem_candidates, Record.isMatch, Identity.isMatch_iff_key] at matched
  rw [← Bool.not_eq_true, Record.isMatch, Identity.isMatch_iff_key, ← matched]
  exact unrelated.named

theorem Unrelated.not_match_reference (unrelated : catalog.Unrelated start record)
    {entry : catalog.Entry} (reach : ReflTransGen catalog.Calls start entry) {reference : Reference}
    (member : reference ∈ (catalog.record entry).references) :
    record.isMatch (Identifier.bare reference.name)
      (Identifier.bare (reference.schema.getD Identifier.defaultSchema)) = false := by
  obtain ⟨name, schema⟩ := Record.isName_reference member
  rw [← Bool.not_eq_true, Record.isMatch, Identity.isMatch_iff_key, name.bare_eq, schema.bare_eq]
  exact unrelated.referenced entry reach reference member

/-- The catalog can still be built when well-formed sources are put in. -/
theorem exists_larger {policy : Policy} {sources added extended : List Source}
    (built : ofSources policy sources = .ok catalog)
    (inserted : Inserted sources added extended)
    (wellFormed : ∀ source ∈ added, source.isWellFormed = true) :
    ∃ larger, ofSources policy extended = .ok larger := by
  cases policy with
  | skip => exact ⟨_, ofSources_skip extended⟩
  | strict =>
      have before := (exists_strict_iff sources).mp ⟨catalog, built⟩
      apply (exists_strict_iff extended).mpr
      intro source member
      exact (inserted.mem_or_mem member).elim (before source) (wellFormed source)

/-- Where only unrelated records are put in, a mapping that finds its start stays what it was. -/
theorem map_of_unrelated {larger : Catalog} {added : List Record} {schema name : Text}
    (inserted : Inserted catalog.records added larger.records)
    (found : catalog.lookup name schema = .ok (some start))
    (unrelated : ∀ record ∈ added, catalog.Unrelated start record) (style : Style) :
    catalog.map style schema name = larger.map style schema name := by
  have mirrors : catalog.Mirrors larger Eq fun first second =>
      ReflTransGen catalog.Calls start first ∧ SameRecord first second := by
    apply mirrors_of_searches
    · intro caller target reach called
      exact reach.tail called
    · intro entry reach reference member
      unfold searchFor
      rw [Record.search_of_inserted inserted fun record further =>
        (unrelated record further).not_match_reference reach member]
      exact .refl (fun _ => rfl) _
  have searches : Agree Eq Eq (Record.search catalog.records name schema)
      (Record.search larger.records name schema) := by
    rw [Record.search_of_inserted inserted fun record further =>
      (unrelated record further).not_match_start found]
    exact .refl (fun _ => rfl) _
  have lookups := lookup_agree searches
  apply map_eq_of_same_lines
  apply mirrors.same_lines fun paired => paired.2.display
  rw [found] at lookups ⊢
  generalize larger.lookup name schema = answer at lookups ⊢
  cases lookups with
  | ok given =>
      cases given with
      | some same => exact .ok (.some ⟨.refl, same⟩)

/-- Unrelated sources change no mapping. Whatever further well-formed sources are put in, and
wherever, the catalog is still built, and a mapping that finds its start finds it again, prints the
same lines and ends with the same count or the same failure, unless a further record has the key of
the start or of a reference within reach of it. -/
theorem unrelated_sources_never_matter (policy : Policy) (style : Style)
    (sources added extended : List Source) (catalog : Catalog) (start : catalog.Entry)
    (schema name : Text) (built : ofSources policy sources = .ok catalog)
    (found : catalog.lookup name schema = .ok (some start))
    (inserted : Inserted sources added extended)
    (unrelated : ∀ source ∈ added, ∃ record, Record.ofSource source = .ok record ∧
      catalog.Unrelated start record) :
    ∃ larger, ofSources policy extended = .ok larger ∧
      larger.map style schema name = catalog.map style schema name := by
  have wellFormed : ∀ source ∈ added, source.isWellFormed = true := by
    intro source member
    obtain ⟨record, made, -⟩ := unrelated source member
    unfold Source.isWellFormed
    rw [made]
    rfl
  obtain ⟨larger, alsoBuilt⟩ := exists_larger built inserted wellFormed
  have records := inserted.filterMap fun source => (Record.ofSource source).toOption
  rw [← records_of_ofSources built, ← records_of_ofSources alsoBuilt] at records
  refine ⟨larger, alsoBuilt, (map_of_unrelated records found ?_ style).symm⟩
  intro record member
  obtain ⟨source, further, made⟩ := List.mem_filterMap.mp member
  obtain ⟨other, alsoMade, apart⟩ := unrelated source further
  rw [alsoMade] at made
  obtain rfl : other = record := Option.some.inj made
  exact apart

private def circleSources : List Source :=
  [callerSource ['p'] ⟨['s'], ['x']⟩ ⟨['s'], ['y']⟩,
    callerSource ['q'] ⟨['s'], ['y']⟩ ⟨['s'], ['x']⟩]

/-- Two declarations of one name, in different letters, that call into the circle. -/
private def bystanders : List Source :=
  [callerSource ['r'] ⟨['s'], ['z']⟩ ⟨['s'], ['x']⟩,
    callerSource ['t'] ⟨['S'], ['Z']⟩ ⟨['s'], ['y']⟩]

private def crowdedSources : List Source :=
  [callerSource ['r'] ⟨['s'], ['z']⟩ ⟨['s'], ['x']⟩,
    callerSource ['p'] ⟨['s'], ['x']⟩ ⟨['s'], ['y']⟩,
    callerSource ['t'] ⟨['S'], ['Z']⟩ ⟨['s'], ['y']⟩,
    callerSource ['q'] ⟨['s'], ['y']⟩ ⟨['s'], ['x']⟩]

theorem doubled_bystanders_change_nothing :
    ∃ (catalog larger : Catalog) (start : catalog.Entry),
      ofSources .strict circleSources = .ok catalog ∧
      catalog.lookup ['x'] ['s'] = .ok (some start) ∧
      Inserted circleSources bystanders crowdedSources ∧
      ofSources .strict crowdedSources = .ok larger ∧
      larger.map {} ['s'] ['x'] = catalog.map {} ['s'] ['x'] := by
  obtain ⟨opener, closer, built, openerIdentity, closerIdentity, openerCalls, closerCalls, -⟩ :=
    exists_letterCircle .strict ['p'] ['q']
  obtain ⟨small, smallMade, smallIdentity, -⟩ :=
    @exists_record_of_letters 's' 'z' 's' 'x' (by decide) ['r']
  obtain ⟨capital, capitalMade, capitalIdentity, -⟩ :=
    @exists_record_of_letters 'S' 'Z' 's' 'y' (by decide) ['t']
  let circle := ofRecords .strict [] [opener, closer]
  have apart {record : Record} (key : record.identity.key = Key.ofName ['s'] ['z']) :
      circle.Unrelated (0 : Fin 2) record := by
    constructor
    · change record.identity.key ≠ opener.identity.key
      rw [key, openerIdentity]
      decide
    · intro entry reach reference member
      rw [key]
      match entry with
      | ⟨0, _⟩ =>
          change reference ∈ opener.references at member
          rw [openerCalls, List.mem_singleton] at member
          rw [member]
          decide
      | ⟨1, _⟩ =>
          change reference ∈ closer.references at member
          rw [closerCalls, List.mem_singleton] at member
          rw [member]
          decide
  have alone : ∀ entry : circle.Entry, (circle.record entry).identity.key =
      (circle.record (0 : Fin 2)).identity.key → entry = (0 : Fin 2) := by
    intro entry same
    match entry with
    | ⟨0, _⟩ => rfl
    | ⟨1, _⟩ =>
        change closer.identity.key = opener.identity.key at same
        rw [openerIdentity, closerIdentity] at same
        exact absurd same (by decide)
  have found := lookup_own alone
  change circle.lookup opener.identity.name opener.identity.schema = _ at found
  rw [openerIdentity] at found
  have inserted : Inserted circleSources bystanders crowdedSources :=
    .further _ (.kept _ (.further _ (.kept _ .nil)))
  have further : ∀ source ∈ bystanders,
      ∃ record, Record.ofSource source = .ok record ∧ circle.Unrelated (0 : Fin 2) record := by
    intro source member
    rcases List.mem_pair.mp member with rfl | rfl
    · refine ⟨small, smallMade, apart ?_⟩
      rw [smallIdentity]
      rfl
    · refine ⟨capital, capitalMade, apart ?_⟩
      rw [capitalIdentity]
      decide
  obtain ⟨larger, alsoBuilt, same⟩ := unrelated_sources_never_matter .strict {} circleSources
    bystanders crowdedSources circle (0 : Fin 2) ['s'] ['x'] built found inserted further
  exact ⟨circle, larger, (0 : Fin 2), built, found, inserted, alsoBuilt, same⟩

end Catalog

end ProcedureAtlas
