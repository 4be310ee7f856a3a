import ProcedureAtlas.Proofs.CallSites
import ProcedureAtlas.Proofs.LinearSearch

/-!
# Names are kept in normal form

Taking the bare form of a text twice is not the same as taking it once, but what is read from a
script is a name, and a name is its own bare form. It is taken to its bare form again when an
identity is made and when it is looked up, and stays what it was.

So nothing is ever empty where an empty name would be a fault. A source without a header is the only
one that gives no record, no reference of a record is malformed, and a record is always found, alone
or among others, under every spelling of its own name.
-/

namespace ProcedureAtlas

set_option autoImplicit false

/-- A name that is its own bare form. -/
structure IsNormal (name : Text) : Prop where
  isName : IsName name
  bare : Identifier.bare name = name

theorem IsName.isNormal {name : Text} (written : IsName name) : IsNormal name :=
  ⟨written, written.bare_eq⟩

theorem IsName.ne_nil {name : Text} (written : IsName name) : name ≠ [] := by
  obtain ⟨character, rest, split, -⟩ := written.first
  rw [split]
  exact List.cons_ne_nil character rest

theorem IsName.not_isEmpty {name : Text} (written : IsName name) :
    Identifier.isEmpty name = false := by
  unfold Identifier.isEmpty
  rw [written.bare_eq, List.isEmpty_eq_false_iff]
  exact written.ne_nil

/-! ## Calls -/

namespace Target

theorem readDotName_isWritten {position : Position} {target : Target}
    (read : readDotName position = some target) : target.IsWritten := by
  unfold readDotName at read
  obtain ⟨afterDot, -, nameRead⟩ := Option.bind_eq_some_iff.mp read
  exact readName_isWritten nameRead

theorem readDatabaseName_isWritten {position : Position} {target : Target}
    (read : readDatabaseName position = some target) : target.IsWritten := by
  unfold readDatabaseName at read
  obtain ⟨afterDatabase, -, nameRead⟩ := Option.bind_eq_some_iff.mp read
  exact readDotName_isWritten nameRead

theorem readDatabaseSchemaName_isWritten {position : Position} {target : Target}
    (read : readDatabaseSchemaName position = some target) : target.IsWritten := by
  unfold readDatabaseSchemaName at read
  obtain ⟨afterDatabase, -, nameRead⟩ := Option.bind_eq_some_iff.mp read
  exact readSchemaName_isWritten nameRead

theorem readCalled_isWritten {position : Position} {target : Target}
    (read : readCalled position = some target) : target.IsWritten := by
  unfold readCalled at read
  simp only [Option.or_eq_some_iff] at read
  rcases read with databaseSchema | ⟨-, database | ⟨-, schema | ⟨-, dot | ⟨-, name⟩⟩⟩⟩
  · exact readDatabaseSchemaName_isWritten databaseSchema
  · exact readDatabaseName_isWritten database
  · exact readSchemaName_isWritten schema
  · exact readDotName_isWritten dot
  · exact readName_isWritten name

end Target

namespace CallMatch

theorem at?_isWritten {position : Position} {found : CallMatch}
    (matched : at? position = some found) : found.target.IsWritten := by
  obtain ⟨afterBlanks, -, called⟩ := (parts_of_at? matched).target
  exact Target.readCalled_isWritten called

theorem scanFrom_isWritten {comments : Comments} {skip : Nat} {passed : Passed} {after : Text}
    {found : CallMatch} (member : found ∈ scanFrom comments skip passed after) :
    found.target.IsWritten := by
  fun_induction scanFrom comments skip passed after with
  | case1 => cases member
  | case2 _ _ _ _ ih => exact ih member
  | case3 _ _ _ _ ih => exact ih member
  | case4 passed character after first matched accepted ih =>
      cases member with
      | head => exact at?_isWritten matched
      | tail _ later => exact ih later
  | case5 _ _ _ _ _ _ ih => exact ih member

end CallMatch

theorem Call.isName_of_script {script : Text} {call : Call} (member : call ∈ Call.ofScript script) :
    IsName call.name ∧ ∀ schema, call.schema = some schema → IsName schema := by
  obtain ⟨found, scanned, rfl⟩ := List.mem_map.mp member
  have written := CallMatch.scanFrom_isWritten scanned
  constructor
  · change IsName (Identifier.bare found.target.name.name)
    rw [written.name.bare_eq]
    exact written.name
  · intro schema given
    obtain ⟨segment, present, rfl⟩ := Option.map_eq_some_iff.mp given
    have name := written.schema segment present
    rw [name.bare_eq]
    exact name

/-! ## Identities -/

namespace Identity

theorem ofWritten_of_isName {schema name : Text} (schemaWritten : IsName schema)
    (nameWritten : IsName name) : ofWritten schema name = .ok ⟨schema, name⟩ := by
  unfold ofWritten
  rw [nameWritten.not_isEmpty, schemaWritten.not_isEmpty, schemaWritten.bare_eq,
    nameWritten.bare_eq]
  rfl

/-- The identity of a name is made of the name itself and of its schema or the default one. -/
theorem ofOptional_of_isName {schema : Option Text} {name : Text}
    (schemaWritten : ∀ written, schema = some written → IsName written)
    (nameWritten : IsName name) :
    ofOptional schema name = .ok ⟨schema.getD Identifier.defaultSchema, name⟩ := by
  unfold ofOptional
  cases schema with
  | none => exact ofWritten_of_isName isName_defaultSchema nameWritten
  | some written => exact ofWritten_of_isName (schemaWritten written rfl) nameWritten

end Identity

theorem Declaration.identity_of_script {script : Text} {declaration : Declaration}
    (declared : Declaration.ofScript? script = some declaration) :
    declaration.identity =
      .ok ⟨declaration.schema.getD Identifier.defaultSchema, declaration.name⟩ := by
  obtain ⟨name, schema⟩ := Declaration.isName_of_script declared
  exact Identity.ofOptional_of_isName schema name

theorem Reference.identity_of_script {script : Text} {reference : Reference}
    (member : reference ∈ Reference.ofScript script) :
    reference.identity =
      .ok ⟨reference.schema.getD Identifier.defaultSchema, reference.name⟩ := by
  obtain ⟨call, called, rfl⟩ := List.mem_map.mp member
  obtain ⟨name, schema⟩ := Call.isName_of_script called
  exact Identity.ofOptional_of_isName schema name

/-! ## Records -/

namespace Record

theorem identity_of_reference {record : Record} {reference : Reference}
    (member : reference ∈ record.references) :
    reference.identity =
      .ok ⟨reference.schema.getD Identifier.defaultSchema, reference.name⟩ := by
  rw [record.references_eq] at member
  exact Reference.identity_of_script member

theorem ofSource_of_undeclared {source : Source}
    (undeclared : Declaration.ofScript? source.text = none) :
    ofSource source = .error .noHeader := by
  unfold ofSource
  split
  · rfl
  · rename_i declared
    rw [undeclared] at declared
    cases declared

theorem exists_of_declared {source : Source} {declaration : Declaration}
    (declared : Declaration.ofScript? source.text = some declaration) :
    ∃ record, ofSource source = .ok record ∧ record.label = source.label ∧
      record.text = source.text ∧
      record.identity =
        ⟨declaration.schema.getD Identifier.defaultSchema, declaration.name⟩ := by
  have read := Declaration.identity_of_script declared
  unfold ofSource
  split
  · rename_i undeclared
    rw [undeclared] at declared
    cases declared
  · rename_i other found
    obtain rfl : other = declaration := Option.some.inj (found.symm.trans declared)
    split
    · rename_i fault failed
      rw [read] at failed
      cases failed
    · rename_i identity made
      rw [read] at made
      exact ⟨_, rfl, rfl, rfl, (Except.ok.inj made).symm⟩

theorem undeclared_of_ofSource {source : Source} {fault : DefinitionFault}
    (failed : ofSource source = .error fault) :
    fault = .noHeader ∧ Declaration.ofScript? source.text = none := by
  cases found : Declaration.ofScript? source.text with
  | none =>
      rw [ofSource_of_undeclared found] at failed
      exact ⟨(Except.error.inj failed).symm, rfl⟩
  | some declaration =>
      obtain ⟨record, made, -⟩ := exists_of_declared found
      rw [made] at failed
      cases failed

end Record

/-! ## Lookups and edges -/

namespace Catalog

variable {catalog : Catalog}

theorem only_eq_error {entries : List catalog.Entry} {failure : CatalogFailure}
    (failed : catalog.only entries = .error failure) :
    ∃ display, failure =
      .ambiguousProcedure display (entries.map fun entry => (catalog.record entry).label) := by
  match entries with
  | [] => cases failed
  | [entry] => cases failed
  | first :: second :: others =>
      cases failed
      exact ⟨_, rfl⟩

theorem edgesOf_cons (label : Text) {reference : Reference} {identity : Identity}
    (made : reference.identity = .ok identity) (references : List Reference) :
    catalog.edgesOf label (reference :: references) =
      match catalog.lookupIdentity identity with
      | .error failure => .error failure
      | .ok target =>
          match catalog.edgesOf label references with
          | .error failure => .error failure
          | .ok targets => .ok (target.toList ++ targets) := by
  conv_lhs => unfold edgesOf
  rw [made]
  change (catalog.lookupIdentity identity >>= _) = _
  cases catalog.lookupIdentity identity with
  | error failure => rfl
  | ok target =>
      change (catalog.edgesOf label references >>= _) = _
      cases catalog.edgesOf label references <;> rfl

/-- Where every reference has an identity, edges fail only because a lookup does. -/
theorem exists_lookup_of_edgesOf_error {label : Text} {references : List Reference}
    {failure : CatalogFailure}
    (named : ∀ reference ∈ references, ∃ identity, reference.identity = .ok identity)
    (failed : catalog.edgesOf label references = .error failure) :
    ∃ identity, catalog.lookupIdentity identity = .error failure := by
  induction references with
  | nil => cases failed
  | cons reference references ih =>
      obtain ⟨identity, made⟩ := named reference List.mem_cons_self
      rw [edgesOf_cons label made] at failed
      cases found : catalog.lookupIdentity identity with
      | error other =>
          rw [found] at failed
          cases failed
          exact ⟨identity, found⟩
      | ok target =>
          rw [found] at failed
          cases rest : catalog.edgesOf label references with
          | error other =>
              rw [rest] at failed
              cases failed
              apply ih _ rest
              intro later member
              exact named later (List.mem_cons_of_mem reference member)
          | ok targets =>
              rw [rest] at failed
              cases failed

theorem edges_ne_malformed (entry : catalog.Entry) (label : Text) (reference : Reference)
    (fault : IdentityFault) :
    catalog.edges entry ≠ .error (.malformedReference label reference fault) := by
  intro failed
  have named : ∀ reference ∈ (catalog.record entry).references,
      ∃ identity, reference.identity = .ok identity := by
    intro reference member
    exact ⟨_, Record.identity_of_reference member⟩
  obtain ⟨identity, looked⟩ := exists_lookup_of_edgesOf_error named failed
  unfold lookupIdentity at looked
  rw [lookup_eq] at looked
  obtain ⟨display, impossible⟩ := only_eq_error looked
  cases impossible

/-- An entry that matches is the answer, or is told among those that do. -/
theorem lookup_of_mem_candidates {name schema : Text} {entry : catalog.Entry}
    (member : entry ∈ catalog.candidates name schema) :
    catalog.lookup name schema = .ok (some entry) ∨
      ∃ display, catalog.lookup name schema = .error (.ambiguousProcedure display
        ((catalog.candidates name schema).map fun entry => (catalog.record entry).label)) := by
  rw [lookup_eq]
  match found : catalog.candidates name schema with
  | [] =>
      rw [found] at member
      cases member
  | [only] =>
      rw [found] at member
      rw [List.mem_singleton.mp member]
      exact Or.inl rfl
  | first :: second :: others => exact Or.inr ⟨_, rfl⟩

theorem mem_candidates_of_lower {name schema : Text} {entry : catalog.Entry}
    (names : Text.lower (Identifier.bare name) = Text.lower (catalog.record entry).identity.name)
    (schemas : Text.lower (Identifier.bare schema) =
      Text.lower (catalog.record entry).identity.schema) :
    entry ∈ catalog.candidates name schema := by
  rw [mem_candidates, Record.isMatch, Identity.isMatch_iff_key]
  unfold Identity.key Key.ofName
  rw [names, schemas]

end Catalog

/-- Whatever is read as a name is in normal form, and stays so until it is looked up. -/
theorem names_are_normal (policy : Policy) (sources : List Source) :
    (∀ script,
      (∀ call ∈ Call.ofScript script, IsNormal call.name ∧
        ∀ schema, call.schema = some schema → IsNormal schema) ∧
      ∀ declaration, Declaration.ofScript? script = some declaration →
        IsNormal declaration.name ∧ ∀ schema, declaration.schema = some schema → IsNormal schema) ∧
    (∀ source fault, Record.ofSource source = .error fault →
      fault = .noHeader ∧ Declaration.ofScript? source.text = none) ∧
    ∀ catalog, Catalog.ofSources policy sources = .ok catalog → ∀ entry : catalog.Entry,
      (∀ reference ∈ (catalog.record entry).references,
        ∃ identity, reference.identity = .ok identity) ∧
      (∀ label reference fault,
        catalog.edges entry ≠ .error (.malformedReference label reference fault)) ∧
      IsNormal (catalog.record entry).identity.schema ∧
      IsNormal (catalog.record entry).identity.name ∧
      ∀ name schema,
        Text.lower (Identifier.bare name) = Text.lower (catalog.record entry).identity.name →
        Text.lower (Identifier.bare schema) = Text.lower (catalog.record entry).identity.schema →
        entry ∈ catalog.candidates name schema ∧
          (catalog.lookup name schema = .ok (some entry) ∨
            ∃ display, catalog.lookup name schema = .error (.ambiguousProcedure display
              ((catalog.candidates name schema).map fun entry =>
                (catalog.record entry).label))) := by
  refine ⟨?_, ?_, ?_⟩
  · intro script
    constructor
    · intro call member
      obtain ⟨name, schema⟩ := Call.isName_of_script member
      exact ⟨name.isNormal, fun written given => (schema written given).isNormal⟩
    · intro declaration declared
      obtain ⟨name, schema⟩ := Declaration.isName_of_script declared
      exact ⟨name.isNormal, fun written given => (schema written given).isNormal⟩
  · intro source fault failed
    exact Record.undeclared_of_ofSource failed
  · intro catalog _ entry
    obtain ⟨schemaName, nameName⟩ := (catalog.record entry).isName_identity
    refine ⟨?_, Catalog.edges_ne_malformed entry, schemaName.isNormal, nameName.isNormal, ?_⟩
    · intro reference member
      exact ⟨_, Record.identity_of_reference member⟩
    · intro name schema names schemas
      have member := Catalog.mem_candidates_of_lower names schemas
      exact ⟨member, Catalog.lookup_of_mem_candidates member⟩

/-- A name with a dash, looked up in brackets, between blanks and in capitals. -/
theorem dashed_name_is_told :
    ∃ catalog, Catalog.ofSources .skip [⟨['a'], "create proc x-y as exec d..[z]".toList⟩,
        ⟨['b'], "select 1".toList⟩] = .ok catalog ∧
      (∃ call ∈ Call.ofScript "create proc x-y as exec d..[z]".toList, IsNormal call.name) ∧
      (∃ fault, Record.ofSource ⟨['b'], "select 1".toList⟩ = .error fault ∧ fault = .noHeader) ∧
      ∃ entry : catalog.Entry,
        Text.lower (Identifier.bare " [X-Y] ".toList) =
          Text.lower (catalog.record entry).identity.name ∧
        Text.lower (Identifier.bare "DBO".toList) =
          Text.lower (catalog.record entry).identity.schema ∧
        entry ∈ catalog.candidates " [X-Y] ".toList "DBO".toList := by
  have success : (Catalog.ofSources .skip [⟨['a'], "create proc x-y as exec d..[z]".toList⟩,
      ⟨['b'], "select 1".toList⟩]).isOk = true := by decide +kernel
  cases built : Catalog.ofSources .skip [⟨['a'], "create proc x-y as exec d..[z]".toList⟩,
      ⟨['b'], "select 1".toList⟩] with
  | error failure =>
      rw [built] at success
      cases success
  | ok catalog =>
      obtain ⟨scripts, faults, entries⟩ := names_are_normal .skip _
      have called : ∃ call, call ∈ Call.ofScript "create proc x-y as exec d..[z]".toList :=
        List.exists_mem_of_length_pos (by decide +kernel)
      have failed : Record.ofSource ⟨['b'], "select 1".toList⟩ = .error .noHeader :=
        Record.ofSource_of_undeclared (by decide +kernel)
      have records := Catalog.records_of_ofSources built
      have length : 0 < catalog.records.length := by
        rw [records]
        decide +kernel
      have spellings : ∀ record ∈ catalog.records,
          Text.lower (Identifier.bare " [X-Y] ".toList) = Text.lower record.identity.name ∧
            Text.lower (Identifier.bare "DBO".toList) = Text.lower record.identity.schema := by
        rw [records]
        decide +kernel
      have spelled := spellings (catalog.record ⟨0, length⟩) (List.get_mem _ _)
      obtain ⟨call, member⟩ := called
      have found := (entries catalog built ⟨0, length⟩).2.2.2.2 _ _ spelled.1 spelled.2
      exact ⟨catalog, rfl, ⟨call, member, ((scripts _).1 call member).1⟩,
        ⟨_, failed, (faults _ _ failed).1⟩, ⟨0, length⟩, spelled.1, spelled.2, found.1⟩

end ProcedureAtlas
