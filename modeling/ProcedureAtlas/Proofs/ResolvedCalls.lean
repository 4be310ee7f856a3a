import ProcedureAtlas.Proofs.CallScan
import ProcedureAtlas.Proofs.IdentityLookup

/-!
# Edges are resolved calls

What a call names is an identity, with the default schema where none is written. Its parts are names
and keep no bracket, so the lookup of a call answers by the entries that have its identity.

The edges of an entry are gathered along its calls, and the first call that several entries answer
to ends the gathering. Where there is none, each call gives the one entry that it names or nothing:
calls keep their order, and a call that is repeated gives its entry again.
-/

namespace ProcedureAtlas

set_option autoImplicit false

/-! ## Calls -/

namespace Call

def called (call : Call) : Identity :=
  ⟨call.schema.getD Identifier.defaultSchema, call.name⟩

/-- The name of a call, and its schema if one is written, are names. -/
def IsNamed (call : Call) : Prop :=
  IsName call.name ∧ ∀ schema, call.schema = some schema → IsName schema

theorem IsNamed.schema {call : Call} (named : call.IsNamed) : IsName call.called.schema := by
  unfold called
  cases given : call.schema with
  | none => exact isName_defaultSchema
  | some schema => exact named.2 schema given

theorem IsNamed.bared {call : Call} (named : call.IsNamed) : call.called.bared = call.called := by
  unfold Identity.bared
  rw [named.schema.bare_eq]
  exact congrArg (Identity.mk call.called.schema) named.1.bare_eq

theorem IsNamed.identity {call : Call} (named : call.IsNamed) :
    (Reference.ofCall call).identity = .ok call.called :=
  Identity.ofOptional_of_isName named.2 named.1

theorem ofScript_ascends (script : Text) :
    (ofScript script).Pairwise fun earlier later => earlier.offset < later.offset :=
  List.pairwise_map.mpr
    (CallMatch.scanFrom_covers (Comments.ofText script) 0 .nothing script).ascends

end Call

/-! ## Gathering edges -/

namespace Catalog

variable {catalog : Catalog}

/-- The failure of a lookup by identity, if it fails. -/
def ambiguity? (catalog : Catalog) (identity : Identity) : Option CatalogFailure :=
  match catalog.namesakes identity with
  | first :: second :: others =>
      some (.ambiguousProcedure (catalog.display first)
        ((first :: second :: others).map fun entry => (catalog.record entry).label))
  | _ => none

theorem ambiguity?_eq_none_iff {identity : Identity} :
    catalog.ambiguity? identity = none ↔ ¬catalog.IsDoubled identity := by
  rw [isDoubled_iff]
  unfold ambiguity?
  match catalog.namesakes identity with
  | [] => simp
  | [entry] => simp
  | first :: second :: others => simp

theorem ambiguity?_eq_some_iff {identity : Identity} {failure : CatalogFailure} :
    catalog.ambiguity? identity = some failure ↔ catalog.IsDoubled identity ∧
      ∃ first, (catalog.namesakes identity).head? = some first ∧
        failure = .ambiguousProcedure (catalog.display first)
          ((catalog.namesakes identity).map fun entry => (catalog.record entry).label) := by
  rw [isDoubled_iff]
  unfold ambiguity?
  match catalog.namesakes identity with
  | [] => simp
  | [entry] => simp
  | first :: second :: others => simp [eq_comm]

theorem only_eq_ambiguity? (identity : Identity) :
    catalog.only (catalog.namesakes identity) =
      (catalog.ambiguity? identity).elim (.ok (catalog.namesakes identity).head?) .error := by
  unfold ambiguity?
  match catalog.namesakes identity with
  | [] => rfl
  | [entry] => rfl
  | first :: second :: others => rfl

theorem lookupIdentity_called {call : Call} (named : call.IsNamed) :
    catalog.lookupIdentity call.called =
      (catalog.ambiguity? call.called).elim
        (.ok (catalog.namesakes call.called).head?) .error := by
  rw [lookupIdentity_eq, named.bared, only_eq_ambiguity?]

theorem toList_head?_namesakes {identity : Identity} (alone : catalog.ambiguity? identity = none) :
    (catalog.namesakes identity).head?.toList = catalog.namesakes identity := by
  rw [ambiguity?_eq_none_iff, isDoubled_iff] at alone
  match found : catalog.namesakes identity with
  | [] => rfl
  | [entry] => rfl
  | first :: second :: others =>
      rw [found] at alone
      simp at alone

/-- The first ambiguous call ends the gathering, and without one each call gives what it names. -/
theorem edgesOf_calls (label : Text) {calls : List Call} (named : ∀ call ∈ calls, call.IsNamed) :
    catalog.edgesOf label (calls.map Reference.ofCall) =
      (calls.findSome? fun call => catalog.ambiguity? call.called).elim
        (.ok (calls.flatMap fun call => catalog.namesakes call.called)) .error := by
  induction calls with
  | nil => rfl
  | cons call calls ih =>
      have first := named call List.mem_cons_self
      have others : ∀ later ∈ calls, later.IsNamed := by
        intro later member
        exact named later (List.mem_cons_of_mem call member)
      rw [List.map_cons, edgesOf_cons label first.identity, lookupIdentity_called first, ih others,
        List.findSome?_cons, List.flatMap_cons]
      cases ambiguity : catalog.ambiguity? call.called with
      | some failure => rfl
      | none =>
          cases calls.findSome? fun call => catalog.ambiguity? call.called with
          | some failure => rfl
          | none =>
              change Except.ok (_ ++ _) = Except.ok _
              rw [toList_head?_namesakes ambiguity]

private theorem elim_eq_ok_iff {Value : Type} {failure : Option CatalogFailure}
    {value other : Value} :
    failure.elim (.ok value) .error = (.ok other : Except CatalogFailure Value) ↔
      failure = none ∧ value = other := by
  cases failure with
  | none => simp
  | some failure => simp

private theorem elim_eq_error_iff {Value : Type} {failure : Option CatalogFailure}
    {value : Value} {other : CatalogFailure} :
    failure.elim (.ok value) .error = (.error other : Except CatalogFailure Value) ↔
      failure = some other := by
  cases failure with
  | none => simp
  | some failure => simp

theorem edges_eq (catalog : Catalog) (entry : catalog.Entry) :
    catalog.edges entry =
      ((Call.ofScript (catalog.record entry).text).findSome? fun call =>
        catalog.ambiguity? call.called).elim
        (.ok ((Call.ofScript (catalog.record entry).text).flatMap fun call =>
          catalog.namesakes call.called)) .error := by
  unfold edges
  rw [(catalog.record entry).references_eq]
  exact edgesOf_calls _ fun call => Call.isName_of_script

/-- The edges of an entry are its calls in the order of their offsets, each replaced by the entry
whose identity it names, or left out where no entry has it. They are told exactly when no call names
an identity of several entries. Otherwise the first call that does is told as an ambiguity, with the
labels of all entries that have its identity in their order. -/
theorem edges_are_the_resolved_calls (catalog : Catalog) (entry : catalog.Entry) :
    ((Call.ofScript (catalog.record entry).text).Pairwise fun earlier later =>
      earlier.offset < later.offset) ∧
    (∀ targets, catalog.edges entry = .ok targets ↔
      (∀ call ∈ Call.ofScript (catalog.record entry).text, ¬catalog.IsDoubled call.called) ∧
        targets = (Call.ofScript (catalog.record entry).text).flatMap fun call =>
          catalog.namesakes call.called) ∧
    ∀ failure, catalog.edges entry = .error failure ↔
      ∃ before call after first,
        Call.ofScript (catalog.record entry).text = before ++ call :: after ∧
        (∀ earlier ∈ before, ¬catalog.IsDoubled earlier.called) ∧
        catalog.IsDoubled call.called ∧
        (catalog.namesakes call.called).head? = some first ∧
        failure = .ambiguousProcedure (catalog.display first)
          ((catalog.namesakes call.called).map fun other => (catalog.record other).label) := by
  refine ⟨Call.ofScript_ascends _, ?_, ?_⟩
  · intro targets
    rw [edges_eq, elim_eq_ok_iff, List.findSome?_eq_none_iff, eq_comm (a := targets)]
    simp only [ambiguity?_eq_none_iff]
  · intro failure
    rw [edges_eq, elim_eq_error_iff, List.findSome?_eq_some_iff]
    simp only [ambiguity?_eq_none_iff, ambiguity?_eq_some_iff]
    constructor
    · rintro ⟨before, call, after, split, ⟨doubled, first, head, told⟩, earlier⟩
      exact ⟨before, call, after, first, split, earlier, doubled, head, told⟩
    · rintro ⟨before, call, after, first, split, earlier, doubled, head, told⟩
      exact ⟨before, call, after, split, ⟨doubled, first, head, told⟩, earlier⟩

end Catalog

end ProcedureAtlas
