import ProcedureAtlas.Proofs.DisplayCalls
import ProcedureAtlas.Proofs.Visits

/-!
# What the names on the stack stand for

A walk puts names on its stack and compares them letter by letter. Records are found without regard
to case, and several of them can have one name. All the same a name on the stack stands for one
entry: whatever stands there was the only entry under its key when it was looked up. A second entry
of the same name, in the same letters or in others, would have made that lookup ambiguous.

So the test for a name on the stack is a test for the entry itself. It is stated for the calls that
a walk makes, each with the route of entries that the stack names.
-/

namespace ProcedureAtlas

set_option autoImplicit false

open Relation

theorem Record.display_eq_iff (first second : Record) :
    first.display = second.display ↔
      first.identity.schema = second.identity.schema ∧
        first.identity.name = second.identity.name := by
  constructor
  · intro same
    rw [Record.identity_eq_of_display same]
    exact ⟨rfl, rfl⟩
  · intro same
    unfold Record.display Identity.display
    rw [same.1, same.2]

namespace Catalog

variable {catalog : Catalog}

/-- An entry that is the target of some references and one whose identity is the same up to case are
one entry. -/
theorem eq_of_same_identity {label : Text} {references : List Reference}
    {targets : List catalog.Entry} (told : catalog.edgesOf label references = .ok targets)
    {target other : catalog.Entry} (member : target ∈ targets)
    (same : (catalog.record other).identity.same (catalog.record target).identity = true) :
    other = target := by
  obtain ⟨name, schema, alone⟩ := candidates_of_mem_edgesOf told member
  exact eq_of_key_eq alone (Identity.isMatch_iff_key.mp same)

namespace Called

variable {start target : catalog.Entry} {count : Nat} {call : Visit catalog}
  {reached : Trail catalog}

theorem restored (called : catalog.Called start catalog.room count call)
    (comes : call.ComesTo target reached) : reached.ancestors = call.trail.ancestors :=
  (called.fits (catalog.reachCount_lt_room start)).restored comes

theorem ancestors_eq (called : catalog.Called start catalog.room count call) :
    call.trail.ancestors = catalog.names call.route := by
  induction called with
  | refl => rfl
  | tail outer makes ih =>
      obtain ⟨target, reached, comes, -, rfl⟩ := makes
      change catalog.display target :: reached.ancestors = _
      rw [restored outer comes, ih]
      rfl

/-- The name of a target is on the stack exactly when the target itself is on the route. -/
theorem contains_iff (called : catalog.Called start catalog.room count call)
    (comes : call.ComesTo target reached) :
    reached.ancestors.contains (catalog.display target) = true ↔ target ∈ call.route := by
  rw [called.restored comes, called.ancestors_eq, List.contains_iff_mem]
  constructor
  · intro named
    obtain ⟨left, earlier, later, -, told, -⟩ := comes
    have inside : target ∈ earlier ++ target :: later :=
      List.mem_append_right earlier List.mem_cons_self
    obtain ⟨name, schema, alone⟩ := candidates_of_mem_edges told inside
    obtain ⟨entry, member, same⟩ := List.mem_map.mp named
    rwa [← eq_of_display_eq alone same]
  · exact List.mem_map_of_mem

end Called

/-- Names stand for entries. Records show one name exactly when their schemas and names are the same
letter by letter. Two targets of any records, catalogued or not, that show one name are one entry,
and so are two whose identities are the same up to case. Wherever a walk looks for the name of a
target on its stack, it finds it exactly when that very target is on its route. -/
theorem names_stand_for_entries (catalog : Catalog) :
    (∀ first second : Record, first.display = second.display ↔
      first.identity.schema = second.identity.schema ∧
        first.identity.name = second.identity.name) ∧
    (∀ (caller other : Record) (targets others : List catalog.Entry),
      catalog.edgesOf caller.label caller.references = .ok targets →
      catalog.edgesOf other.label other.references = .ok others →
      ∀ target ∈ targets, ∀ another ∈ others,
        (catalog.display target = catalog.display another → target = another) ∧
        ((catalog.record target).identity.same (catalog.record another).identity = true →
          target = another)) ∧
    ∀ start count call target reached, catalog.Called start catalog.room count call →
      call.ComesTo target reached →
        (reached.ancestors.contains (catalog.display target) = true ↔ target ∈ call.route) := by
  refine ⟨Record.display_eq_iff, ?_, ?_⟩
  · intro caller other targets others told alsoTold target member another alsoMember
    constructor
    · intro shown
      obtain ⟨name, schema, alone⟩ := candidates_of_mem_edgesOf alsoTold alsoMember
      exact eq_of_display_eq alone shown
    · exact eq_of_same_identity alsoTold alsoMember
  · intro start count call target reached called comes
    exact called.contains_iff comes

/-- Two procedures call each other. The walk from the first comes to the second, from there to the
first, which is not yet on the route, and then to the second again, which is. -/
theorem circle_returns_to_second :
    ∃ (catalog : Catalog) (start other : catalog.Entry) (call : Visit catalog)
        (reached : Trail catalog),
      ofSources .strict [callerSource ['p'] ⟨['s'], ['x']⟩ ⟨['s'], ['y']⟩,
        callerSource ['q'] ⟨['s'], ['y']⟩ ⟨['s'], ['x']⟩] = .ok catalog ∧
      catalog.edges start = .ok [other] ∧ catalog.edges other = .ok [start] ∧
      (catalog.display start = catalog.display other → start = other) ∧
      catalog.Called start catalog.room 0 call ∧ call.route = [start, other] ∧
      call.ComesTo other reached ∧
      reached.ancestors.contains (catalog.display other) = true := by
  obtain ⟨opener, closer, built, -, -, -, -, down, up⟩ := exists_letterCircle .strict ['p'] ['q']
  let circle := ofRecords .strict [] [opener, closer]
  obtain ⟨-, targets, tests⟩ := names_stand_for_entries circle
  have comes {call : Visit circle} {left : Nat} {target : circle.Entry}
      (room : call.room = left + 1) (told : circle.edges call.entry = .ok [target]) :
      call.ComesTo target (call.trail.note ⟨call.depth, call.entry, false⟩) :=
    ⟨left, [], [], room, told, rfl⟩
  let atStart : Visit circle := .first (0 : Fin 2) circle.room 0
  let atSecond := atStart.deeper (1 : Fin 2) (atStart.trail.note ⟨0, (0 : Fin 2), false⟩)
  let atFirst := atSecond.deeper (0 : Fin 2) (atSecond.trail.note ⟨1, (1 : Fin 2), false⟩)
  have secondCalled : circle.Called (0 : Fin 2) circle.room 0 atSecond :=
    .tail .refl ⟨_, _, @comes atStart 2 _ rfl down, rfl, rfl⟩
  have unmet : (0 : Fin 2) ∉ [(1 : Fin 2)] := by decide
  have fresh := (tests _ _ _ _ _ secondCalled (@comes atSecond 1 _ rfl up)).not.mpr unmet
  have firstCalled : circle.Called (0 : Fin 2) circle.room 0 atFirst :=
    secondCalled.tail ⟨_, _, @comes atSecond 1 _ rfl up, Bool.eq_false_of_not_eq_true fresh, rfl⟩
  have met := (tests _ _ _ _ _ firstCalled (@comes atFirst 0 _ rfl down)).mpr
    (List.mem_cons_of_mem _ List.mem_cons_self)
  have told := targets closer opener [(0 : Fin 2)] [(1 : Fin 2)] up down _ List.mem_cons_self _
    List.mem_cons_self
  exact ⟨circle, (0 : Fin 2), (1 : Fin 2), atFirst, _, built, down, up, told.1, firstCalled, rfl,
    @comes atFirst 0 _ rfl down, met⟩

end Catalog

end ProcedureAtlas
