import ProcedureAtlas.Proofs.Lookup
import ProcedureAtlas.Proofs.Reach

/-!
# How a mapping ends

A walk goes down only where the name is new to its route. It loses nothing by that: every entry
within reach stands at the end of a route without a repeated name, because no two targets share a
name and a route that comes back to one can be cut short there. So a walk fails exactly when some
entry within reach has edges that cannot be told.

A mapping looks its start up and prints the walk. What it has printed when it fails is the outline
up to the first entry that could not be entered, and nothing below that entry.
-/

namespace ProcedureAtlas.Catalog

set_option autoImplicit false

open Relation

variable {catalog : Catalog}

/-! ## Routes -/

theorem follow_append {entry : catalog.Entry} {front : List Nat} {route : List catalog.Entry}
    (followed : catalog.follow entry front = some route) (back : List Nat) :
    catalog.follow entry (front ++ back) =
      (catalog.follow (route.getLastD entry) back).map (route ++ ·) := by
  induction front generalizing entry route with
  | nil =>
      obtain rfl : [] = route := Option.some.inj followed
      simp
  | cons index front ih =>
      obtain ⟨target, rest, found, below, rfl⟩ := follow_cons.mp followed
      rw [List.cons_append, follow, found, List.getLastD_cons]
      change (catalog.follow target (front ++ back)).map _ = _
      rw [ih below, Option.map_map]
      rfl

theorem follow_take {entry : catalog.Entry} {indices : List Nat} {route : List catalog.Entry}
    (followed : catalog.follow entry indices = some route) (count : Nat) :
    catalog.follow entry (indices.take count) = some (route.take count) := by
  induction indices generalizing entry route count with
  | nil =>
      obtain rfl : [] = route := Option.some.inj followed
      rw [List.take_nil, List.take_nil]
      rfl
  | cons index indices ih =>
      obtain ⟨target, rest, found, below, rfl⟩ := follow_cons.mp followed
      cases count with
      | zero => rfl
      | succ count =>
          rw [List.take_succ_cons, List.take_succ_cons]
          exact follow_cons.mpr ⟨target, _, found, ih below count, rfl⟩

/-- Every entry within reach ends a route without a repeated name. -/
theorem simple_route_of_reach {start target : catalog.Entry}
    (reach : TransGen catalog.Calls start target) :
    ∃ indices route, catalog.follow start indices = some (route ++ [target]) ∧
      (catalog.names (route ++ [target])).Nodup := by
  induction reach with
  | single called =>
      obtain ⟨index, found⟩ := List.getElem?_of_mem called
      exact ⟨[index], [], follow_cons.mpr ⟨_, [], found, rfl, rfl⟩, List.nodup_singleton _⟩
  | @tail caller target reach called ih =>
      obtain ⟨indices, route, followed, distinct⟩ := ih
      by_cases met : catalog.display target ∈ catalog.names (route ++ [caller])
      · -- The name is taken, so the target itself is on the route: cut the route there.
        obtain ⟨earlier, member, same⟩ := List.mem_map.mp met
        obtain ⟨targets, told, inside⟩ := calls_iff.mp called
        obtain ⟨name, schema, alone⟩ := candidates_of_mem_edges told inside
        obtain rfl : earlier = target := eq_of_display_eq alone same
        obtain ⟨front, back, split⟩ := List.append_of_mem member
        rw [split] at followed distinct
        refine ⟨indices.take (front.length + 1), front, ?_, ?_⟩
        · rw [follow_take followed]
          simp [List.take_append]
        · have shorter : (front ++ [earlier]).Sublist (front ++ earlier :: back) :=
            List.Sublist.append_left (by simp) front
          exact distinct.sublist (shorter.map catalog.display)
      · -- The name is new, so the route goes on by one edge.
        obtain ⟨index, found⟩ := List.getElem?_of_mem called
        refine ⟨indices ++ [index], route ++ [caller], ?_, ?_⟩
        · have last : catalog.follow caller [index] = some [target] :=
            follow_cons.mpr ⟨target, [], found, rfl, rfl⟩
          rw [follow_append followed, List.getLastD_concat, last]
          rfl
        · rw [names, List.map_append, List.map_singleton, List.nodup_append]
          refine ⟨distinct, List.nodup_singleton _, ?_⟩
          intro name member other last equal
          rw [List.mem_singleton.mp last] at equal
          exact met (equal ▸ member)

theorem listed_of_reach {start entry : catalog.Entry}
    (reach : ReflTransGen catalog.Calls start entry) :
    ∃ indices depth, catalog.Listed start indices ⟨depth, entry, false⟩ := by
  rcases reflTransGen_iff_eq_or_transGen.mp reach with rfl | chain
  · exact ⟨[], 0, .start⟩
  · obtain ⟨indices, route, followed, distinct⟩ := simple_route_of_reach chain
    exact ⟨indices, indices.length, .plain followed distinct⟩

theorem reach_of_listed {start : catalog.Entry} {indices : List Nat} {event : Event catalog}
    (listed : catalog.Listed start indices event) :
    ReflTransGen catalog.Calls start event.entry := by
  cases listed with
  | start => exact .refl
  | plain followed => exact (follow_reaches followed _ (by simp)).to_reflTransGen
  | cycle followed => exact (follow_reaches followed _ (by simp)).to_reflTransGen

/-- The edges of every entry within reach, the start included, can be told. -/
def AllTold (catalog : Catalog) (start : catalog.Entry) : Prop :=
  ∀ entry, ReflTransGen catalog.Calls start entry → ∃ targets, catalog.edges entry = .ok targets

theorem walk_failure_eq_none_iff (start : catalog.Entry) :
    (catalog.walk start).failure = none ↔ catalog.AllTold start := by
  rw [walk_eq_play, Walk.play_failure_eq_none_iff]
  constructor
  · intro clear entry reach
    obtain ⟨indices, depth, listed⟩ := listed_of_reach reach
    have place := mem_outline.mpr (listed_iff_shown.mp listed)
    have free := clear _ (List.mem_map.mpr ⟨_, place, rfl⟩)
    cases told : catalog.edges entry with
    | ok targets => exact ⟨targets, rfl⟩
    | error failure =>
        rw [Event.obstacle_eq_some.mpr ⟨rfl, told⟩] at free
        cases free
  · intro told event member
    obtain ⟨⟨indices, _⟩, place, rfl⟩ := List.mem_map.mp member
    have reach := reach_of_listed (listed_iff_shown.mpr (mem_outline.mp place))
    obtain ⟨targets, known⟩ := told _ reach
    cases blocked : Event.obstacle _ with
    | none => rfl
    | some failure =>
        rw [(Event.obstacle_eq_some.mp blocked).2] at known
        cases known

/-! ## Mappings -/

theorem map_of_candidate {style : Style} {schema name : Text} {start : catalog.Entry}
    (alone : catalog.candidates name schema = [start]) :
    catalog.map style schema name =
      ⟨(catalog.walk start).lines style,
        match (catalog.walk start).failure with
        | some failure => .error failure
        | none => .ok (.mapped ((catalog.walk start).lines style).length)⟩ := by
  have found : catalog.lookup name schema = .ok (some start) := by
    rw [lookup_eq, alone]
    rfl
  rw [map, found]
  simp only [Printer.print_eq, Walk.lines, List.length_map]
  cases (catalog.walk start).failure <;> rfl

/-- The mapping from `start` stopped with the failure of the first entry, in the order of the
places, whose edges cannot be told. The line of that entry is the last one printed. -/
structure CutShort (catalog : Catalog) (start : catalog.Entry) (style : Style) (mapping : Mapping)
    (before : List (List Nat × Event catalog)) (last : List Nat × Event catalog)
    (after : List (List Nat × Event catalog)) (failure : CatalogFailure) : Prop where
  places : catalog.IsOutline start (before ++ last :: after)
  entered : ∀ place ∈ before, place.2.isCycle = false →
    ∃ targets, catalog.edges place.2.entry = .ok targets
  plain : last.2.isCycle = false
  untold : catalog.edges last.2.entry = .error failure
  outcome : mapping.outcome = .error failure
  lines : mapping.lines = (before ++ [last]).map fun place => place.2.line style

theorem cutShort_of_failure {style : Style} {schema name : Text} {start : catalog.Entry}
    (alone : catalog.candidates name schema = [start])
    (failed : (catalog.walk start).failure ≠ none) :
    ∃ before last after failure,
      catalog.CutShort start style (catalog.map style schema name) before last after failure := by
  rw [map_of_candidate alone]
  rw [walk_eq_play] at failed ⊢
  rcases Walk.first_obstacle ((catalog.outline 0 [] start).map Prod.snd) with
    clear | ⟨front, stop, back, failure, split, clear, blocked⟩
  · exact absurd (Walk.play_failure_eq_none_iff.mpr clear) failed
  · obtain ⟨before, rest, whole, rfl, tail⟩ := List.map_eq_append_iff.mp split
    obtain ⟨last, after, rfl, rfl, rfl⟩ := List.map_eq_cons_iff.mp tail
    obtain ⟨plain, untold⟩ := Event.obstacle_eq_some.mp blocked
    rw [split, Walk.play_of_obstacle clear blocked]
    refine ⟨before, last, after, failure, ?_, ?_, plain, untold, rfl, ?_⟩
    · rw [← whole]
      exact outline_isOutline start
    · intro place member entered
      cases told : catalog.edges place.2.entry with
      | ok targets => exact ⟨targets, rfl⟩
      | error other =>
          have free := clear place.2 (List.mem_map.mpr ⟨place, member, rfl⟩)
          rw [Event.obstacle_eq_some.mpr ⟨entered, told⟩] at free
          cases free
    · simp [Walk.lines]

/-- How a mapping ends, by the number of entries that match its name and schema. From a single entry
it prints the whole walk and counts its lines when all edges within reach can be told, and is cut
short when not. -/
theorem map_ends (catalog : Catalog) (style : Style) (schema name : Text) :
    match catalog.candidates name schema with
    | [] => catalog.map style schema name = ⟨[], .ok .notFound⟩
    | [start] =>
        (catalog.AllTold start ∧ (catalog.map style schema name).outcome =
          .ok (.mapped (catalog.map style schema name).lines.length)) ∨
        (¬catalog.AllTold start ∧ ∃ before last after failure,
          catalog.CutShort start style (catalog.map style schema name) before last after failure)
    | first :: second :: others =>
        catalog.map style schema name =
          ⟨[], .error (.ambiguousProcedure (catalog.display first)
            ((first :: second :: others).map fun entry => (catalog.record entry).label))⟩ := by
  match found : catalog.candidates name schema with
  | [] =>
      change catalog.map style schema name = _
      rw [map, lookup_eq, found]
      rfl
  | first :: second :: others =>
      change catalog.map style schema name = _
      rw [map, lookup_eq, found]
      rfl
  | [start] =>
      change _ ∨ _
      rw [← walk_failure_eq_none_iff]
      by_cases finished : (catalog.walk start).failure = none
      · refine Or.inl ⟨finished, ?_⟩
        rw [map_of_candidate found, finished]
      · exact Or.inr ⟨finished, cutShort_of_failure found finished⟩

end ProcedureAtlas.Catalog
