import Mathlib.Data.Set.Card
import ProcedureAtlas.Proofs.DisplayCalls
import ProcedureAtlas.Proofs.TreeReach

/-!
# Cycles and their marks

A walk marks a cycle where a name comes back on its route. The start is not on the route until it is
reached again, so a cycle through the start is marked one turn later than any other. Still a tree
has a mark exactly when the start reaches an entry that reaches itself: going round such a cycle
makes a route that repeats a name, and the first name to be repeated on a route is marked.

Where there is no cycle every route has its own line, so the lines count the routes.
-/

namespace ProcedureAtlas

set_option autoImplicit false

open Relation

variable {catalog : Catalog}

namespace Catalog

/-- Some entry within reach, the start included, is called by a chain of calls from itself. -/
def MeetsCycle (catalog : Catalog) (start : catalog.Entry) : Prop :=
  ∃ entry, ReflTransGen catalog.Calls start entry ∧ TransGen catalog.Calls entry entry

/-- The routes from an entry, each told by the indices of its edges. A route may repeat entries, and
two edges to one entry make two routes. -/
def routes (catalog : Catalog) (start : catalog.Entry) : Set (List Nat) :=
  {indices | ∃ route, catalog.follow start indices = some route}

/-! ## Going round -/

theorem follow_drop {entry target : catalog.Entry} {indices : List Nat}
    {front back : List catalog.Entry}
    (followed : catalog.follow entry indices = some (front ++ target :: back)) :
    catalog.follow target (indices.drop (front.length + 1)) = some back := by
  have reached : catalog.follow entry (indices.take (front.length + 1)) =
      some (front ++ [target]) := by
    rw [follow_take followed]
    simp [List.take_append]
  have whole := follow_append reached (indices.drop (front.length + 1))
  rw [List.take_append_drop, followed, List.getLastD_concat] at whole
  obtain ⟨rest, below, same⟩ := Option.map_eq_some_iff.mp whole.symm
  rw [List.append_assoc, List.singleton_append] at same
  rw [below, (List.cons.inj (List.append_cancel_left same)).2]

theorem reach_self_of_cycle {start : catalog.Entry} {indices : List Nat} {event : Event catalog}
    (listed : catalog.Listed start indices event) (cycle : event.isCycle = true) :
    TransGen catalog.Calls event.entry event.entry := by
  cases listed with
  | start => cases cycle
  | plain => cases cycle
  | @cycle indices route target followed distinct repeated =>
      obtain ⟨front, back, rfl⟩ := List.append_of_mem (mem_route_of_repeated followed repeated)
      rw [List.append_assoc] at followed
      exact follow_reaches (follow_drop followed) target (by simp)

/-- The first name that a route repeats is marked. -/
theorem exists_cycle_of_repeated {start : catalog.Entry} {indices : List Nat}
    {route : List catalog.Entry} (followed : catalog.follow start indices = some route)
    (repeated : ¬(catalog.names route).Nodup) :
    ∃ place event, catalog.Listed start place event ∧ event.isCycle = true := by
  induction indices using List.reverseRecOn generalizing route with
  | nil =>
      obtain rfl : [] = route := Option.some.inj followed
      exact absurd List.nodup_nil repeated
  | append_singleton indices index ih =>
      have length := follow_length followed
      obtain ⟨front, target, rfl⟩ : ∃ front target, route = front ++ [target] := by
        rcases List.eq_nil_or_concat route with rfl | split
        · simp at length
        · simpa using split
      have shorter : catalog.follow start indices = some front := by
        have taken := follow_take followed indices.length
        simp only [List.length_append, List.length_singleton, Nat.add_right_cancel_iff] at length
        rwa [List.take_left, ← length, List.take_left] at taken
      by_cases distinct : (catalog.names front).Nodup
      · refine ⟨_, _, .cycle followed distinct ?_, rfl⟩
        by_contra fresh
        apply repeated
        rw [names, List.map_append, List.map_singleton, ← List.concat_eq_append]
        exact List.Nodup.concat fresh distinct
      · exact ih shorter distinct

/-- A cycle within reach is gone round on a route that comes to one entry twice. -/
theorem exists_cycle_of_meetsCycle {start : catalog.Entry} (meets : catalog.MeetsCycle start) :
    ∃ place event, catalog.Listed start place event ∧ event.isCycle = true := by
  obtain ⟨entry, reach, round⟩ := meets
  obtain ⟨down, above, toEntry, -⟩ := simple_route_of_reach (TransGen.trans_right reach round)
  obtain ⟨around, between, back, -⟩ := simple_route_of_reach round
  have twice : catalog.follow start (down ++ around) =
      some ((above ++ [entry]) ++ (between ++ [entry])) := by
    rw [follow_append toEntry, List.getLastD_concat, back]
    rfl
  apply exists_cycle_of_repeated twice
  intro distinct
  have apart := List.disjoint_of_nodup_append (List.Nodup.of_map catalog.display distinct)
  exact apart (by simp : entry ∈ above ++ [entry]) (by simp)

theorem exists_cycle_iff (start : catalog.Entry) :
    (∃ place event, catalog.Listed start place event ∧ event.isCycle = true) ↔
      catalog.MeetsCycle start := by
  constructor
  · rintro ⟨place, event, listed, cycle⟩
    exact ⟨event.entry, reach_of_listed listed, reach_self_of_cycle listed cycle⟩
  · exact exists_cycle_of_meetsCycle

/-! ## Counting routes -/

/-- Without a cycle every route has a place in the outline. -/
theorem mem_routes_iff {start : catalog.Entry} (acyclic : ¬catalog.MeetsCycle start)
    {indices : List Nat} :
    indices ∈ catalog.routes start ↔ indices ∈ (catalog.outline 0 [] start).map Prod.fst := by
  constructor
  · rintro ⟨route, followed⟩
    have distinct : (catalog.names route).Nodup := by
      by_contra repeated
      exact acyclic ((exists_cycle_iff start).mp (exists_cycle_of_repeated followed repeated))
    obtain ⟨event, listed⟩ : ∃ event, catalog.Listed start indices event := by
      rcases List.eq_nil_or_concat route with rfl | ⟨front, target, rfl⟩
      · obtain rfl : indices = [] := List.length_eq_zero_iff.mp (follow_length followed).symm
        exact ⟨_, .start⟩
      · rw [List.concat_eq_append] at followed distinct
        exact ⟨_, .plain followed distinct⟩
    exact List.mem_map_of_mem (mem_outline.mpr (listed_iff_shown.mp listed))
  · intro member
    obtain ⟨⟨place, event⟩, shown, rfl⟩ := List.mem_map.mp member
    cases listed_iff_shown.mpr (mem_outline.mp shown) with
    | start => exact ⟨_, rfl⟩
    | plain followed => exact ⟨_, followed⟩
    | cycle followed => exact ⟨_, followed⟩

theorem encard_routes {start : catalog.Entry} (acyclic : ¬catalog.MeetsCycle start) :
    (catalog.routes start).encard = (catalog.outline 0 [] start).length := by
  have distinct : ((catalog.outline 0 [] start).map Prod.fst).Nodup :=
    (outline_ascends 0 [] start).imp fun less same => absurd (same ▸ less) (List.lt_irrefl _)
  have listed : catalog.routes start =
      (((catalog.outline 0 [] start).map Prod.fst).toFinset : Set (List Nat)) := by
    ext indices
    rw [mem_routes_iff acyclic, Finset.mem_coe, List.mem_toFinset]
  rw [listed, Set.encard_coe_eq_coe_finsetCard, List.toFinset_card_of_nodup distinct,
    List.length_map]

end Catalog

namespace Printer

theorem success_of_told (told : ∀ entry, (catalog.edges entry).isOk) (printer : Printer)
    (start : catalog.Entry) :
    (printer.print catalog start).2 = .ok (catalog.walk start).events.length := by
  rw [print_result, Catalog.walk_failure_of_told told]

/-- A tree that prints without failure has a marked line exactly when the start reaches an entry that
reaches itself, be it the start. Otherwise it has as many lines as there are routes from the
start. -/
theorem mark_iff_meetsCycle (catalog : Catalog) (printer : Printer) (start : catalog.Entry)
    (count : Nat) (success : (printer.print catalog start).2 = .ok count) :
    (printer.print catalog start).1.printed =
        printer.printed ++ (catalog.walk start).events.map (Event.line printer.style) ∧
      (catalog.walk start).events.length = count ∧
      ((∃ event ∈ (catalog.walk start).events, event.isCycle = true) ↔
        catalog.MeetsCycle start) ∧
      (¬catalog.MeetsCycle start → (catalog.routes start).encard = count) := by
  have finished := finished_of_print success
  have counted : (catalog.walk start).events.length = count := by
    rw [print_result, finished] at success
    exact Except.ok.inj success
  refine ⟨print_lines printer start, counted, ?_, ?_⟩
  · rw [← Catalog.exists_cycle_iff]
    constructor
    · rintro ⟨event, member, cycle⟩
      obtain ⟨place, listed⟩ := Catalog.listed_of_walk_event member
      exact ⟨place, event, listed, cycle⟩
    · rintro ⟨place, event, listed, cycle⟩
      exact ⟨event, Catalog.mem_events_of_listed finished listed, cycle⟩
  · intro acyclic
    rw [Catalog.encard_routes acyclic, ← counted, Catalog.events_of_finished finished,
      List.length_map]

/-- Two procedures that call each other. Their tree prints without failure. -/
theorem exists_printed_circle :
    ∃ (catalog : Catalog) (start other : catalog.Entry),
      Catalog.ofSources .strict [callerSource ['p'] ⟨['s'], ['x']⟩ ⟨['s'], ['y']⟩,
        callerSource ['q'] ⟨['s'], ['y']⟩ ⟨['s'], ['x']⟩] = .ok catalog ∧
      catalog.Calls start other ∧ catalog.Calls other start ∧
      ∀ printer : Printer,
        (printer.print catalog start).2 = .ok (catalog.walk start).events.length := by
  obtain ⟨opener, closer, built, -, -, -, -, down, up⟩ :=
    Catalog.exists_letterCircle .strict ['p'] ['q']
  let circle := Catalog.ofRecords .strict [] [opener, closer]
  have told (entry : circle.Entry) : (circle.edges entry).isOk := by
    match entry with
    | ⟨0, _⟩ => exact congrArg Except.isOk down
    | ⟨1, _⟩ => exact congrArg Except.isOk up
  refine ⟨circle, (0 : Fin 2), (1 : Fin 2), built, ?_, ?_, fun printer => success_of_told told _ _⟩
  · exact Catalog.calls_iff.mpr ⟨_, down, List.mem_cons_self⟩
  · exact Catalog.calls_iff.mpr ⟨_, up, List.mem_cons_self⟩

/-- The cycle of two procedures that call each other goes through the start. -/
theorem circle_is_marked :
    ∃ (catalog : Catalog) (start : catalog.Entry) (count : Nat),
      Catalog.ofSources .strict [callerSource ['p'] ⟨['s'], ['x']⟩ ⟨['s'], ['y']⟩,
        callerSource ['q'] ⟨['s'], ['y']⟩ ⟨['s'], ['x']⟩] = .ok catalog ∧
      (Printer.print ⟨{}, [], 0⟩ catalog start).2 = .ok count ∧ catalog.MeetsCycle start ∧
      ∃ event ∈ (catalog.walk start).events, event.isCycle = true := by
  obtain ⟨circle, start, other, built, down, up, success⟩ := exists_printed_circle
  have meets : circle.MeetsCycle start := ⟨start, .refl, .tail (.single down) up⟩
  obtain ⟨-, -, marked, -⟩ := mark_iff_meetsCycle circle ⟨{}, [], 0⟩ start _ (success _)
  exact ⟨circle, start, _, built, success _, meets, marked.mpr meets⟩

end Printer

end ProcedureAtlas
