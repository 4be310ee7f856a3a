import ProcedureAtlas.Proofs.Mapping

/-!
# What a printed tree shows

A tree does not go down again at a name that is on its route. It still shows everything: a printed
tree has a plain line for the start and for each entry within reach, and for nothing else. Where it
marks a cycle, the marked entry stands on the route, and so on a plain line further up.
-/

namespace ProcedureAtlas

set_option autoImplicit false

variable {catalog : Catalog}

namespace Catalog

open Relation

/-! ## Routes back to a name -/

/-- Whatever is reached was the answer of a lookup, and its only one. -/
theorem alone_of_reach {start target : catalog.Entry}
    (reach : TransGen catalog.Calls start target) :
    ∃ name schema, catalog.candidates name schema = [target] := by
  have lastCall : ∃ caller, catalog.Calls caller target := by
    cases reach with
    | single called => exact ⟨start, called⟩
    | tail _ called => exact ⟨_, called⟩
  obtain ⟨caller, called⟩ := lastCall
  obtain ⟨targets, told, member⟩ := calls_iff.mp called
  exact candidates_of_mem_edges told member

/-- A target whose name stands on the route that leads to it stands there itself. -/
theorem mem_route_of_repeated {start target : catalog.Entry} {indices : List Nat}
    {route : List catalog.Entry} (followed : catalog.follow start indices = some (route ++ [target]))
    (repeated : catalog.display target ∈ catalog.names route) : target ∈ route := by
  obtain ⟨earlier, member, same⟩ := List.mem_map.mp repeated
  obtain ⟨name, schema, alone⟩ := alone_of_reach (follow_reaches followed target (by simp))
  rwa [← eq_of_display_eq alone same]

/-- The entry of a cycle stands on the route that leads to it, where it was not yet repeated. -/
theorem exists_plain_above {start : catalog.Entry} {indices : List Nat} {event : Event catalog}
    (listed : catalog.Listed start indices event) (cycle : event.isCycle = true) :
    ∃ place depth, place < indices ∧ catalog.Listed start place ⟨depth, event.entry, false⟩ := by
  cases listed with
  | start => cases cycle
  | plain => cases cycle
  | @cycle indices route target followed distinct repeated =>
      have member := mem_route_of_repeated followed repeated
      obtain ⟨front, back, split⟩ := List.append_of_mem member
      rw [split] at followed distinct
      have shortened : catalog.follow start (indices.take (front.length + 1)) =
          some (front ++ [target]) := by
        rw [follow_take followed]
        simp [List.take_append]
      have fewer : (catalog.names (front ++ [target])).Nodup := by
        have shorter : (front ++ [target]).Sublist (front ++ target :: back) :=
          List.Sublist.append_left (by simp) front
        exact distinct.sublist (shorter.map catalog.display)
      have above : indices.take (front.length + 1) < indices := by
        have length := follow_length followed
        have rest : 0 < (indices.drop (front.length + 1)).length := by
          simp only [List.length_append, List.length_cons, List.length_nil] at length
          rw [List.length_drop]
          omega
        obtain ⟨next, later, remaining⟩ := List.exists_cons_of_length_pos rest
        conv_rhs => rw [← List.take_append_drop (front.length + 1) indices, remaining]
        conv_lhs => rw [← List.append_nil (indices.take (front.length + 1))]
        exact List.Lex.append_left (· < ·) (List.nil_lt_cons next later) _
      exact ⟨_, _, above, .plain shortened fewer⟩

theorem IsOutline.mem_before {start : catalog.Entry}
    {before after : List (List Nat × Event catalog)} {last place : List Nat × Event catalog}
    (outline : catalog.IsOutline start (before ++ last :: after))
    (member : place ∈ before ++ last :: after) (less : place.1 < last.1) : place ∈ before := by
  have ascends := outline.ascends
  rw [List.map_append, List.map_cons, List.pairwise_append, List.pairwise_cons] at ascends
  rcases List.mem_append.mp member with earlier | rest
  · exact earlier
  · rcases List.mem_cons.mp rest with equal | later
    · rw [equal] at less
      exact absurd less (List.lt_irrefl _)
    · have order := ascends.2.1.1 place.1 (List.mem_map_of_mem later)
      exact absurd order (List.lt_asymm less)

/-! ## Trees -/

section Finished

variable {start : catalog.Entry} (finished : (catalog.walk start).failure = none)

include finished

theorem events_of_finished :
    (catalog.walk start).events = (catalog.outline 0 [] start).map Prod.snd := by
  rw [walk_eq_play, Walk.play_failure_eq_none_iff] at finished
  rw [walk_eq_play, Walk.play_of_no_obstacle finished]

theorem mem_events_of_listed {indices : List Nat} {event : Event catalog}
    (listed : catalog.Listed start indices event) : event ∈ (catalog.walk start).events := by
  rw [events_of_finished finished]
  have place : (indices, event) ∈ catalog.outline 0 [] start :=
    mem_outline.mpr (listed_iff_shown.mp listed)
  exact List.mem_map_of_mem place

theorem plain_entries_eq :
    {entry | ∃ depth, ⟨depth, entry, false⟩ ∈ (catalog.walk start).events} =
      insert start (catalog.within start) := by
  ext entry
  have reached : entry ∈ insert start (catalog.within start) ↔
      ReflTransGen catalog.Calls start entry := by
    rw [reflTransGen_iff_eq_or_transGen]
    exact Iff.rfl
  rw [reached]
  constructor
  · intro shown
    obtain ⟨depth, member⟩ := shown
    obtain ⟨indices, listed⟩ := listed_of_walk_event member
    exact reach_of_listed listed
  · intro reach
    obtain ⟨indices, depth, listed⟩ := listed_of_reach reach
    exact ⟨depth, mem_events_of_listed finished listed⟩

theorem exists_plain_before {before after : List (Event catalog)} {event : Event catalog}
    (split : (catalog.walk start).events = before ++ event :: after)
    (cycle : event.isCycle = true) : ∃ depth, ⟨depth, event.entry, false⟩ ∈ before := by
  rw [events_of_finished finished] at split
  obtain ⟨front, rest, whole, rfl, tail⟩ := List.map_eq_append_iff.mp split
  obtain ⟨last, back, rfl, rfl, rfl⟩ := List.map_eq_cons_iff.mp tail
  have outline := outline_isOutline start
  rw [whole] at outline
  have listed := (outline.complete last.1 last.2).mp (by simp)
  obtain ⟨place, depth, less, plain⟩ := exists_plain_above listed cycle
  have member := (outline.complete place _).mpr plain
  exact ⟨depth, List.mem_map_of_mem (outline.mem_before member less)⟩

end Finished

end Catalog

namespace Printer

theorem finished_of_print {printer : Printer} {start : catalog.Entry} {count : Nat}
    (success : (printer.print catalog start).2 = .ok count) :
    (catalog.walk start).failure = none := by
  rw [print_result] at success
  cases stopped : (catalog.walk start).failure with
  | none => rfl
  | some failure =>
      rw [stopped] at success
      cases success

/-- A tree that prints without failure shows the start and every entry within reach on a plain line,
and no other entry; and it shows an entry plain before it marks it. -/
theorem tree_shows_reach (catalog : Catalog) (printer : Printer) (start : catalog.Entry)
    (count : Nat) (success : (printer.print catalog start).2 = .ok count) :
    (printer.print catalog start).1.printed =
        printer.printed ++ (catalog.walk start).events.map (Event.line printer.style) ∧
      {entry | ∃ depth, ⟨depth, entry, false⟩ ∈ (catalog.walk start).events} =
        insert start (catalog.within start) ∧
      ∀ before event after, (catalog.walk start).events = before ++ event :: after →
        event.isCycle = true → ∃ depth, ⟨depth, event.entry, false⟩ ∈ before := by
  have finished := finished_of_print success
  refine ⟨print_lines printer start, Catalog.plain_entries_eq finished, ?_⟩
  intro before event after split cycle
  exact Catalog.exists_plain_before finished split cycle

/-- Calls the one that calls it back. -/
private def opener : Record where
  identity := ⟨Identifier.defaultSchema, ['A']⟩
  label := ['a']
  text := "CREATE PROC A AS EXEC B".toList
  references := [⟨none, ['B']⟩]
  identity_eq := by decide +kernel
  references_eq := by decide +kernel

private def closer : Record where
  identity := ⟨Identifier.defaultSchema, ['B']⟩
  label := ['b']
  text := "CREATE PROC B AS EXEC A".toList
  references := [⟨none, ['A']⟩]
  identity_eq := by decide +kernel
  references_eq := by decide +kernel

private def bystander : Record where
  identity := ⟨Identifier.defaultSchema, ['C']⟩
  label := ['c']
  text := "CREATE PROC C AS EXEC A".toList
  references := [⟨none, ['A']⟩]
  identity_eq := by decide +kernel
  references_eq := by decide +kernel

private def circle : Catalog :=
  .ofRecords .strict [] [opener, closer, bystander]

theorem circle_shows_reach :
    ∃ count, (Printer.print ⟨{}, [], 0⟩ circle ⟨0, by decide⟩).2 = .ok count ∧
      {entry | ∃ depth, ⟨depth, entry, false⟩ ∈ (circle.walk ⟨0, by decide⟩).events} =
        insert ⟨0, by decide⟩ (circle.within ⟨0, by decide⟩) ∧
      ∀ before event after, (circle.walk ⟨0, by decide⟩).events = before ++ event :: after →
        event.isCycle = true → ∃ depth, ⟨depth, event.entry, false⟩ ∈ before := by
  have told : ∀ entry : circle.Entry, (circle.edges entry).isOk := by decide +kernel
  have success := @print_result circle ⟨{}, [], 0⟩ ⟨0, by decide⟩
  rw [Catalog.walk_failure_of_told told] at success
  exact ⟨_, success, (tree_shows_reach circle ⟨{}, [], 0⟩ ⟨0, by decide⟩ _ success).2⟩

end Printer

end ProcedureAtlas
