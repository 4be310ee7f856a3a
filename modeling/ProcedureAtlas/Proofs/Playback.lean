import ProcedureAtlas.Proofs.Outline

/-!
# A walk plays back the outline

The events of an outline are played one after the other. A plain event enters its entry, and an
entry whose edges cannot be told ends the play with that failure; a cycle enters nothing. The visits
of a walk, with their one stack, do exactly this to the outline of their start.

So a walk that does not fail prints one line for each listed place and no other, in the order of the
places.
-/

namespace ProcedureAtlas

set_option autoImplicit false

variable {catalog : Catalog}

/-- The failure that entering the entry of an event meets. -/
def Event.obstacle (event : Event catalog) : Option CatalogFailure :=
  if event.isCycle then
    none
  else
    match catalog.edges event.entry with
    | .error failure => some failure
    | .ok _ => none

theorem Event.obstacle_eq_some {event : Event catalog} {failure : CatalogFailure} :
    event.obstacle = some failure ↔
      event.isCycle = false ∧ catalog.edges event.entry = .error failure := by
  rw [obstacle]
  cases event.isCycle with
  | true => simp
  | false => cases catalog.edges event.entry <;> simp

namespace Walk

def play : List (Event catalog) → Walk catalog
  | [] => ⟨[], none⟩
  | event :: events =>
      match event.obstacle with
      | some failure => ⟨[event], some failure⟩
      | none => ⟨event :: (play events).events, (play events).failure⟩

def outcome (walk : Walk catalog) : Except CatalogFailure Unit :=
  match walk.failure with
  | some failure => .error failure
  | none => .ok ()

/-- The second walk behind the first, unless the first fails. -/
def andThen (first second : Walk catalog) : Walk catalog :=
  match first.failure with
  | some _ => first
  | none => ⟨first.events ++ second.events, second.failure⟩

theorem play_append (front back : List (Event catalog)) :
    play (front ++ back) = (play front).andThen (play back) := by
  induction front with
  | nil => rfl
  | cons event front ih =>
      rw [List.cons_append, play, play, ih, andThen, andThen]
      cases event.obstacle with
      | some failure => rfl
      | none => rcases play front with ⟨events, _ | failure⟩ <;> rfl

theorem play_of_no_obstacle {events : List (Event catalog)}
    (clear : ∀ event ∈ events, event.obstacle = none) : play events = ⟨events, none⟩ := by
  induction events with
  | nil => rfl
  | cons event events ih =>
      rw [play, clear event List.mem_cons_self]
      rw [ih fun later member => clear later (List.mem_cons_of_mem event member)]

theorem play_of_obstacle {front back : List (Event catalog)} {last : Event catalog}
    {failure : CatalogFailure} (clear : ∀ event ∈ front, event.obstacle = none)
    (blocked : last.obstacle = some failure) :
    play (front ++ last :: back) = ⟨front ++ [last], some failure⟩ := by
  rw [play_append, play_of_no_obstacle clear, play, blocked]
  rfl

/-- Either nothing stops the play, or a first obstacle does. -/
theorem first_obstacle (events : List (Event catalog)) :
    (∀ event ∈ events, event.obstacle = none) ∨
      ∃ front last back failure, events = front ++ last :: back ∧
        (∀ event ∈ front, event.obstacle = none) ∧ last.obstacle = some failure := by
  induction events with
  | nil => exact Or.inl (by simp)
  | cons event events ih =>
      cases blocked : event.obstacle with
      | some failure => exact Or.inr ⟨[], event, events, failure, rfl, by simp, blocked⟩
      | none =>
          rcases ih with clear | ⟨front, last, back, failure, rfl, clear, stopped⟩
          · exact Or.inl (List.forall_mem_cons.mpr ⟨blocked, clear⟩)
          · refine Or.inr ⟨event :: front, last, back, failure, rfl, ?_, stopped⟩
            exact List.forall_mem_cons.mpr ⟨blocked, clear⟩

theorem play_failure_eq_none_iff {events : List (Event catalog)} :
    (play events).failure = none ↔ ∀ event ∈ events, event.obstacle = none := by
  constructor
  · intro finished
    rcases first_obstacle events with clear | ⟨front, last, back, failure, rfl, clear, blocked⟩
    · exact clear
    · rw [play_of_obstacle clear blocked] at finished
      cases finished
  · intro clear
    rw [play_of_no_obstacle clear]

theorem play_isPrefix (events : List (Event catalog)) : (play events).events <+: events := by
  rcases first_obstacle events with clear | ⟨front, last, back, failure, rfl, clear, blocked⟩
  · exact ⟨[], by simp [play_of_no_obstacle clear]⟩
  · rw [play_of_obstacle clear blocked]
    exact ⟨back, by rw [List.append_assoc, List.singleton_append]⟩

end Walk

namespace Traversal

/-- The traversal ends as the walk does, notes the events of the walk and counts every one. -/
def Yields (traversal : Traversal (Trail catalog) Unit) (trail : Trail catalog)
    (walk : Walk catalog) : Prop :=
  ∃ after, traversal.along trail = some (walk.outcome, after) ∧
    after.noted = walk.events.reverse ++ trail.noted ∧
    after.count = trail.count + walk.events.length

end Traversal

namespace Catalog

/-- What is played for one target of an entry that stands at `depth`. -/
def targetEvents (depth : Nat) (path : List Text) (target : catalog.Entry) :
    List (Event catalog) :=
  if path.contains (catalog.display target) then
    [⟨depth + 1, target, true⟩]
  else
    (catalog.outline (depth + 1) (catalog.display target :: path) target).map Prod.snd

private theorem graft_events {below : catalog.Entry → List (List Nat × Event catalog)}
    (index : Nat) (targets : List catalog.Entry) :
    (graft below index targets).map Prod.snd =
      targets.flatMap fun target => (below target).map Prod.snd := by
  induction targets generalizing index with
  | nil => rfl
  | cons target targets ih =>
      rw [graft, List.map_append, List.map_map, ih, List.flatMap_cons]
      rfl

theorem outline_events (depth : Nat) (path : List Text) (entry : catalog.Entry) :
    (catalog.outline depth path entry).map Prod.snd =
      ⟨depth, entry, false⟩ :: (catalog.targets entry).flatMap (targetEvents depth path) := by
  rw [outline, List.map_cons, graft_events]
  congr 2
  funext target
  rw [targetEvents]
  split <;> rfl

private theorem descend_yields {below : catalog.Entry → Traversal (Trail catalog) Unit}
    (depth : Nat) (target : catalog.Entry) (trail : Trail catalog)
    (entered : trail.ancestors.contains (catalog.display target) = false →
      (below target).Yields (trail.push (catalog.display target))
        (.play ((catalog.outline (depth + 1) (catalog.display target :: trail.ancestors) target).map
          Prod.snd))) :
    (catalog.descend below depth target).Yields trail
      (.play (targetEvents depth trail.ancestors target)) := by
  unfold Traversal.Yields
  rw [descend_along, targetEvents]
  split
  · exact ⟨_, rfl, rfl, rfl⟩
  · rename_i fresh
    obtain ⟨after, visited, noted, counted⟩ := entered (by simpa using fresh)
    rw [visited]
    generalize Walk.play _ = walk at noted counted ⊢
    rcases walk with ⟨events, _ | failure⟩
    · exact ⟨after.pop, rfl, noted, counted⟩
    · exact ⟨after, rfl, noted, counted⟩

private theorem forM_yields (step : catalog.Entry → Traversal (Trail catalog) Unit) (depth : Nat)
    (path : List Text) (targets : List catalog.Entry) (trail : Trail catalog)
    (same : trail.ancestors = path)
    (each : ∀ target (reached : Trail catalog), reached.ancestors = path →
      (step target).Settles reached ∧
        (step target).Yields reached (.play (targetEvents depth path target))) :
    Traversal.Yields (targets.forM step) trail
      (.play (targets.flatMap (targetEvents depth path))) := by
  induction targets generalizing trail with
  | nil => exact ⟨trail, rfl, rfl, rfl⟩
  | cons target targets ih =>
      obtain ⟨settles, after, stepped, noted, counted⟩ := each target trail same
      unfold Traversal.Yields
      rw [Traversal.forM_along_cons, List.flatMap_cons, Walk.play_append]
      generalize Walk.play (targetEvents depth path target) = first at stepped noted counted ⊢
      rcases first with ⟨events, _ | failure⟩
      · have restored : after.ancestors = trail.ancestors := settles.restored stepped
        obtain ⟨final, finished, extended, grown⟩ := ih after (restored.trans same)
        rw [stepped]
        refine ⟨final, finished, ?_, ?_⟩
        · rw [extended, noted, Walk.andThen, List.reverse_append, List.append_assoc]
        · rw [grown, counted, Walk.andThen, List.length_append, Nat.add_assoc]
      · rw [stepped]
        exact ⟨after, rfl, noted, counted⟩

theorem visit_yields (room depth : Nat) (entry : catalog.Entry) (trail : Trail catalog)
    (fits : catalog.remaining trail.ancestors < room) :
    (catalog.visit room depth entry).Yields trail
      (.play ((catalog.outline depth trail.ancestors entry).map Prod.snd)) := by
  induction room generalizing depth entry trail with
  | zero => exact absurd fits (Nat.not_lt_zero _)
  | succ room ih =>
      rw [outline_events, Walk.play]
      unfold Traversal.Yields
      rw [visit_along]
      simp only [Event.obstacle, targets, Bool.false_eq_true, if_false]
      cases catalog.edges entry with
      | error failure => exact ⟨_, rfl, rfl, rfl⟩
      | ok targets =>
          -- Every target is met with the stack that the visit itself was given.
          have each (target : catalog.Entry) (reached : Trail catalog)
              (same : reached.ancestors = trail.ancestors) :
              (catalog.descend (catalog.visit room (depth + 1)) depth target).Settles reached ∧
                (catalog.descend (catalog.visit room (depth + 1)) depth target).Yields reached
                  (.play (targetEvents depth trail.ancestors target)) := by
            have below (fresh : reached.ancestors.contains (catalog.display target) = false) :
                catalog.remaining (reached.push (catalog.display target)).ancestors < room := by
              have fewer := remaining_cons_lt catalog reached.ancestors target fresh
              rw [← same] at fits
              change catalog.remaining (catalog.display target :: reached.ancestors) < room
              omega
            constructor
            · exact descend_settles catalog depth target reached fun fresh =>
                visit_settles_of_roomy catalog.roomy_remaining (below fresh)
            · rw [← same]
              exact descend_yields depth target reached fun fresh =>
                ih (depth + 1) target (reached.push (catalog.display target)) (below fresh)
          have rest := forM_yields _ depth trail.ancestors targets
            (trail.note ⟨depth, entry, false⟩) rfl each
          obtain ⟨after, finished, noted, counted⟩ := rest
          refine ⟨after, finished, ?_, ?_⟩
          · rw [noted, List.reverse_cons, List.append_assoc]
            rfl
          · rw [counted, List.length_cons, ← Nat.add_assoc, Nat.add_right_comm]
            rfl

private theorem walkAfter_eq_play (count : Nat) (start : catalog.Entry) :
    ∃ ancestors, catalog.walkAfter count start =
      ((Walk.play ((catalog.outline 0 [] start).map Prod.snd)).outcome,
        ⟨ancestors, (Walk.play ((catalog.outline 0 [] start).map Prod.snd)).events.reverse,
          count + (Walk.play ((catalog.outline 0 [] start).map Prod.snd)).events.length⟩) := by
  obtain ⟨⟨ancestors, noted, total⟩, ended, events, counted⟩ :=
    visit_yields catalog.room 0 start (.after count : Trail catalog) catalog.remaining_lt_room
  change noted = _ ++ [] at events
  change total = count + _ at counted
  rw [List.append_nil] at events
  subst events counted
  refine ⟨ancestors, Option.some.inj ?_⟩
  rw [walkAfter, Option.some_get]
  exact ended

/-- A walk is its outline, played. -/
theorem walk_eq_play (start : catalog.Entry) :
    catalog.walk start = .play ((catalog.outline 0 [] start).map Prod.snd) := by
  obtain ⟨ancestors, ended⟩ := walkAfter_eq_play 0 start
  rw [walk, ended]
  rcases Walk.play ((catalog.outline 0 [] start).map Prod.snd) with ⟨events, _ | failure⟩
  · exact congrArg (Walk.mk · none) events.reverse_reverse
  · exact congrArg (Walk.mk · (some failure)) events.reverse_reverse

/-- A walk makes the same events whatever has been noted before it, and the count goes on. -/
theorem walkAfter_eq (count : Nat) (start : catalog.Entry) :
    ∃ ancestors, catalog.walkAfter count start =
      ((catalog.walk start).outcome, ⟨ancestors, (catalog.walk start).events.reverse,
        count + (catalog.walk start).events.length⟩) := by
  rw [walk_eq_play]
  exact walkAfter_eq_play count start

theorem walk_failure_of_told (told : ∀ entry, (catalog.edges entry).isOk) (start : catalog.Entry) :
    (catalog.walk start).failure = none := by
  rw [walk_eq_play, Walk.play_of_no_obstacle]
  intro event member
  cases blocked : event.obstacle with
  | none => rfl
  | some failure =>
      have known := told event.entry
      rw [(Event.obstacle_eq_some.mp blocked).2] at known
      cases known

end Catalog

namespace Printer

/-- A call adds the lines of the walk, counts them all and, unless it fails, tells their number. -/
theorem print_eq (printer : Printer) (start : catalog.Entry) :
    printer.print catalog start =
      (⟨printer.style, printer.printed ++ (catalog.walk start).lines printer.style,
          printer.count + (catalog.walk start).events.length⟩,
        match (catalog.walk start).failure with
        | some failure => .error failure
        | none => .ok (catalog.walk start).events.length) := by
  obtain ⟨ancestors, ended⟩ := Catalog.walkAfter_eq printer.count start
  rw [print, ended, Walk.outcome, Walk.lines]
  cases (catalog.walk start).failure <;>
    simp only [List.reverse_reverse, Nat.add_sub_cancel_left]

theorem print_lines (printer : Printer) (start : catalog.Entry) :
    (printer.print catalog start).1.printed =
      printer.printed ++ (catalog.walk start).lines printer.style := by
  rw [print_eq]

theorem print_result (printer : Printer) (start : catalog.Entry) :
    (printer.print catalog start).2 =
      match (catalog.walk start).failure with
      | some failure => .error failure
      | none => .ok (catalog.walk start).events.length := by
  rw [print_eq]

/-- A tree that prints without failure has one line for each listed place and no other, in the
lexicographic order of the places. -/
theorem lines_enumerate_routes (catalog : Catalog) (printer : Printer) (start : catalog.Entry)
    (count : Nat) (success : (printer.print catalog start).2 = .ok count) :
    ∃ places, catalog.IsOutline start places ∧
      (printer.print catalog start).1.printed =
        printer.printed ++ places.map fun place => place.2.line printer.style := by
  refine ⟨catalog.outline 0 [] start, Catalog.outline_isOutline start, ?_⟩
  have finished : (catalog.walk start).failure = none := by
    rw [print_result] at success
    cases stopped : (catalog.walk start).failure with
    | none => rfl
    | some failure => simp [stopped] at success
  rw [Catalog.walk_eq_play, Walk.play_failure_eq_none_iff] at finished
  rw [print_lines, Walk.lines, Catalog.walk_eq_play, Walk.play_of_no_obstacle finished,
    List.map_map]
  rfl

/-- Calls itself and, twice, one that calls nothing. -/
private def caller : Record where
  identity := ⟨Identifier.defaultSchema, ['A']⟩
  label := ['a']
  text := "CREATE PROC A AS EXEC B EXEC A EXEC B".toList
  references := [⟨none, ['B']⟩, ⟨none, ['A']⟩, ⟨none, ['B']⟩]
  identity_eq := by decide +kernel
  references_eq := by decide +kernel

private def callee : Record where
  identity := ⟨Identifier.defaultSchema, ['B']⟩
  label := ['b']
  text := "CREATE PROC B AS SELECT 1".toList
  references := []
  identity_eq := by decide +kernel
  references_eq := by decide +kernel

private def twoProcedures : Catalog :=
  .ofRecords .strict [] [caller, callee]

theorem self_call_lines_enumerate_routes :
    ∃ count, (Printer.print ⟨{}, [], 0⟩ twoProcedures ⟨0, by decide⟩).2 = .ok count ∧
      ∃ places, twoProcedures.IsOutline ⟨0, by decide⟩ places ∧
        (Printer.print ⟨{}, [], 0⟩ twoProcedures ⟨0, by decide⟩).1.printed =
          [] ++ places.map fun place => place.2.line {} := by
  have told : ∀ entry : twoProcedures.Entry, (twoProcedures.edges entry).isOk := by decide +kernel
  have success := @print_result twoProcedures ⟨{}, [], 0⟩ ⟨0, by decide⟩
  rw [Catalog.walk_failure_of_told told] at success
  exact ⟨_, success, lines_enumerate_routes twoProcedures ⟨{}, [], 0⟩ ⟨0, by decide⟩ _ success⟩

end Printer

end ProcedureAtlas
