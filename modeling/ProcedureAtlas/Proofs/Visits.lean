import ProcedureAtlas.Proofs.Reach

/-!
# The visits of a walk

A walk is one visit of its start, and that visit calls others. A call is told by what `visit` is
given: the room that is left, a depth, an entry and the trail it is made on. It is made when the
targets before it have been gone through without failure and its name is not on the stack that they
left. The route of entries on the way down is kept with it, which the walk itself does not know.

That these are the calls, and all of them, is shown by a visit that logs its own calls: it does
what `visit` does, and its log holds exactly them.

At every call the depth is the height of the stack, and the stack holds pairwise distinct names of
entries within reach of the start. So no more visits are nested than there are such entries, and one
for the start. Given that room every visit ends, and unless it fails it hands the stack back as it
was.
-/

namespace ProcedureAtlas

set_option autoImplicit false

open Relation

variable {catalog : Catalog}

/-! ## Calls -/

/-- A call of `visit`, with the entries that the walk has gone down to before, nearest first. -/
structure Visit (catalog : Catalog) where
  room : Nat
  depth : Nat
  route : List catalog.Entry
  entry : catalog.Entry
  trail : Trail catalog

namespace Visit

def first (start : catalog.Entry) (room count : Nat) : Visit catalog :=
  ⟨room, 0, [], start, .after count⟩

/-- The visit comes to `target`, with `reached` as its trail: the targets before it have been gone
through, and its name is looked for on the stack. -/
def ComesTo (call : Visit catalog) (target : catalog.Entry) (reached : Trail catalog) : Prop :=
  ∃ left earlier later, call.room = left + 1 ∧
    catalog.edges call.entry = .ok (earlier ++ target :: later) ∧
    Traversal.along
      (earlier.forM (catalog.descend (catalog.visit left (call.depth + 1)) call.depth))
      (call.trail.note ⟨call.depth, call.entry, false⟩) = some (.ok (), reached)

def deeper (call : Visit catalog) (target : catalog.Entry) (reached : Trail catalog) :
    Visit catalog :=
  ⟨call.room - 1, call.depth + 1, target :: call.route, target,
    reached.push (catalog.display target)⟩

def Makes (call next : Visit catalog) : Prop :=
  ∃ target reached, call.ComesTo target reached ∧
    reached.ancestors.contains (catalog.display target) = false ∧ next = call.deeper target reached

end Visit

/-- The calls of `visit` that a walk from `start` makes, the first one included, when `room` visits
may be nested and `count` events have been noted before. -/
def Catalog.Called (catalog : Catalog) (start : catalog.Entry) (room count : Nat)
    (call : Visit catalog) : Prop :=
  ReflTransGen Visit.Makes (.first start room count) call

/-! ## Visits that log their calls -/

/-- A trail with the calls that have been made, latest first. -/
structure LoggedTrail (catalog : Catalog) where
  trail : Trail catalog
  log : List (Visit catalog)

namespace LoggedTrail

def change (change : Trail catalog → Trail catalog) (logged : LoggedTrail catalog) :
    LoggedTrail catalog :=
  { logged with trail := change logged.trail }

def call (room depth : Nat) (route : List catalog.Entry) (entry : catalog.Entry)
    (logged : LoggedTrail catalog) : LoggedTrail catalog :=
  { logged with log := ⟨room, depth, route, entry, logged.trail⟩ :: logged.log }

end LoggedTrail

namespace Catalog

def loggedDescend (catalog : Catalog)
    (below : catalog.Entry → Traversal (LoggedTrail catalog) Unit) (depth : Nat)
    (target : catalog.Entry) : Traversal (LoggedTrail catalog) Unit := do
  if (← get).trail.ancestors.contains (catalog.display target) then
    modify (·.change (·.note ⟨depth + 1, target, true⟩))
  else
    modify (·.change (·.push (catalog.display target)))
    below target
    modify (·.change (·.pop))

def loggedVisit (catalog : Catalog) (room depth : Nat) (route : List catalog.Entry)
    (entry : catalog.Entry) : Traversal (LoggedTrail catalog) Unit :=
  match room with
  | 0 => .unended
  | room + 1 => do
      modify (·.call (room + 1) depth route entry)
      modify (·.change (·.note ⟨depth, entry, false⟩))
      let targets ← catalog.edges entry
      targets.forM (catalog.loggedDescend
        (fun target => catalog.loggedVisit room (depth + 1) (target :: route) target) depth)

theorem loggedVisit_along (room depth : Nat) (route : List catalog.Entry) (entry : catalog.Entry)
    (trail : Trail catalog) (log : List (Visit catalog)) :
    (catalog.loggedVisit (room + 1) depth route entry).along ⟨trail, log⟩ =
      match catalog.edges entry with
      | .error failure => some (.error failure,
          ⟨trail.note ⟨depth, entry, false⟩, ⟨room + 1, depth, route, entry, trail⟩ :: log⟩)
      | .ok targets =>
          Traversal.along (targets.forM (catalog.loggedDescend
              (fun target => catalog.loggedVisit room (depth + 1) (target :: route) target) depth))
            ⟨trail.note ⟨depth, entry, false⟩, ⟨room + 1, depth, route, entry, trail⟩ :: log⟩ := by
  rw [loggedVisit]
  cases catalog.edges entry <;> rfl

theorem loggedDescend_along (below : catalog.Entry → Traversal (LoggedTrail catalog) Unit)
    (depth : Nat) (target : catalog.Entry) (trail : Trail catalog) (log : List (Visit catalog)) :
    (catalog.loggedDescend below depth target).along ⟨trail, log⟩ =
      if trail.ancestors.contains (catalog.display target) then
        some (.ok (), ⟨trail.note ⟨depth + 1, target, true⟩, log⟩)
      else
        match (below target).along ⟨trail.push (catalog.display target), log⟩ with
        | none => none
        | some (.error failure, after) => some (.error failure, after)
        | some (.ok _, after) => some (.ok (), ⟨after.trail.pop, after.log⟩) := by
  rw [loggedDescend, Traversal.bind_along]
  change Traversal.along (ite _ _ _) _ = _
  split
  · rfl
  · rw [Traversal.bind_along, Traversal.modify_along]
    change Traversal.along (below target >>= _) ⟨trail.push _, log⟩ = _
    rw [Traversal.bind_along]
    rcases (below target).along _ with _ | ⟨_ | _, after⟩ <;> rfl

end Catalog

namespace Traversal

/-- From the trail the logged traversal does what the plain one does, and the calls that it adds to
its log are those of `made`. -/
def Logs (logged : Traversal (LoggedTrail catalog) Unit) (plain : Traversal (Trail catalog) Unit)
    (trail : Trail catalog) (made : Visit catalog → Prop) : Prop :=
  ∀ log, plain.along trail = none ∧ logged.along ⟨trail, log⟩ = none ∨
    ∃ outcome after longer, plain.along trail = some (outcome, after) ∧
      logged.along ⟨trail, log⟩ = some (outcome, ⟨after, longer⟩) ∧
      ∀ call, call ∈ longer ↔ call ∈ log ∨ made call

section Loops

variable {loggedStep : catalog.Entry → Traversal (LoggedTrail catalog) Unit}
  {step : catalog.Entry → Traversal (Trail catalog) Unit}
  {made : catalog.Entry → Trail catalog → Visit catalog → Prop}

/-- The calls of a loop: those of each step, on the trail that the steps before it leave. -/
def LoopMakes (step : catalog.Entry → Traversal (Trail catalog) Unit)
    (made : catalog.Entry → Trail catalog → Visit catalog → Prop) (targets : List catalog.Entry)
    (trail : Trail catalog) (call : Visit catalog) : Prop :=
  ∃ earlier target later reached, targets = earlier ++ target :: later ∧
    Traversal.along (earlier.forM step) trail = some (.ok (), reached) ∧ made target reached call

theorem loopMakes_cons_iff {target : catalog.Entry} {targets : List catalog.Entry}
    {trail after : Trail catalog} {outcome : Except CatalogFailure Unit} {call : Visit catalog}
    (ended : (step target).along trail = some (outcome, after)) :
    LoopMakes step made (target :: targets) trail call ↔
      made target trail call ∨ outcome = .ok () ∧ LoopMakes step made targets after call := by
  constructor
  · rintro ⟨_ | ⟨first, earlier⟩, other, later, reached, parted, passed, calls⟩
    · cases parted
      cases passed
      exact .inl calls
    · cases parted
      rw [forM_along_cons, ended] at passed
      cases outcome with
      | error failure => cases passed
      | ok value => exact .inr ⟨rfl, earlier, other, later, reached, rfl, passed, calls⟩
  · rintro (calls | ⟨rfl, earlier, other, later, reached, rfl, passed, calls⟩)
    · exact ⟨[], target, targets, trail, rfl, rfl, calls⟩
    · refine ⟨target :: earlier, other, later, reached, rfl, ?_, calls⟩
      rw [forM_along_cons, ended]
      exact passed

theorem forM_logs
    (each : ∀ target reached, (loggedStep target).Logs (step target) reached (made target reached))
    (targets : List catalog.Entry) (trail : Trail catalog) :
    Logs (targets.forM loggedStep) (targets.forM step) trail
      (LoopMakes step made targets trail) := by
  induction targets generalizing trail with
  | nil =>
      intro log
      exact .inr ⟨.ok (), trail, log, rfl, rfl, by simp [LoopMakes]⟩
  | cons target targets ih =>
      intro log
      rw [forM_along_cons, forM_along_cons]
      rcases each target trail log with
        ⟨unended, same⟩ | ⟨outcome, after, longer, ended, same, here⟩
      · rw [unended, same]
        exact .inl ⟨rfl, rfl⟩
      · rw [ended, same]
        cases outcome with
        | error failure =>
            refine .inr ⟨.error failure, after, longer, rfl, rfl, fun call => ?_⟩
            rw [here, loopMakes_cons_iff ended]
            simp
        | ok value =>
            rcases ih after longer with
              unended | ⟨outcome, last, longest, finished, alike, there⟩
            · exact .inl unended
            · refine .inr ⟨outcome, last, longest, finished, alike, fun call => ?_⟩
              rw [there, here, loopMakes_cons_iff ended, or_assoc]
              simp

end Loops

end Traversal

namespace Catalog

theorem loggedDescend_logs {below : catalog.Entry → Traversal (LoggedTrail catalog) Unit}
    {plain : catalog.Entry → Traversal (Trail catalog) Unit} {made : Visit catalog → Prop}
    (depth : Nat) (target : catalog.Entry) (trail : Trail catalog)
    (entered : (below target).Logs (plain target) (trail.push (catalog.display target)) made) :
    (catalog.loggedDescend below depth target).Logs (catalog.descend plain depth target) trail
      fun call => trail.ancestors.contains (catalog.display target) = false ∧ made call := by
  intro log
  rw [descend_along, loggedDescend_along]
  cases trail.ancestors.contains (catalog.display target) with
  | true => exact .inr ⟨.ok (), _, log, rfl, rfl, by simp⟩
  | false =>
      rcases entered log with ⟨unended, same⟩ | ⟨outcome, after, longer, ended, same, members⟩
      · rw [unended, same]
        exact .inl ⟨rfl, rfl⟩
      · rw [ended, same]
        cases outcome with
        | error failure =>
            exact .inr ⟨.error failure, after, longer, rfl, rfl, by simpa using members⟩
        | ok value => exact .inr ⟨.ok (), after.pop, longer, rfl, rfl, by simpa using members⟩

/-- The calls that come of a visit are those that come of its targets. -/
theorem exists_makes_iff {room depth : Nat} {route targets : List catalog.Entry}
    {entry : catalog.Entry} {trail : Trail catalog} {call : Visit catalog}
    (told : catalog.edges entry = .ok targets) :
    (∃ next, Visit.Makes ⟨room + 1, depth, route, entry, trail⟩ next ∧
        ReflTransGen Visit.Makes next call) ↔
      Traversal.LoopMakes (catalog.descend (catalog.visit room (depth + 1)) depth)
        (fun target reached later => reached.ancestors.contains (catalog.display target) = false ∧
          ReflTransGen Visit.Makes ⟨room, depth + 1, target :: route, target,
            reached.push (catalog.display target)⟩ later)
        targets (trail.note ⟨depth, entry, false⟩) call := by
  constructor
  · rintro ⟨next, ⟨target, reached, ⟨left, earlier, later, same, known, passed⟩, fresh, rfl⟩, rest⟩
    cases same
    rw [told] at known
    cases known
    exact ⟨earlier, target, later, reached, rfl, passed, fresh, rest⟩
  · rintro ⟨earlier, target, later, reached, rfl, passed, fresh, rest⟩
    exact ⟨_, ⟨target, reached, ⟨room, earlier, later, rfl, told, passed⟩, fresh, rfl⟩, rest⟩

/-- A visit that logs its calls does what the plain visit does, and logs itself and the calls that
come of it. -/
theorem loggedVisit_logs (room depth : Nat) (route : List catalog.Entry) (entry : catalog.Entry)
    (trail : Trail catalog) :
    (catalog.loggedVisit room depth route entry).Logs (catalog.visit room depth entry) trail
      (ReflTransGen Visit.Makes ⟨room, depth, route, entry, trail⟩) := by
  induction room generalizing depth route entry trail with
  | zero => exact fun log => .inl ⟨rfl, rfl⟩
  | succ room ih =>
      intro log
      rw [visit_along, loggedVisit_along]
      cases told : catalog.edges entry with
      | error failure =>
          refine .inr ⟨.error failure, _, _, rfl, rfl, fun call => ?_⟩
          have alone : ∀ next, ¬Visit.Makes ⟨room + 1, depth, route, entry, trail⟩ next := by
            rintro next ⟨target, reached, ⟨left, earlier, later, -, known, -⟩, -⟩
            rw [told] at known
            cases known
          rw [ReflTransGen.cases_head_iff]
          simp [alone, or_comm, eq_comm]
      | ok targets =>
          have loop := Traversal.forM_logs (fun target reached =>
            loggedDescend_logs depth target reached (ih (depth + 1) (target :: route) target _))
            targets (trail.note ⟨depth, entry, false⟩)
            (⟨room + 1, depth, route, entry, trail⟩ :: log)
          rcases loop with unended | ⟨outcome, after, longer, ended, same, members⟩
          · exact .inl unended
          · refine .inr ⟨outcome, after, longer, ended, same, fun call => ?_⟩
            rw [members, ReflTransGen.cases_head_iff, exists_makes_iff told, List.mem_cons,
              or_assoc, or_left_comm, eq_comm]

/-! ## The stack at a call -/

/-- What holds of the stack at a call. -/
structure Sound (start : catalog.Entry) (depth : Nat) (entry : catalog.Entry)
    (path : List Text) : Prop where
  reached : ReflTransGen catalog.Calls start entry
  height : depth = path.length
  distinct : path.Nodup
  named : ∃ route, catalog.names route = path ∧
    ∀ ancestor ∈ route, TransGen catalog.Calls start ancestor

namespace Sound

variable {start caller target : catalog.Entry} {depth : Nat} {path : List Text}

theorem first (start : catalog.Entry) : Sound start 0 start [] :=
  ⟨.refl, rfl, List.nodup_nil, [], rfl, by simp⟩

theorem deeper (sound : Sound start depth caller path) (called : catalog.Calls caller target)
    (fresh : path.contains (catalog.display target) = false) :
    Sound start (depth + 1) target (catalog.display target :: path) := by
  have chain : TransGen catalog.Calls start target := .tail' sound.reached called
  obtain ⟨route, names, above⟩ := sound.named
  refine ⟨chain.to_reflTransGen, ?_, ?_, target :: route, ?_, ?_⟩
  · rw [sound.height, List.length_cons]
  · exact List.nodup_cons.mpr ⟨by simpa using fresh, sound.distinct⟩
  · rw [← names]
    rfl
  · exact List.forall_mem_cons.mpr ⟨chain, above⟩

theorem depth_le (sound : Sound start depth caller path) : depth ≤ catalog.reachCount start := by
  obtain ⟨route, names, above⟩ := sound.named
  have distinct := sound.distinct
  rw [← names] at distinct
  have bound := length_le_reachCount distinct above
  rwa [sound.height, ← names, Catalog.names, List.length_map]

theorem exists_ancestor (sound : Sound start depth caller path) {name : Text}
    (member : name ∈ path) :
    ∃ ancestor, TransGen catalog.Calls start ancestor ∧ catalog.display ancestor = name := by
  obtain ⟨route, names, above⟩ := sound.named
  rw [← names] at member
  obtain ⟨ancestor, inside, shown⟩ := List.mem_map.mp member
  exact ⟨ancestor, above ancestor inside, shown⟩

end Sound

/-- One visit for the start and one for each entry within reach is all the room that is needed. -/
theorem roomy_reach (start : catalog.Entry) :
    catalog.Roomy fun left depth entry path =>
      Sound start depth entry path ∧ catalog.reachCount start < left + depth := by
  rintro room depth entry path ⟨sound, enough⟩
  have bound := sound.depth_le
  obtain ⟨left, rfl⟩ : ∃ left, room = left + 1 := ⟨room - 1, by omega⟩
  refine ⟨left, rfl, fun targets told target member fresh => ?_⟩
  exact ⟨sound.deeper (calls_iff.mpr ⟨targets, told, member⟩) fresh, by omega⟩

/-- The stack at the call is in order, and there is room for the visits below. -/
def Fits (start : catalog.Entry) (call : Visit catalog) : Prop :=
  Sound start call.depth call.entry call.trail.ancestors ∧
    catalog.reachCount start < call.room + call.depth

namespace Fits

variable {start target : catalog.Entry} {call : Visit catalog} {reached : Trail catalog}

theorem settles (fits : Fits start call) :
    (catalog.visit call.room call.depth call.entry).Settles call.trail :=
  visit_settles_of_roomy (roomy_reach start) fits

/-- The targets of a visit that have been gone through put the stack back as the visit found it. -/
theorem restored (fits : Fits start call) (comes : call.ComesTo target reached) :
    reached.ancestors = call.trail.ancestors := by
  obtain ⟨left, earlier, later, room, told, passed⟩ := comes
  obtain ⟨_, same, below⟩ := roomy_reach start _ _ _ _ fits
  obtain rfl := Nat.succ.inj (room.symm.trans same)
  have settles : Traversal.Settles
      (earlier.forM (catalog.descend (catalog.visit left (call.depth + 1)) call.depth))
      (call.trail.note ⟨call.depth, call.entry, false⟩) := by
    refine loop_settles fun target member fresh reached path => ?_
    apply visit_settles_of_roomy (roomy_reach start)
    rw [path]
    exact below _ told target (List.mem_append_left _ member) fresh
  exact settles.restored passed

theorem deeper (fits : Fits start call) (comes : call.ComesTo target reached)
    (fresh : reached.ancestors.contains (catalog.display target) = false) :
    Fits start (call.deeper target reached) := by
  have restored := fits.restored comes
  obtain ⟨left, earlier, later, room, told, passed⟩ := comes
  obtain ⟨_, same, below⟩ := roomy_reach start _ _ _ _ fits
  obtain rfl := Nat.succ.inj (room.symm.trans same)
  rw [restored] at fresh
  change Sound start (call.depth + 1) target (catalog.display target :: reached.ancestors) ∧
    catalog.reachCount start < call.room - 1 + (call.depth + 1)
  rw [restored, room]
  exact below _ told target (List.mem_append_right _ List.mem_cons_self) fresh

end Fits

theorem Called.fits {start : catalog.Entry} {room count : Nat} {call : Visit catalog}
    (called : catalog.Called start room count call) (enough : catalog.reachCount start < room) :
    Fits start call := by
  induction called with
  | refl => exact ⟨.first start, enough⟩
  | tail outer makes ih =>
      obtain ⟨target, reached, comes, fresh, rfl⟩ := makes
      exact ih.deeper comes fresh

theorem reachCount_lt_room (catalog : Catalog) (start : catalog.Entry) :
    catalog.reachCount start < catalog.room := by
  apply Nat.lt_succ_of_le
  calc
    catalog.reachCount start ≤ (Set.univ : Set catalog.Entry).ncard :=
      Set.ncard_le_ncard (Set.subset_univ _)
    _ = catalog.records.length := by
      rw [Set.ncard_univ, Nat.card_eq_fintype_card]
      exact Fintype.card_fin _

/-- The log of a walk that has room enough holds the calls of the walk. -/
theorem exists_log {start : catalog.Entry} {room : Nat} (enough : catalog.reachCount start < room)
    (count : Nat) :
    ∃ outcome after log, (catalog.visit room 0 start).along (.after count) = some (outcome, after) ∧
      (catalog.loggedVisit room 0 [] start).along ⟨.after count, []⟩ =
        some (outcome, ⟨after, log⟩) ∧
      ∀ call, call ∈ log ↔ catalog.Called start room count call := by
  have fits : Fits start (.first start room count) := ⟨.first start, enough⟩
  obtain ⟨outcome, after, ended, -⟩ := fits.settles
  change (catalog.visit room 0 start).along (.after count) = _ at ended
  rcases loggedVisit_logs room 0 [] start (.after count) [] with
    ⟨unended, -⟩ | ⟨_, _, log, alsoEnded, logged, members⟩
  · rw [unended] at ended
    cases ended
  · refine ⟨_, _, log, alsoEnded, logged, fun call => ?_⟩
    rw [members, or_iff_right List.not_mem_nil]
    rfl

/-- The recursion of a walk ends, whether or not the walk fails. It nests no more visits than one
for the start and one for each entry within reach, and keeps its stack in order at every call. The
calls are those that a visit logs which does the same and logs itself. -/
theorem visits_end_within_reach (catalog : Catalog) (start : catalog.Entry) :
    catalog.reachCount start < catalog.room ∧
    (∀ room count, catalog.reachCount start < room →
      ∃ outcome after log,
        (catalog.visit room 0 start).along (.after count) = some (outcome, after) ∧
        (catalog.loggedVisit room 0 [] start).along ⟨.after count, []⟩ =
          some (outcome, ⟨after, log⟩) ∧
        ∀ call, call ∈ log ↔ catalog.Called start room count call) ∧
    (∀ room count call, catalog.reachCount start < room → catalog.Called start room count call →
      (∃ outcome after, (catalog.visit call.room call.depth call.entry).along call.trail =
        some (outcome, after)) ∧
      (∀ after, (catalog.visit call.room call.depth call.entry).along call.trail =
        some (.ok (), after) → after.ancestors = call.trail.ancestors) ∧
      call.depth = call.trail.ancestors.length ∧ call.trail.ancestors.Nodup ∧
      ∀ name ∈ call.trail.ancestors,
        ∃ ancestor, TransGen catalog.Calls start ancestor ∧ catalog.display ancestor = name) ∧
    ∀ event ∈ (catalog.walk start).events,
      if event.isCycle then 2 ≤ event.depth ∧ event.depth ≤ catalog.reachCount start + 1
      else event.depth ≤ catalog.reachCount start := by
  refine ⟨catalog.reachCount_lt_room start, fun room count enough => exists_log enough count,
    ?_, ?_⟩
  · intro room count call enough called
    have fits := called.fits enough
    have sound := fits.1
    have settles := fits.settles
    refine ⟨?_, ?_, sound.height, sound.distinct, fun name => sound.exists_ancestor⟩
    · obtain ⟨outcome, after, ended, -⟩ := settles
      exact ⟨outcome, after, ended⟩
    · intro after ended
      exact settles.restored ended
  · intro event member
    obtain ⟨indices, listed⟩ := listed_of_walk_event member
    exact listed_depth_le listed

end Catalog

end ProcedureAtlas
