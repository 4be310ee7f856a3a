import ProcedureAtlas.CallTree.Edges

/-!
# The walk of a call tree

The walk goes depth first from a start entry and writes out every path in full. One stack of display
names is shared by all visits: a visit pushes the name of each target before it goes down and takes
it off again when it comes back. An entry whose name already stands on the stack is noted once more
as a cycle and not entered again. The start is put on the stack only when it is reached again.

A failure leaves every visit at once, so the events before it are kept and the stack is not taken
down. Nothing in a visit says that the recursion ends, so a visit is given the number of visits that
may be nested, and it has no value where they do not suffice. The walk needs no more of them than
there are records, and one for the start: each step down leaves fewer records whose name is not on
the stack.
-/

namespace ProcedureAtlas

set_option autoImplicit false

structure Event (catalog : Catalog) where
  depth : Nat
  entry : catalog.Entry
  isCycle : Bool
deriving DecidableEq, Repr

structure Walk (catalog : Catalog) where
  events : List (Event catalog)
  failure : Option CatalogFailure

/-- The names on the path, nearest first, what this walk has noted, latest first, and how many
events have been noted by this and by earlier walks. -/
structure Trail (catalog : Catalog) where
  ancestors : List Text
  noted : List (Event catalog)
  count : Nat

namespace Trail

variable {catalog : Catalog}

/-- The trail on which a walk begins when `count` events have been noted before. -/
def after (count : Nat) : Trail catalog :=
  ⟨[], [], count⟩

def note (trail : Trail catalog) (event : Event catalog) : Trail catalog :=
  { trail with noted := event :: trail.noted, count := trail.count + 1 }

def push (trail : Trail catalog) (name : Text) : Trail catalog :=
  { trail with ancestors := name :: trail.ancestors }

def pop (trail : Trail catalog) : Trail catalog :=
  { trail with ancestors := trail.ancestors.tail }

end Trail

/-- A computation along a trail, or another state, that may fail, and that has no value where it
would nest too many visits. -/
abbrev Traversal (State : Type) :=
  ExceptT CatalogFailure (StateT State Option)

namespace Traversal

variable {State Value Result Item : Type}

/-- How a traversal ends and the trail it leaves, if it ends. -/
def along (traversal : Traversal State Value) (trail : State) :
    Option (Except CatalogFailure Value × State) :=
  traversal.run.run trail

def unended : Traversal State Value :=
  ExceptT.mk fun _ => none

theorem bind_along (first : Traversal State Value) (next : Value → Traversal State Result)
    (trail : State) :
    (first >>= next).along trail =
      match first.along trail with
      | none => none
      | some (.error failure, after) => some (.error failure, after)
      | some (.ok value, after) => (next value).along after := by
  change Option.bind (first.along trail) _ = _
  rcases first.along trail with _ | ⟨_ | _, after⟩ <;> rfl

theorem modify_along (change : State → State) (trail : State) :
    (modify change : Traversal State Unit).along trail = some (.ok (), change trail) := rfl

theorem forM_along_cons (step : Item → Traversal State Unit) (item : Item) (items : List Item)
    (trail : State) :
    ((item :: items).forM step).along trail =
      match (step item).along trail with
      | none => none
      | some (.error failure, after) => some (.error failure, after)
      | some (.ok _, after) => (items.forM step).along after := by
  change Traversal.along (step item >>= _) trail = _
  rw [bind_along]
  rcases (step item).along trail with _ | ⟨_ | _, after⟩ <;> rfl

variable {catalog : Catalog}

/-- The traversal ends, and unless it fails it leaves the names on the path as it found them. -/
def Settles (traversal : Traversal (Trail catalog) Value) (trail : Trail catalog) : Prop :=
  ∃ outcome after, traversal.along trail = some (outcome, after) ∧
    (outcome.isOk → after.ancestors = trail.ancestors)

theorem Settles.restored {traversal : Traversal (Trail catalog) Value} {trail after : Trail catalog}
    {value : Value} (settles : traversal.Settles trail)
    (ended : traversal.along trail = some (.ok value, after)) :
    after.ancestors = trail.ancestors := by
  obtain ⟨outcome, reached, same, restored⟩ := settles
  obtain ⟨rfl, rfl⟩ : outcome = .ok value ∧ reached = after := by
    simpa only [Option.some.injEq, Prod.mk.injEq] using same.symm.trans ended
  exact restored rfl

/-- A loop settles if each of its steps does, on the path that the loop was given. -/
theorem forM_settles {step : catalog.Entry → Traversal (Trail catalog) Unit}
    {targets : List catalog.Entry} {trail : Trail catalog}
    (each : ∀ target ∈ targets, ∀ reached : Trail catalog,
      reached.ancestors = trail.ancestors → (step target).Settles reached) :
    Settles (targets.forM step) trail := by
  induction targets generalizing trail with
  | nil => exact ⟨_, _, rfl, fun _ => rfl⟩
  | cons target targets ih =>
      obtain ⟨outcome, after, stepped, restored⟩ := each target List.mem_cons_self trail rfl
      unfold Settles
      rw [forM_along_cons, stepped]
      cases outcome with
      | error failure => exact ⟨_, _, rfl, nofun⟩
      | ok value =>
          have same : after.ancestors = trail.ancestors := restored rfl
          have rest := @ih after fun later member reached equal =>
            each later (List.mem_cons_of_mem target member) reached (equal.trans same)
          simpa only [Settles, same] using rest

end Traversal

namespace Catalog

/-- Goes down to one target of an entry that stands at `depth`. -/
def descend (catalog : Catalog) (below : catalog.Entry → Traversal (Trail catalog) Unit)
    (depth : Nat) (target : catalog.Entry) : Traversal (Trail catalog) Unit := do
  if (← get).ancestors.contains (catalog.display target) then
    modify (·.note ⟨depth + 1, target, true⟩)
  else
    modify (·.push (catalog.display target))
    below target
    modify (·.pop)

/-- Notes an entry and goes down to each of its targets. At most `room` visits may be nested. -/
def visit (catalog : Catalog) (room depth : Nat) (entry : catalog.Entry) :
    Traversal (Trail catalog) Unit :=
  match room with
  | 0 => .unended
  | room + 1 => do
      modify (·.note ⟨depth, entry, false⟩)
      let targets ← catalog.edges entry
      targets.forM (catalog.descend (catalog.visit room (depth + 1)) depth)

theorem visit_along (catalog : Catalog) (room depth : Nat) (entry : catalog.Entry)
    (trail : Trail catalog) :
    (catalog.visit (room + 1) depth entry).along trail =
      match catalog.edges entry with
      | .error failure => some (.error failure, trail.note ⟨depth, entry, false⟩)
      | .ok targets =>
          Traversal.along (targets.forM (catalog.descend (catalog.visit room (depth + 1)) depth))
            (trail.note ⟨depth, entry, false⟩) := by
  rw [visit]
  cases edges catalog entry <;> rfl

theorem descend_along (catalog : Catalog) (below : catalog.Entry → Traversal (Trail catalog) Unit)
    (depth : Nat) (target : catalog.Entry) (trail : Trail catalog) :
    (catalog.descend below depth target).along trail =
      if trail.ancestors.contains (catalog.display target) then
        some (.ok (), trail.note ⟨depth + 1, target, true⟩)
      else
        match (below target).along (trail.push (catalog.display target)) with
        | none => none
        | some (.error failure, after) => some (.error failure, after)
        | some (.ok _, after) => some (.ok (), after.pop) := by
  rw [descend, Traversal.bind_along]
  change Traversal.along (ite _ _ _) trail = _
  split
  · rfl
  · rw [Traversal.bind_along, Traversal.modify_along]
    change Traversal.along (below target >>= _) (trail.push _) = _
    rw [Traversal.bind_along]
    rcases (below target).along _ with _ | ⟨_ | _, after⟩ <;> rfl

theorem descend_settles (catalog : Catalog)
    {below : catalog.Entry → Traversal (Trail catalog) Unit} (depth : Nat)
    (target : catalog.Entry) (trail : Trail catalog)
    (entered : trail.ancestors.contains (catalog.display target) = false →
      (below target).Settles (trail.push (catalog.display target))) :
    (catalog.descend below depth target).Settles trail := by
  unfold Traversal.Settles
  rw [descend_along]
  split
  · exact ⟨_, _, rfl, fun _ => rfl⟩
  · rename_i fresh
    obtain ⟨outcome, after, visited, restored⟩ := entered (by simpa using fresh)
    rw [visited]
    cases outcome with
    | error failure => exact ⟨_, _, rfl, nofun⟩
    | ok value =>
        refine ⟨_, _, rfl, fun _ => ?_⟩
        change after.ancestors.tail = trail.ancestors
        rw [restored rfl]
        rfl

/-- Where this holds there is room for a visit, and it holds again for each visit below. -/
def Roomy (catalog : Catalog)
    (fits : Nat → Nat → catalog.Entry → List Text → Prop) : Prop :=
  ∀ room depth entry path, fits room depth entry path →
    ∃ left, room = left + 1 ∧ ∀ targets, catalog.edges entry = .ok targets →
      ∀ target ∈ targets, path.contains (catalog.display target) = false →
        fits left (depth + 1) target (catalog.display target :: path)

/-- Going down to some targets settles if each visit does that the loop can make. -/
theorem loop_settles {catalog : Catalog} {below : catalog.Entry → Traversal (Trail catalog) Unit}
    {depth : Nat} {targets : List catalog.Entry} {trail : Trail catalog}
    (entered : ∀ target ∈ targets, trail.ancestors.contains (catalog.display target) = false →
      ∀ reached : Trail catalog, reached.ancestors = catalog.display target :: trail.ancestors →
        (below target).Settles reached) :
    Traversal.Settles (targets.forM (catalog.descend below depth)) trail := by
  refine Traversal.forM_settles fun target member reached same => ?_
  refine descend_settles catalog depth target reached fun fresh => ?_
  rw [same] at fresh
  refine entered target member fresh _ ?_
  change catalog.display target :: reached.ancestors = _
  rw [same]

theorem visit_settles_of_roomy {catalog : Catalog}
    {fits : Nat → Nat → catalog.Entry → List Text → Prop} (roomy : catalog.Roomy fits)
    {room depth : Nat} {entry : catalog.Entry} {trail : Trail catalog}
    (fitting : fits room depth entry trail.ancestors) :
    (catalog.visit room depth entry).Settles trail := by
  induction room generalizing depth entry trail with
  | zero =>
      obtain ⟨left, impossible, -⟩ := roomy _ _ _ _ fitting
      omega
  | succ room ih =>
      obtain ⟨left, same, below⟩ := roomy _ _ _ _ fitting
      obtain rfl : left = room := by omega
      unfold Traversal.Settles
      rw [visit_along]
      cases told : catalog.edges entry with
      | error failure => exact ⟨_, _, rfl, nofun⟩
      | ok targets =>
          refine loop_settles fun target member fresh reached path => ih ?_
          rw [path]
          exact below targets told target member fresh

/-- The number of records whose display name is not on the path. -/
def remaining (catalog : Catalog) (path : List Text) : Nat :=
  catalog.records.countP fun record => !path.contains record.display

theorem remaining_cons_lt
    (catalog : Catalog) (path : List Text) (entry : catalog.Entry)
    (fresh : path.contains (catalog.display entry) = false) :
    catalog.remaining (catalog.display entry :: path) < catalog.remaining path := by
  have member : catalog.record entry ∈ catalog.records := List.get_mem _ _
  have name_eq : (catalog.record entry).display = catalog.display entry := rfl
  have shrink : ∀ records : List Record,
      (records.countP fun record =>
          !(catalog.display entry :: path).contains record.display) ≤
        records.countP fun record => !path.contains record.display := by
    intro records
    refine List.countP_mono_left fun record _ outside => ?_
    simp only [List.contains_cons, Bool.not_or, Bool.and_eq_true] at outside
    exact outside.2
  obtain ⟨front, back, split⟩ := List.append_of_mem member
  have front_le := shrink front
  have back_le := shrink back
  unfold remaining
  rw [split, List.countP_append, List.countP_append]
  simp only [List.countP_cons, name_eq, fresh, List.contains_cons, beq_self_eq_true,
    Bool.true_or, Bool.not_true, Bool.not_false, if_true, Bool.false_eq_true, if_false]
  simp only [List.contains_cons] at front_le back_le
  omega

theorem roomy_remaining (catalog : Catalog) :
    catalog.Roomy fun room _ _ path => catalog.remaining path < room := by
  intro room depth entry path fits
  obtain ⟨left, rfl⟩ : ∃ left, room = left + 1 := ⟨room - 1, by omega⟩
  refine ⟨left, rfl, fun targets _ target _ fresh => ?_⟩
  have fewer := remaining_cons_lt catalog path target fresh
  omega

/-- The number of visits that a walk may nest. -/
def room (catalog : Catalog) : Nat :=
  catalog.records.length + 1

theorem remaining_lt_room (catalog : Catalog) : catalog.remaining [] < catalog.room :=
  Nat.lt_succ_of_le List.countP_le_length

theorem visit_ends (catalog : Catalog) (count : Nat) (start : catalog.Entry) :
    ((catalog.visit catalog.room 0 start).along (.after count)).isSome := by
  have settles : (catalog.visit catalog.room 0 start).Settles (.after count) :=
    visit_settles_of_roomy catalog.roomy_remaining catalog.remaining_lt_room
  obtain ⟨outcome, after, ended, -⟩ := settles
  rw [ended]
  rfl

/-- How a walk ends, and the trail it leaves, when `count` events have been noted before it. -/
def walkAfter (catalog : Catalog) (count : Nat) (start : catalog.Entry) :
    Except CatalogFailure Unit × Trail catalog :=
  ((catalog.visit catalog.room 0 start).along (.after count)).get (visit_ends catalog count start)

def walk (catalog : Catalog) (start : catalog.Entry) : Walk catalog :=
  match catalog.walkAfter 0 start with
  | (.ok _, trail) => ⟨trail.noted.reverse, none⟩
  | (.error failure, trail) => ⟨trail.noted.reverse, some failure⟩

end Catalog

end ProcedureAtlas
