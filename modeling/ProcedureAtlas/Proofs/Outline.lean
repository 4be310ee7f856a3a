import Mathlib.Data.List.Basic
import Mathlib.Data.List.Lex
import Mathlib.Data.List.Nodup
import ProcedureAtlas.CallTree.Printer

/-!
# The outline of a call tree

A place in a call tree is the list of the indices of the edges that lead to it. The outline below an
entry is the complete list of places with their events: an entry whose edges cannot be told is kept
and has nothing below it. Nothing here depends on how a walk keeps its stack.

Three facts make it a specification. Its places ascend in lexicographic order, it holds exactly the
places that routes without a repeated name describe, and a walk plays it back up to the first entry
whose edges cannot be told.
-/

namespace ProcedureAtlas

set_option autoImplicit false

namespace Catalog

variable (catalog : Catalog)

/-- The targets of an entry, none where its edges cannot be told. -/
def targets (entry : catalog.Entry) : List catalog.Entry :=
  match catalog.edges entry with
  | .error _ => []
  | .ok targets => targets

/-- The entries met below `entry` when the edges with the given indices are followed in turn. -/
def follow (entry : catalog.Entry) : List Nat → Option (List catalog.Entry)
  | [] => some []
  | index :: indices =>
      match (catalog.targets entry)[index]? with
      | none => none
      | some target => (follow target indices).map (target :: ·)

def names (route : List catalog.Entry) : List Text :=
  route.map catalog.display

/-- The event at a place of the tree below `start`. A route whose names are pairwise distinct leads
to a plain event. One more edge behind such a route, back to a name on it, leads to a cycle. The
start itself is not on the route. -/
inductive Listed (start : catalog.Entry) : List Nat → Event catalog → Prop
  | start : Listed start [] ⟨0, start, false⟩
  | plain {indices : List Nat} {route : List catalog.Entry} {target : catalog.Entry}
      (followed : catalog.follow start indices = some (route ++ [target]))
      (distinct : (catalog.names (route ++ [target])).Nodup) :
      Listed start indices ⟨indices.length, target, false⟩
  | cycle {indices : List Nat} {route : List catalog.Entry} {target : catalog.Entry}
      (followed : catalog.follow start indices = some (route ++ [target]))
      (distinct : (catalog.names route).Nodup)
      (repeated : catalog.display target ∈ catalog.names route) :
      Listed start indices ⟨indices.length, target, true⟩

/-- The list of all places below `start` with their events, in the order of the places. -/
structure IsOutline (start : catalog.Entry) (places : List (List Nat × Event catalog)) : Prop where
  ascends : (places.map Prod.fst).Pairwise (· < ·)
  complete : ∀ indices event, (indices, event) ∈ places ↔ catalog.Listed start indices event

end Catalog

/-- The outlines of some entries one after the other, each behind the index of its entry. -/
def graft {Entry Event : Type} (below : Entry → List (List Nat × Event)) :
    Nat → List Entry → List (List Nat × Event)
  | _, [] => []
  | index, entry :: entries =>
      (below entry).map (fun item => (index :: item.1, item.2)) ++ graft below (index + 1) entries

namespace Catalog

variable (catalog : Catalog)

/-- The places and events below an entry that stands at `depth`, below the names on the path. -/
def outline (depth : Nat) (path : List Text) (entry : catalog.Entry) :
    List (List Nat × Event catalog) :=
  ([], ⟨depth, entry, false⟩) ::
    graft
      (fun target =>
        if _ : path.contains (catalog.display target) then
          [([], ⟨depth + 1, target, true⟩)]
        else
          outline (depth + 1) (catalog.display target :: path) target)
      0 (catalog.targets entry)
termination_by catalog.remaining path
decreasing_by
  rename_i fresh
  exact remaining_cons_lt catalog path target (by simpa using fresh)

end Catalog

section Graft

variable {Entry Event : Type} {below : Entry → List (List Nat × Event)}

theorem mem_graft {base : Nat} {entries : List Entry} {place : List Nat} {event : Event} :
    (place, event) ∈ graft below base entries ↔
      ∃ index entry indices, entries[index]? = some entry ∧
        place = (base + index) :: indices ∧ (indices, event) ∈ below entry := by
  induction entries generalizing base with
  | nil => simp [graft]
  | cons first entries ih =>
      simp only [graft, List.mem_append, List.mem_map, Prod.mk.injEq, ih]
      constructor
      · rintro (⟨⟨indices, _⟩, member, rfl, rfl⟩ | ⟨index, entry, indices, found, rfl, member⟩)
        · exact ⟨0, first, indices, rfl, rfl, member⟩
        · refine ⟨index + 1, entry, indices, by simpa using found, ?_, member⟩
          rw [Nat.add_assoc, Nat.add_comm 1 index]
      · rintro ⟨index, entry, indices, found, rfl, member⟩
        cases index with
        | zero =>
            obtain rfl : first = entry := by simpa using found
            exact Or.inl ⟨(indices, event), member, rfl, rfl⟩
        | succ index =>
            refine Or.inr ⟨index, entry, indices, by simpa using found, ?_, member⟩
            rw [Nat.add_assoc, Nat.add_comm 1 index]

theorem graft_ascends
    (ascends : ∀ entry, ((below entry).map Prod.fst).Pairwise (· < ·))
    (base : Nat) (entries : List Entry) :
    ((graft below base entries).map Prod.fst).Pairwise (· < ·) := by
  induction entries generalizing base with
  | nil => exact List.Pairwise.nil
  | cons first entries ih =>
      rw [graft, List.map_append, List.pairwise_append]
      refine ⟨?_, ih (base + 1), ?_⟩
      · have inner := ascends first
        rw [List.pairwise_map] at inner
        rw [List.map_map, List.pairwise_map]
        exact inner.imp fun earlier => List.cons_lt_cons_self.mpr earlier
      · -- Places of different targets differ in their first index.
        intro left leftMember right rightMember
        simp only [List.mem_map] at leftMember rightMember
        obtain ⟨_, ⟨⟨indices, event⟩, -, rfl⟩, rfl⟩ := leftMember
        obtain ⟨⟨place, event⟩, member, rfl⟩ := rightMember
        obtain ⟨index, entry, indices, -, rfl, -⟩ := mem_graft.mp member
        exact List.Lex.rel (by omega)

end Graft

namespace Catalog

variable (catalog : Catalog)

/-- What stands below an entry when the names on the path count as met before. -/
inductive Shown (depth : Nat) (path : List Text) (entry : catalog.Entry) :
    List Nat → Event catalog → Prop
  | self : Shown depth path entry [] ⟨depth, entry, false⟩
  | plain {indices : List Nat} {route : List catalog.Entry} {target : catalog.Entry}
      (followed : catalog.follow entry indices = some (route ++ [target]))
      (distinct : (catalog.names (route ++ [target])).Nodup)
      (apart : (catalog.names (route ++ [target])).Disjoint path) :
      Shown depth path entry indices ⟨depth + indices.length, target, false⟩
  | cycle {indices : List Nat} {route : List catalog.Entry} {target : catalog.Entry}
      (followed : catalog.follow entry indices = some (route ++ [target]))
      (distinct : (catalog.names route).Nodup)
      (apart : (catalog.names route).Disjoint path)
      (repeated : catalog.display target ∈ catalog.names route ++ path) :
      Shown depth path entry indices ⟨depth + indices.length, target, true⟩

variable {catalog}

theorem follow_cons {entry : catalog.Entry} {index : Nat} {indices : List Nat}
    {route : List catalog.Entry} :
    catalog.follow entry (index :: indices) = some route ↔
      ∃ target rest, (catalog.targets entry)[index]? = some target ∧
        catalog.follow target indices = some rest ∧ route = target :: rest := by
  rw [follow]
  cases (catalog.targets entry)[index]? with
  | none => simp
  | some target =>
      simp only [Option.map_eq_some_iff, Option.some.injEq]
      constructor
      · rintro ⟨rest, below, rfl⟩
        exact ⟨target, rest, rfl, below, rfl⟩
      · rintro ⟨_, rest, rfl, below, rfl⟩
        exact ⟨rest, below, rfl⟩

theorem follow_length {entry : catalog.Entry} {indices : List Nat} {route : List catalog.Entry}
    (followed : catalog.follow entry indices = some route) : route.length = indices.length := by
  induction indices generalizing entry route with
  | nil =>
      obtain rfl : [] = route := Option.some.inj followed
      rfl
  | cons index indices ih =>
      obtain ⟨target, rest, -, below, rfl⟩ := follow_cons.mp followed
      rw [List.length_cons, List.length_cons, ih below]

theorem shown_nil {depth : Nat} {path : List Text} {entry : catalog.Entry}
    {event : Event catalog} :
    catalog.Shown depth path entry [] event ↔ event = ⟨depth, entry, false⟩ := by
  constructor
  · intro shown
    cases shown with
    | self => rfl
    | plain followed => simpa using follow_length followed
    | cycle followed => simpa using follow_length followed
  · rintro rfl
    exact .self

section Edge

variable {depth index : Nat} {path : List Text} {entry target : catalog.Entry}
  {indices : List Nat} {event : Event catalog}

theorem shown_of_repeated (found : (catalog.targets entry)[index]? = some target)
    (repeated : catalog.display target ∈ path) :
    catalog.Shown depth path entry [index] ⟨depth + 1, target, true⟩ := by
  have followed : catalog.follow entry [index] = some ([] ++ [target]) :=
    follow_cons.mpr ⟨target, [], found, rfl, rfl⟩
  exact .cycle followed List.nodup_nil (List.disjoint_nil_left path) repeated

/-- A route below a target whose name is new continues the route to that target. -/
theorem shown_of_below (found : (catalog.targets entry)[index]? = some target)
    (fresh : catalog.display target ∉ path)
    (below : catalog.Shown (depth + 1) (catalog.display target :: path) target indices event) :
    catalog.Shown depth path entry (index :: indices) event := by
  have step {rest : List catalog.Entry} (followed : catalog.follow target indices = some rest) :
      catalog.follow entry (index :: indices) = some (target :: rest) :=
    follow_cons.mpr ⟨target, rest, found, followed, rfl⟩
  have deeper : depth + 1 + indices.length = depth + (index :: indices).length := by
    rw [List.length_cons]
    omega
  cases below with
  | self =>
      have followed : catalog.follow entry [index] = some ([] ++ [target]) := step rfl
      refine .plain followed (List.nodup_singleton _) ?_
      exact List.disjoint_cons_left.mpr ⟨fresh, List.disjoint_nil_left path⟩
  | plain followed distinct apart =>
      rename_i route last
      have longer : catalog.follow entry (index :: indices) =
          some ((target :: route) ++ [last]) := step followed
      rw [List.disjoint_cons_right] at apart
      rw [deeper]
      refine .plain longer ?_ ?_
      · exact List.nodup_cons.mpr ⟨apart.1, distinct⟩
      · exact List.disjoint_cons_left.mpr ⟨fresh, apart.2⟩
  | cycle followed distinct apart repeated =>
      rename_i route last
      have longer : catalog.follow entry (index :: indices) =
          some ((target :: route) ++ [last]) := step followed
      rw [List.disjoint_cons_right] at apart
      rw [deeper]
      refine .cycle longer ?_ ?_ ?_
      · exact List.nodup_cons.mpr ⟨apart.1, distinct⟩
      · exact List.disjoint_cons_left.mpr ⟨fresh, apart.2⟩
      · simp only [names, List.map_cons, List.cons_append, List.mem_cons, List.mem_append]
          at repeated ⊢
        tauto

/-- The first edge of a route closes it or leads to the rest of it. -/
theorem below_of_shown (shown : catalog.Shown depth path entry (index :: indices) event) :
    ∃ target, (catalog.targets entry)[index]? = some target ∧
      if path.contains (catalog.display target) then
        indices = [] ∧ event = ⟨depth + 1, target, true⟩
      else
        catalog.Shown (depth + 1) (catalog.display target :: path) target indices event := by
  have deeper : depth + (index :: indices).length = depth + 1 + indices.length := by
    rw [List.length_cons]
    omega
  cases shown with
  | plain followed distinct apart =>
      rename_i route last
      obtain ⟨target, rest, found, below, split⟩ := follow_cons.mp followed
      rw [split] at distinct apart
      refine ⟨target, found, ?_⟩
      simp only [names, List.map_cons, List.nodup_cons, List.disjoint_cons_left] at distinct apart
      rw [if_neg (by simpa using apart.1), deeper]
      cases route with
      | nil =>
          obtain ⟨rfl, rfl⟩ := List.cons.inj split
          obtain rfl : indices = [] := List.length_eq_zero_iff.mp (follow_length below).symm
          exact .self
      | cons first route =>
          obtain ⟨rfl, rfl⟩ := List.cons.inj split
          refine .plain below distinct.2 ?_
          exact List.disjoint_cons_right.mpr ⟨distinct.1, apart.2⟩
  | cycle followed distinct apart repeated =>
      rename_i route last
      obtain ⟨target, rest, found, below, split⟩ := follow_cons.mp followed
      refine ⟨target, found, ?_⟩
      cases route with
      | nil =>
          obtain ⟨rfl, rfl⟩ := List.cons.inj split
          obtain rfl : indices = [] := List.length_eq_zero_iff.mp (follow_length below).symm
          rw [if_pos (by simpa [names] using repeated)]
          exact ⟨rfl, rfl⟩
      | cons first route =>
          obtain ⟨rfl, rfl⟩ := List.cons.inj split
          simp only [names, List.map_cons, List.nodup_cons, List.disjoint_cons_left]
            at distinct apart
          rw [if_neg (by simpa using apart.1), deeper]
          refine .cycle below distinct.2 (List.disjoint_cons_right.mpr ⟨distinct.1, apart.2⟩) ?_
          simp only [names, List.map_cons, List.cons_append, List.mem_cons, List.mem_append]
            at repeated ⊢
          tauto

/-- One edge further: a name that was met before closes the route, any other continues it. -/
theorem shown_cons :
    catalog.Shown depth path entry (index :: indices) event ↔
      ∃ target, (catalog.targets entry)[index]? = some target ∧
        if path.contains (catalog.display target) then
          indices = [] ∧ event = ⟨depth + 1, target, true⟩
        else
          catalog.Shown (depth + 1) (catalog.display target :: path) target indices event := by
  constructor
  · exact below_of_shown
  · rintro ⟨target, found, below⟩
    split at below
    · rename_i repeated
      obtain ⟨rfl, rfl⟩ := below
      exact shown_of_repeated found (by simpa using repeated)
    · rename_i fresh
      exact shown_of_below found (by simpa using fresh) below

end Edge

theorem mem_outline {depth : Nat} {path : List Text} {entry : catalog.Entry}
    {indices : List Nat} {event : Event catalog} :
    (indices, event) ∈ catalog.outline depth path entry ↔
      catalog.Shown depth path entry indices event := by
  induction indices generalizing depth path entry with
  | nil =>
      rw [shown_nil, outline, List.mem_cons, mem_graft]
      simp
  | cons index indices ih =>
      rw [shown_cons, outline, List.mem_cons, mem_graft]
      simp only [Prod.mk.injEq, reduceCtorEq, false_and, false_or, Nat.zero_add, List.cons.injEq]
      constructor
      · rintro ⟨_, target, _, found, ⟨rfl, rfl⟩, member⟩
        refine ⟨target, found, ?_⟩
        split at member
        · rename_i repeated
          rw [if_pos repeated]
          simpa using member
        · rename_i fresh
          rw [if_neg fresh]
          exact ih.mp member
      · rintro ⟨target, found, below⟩
        refine ⟨index, target, indices, found, ⟨rfl, rfl⟩, ?_⟩
        split at below
        · rename_i repeated
          rw [dif_pos repeated]
          simpa using below
        · rename_i fresh
          rw [dif_neg fresh]
          exact ih.mpr below

theorem outline_ascends (depth : Nat) (path : List Text) (entry : catalog.Entry) :
    ((catalog.outline depth path entry).map Prod.fst).Pairwise (· < ·) := by
  generalize bound : catalog.remaining path = remaining
  induction remaining using Nat.strong_induction_on generalizing depth path entry with
  | _ remaining ih =>
      rw [outline, List.map_cons, List.pairwise_cons]
      constructor
      · intro place member
        obtain ⟨⟨_, event⟩, grafted, rfl⟩ := List.mem_map.mp member
        obtain ⟨index, target, indices, -, rfl, -⟩ := mem_graft.mp grafted
        exact List.nil_lt_cons _ _
      · refine graft_ascends (fun target => ?_) 0 (catalog.targets entry)
        split
        · exact List.pairwise_singleton _ _
        · rename_i fresh
          refine ih _ ?_ (depth + 1) _ target rfl
          rw [← bound]
          exact remaining_cons_lt catalog path target (by simpa using fresh)

theorem listed_iff_shown {start : catalog.Entry} {indices : List Nat} {event : Event catalog} :
    catalog.Listed start indices event ↔ catalog.Shown 0 [] start indices event := by
  have level : 0 + indices.length = indices.length := Nat.zero_add _
  constructor
  · intro listed
    cases listed with
    | start => exact .self
    | plain followed distinct =>
        rw [← level]
        exact .plain followed distinct (List.disjoint_nil_right _)
    | cycle followed distinct repeated =>
        rw [← level]
        refine .cycle followed distinct (List.disjoint_nil_right _) ?_
        rwa [List.append_nil]
  · intro shown
    cases shown with
    | self => exact .start
    | plain followed distinct apart =>
        rw [level]
        exact .plain followed distinct
    | cycle followed distinct apart repeated =>
        rw [level]
        rw [List.append_nil] at repeated
        exact .cycle followed distinct repeated

theorem outline_isOutline (start : catalog.Entry) :
    catalog.IsOutline start (catalog.outline 0 [] start) := by
  refine ⟨outline_ascends 0 [] start, ?_⟩
  intro indices event
  rw [mem_outline, listed_iff_shown]

end Catalog

end ProcedureAtlas
