import Mathlib.Data.Set.Card
import Mathlib.Logic.Relation
import ProcedureAtlas.Proofs.Playback

/-!
# Reachable entries

One entry calls another when the other is among its targets, and reaches it when a chain of calls
leads there. A route without a repeated name has no repeated entry, so it is no longer than the
number of entries within reach. This bounds the depth of every event of a walk, whether the walk
fails or not.
-/

namespace ProcedureAtlas.Catalog

set_option autoImplicit false

open Relation

variable {catalog : Catalog}

def Calls (catalog : Catalog) (caller target : catalog.Entry) : Prop :=
  target ∈ catalog.targets caller

/-- The entries that a chain of one or more calls leads to. -/
def within (catalog : Catalog) (start : catalog.Entry) : Set catalog.Entry :=
  {entry | TransGen catalog.Calls start entry}

noncomputable def reachCount (catalog : Catalog) (start : catalog.Entry) : Nat :=
  (catalog.within start).ncard

theorem calls_iff {caller target : catalog.Entry} :
    catalog.Calls caller target ↔
      ∃ targets, catalog.edges caller = .ok targets ∧ target ∈ targets := by
  rw [Calls, Catalog.targets]
  cases catalog.edges caller with
  | error failure => simp
  | ok targets => simp

theorem follow_reaches {entry : catalog.Entry} {indices : List Nat} {route : List catalog.Entry}
    (followed : catalog.follow entry indices = some route) :
    ∀ target ∈ route, TransGen catalog.Calls entry target := by
  induction indices generalizing entry route with
  | nil =>
      obtain rfl : [] = route := Option.some.inj followed
      simp
  | cons index indices ih =>
      obtain ⟨first, rest, found, below, rfl⟩ := follow_cons.mp followed
      have called : catalog.Calls entry first := List.mem_of_getElem? found
      intro target member
      rcases List.mem_cons.mp member with rfl | later
      · exact .single called
      · exact .head called (ih below target later)

theorem length_le_reachCount {start : catalog.Entry} {route : List catalog.Entry}
    (distinct : (catalog.names route).Nodup)
    (reached : ∀ target ∈ route, TransGen catalog.Calls start target) :
    route.length ≤ catalog.reachCount start := by
  have entries : route.Nodup := List.Nodup.of_map catalog.display distinct
  have inside : (route.toFinset : Set catalog.Entry) ⊆ catalog.within start := by
    intro target member
    exact reached target (by simpa using member)
  calc
    route.length = route.toFinset.card := (List.toFinset_card_of_nodup entries).symm
    _ = (route.toFinset : Set catalog.Entry).ncard := (Set.ncard_coe_finset _).symm
    _ ≤ catalog.reachCount start := Set.ncard_le_ncard inside

theorem listed_depth_le {start : catalog.Entry} {indices : List Nat} {event : Event catalog}
    (listed : catalog.Listed start indices event) :
    if event.isCycle then 2 ≤ event.depth ∧ event.depth ≤ catalog.reachCount start + 1
    else event.depth ≤ catalog.reachCount start := by
  cases listed with
  | start => exact Nat.zero_le _
  | plain followed distinct =>
      rename_i route target
      have bound := length_le_reachCount distinct (follow_reaches followed)
      rwa [follow_length followed] at bound
  | cycle followed distinct repeated =>
      rename_i route target
      have length : route.length + 1 = indices.length := by
        simpa using follow_length followed
      have inhabited : 0 < route.length := by
        obtain ⟨first, member, -⟩ := List.mem_map.mp repeated
        exact List.length_pos_of_mem member
      have bound := length_le_reachCount distinct fun entry member =>
        follow_reaches followed entry (List.mem_append_left [target] member)
      change 2 ≤ indices.length ∧ indices.length ≤ catalog.reachCount start + 1
      omega

theorem listed_of_walk_event {start : catalog.Entry} {event : Event catalog}
    (member : event ∈ (catalog.walk start).events) :
    ∃ indices, catalog.Listed start indices event := by
  have played : event ∈ (catalog.outline 0 [] start).map Prod.snd := by
    rw [walk_eq_play] at member
    exact (Walk.play_isPrefix _).subset member
  obtain ⟨⟨indices, _⟩, place, rfl⟩ := List.mem_map.mp played
  exact ⟨indices, listed_iff_shown.mpr (mem_outline.mp place)⟩

end ProcedureAtlas.Catalog
