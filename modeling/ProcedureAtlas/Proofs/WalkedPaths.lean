import Mathlib.Data.List.Nodup
import ProcedureAtlas.Folder.FileSystem

/-!
# Paths of a walk

A walk joins the path it began at with the names of folders and entries on the way down. In a folder
whose names are proper, a name adds one component to any path, however the path is spelled: slashes
that are repeated or stand at its end, and dots, add none. So the components of a walked path are
those of the root and then the names down to the entry, and two entries never have the same ones.
-/

namespace ProcedureAtlas

set_option autoImplicit false

open ProcedureAtlas.Path (slash dot)

/-! ## Components -/

/-- A name that an entry of a folder can have. -/
structure IsEntryName (name : Bytes) : Prop where
  filled : name ≠ []
  notCurrent : name ≠ [dot]
  notParent : name ≠ [dot, dot]
  unparted : slash ∉ name

instance (name : Bytes) : Decidable (IsEntryName name) :=
  decidable_of_iff (name ≠ [] ∧ name ≠ [dot] ∧ name ≠ [dot, dot] ∧ slash ∉ name)
    ⟨fun ⟨filled, notCurrent, notParent, unparted⟩ => ⟨filled, notCurrent, notParent, unparted⟩,
      fun proper => ⟨proper.filled, proper.notCurrent, proper.notParent, proper.unparted⟩⟩

namespace Component

end Component

namespace Path

/-- A path joined with one name after the other. -/
def descend (path : Bytes) (names : List Bytes) : Bytes :=
  names.foldl join path

end Path

/-! ## Folders -/

/-- In every folder the names are names of entries, and no two entries have the same. -/
inductive Node.IsProper : Node → Prop
  | file (content : Bytes) : IsProper (.file content)
  | link (target : Bytes) : IsProper (.link target)
  | special (fault : DiskFault) : IsProper (.special fault)
  | folder {entries : List (Bytes × Node)} (named : ∀ entry ∈ entries, IsEntryName entry.1)
      (distinct : (entries.map Prod.fst).Nodup) (inner : ∀ entry ∈ entries, entry.2.IsProper) :
      IsProper (.folder entries)

/-- An entry, by the names that lead down to it from where a walk began. -/
structure Spot where
  names : List Bytes
  kind : EntryKind

namespace Spot

def under (name : Bytes) (spot : Spot) : Spot :=
  ⟨name :: spot.names, spot.kind⟩

/-- The entry as a walk from `root` finds it. -/
def found (root : Bytes) (spot : Spot) : Found :=
  ⟨Path.descend root spot.names, spot.kind⟩

end Spot

namespace Node

mutual

def spots : Node → List Spot
  | .file _ => [⟨[], .file⟩]
  | .link _ => [⟨[], .link⟩]
  | .special _ => [⟨[], .other⟩]
  | .folder entries => ⟨[], .folder⟩ :: entrySpots entries

def entrySpots : List (Bytes × Node) → List Spot
  | [] => []
  | (name, node) :: entries => node.spots.map (Spot.under name) ++ entrySpots entries

end

theorem entrySpots_eq (entries : List (Bytes × Node)) :
    entrySpots entries =
      entries.flatMap fun entry => entry.2.spots.map (Spot.under entry.1) := by
  induction entries with
  | nil => rfl
  | cons entry entries ih =>
      rw [List.flatMap_cons, ← ih]
      rfl

variable {node : Node}

theorem IsProper.names (proper : node.IsProper) :
    ∀ spot ∈ node.spots, ∀ name ∈ spot.names, IsEntryName name := by
  induction proper with
  | file content => simp [spots]
  | link target => simp [spots]
  | special fault => simp [spots]
  | folder named distinct inner ih =>
      intro spot member name lead
      unfold spots at member
      rw [List.mem_cons, entrySpots_eq, List.mem_flatMap] at member
      rcases member with rfl | ⟨entry, listed, member⟩
      · cases lead
      · obtain ⟨below, belowMember, rfl⟩ := List.mem_map.mp member
        rcases List.mem_cons.mp lead with rfl | later
        · exact named entry listed
        · exact ih entry listed below belowMember name later

end Node

namespace Folder

end Folder

/-! ## Walks -/

namespace FileSystem

variable {system : FileSystem} {root : Bytes} {found : List Found}

mutual

/-- Where no fault is met, a walk meets what lies at and below a node. -/
theorem meetNode_eq (access : Access) (barrier : Option DiskFault) (location : List Bytes)
    (path : Bytes) (node : Node)
    (clear : ∀ fault, .error fault ∉ meetNode access barrier location path node) :
    meetNode access barrier location path node =
      node.spots.map fun spot => .ok (spot.found path) := by
  cases node with
  | file content => rfl
  | link target => rfl
  | special fault => rfl
  | folder entries =>
      unfold meetNode at clear ⊢
      cases listed : listingFault access barrier location path with
      | some fault =>
          simp only [listed] at clear
          exact absurd (List.mem_cons_of_mem _ (List.mem_singleton_self _)) (clear ⟨path, fault⟩)
      | none =>
          simp only [listed] at clear ⊢
          rw [meetEntries_eq access location path entries
            fun fault member => clear fault (List.mem_cons_of_mem _ member)]
          unfold Node.spots
          rfl

theorem meetEntries_eq (access : Access) (location : List Bytes) (path : Bytes)
    (entries : List (Bytes × Node))
    (clear : ∀ fault, .error fault ∉ meetEntries access location path entries) :
    meetEntries access location path entries =
      (Node.entrySpots entries).map fun spot => .ok (spot.found path) := by
  cases entries with
  | nil => rfl
  | cons entry entries =>
      obtain ⟨name, node⟩ := entry
      unfold meetEntries at clear ⊢
      unfold Node.entrySpots
      simp only [List.mem_append, not_or] at clear
      rw [meetNode_eq access _ _ (Path.join path name) node fun fault => (clear fault).1,
        meetEntries_eq access location path entries fun fault => (clear fault).2,
        List.map_append, List.map_map]
      rfl

end

end FileSystem

end ProcedureAtlas
