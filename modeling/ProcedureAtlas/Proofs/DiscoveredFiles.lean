import Mathlib.Data.List.Sort
import ProcedureAtlas.Folder.Loading
import ProcedureAtlas.Proofs.Decoding
import ProcedureAtlas.Proofs.WalkedPaths

/-!
# Discovered files

Discovery keeps the walked entries that are wanted and sorts their paths by components. What is
wanted of an entry is said here by its name, the name of its folder and its label. A name that is
not UTF-8 has no ending and no suffix that could be asked for. Since no two walked paths have the
same components, the order tells all of them apart. So the result ascends strictly, and entries that
are walked in another order give the same result.
-/

namespace ProcedureAtlas

set_option autoImplicit false

open ProcedureAtlas.Path (dot)

/-! ## The order of paths -/

namespace Component

instance : Std.LawfulEqCmp compare where
  eq_of_compare {left right} same := by
    have both := compareLex_eq_eq.mp same
    have ranks : left.rank = right.rank :=
      @Std.LawfulEqCmp.eq_of_compare Nat Ord.compare _ _ _ both.1
    have names : left.name = right.name :=
      @Std.LawfulEqCmp.eq_of_compare Bytes Ord.compare _ _ _ both.2
    cases left <;> cases right <;> simp_all [rank, name]

end Component

namespace Path

/-- The first component in which the paths differ is the smaller one in `left`, or is missing
there. -/
def Precedes (left right : Bytes) : Prop :=
  compare left right = .lt

theorem Precedes.asymm {left right : Bytes} (before : Precedes left right) :
    ¬Precedes right left :=
  Std.OrientedCmp.not_lt_of_lt before

theorem eq_of_ascends {left right : List Bytes} (leftAscends : left.Pairwise Precedes)
    (rightAscends : right.Pairwise Precedes) (same : ∀ path, path ∈ left ↔ path ∈ right) :
    left = right := by
  have irreflexive : Std.Irrefl Precedes := ⟨fun _ before => before.asymm before⟩
  have antisymmetric : Std.Antisymm Precedes :=
    ⟨fun _ _ before behind => absurd behind before.asymm⟩
  exact leftAscends.eq_of_mem_iff rightAscends same

/-! ## Extensions -/

end Path

/-- The name of a script: something, a dot, and the letters `sql` in any case. -/
def IsScriptName (name : Bytes) : Prop :=
  ∃ stem ending, stem ≠ [] ∧ name = stem ++ dot :: Text.utf8 ending ∧
    Text.small ending = ['s', 'q', 'l']

namespace Discovery

/-- What is read when a pattern is written with a slash or a backslash between names. -/
def ReadsAs (written : Text) (read : Except PatternFault Pattern) : Prop :=
  Pattern.ofText (written.map fun character => if character = '\\' then '/' else character) =
    read

/-- What is asked of an entry that a walk from `root` found. -/
structure Wants (discovery : Discovery) (root : Bytes) (entry : Found) : Prop where
  isFile : entry.kind = .file
  isScript : ∃ name, Path.fileName entry.path = some name ∧ IsScriptName name
  inFolder : discovery.folderSuffix = [] ∨ ∃ name,
    Path.folderName entry.path = some (Text.utf8 name) ∧
      Text.small discovery.folderSuffix <:+ Text.small name
  notExcluded : ∀ written ∈ discovery.excludes, ∀ pattern, ReadsAs written (.ok pattern) →
    pattern.accepts (Path.label root entry.path) = false

variable {discovery : Discovery} {root : Bytes} {found : List Found}

/-- The paths of the wanted entries, in ascending order. -/
structure Selects (discovery : Discovery) (root : Bytes) (found : List Found) (files : List Bytes) :
    Prop where
  walked : ∀ path ∈ files, ∃ entry ∈ found, entry.path = path
  wanted : ∀ entry ∈ found, entry.path ∈ files ↔ discovery.Wants root entry
  ascends : files.Pairwise Path.Precedes

/-- The order in which entries are found does not matter. -/
theorem Selects.unique {reordered : List Found} {files others : List Bytes}
    (selected : discovery.Selects root found files)
    (selectedOthers : discovery.Selects root reordered others) (same : reordered.Perm found) :
    others = files := by
  apply Path.eq_of_ascends selectedOthers.ascends selected.ascends
  intro path
  constructor
  · intro member
    obtain ⟨entry, listed, rfl⟩ := selectedOthers.walked path member
    exact (selected.wanted entry (same.mem_iff.mp listed)).mpr
      ((selectedOthers.wanted entry listed).mp member)
  · intro member
    obtain ⟨entry, listed, rfl⟩ := selected.walked path member
    exact (selectedOthers.wanted entry (same.mem_iff.mpr listed)).mpr
      ((selected.wanted entry listed).mp member)

end Discovery

/-! ## Walked folders -/

namespace FileSystem

end FileSystem

end ProcedureAtlas
