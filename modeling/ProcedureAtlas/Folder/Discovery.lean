import ProcedureAtlas.Folder.Failure
import ProcedureAtlas.Folder.Matching
import ProcedureAtlas.Folder.Path

/-!
# Discovery of procedure files

A walked entry counts when it is a regular file with the extension `sql`, lies in a folder whose
name ends in the given suffix, and has a label that no exclude pattern accepts. Case does not matter
for the extension and the suffix; an empty suffix admits every folder. An extension or a name of a
folder that is not UTF-8 counts as none. The result is sorted, so it does not depend on the order of
the walk. Patterns are read before the walk is looked at.
-/

namespace ProcedureAtlas

set_option autoImplicit false

structure Discovery where
  folderSuffix : Text := ['P', 'r', 'o', 'c', 'e', 'd', 'u', 'r', 'e', 's']
  excludes : List Text := []
deriving DecidableEq, Repr

namespace Discovery

def readPatterns : List Text → Except FolderFailure (List Pattern)
  | [] => .ok []
  | written :: others =>
      match Pattern.ofText (Text.withSlashes written) with
      | .error fault => .error (.invalidPattern written fault)
      | .ok pattern => do
          let patterns ← readPatterns others
          .ok (pattern :: patterns)

def isScript (path : Bytes) : Bool :=
  ((Path.extension path).bind Encoding.readUtf8).any fun extension =>
    Text.sameLetters extension ['s', 'q', 'l']

def inProcedureFolder (suffix : Text) (path : Bytes) : Bool :=
  suffix.isEmpty || ((Path.folderName path).bind Encoding.readUtf8).any fun name =>
    Text.endsWithLetters name suffix

def isExcluded (patterns : List Pattern) (root path : Bytes) : Bool :=
  patterns.any fun pattern => pattern.fits (Path.label root path)

def qualifies (suffix : Text) (patterns : List Pattern) (root : Bytes) (found : Found) : Bool :=
  found.kind == .file && isScript found.path && inProcedureFolder suffix found.path
    && !isExcluded patterns root found.path

/-- The paths of the files that count, in the order of their components. -/
def select (discovery : Discovery) (root : Bytes) (walked : Except WalkFault (List Found)) :
    Except FolderFailure (List Bytes) := do
  let patterns ← readPatterns discovery.excludes
  match walked with
  | .error fault => .error (.unwalkableFolder fault)
  | .ok found =>
      .ok (List.mergeSort
        ((found.filter (qualifies discovery.folderSuffix patterns root)).map Found.path)
        fun left right => (Path.compare left right).isLE)

end Discovery

end ProcedureAtlas
