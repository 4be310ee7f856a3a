import ProcedureAtlas.Folder.Disk
import ProcedureAtlas.Folder.Pattern

/-!
# What can go wrong with a folder

A file that cannot be read or decoded, a folder that cannot be walked, and an exclude pattern that
is no pattern. The causes of a failure are listed from the nearest to the farthest.
-/

namespace ProcedureAtlas

set_option autoImplicit false

inductive ReadFault where
  | disk (fault : DiskFault)
  | invalidCharacters
deriving DecidableEq, Repr

def ReadFault.message : ReadFault → String
  | .disk fault => fault.message
  | .invalidCharacters => "File contains invalid characters"

inductive FolderFailure where
  | unreadableFile (path : Bytes) (fault : ReadFault)
  | unwalkableFolder (fault : WalkFault)
  | invalidPattern (pattern : Text) (fault : PatternFault)
deriving DecidableEq, Repr

namespace FolderFailure

def message : FolderFailure → String
  | .unreadableFile path _ => "Failed to read SQL file: " ++ String.ofList path.shown
  | .unwalkableFolder walk => "Failed to walk procedure folder: " ++ String.ofList walk.path.shown
  | .invalidPattern pattern fault =>
      "Invalid exclude pattern '" ++ String.ofList pattern ++ "': " ++ fault.message

def causes : FolderFailure → List String
  | .unreadableFile _ fault => [fault.message]
  | .unwalkableFolder walk => [walk.message, walk.fault.message]
  | .invalidPattern _ _ => []

end FolderFailure

end ProcedureAtlas
