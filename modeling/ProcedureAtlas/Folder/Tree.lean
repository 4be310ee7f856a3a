import ProcedureAtlas.Folder.Disk
import ProcedureAtlas.Folder.Path

/-!
# Folders as values

A folder holds named files, symbolic links, folders and entries of other kinds. An entry has a
location, the names from the top folder down to it. A node is put at a location by replacing or
adding one entry; every other entry stays as it is. How a path is followed to a location, and who
may open what lies there, is told in `ProcedureAtlas.Folder.FileSystem`.
-/

namespace ProcedureAtlas

set_option autoImplicit false

/-- What lies at a location. Something other than a file, link or folder cannot be opened and gives
the fault it holds. -/
inductive Node where
  | file (content : Bytes)
  | link (target : Bytes)
  | folder (entries : List (Bytes × Node))
  | special (fault : DiskFault)

abbrev Folder := List (Bytes × Node)

namespace Folder

def replace (name : Bytes) (node : Node) : Folder → Folder
  | [] => [(name, node)]
  | entry :: entries =>
      if entry.1 = name then (name, node) :: entries else entry :: replace name node entries

/-- The entries of the folder of that name; none if there is no such folder. -/
def inner (folder : Folder) (name : Bytes) : Folder :=
  match folder.lookup name with
  | some (.folder entries) => entries
  | _ => []

/-- Puts a node at a location, with the folders on the way. -/
def put (folder : Folder) : List Bytes → Node → Folder
  | [], _ => folder
  | [name], node => folder.replace name node
  | name :: names, node => folder.replace name (.folder (put (folder.inner name) names node))

/-- The node at a location; the top folder itself is at the empty one. -/
def nodeAt (folder : Folder) : List Bytes → Option Node
  | [] => some (.folder folder)
  | name :: names =>
      match folder.lookup name with
      | some (.folder entries) => nodeAt entries names
      | some node => if names.isEmpty then some node else none
      | none => none

end Folder

end ProcedureAtlas
