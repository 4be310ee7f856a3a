import ProcedureAtlas.Folder.Name

/-!
# What is asked of a disk

The library reads procedures through two questions: which entries lie at and below a path, and which
bytes a file holds. An answer is a value, so everything above the disk is a pure function of it. The
order of the entries is whatever the disk gives.
-/

namespace ProcedureAtlas

set_option autoImplicit false

inductive DiskFault where
  | missing
  | denied
  | notFolder
  | isFolder
  | nameTooLong
  | tooManyLinks
  | nulInPath
  | other (description : String)
deriving DecidableEq, Repr

def DiskFault.message : DiskFault → String
  | .missing => "No such file or directory (os error 2)"
  | .denied => "Permission denied (os error 13)"
  | .notFolder => "Not a directory (os error 20)"
  | .isFolder => "Is a directory (os error 21)"
  | .nameTooLong => "File name too long (os error 36)"
  | .tooManyLinks => "Too many levels of symbolic links (os error 40)"
  | .nulInPath => "file name contained an unexpected NUL byte"
  | .other description => description

inductive EntryKind where
  | file
  | folder
  | link
  | other
deriving DecidableEq, Repr

/-- An entry met on a walk; its path begins with the path the walk began at. -/
structure Found where
  path : Bytes
  kind : EntryKind
deriving DecidableEq, Repr

structure WalkFault where
  path : Bytes
  fault : DiskFault
deriving DecidableEq, Repr

def WalkFault.message (walk : WalkFault) : String :=
  "IO error for operation on " ++ String.ofList walk.path.shown ++ ": " ++ walk.fault.message

structure Disk where
  walk : Bytes → Except WalkFault (List Found)
  read : Bytes → Except DiskFault Bytes

end ProcedureAtlas
