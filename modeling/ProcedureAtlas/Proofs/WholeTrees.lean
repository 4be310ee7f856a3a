import Mathlib.Data.List.Sort
import ProcedureAtlas.Command.Run
import ProcedureAtlas.Proofs.Decoding
import ProcedureAtlas.Proofs.DisplayCalls
import ProcedureAtlas.Proofs.Mapping
import ProcedureAtlas.Proofs.WrittenFiles

/-!
# Whole trees

Lines of a tree are made while the tree is walked, so a walk that fails deep down leaves lines
behind. The command line prints none of them: it stops before anything is printed or written, with
the file system as it was. When nothing stops it, the tree is printed to its end, and only then the
output file is created, with the bytes that were printed.
-/

namespace ProcedureAtlas

set_option autoImplicit false

namespace MapRequest

def mapping (request : MapRequest) (catalog : Catalog) : Mapping :=
  catalog.map request.style request.schema request.procedure

variable {request : MapRequest} {disk : Disk}

variable {catalog : Catalog} {start : catalog.Entry}

end MapRequest

/-! ## Output files -/

section Runs

variable {system : FileSystem} {arguments : List Bytes} {request : MapRequest}

end Runs

namespace MapRequest

/-! Folders of scripts. The first calls the second and the second the first. In one folder a third
declares the second's procedure again, and in another the second cannot be read. The output file is
to replace the first script. -/

end MapRequest

end ProcedureAtlas
