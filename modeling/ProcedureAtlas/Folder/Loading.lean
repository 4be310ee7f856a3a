import ProcedureAtlas.CallTree.Printer
import ProcedureAtlas.Folder.Discovery
import ProcedureAtlas.Folder.Encoding

/-!
# Loading a catalog from a disk

The discovered files are read in their sorted order, each under its label, and catalogued. The first
file that cannot be read ends the loading.
-/

namespace ProcedureAtlas

set_option autoImplicit false

inductive LoadFailure where
  | folder (failure : FolderFailure)
  | catalog (failure : CatalogFailure)
deriving DecidableEq, Repr

namespace LoadFailure

def message : LoadFailure → String
  | .folder failure => failure.message
  | .catalog failure => failure.message

def causes : LoadFailure → List String
  | .folder failure => failure.causes
  | .catalog _ => []

end LoadFailure

namespace Disk

def discover (disk : Disk) (discovery : Discovery) (root : Bytes) :
    Except FolderFailure (List Bytes) :=
  discovery.select root (disk.walk root)

def readSource (disk : Disk) (root path : Bytes) : Except FolderFailure Source :=
  match disk.read path with
  | .error fault => .error (.unreadableFile path (.disk fault))
  | .ok bytes =>
      match Encoding.decode bytes with
      | none => .error (.unreadableFile path .invalidCharacters)
      | some text => .ok ⟨Path.label root path, text⟩

def readSources (disk : Disk) (root : Bytes) : List Bytes → Except FolderFailure (List Source)
  | [] => .ok []
  | path :: paths => do
      let source ← disk.readSource root path
      let sources ← readSources disk root paths
      .ok (source :: sources)

def loadSources (disk : Disk) (discovery : Discovery) (root : Bytes) :
    Except FolderFailure (List Source) := do
  let paths ← disk.discover discovery root
  disk.readSources root paths

def loadCatalog (disk : Disk) (discovery : Discovery) (policy : Policy) (root : Bytes) :
    Except LoadFailure Catalog :=
  match disk.loadSources discovery root with
  | .error failure => .error (.folder failure)
  | .ok sources =>
      match Catalog.ofSources policy sources with
      | .error failure => .error (.catalog failure)
      | .ok catalog => .ok catalog

end Disk

end ProcedureAtlas
