import ProcedureAtlas.Folder.Disk

/-!
# Listings

A walk may be handed over as a list of items. An item holds a letter for the kind of an entry, one
blank, and the path of the entry: `f` for a file, `d` for a folder, `l` for a link, and any other
letter for an entry of another kind. An item of another shape names no entry.
-/

namespace ProcedureAtlas

set_option autoImplicit false

def EntryKind.ofLetter : Char → EntryKind
  | 'f' => .file
  | 'd' => .folder
  | 'l' => .link
  | _ => .other

def Found.ofItem? : Text → Option Found
  | letter :: ' ' :: path => some ⟨Text.utf8 path, EntryKind.ofLetter letter⟩
  | _ => none

/-- The disk that a listing and the contents of its files describe. A listing is silent about a path
that leads nowhere, so the fault of a walk is the one that reading its first path gives; to read a
folder is no fault of the walk. -/
def Disk.ofListing (listed : List Found) (read : Bytes → Except DiskFault Bytes) : Disk where
  walk path :=
    match read path with
    | .ok _ => .ok listed
    | .error .isFolder => .ok listed
    | .error fault => .error ⟨path, fault⟩
  read := read

end ProcedureAtlas
