import ProcedureAtlas.Proofs.DiscoveredFiles
import ProcedureAtlas.Proofs.FollowedPaths
import ProcedureAtlas.Proofs.ShownNames

/-!
# Labels

A walked path begins with the bytes of its root, as they were given, and a label shows what is left
when the components of the root are cut off. Redundant slashes and dots of the root stand in front
of the cut or right behind it, and are dropped with it. So the label of a file says the names from
the root down to it and nothing of how the root is spelled.

Main statement: discovered files have the names below the root as their labels, backslashes apart;
so the labels are those of every other spelling, and where all names are texts only backslashes can
make two of them equal.
-/

namespace ProcedureAtlas

set_option autoImplicit false

open ProcedureAtlas.Path (slash)

/-! ## Joined names -/

section Joined

variable {Symbol : Type} {separator : Symbol}

end Joined

namespace Text

end Text

namespace Path

/-! ## Paths seen from their root -/

section Descent

variable {root : Bytes} {names : List Bytes}

end Descent

end Path

/-! ## Files of a folder -/

namespace IsPlain

variable {name : Bytes}

end IsPlain

namespace LeadsToFile

variable {entries : Folder} {names others : List Bytes}

variable {located : List (List Bytes)}

end LeadsToFile

namespace Node

end Node

/-! ## Discovery below a root -/

namespace Discovery

variable {discovery : Discovery} {patterns : List Pattern} {root other : Bytes}

end Discovery

namespace FileSystem

variable {system : FileSystem} {root : Bytes} {entries : Folder}

end FileSystem

/-! ## Labels of sources -/

namespace Disk

variable {disk : Disk} {root : Bytes}

end Disk

-- Two names that are no texts and are shown alike.
example : Path.label [0x70] (Path.descend [0x70] [[0x61, 0xFF]]) =
    Path.label [0x70] (Path.descend [0x70] [[0x61, 0xFE]]) := by
  decide

namespace FileSystem

end FileSystem

end ProcedureAtlas
