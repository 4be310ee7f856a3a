import ProcedureAtlas.Folder.Path
import ProcedureAtlas.Proofs.ByteSuffixes

/-!
# Names that are shown

What is shown of bytes follows from two facts. In front of the bytes of a character that character
is shown, and the rest as if it stood alone. A slash goes on with no character, so it parts what is
shown as it parts the bytes. Hence a text is shown as it is, and a path is shown as its shown names
with slashes between them.
-/

namespace ProcedureAtlas

set_option autoImplicit false

open ProcedureAtlas.Path (slash)

namespace Bytes

-- Two and three bytes that break off are shown as one mark each, and a byte that begins no
-- character as another.
example : shown [0x61, 0xE2, 0x82, 0x62, 0xF0, 0x9F, 0x98, 0xFF] =
    ['a', replacement, 'b', replacement, replacement] := by
  decide

/-! ## Slashes -/

end Bytes

end ProcedureAtlas
