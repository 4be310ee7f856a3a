import ProcedureAtlas.Text.Basic
import ProcedureAtlas.Text.CodeRange

/-!
# Blanks

White space as the Unicode property of that name has it: twenty-five characters.
-/

namespace ProcedureAtlas

set_option autoImplicit false

def blankRanges : CodeRanges :=
  [(0x9, 0xD), (0x20, 0x20), (0x85, 0x85), (0xA0, 0xA0), (0x1680, 0x1680), (0x2000, 0x200A),
   (0x2028, 0x2029), (0x202F, 0x202F), (0x205F, 0x205F), (0x3000, 0x3000)]

def isBlank (character : Char) : Bool :=
  blankRanges.holds character

namespace Text

def trimEnd (text : Text) : Text :=
  text.dropEndWhile isBlank

def trim (text : Text) : Text :=
  trimEnd (text.dropWhile isBlank)

end Text

end ProcedureAtlas
