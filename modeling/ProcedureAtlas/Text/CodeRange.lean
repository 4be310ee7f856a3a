/-!
# Ranges of code points

A character class is kept as a list of inclusive ranges. Membership asks each range in turn, so the
class of a character does not depend on the order in which the ranges are written.
-/

namespace ProcedureAtlas

set_option autoImplicit false

abbrev CodeRanges := List (Nat × Nat)

def CodeRanges.holds (ranges : CodeRanges) (character : Char) : Bool :=
  ranges.any fun range => range.1 ≤ character.toNat && character.toNat ≤ range.2

end ProcedureAtlas
