import ProcedureAtlas.Text.Basic

/-!
# The order of texts

Texts are ordered character by character, by code point. This is also the order of their UTF-8
bytes.
-/

namespace ProcedureAtlas

set_option autoImplicit false

open Std

/-- An order of values read off an order of something they hold. -/
theorem transCmp_through {Value Part : Type} (part : Value → Part)
    (compare : Part → Part → Ordering) [TransCmp compare] :
    TransCmp fun left right => compare (part left) (part right) where
  eq_swap := OrientedCmp.eq_swap
  isLE_trans := TransCmp.isLE_trans

namespace Text

def compareCharacters (left right : Char) : Ordering :=
  Ord.compare left.toNat right.toNat

def compare (left right : Text) : Ordering :=
  List.compareLex compareCharacters left right

instance : TransCmp compareCharacters :=
  transCmp_through Char.toNat Ord.compare

instance : LawfulEqCmp compareCharacters where
  eq_of_compare {left right} same := by
    have codes : left.toNat = right.toNat :=
      @LawfulEqCmp.eq_of_compare Nat Ord.compare _ _ _ same
    exact Char.ext (UInt32.toNat.inj codes)

instance : TransCmp compare :=
  inferInstanceAs (TransCmp (List.compareLex compareCharacters))

instance : LawfulEqCmp compare :=
  inferInstanceAs (LawfulEqCmp (List.compareLex compareCharacters))

end Text

end ProcedureAtlas
