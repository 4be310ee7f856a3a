import ProcedureAtlas.Text.LetterCase
import ProcedureAtlas.Text.Order

/-!
# Keys of procedure names

The lower-case forms of a schema and a name. Names that differ in case only have one key, so a key
can be looked up in an ordered index.
-/

namespace ProcedureAtlas

set_option autoImplicit false

open Std

structure Key where
  schema : Text
  name : Text
deriving DecidableEq, Repr

namespace Key

def ofName (schema name : Text) : Key :=
  ⟨Text.lower schema, Text.lower name⟩

def compareSchemas (left right : Key) : Ordering :=
  Text.compare left.schema right.schema

def compareNames (left right : Key) : Ordering :=
  Text.compare left.name right.name

def compare : Key → Key → Ordering :=
  compareLex compareSchemas compareNames

instance : TransCmp compareSchemas :=
  transCmp_through Key.schema Text.compare

instance : TransCmp compareNames :=
  transCmp_through Key.name Text.compare

instance : TransCmp compare :=
  inferInstanceAs (TransCmp (compareLex compareSchemas compareNames))

instance : LawfulEqCmp compare where
  eq_of_compare {left right} same := by
    have both := compareLex_eq_eq.mp same
    have schemas : left.schema = right.schema :=
      @LawfulEqCmp.eq_of_compare Text Text.compare _ _ _ both.1
    have names : left.name = right.name :=
      @LawfulEqCmp.eq_of_compare Text Text.compare _ _ _ both.2
    cases left
    cases right
    simp_all

end Key

end ProcedureAtlas
