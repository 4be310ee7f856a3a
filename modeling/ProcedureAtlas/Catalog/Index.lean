import ProcedureAtlas.Procedure.Record
import Std.Data.TreeMap

/-!
# The index of a catalog

Each key leads to the positions of the records that have it, in ascending order.
-/

namespace ProcedureAtlas

set_option autoImplicit false

abbrev Index := Std.TreeMap Key (List Nat) Key.compare

namespace Index

def bucket (index : Index) (key : Key) : List Nat :=
  index.getD key []

def add (index : Index) (entry : Record × Nat) : Index :=
  index.insert entry.1.identity.key (bucket index entry.1.identity.key ++ [entry.2])

def ofRecords (records : List Record) : Index :=
  records.zipIdx.foldl add ∅

end Index

end ProcedureAtlas
