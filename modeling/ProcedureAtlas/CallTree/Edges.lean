import ProcedureAtlas.Catalog.Basic

/-!
# Edges of the call graph

The edges of an entry are the catalogued procedures that its references name, in the order of the
references and as often as they are named. A reference that names nothing in the catalog gives no
edge; one that names several procedures is a failure.
-/

namespace ProcedureAtlas.Catalog

set_option autoImplicit false

def edgesOf (catalog : Catalog) (label : Text) :
    List Reference → Except CatalogFailure (List catalog.Entry)
  | [] => .ok []
  | reference :: references =>
      match reference.identity with
      | .error fault =>
          match catalog.policy with
          | .strict => .error (.malformedReference label reference fault)
          | .skip => edgesOf catalog label references
      | .ok identity => do
          let target ← catalog.lookupIdentity identity
          let targets ← edgesOf catalog label references
          .ok (target.toList ++ targets)

def edges (catalog : Catalog) (entry : catalog.Entry) :
    Except CatalogFailure (List catalog.Entry) :=
  catalog.edgesOf (catalog.record entry).label (catalog.record entry).references

end ProcedureAtlas.Catalog
