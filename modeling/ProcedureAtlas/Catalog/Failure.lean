import ProcedureAtlas.Procedure.Record

/-!
# What can go wrong with a catalog

A source without a readable header, a reference whose name is empty, and a name that several sources
declare.
-/

namespace ProcedureAtlas

set_option autoImplicit false

inductive CatalogFailure where
  | malformedDefinition (label : Text) (fault : DefinitionFault)
  | malformedReference (label : Text) (reference : Reference) (fault : IdentityFault)
  | ambiguousProcedure (display : Text) (labels : List Text)
deriving DecidableEq, Repr

def CatalogFailure.message : CatalogFailure → String
  | .malformedDefinition label fault =>
      "Malformed procedure definition in " ++ String.ofList label ++ ": " ++ fault.message
  | .malformedReference label reference fault =>
      "Malformed EXEC reference in " ++ String.ofList label ++ ": "
        ++ String.ofList reference.text ++ " (" ++ fault.message ++ ")"
  | .ambiguousProcedure display labels =>
      "Procedure " ++ String.ofList display ++ " is defined more than once ("
        ++ String.ofList (List.intercalate [',', ' '] labels) ++ ")"

end ProcedureAtlas
