import ProcedureAtlas.Procedure.Reference
import ProcedureAtlas.Script.Header

/-!
# Procedure records

A source is a script under a label. It becomes a record when it declares a procedure. A record keeps
its script and the references found in it, and its identity is the one its script declares; records
do not point at each other.
-/

namespace ProcedureAtlas

set_option autoImplicit false

structure Source where
  label : Text
  text : Text
deriving DecidableEq, Repr

inductive DefinitionFault where
  | noHeader
  | identity (fault : IdentityFault)
deriving DecidableEq, Repr

def DefinitionFault.message : DefinitionFault → String
  | .noHeader => "no CREATE PROCEDURE header found"
  | .identity fault => fault.message

def Declaration.identity (declaration : Declaration) : Except IdentityFault Identity :=
  Identity.ofOptional declaration.schema declaration.name

structure Record where
  identity : Identity
  label : Text
  text : Text
  references : List Reference
  identity_eq : (Declaration.ofScript? text).map Declaration.identity = some (.ok identity)
  references_eq : references = Reference.ofScript text := by rfl

namespace Record

def ofSource (source : Source) : Except DefinitionFault Record :=
  match found : Declaration.ofScript? source.text with
  | none => .error .noHeader
  | some declaration =>
      match read : declaration.identity with
      | .error fault => .error (.identity fault)
      | .ok identity =>
          .ok {
            identity := identity
            label := source.label
            text := source.text
            references := Reference.ofScript source.text
            identity_eq := by rw [found, Option.map_some, read]
          }

def display (record : Record) : Text :=
  record.identity.display

def isMatch (record : Record) (name schema : Text) : Bool :=
  record.identity.isMatch name schema

end Record

end ProcedureAtlas
