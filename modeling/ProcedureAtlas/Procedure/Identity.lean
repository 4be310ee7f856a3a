import ProcedureAtlas.Procedure.Key
import ProcedureAtlas.Script.Identifier

/-!
# Procedure identities

A procedure is known by its schema and its name, both in the bare form they had when the identity was
made. Case does not tell identities apart. The key of an identity is meant to be equal exactly when
the identities match.
-/

namespace ProcedureAtlas

set_option autoImplicit false

inductive IdentityFault where
  | emptyName
  | emptySchema
deriving DecidableEq, Repr

def IdentityFault.message : IdentityFault → String
  | .emptyName => "procedure name is empty"
  | .emptySchema => "schema name is empty"

structure Identity where
  schema : Text
  name : Text
deriving DecidableEq, Repr

namespace Identity

/-- The identity of a written pair. An empty name is reported before an empty schema. -/
def ofWritten (schema name : Text) : Except IdentityFault Identity :=
  if Identifier.isEmpty name then
    .error .emptyName
  else if Identifier.isEmpty schema then
    .error .emptySchema
  else
    .ok ⟨Identifier.bare schema, Identifier.bare name⟩

def ofOptional (schema : Option Text) (name : Text) : Except IdentityFault Identity :=
  ofWritten (schema.getD Identifier.defaultSchema) name

/-- Compares with a name and a schema taken as they are. -/
def isMatch (identity : Identity) (name schema : Text) : Bool :=
  Text.sameUpToCase identity.name name && Text.sameUpToCase identity.schema schema

def same (left right : Identity) : Bool :=
  left.isMatch right.name right.schema

def display (identity : Identity) : Text :=
  Identifier.qualified identity.schema identity.name

def key (identity : Identity) : Key :=
  Key.ofName identity.schema identity.name

end Identity

end ProcedureAtlas
