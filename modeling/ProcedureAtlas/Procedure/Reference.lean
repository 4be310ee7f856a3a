import ProcedureAtlas.Procedure.Identity
import ProcedureAtlas.Script.Call

/-!
# References

What is left of a call once it is no longer asked where it stands: the called name and the schema,
if one was written.
-/

namespace ProcedureAtlas

set_option autoImplicit false

structure Reference where
  schema : Option Text
  name : Text
deriving DecidableEq, Repr

namespace Reference

def ofCall (call : Call) : Reference :=
  ⟨call.schema, call.name⟩

def ofScript (script : Text) : List Reference :=
  (Call.ofScript script).map ofCall

def identity (reference : Reference) : Except IdentityFault Identity :=
  Identity.ofOptional reference.schema reference.name

def text (reference : Reference) : Text :=
  match reference.schema with
  | some schema => schema ++ '.' :: reference.name
  | none => reference.name

end Reference

end ProcedureAtlas
