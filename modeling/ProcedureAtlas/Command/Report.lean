import ProcedureAtlas.Folder.Loading

/-!
# Failure reports

What the command line tells about a failure: the failure itself and, under a heading, its causes. A
single cause is indented; several are numbered. Lines after the first of a cause are indented like
the first.
-/

namespace ProcedureAtlas

set_option autoImplicit false

structure Report where
  message : Text
  causes : List Text
deriving DecidableEq, Repr

namespace Report

/-- A cause behind its lead, with later lines indented by `indent`. -/
def indented (lead indent cause : Text) : Text :=
  lead ++ List.intercalate ('\n' :: indent) (cause.splitOn '\n')

/-- The number in a column of five, then a colon. -/
def numbered (cause : Text × Nat) : Text :=
  let digits := (toString cause.2).toList
  indented (List.replicate (5 - digits.length) ' ' ++ digits ++ [':', ' '])
    (List.replicate 7 ' ') cause.1

def causeLines : List Text → List Text
  | [] => []
  | [cause] => [indented (List.replicate 4 ' ') (List.replicate 4 ' ') cause]
  | causes => causes.zipIdx.map numbered

def render (report : Report) : Text :=
  "Error: ".toList ++ report.message
    ++ (if report.causes.isEmpty then
          []
        else
          "\n\nCaused by:\n".toList ++ List.intercalate ['\n'] (causeLines report.causes))

def ofLoadFailure (failure : LoadFailure) : Report :=
  ⟨failure.message.toList, failure.causes.map String.toList⟩

def ofCatalogFailure (failure : CatalogFailure) : Report :=
  ⟨failure.message.toList, []⟩

def notFound (schema name : Text) (root : Bytes) : Report :=
  ⟨"Procedure [".toList ++ schema ++ "].[".toList ++ name ++ "] not found under ".toList
    ++ root.shown, []⟩

def notCreated (path : Bytes) (fault : DiskFault) : Report :=
  ⟨"Failed to create ".toList ++ path.shown, [fault.message.toList]⟩

end Report

end ProcedureAtlas
