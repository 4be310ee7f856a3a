import ProcedureAtlas.Command.Arguments
import ProcedureAtlas.Command.Report
import ProcedureAtlas.Folder.FileSystem

/-!
# Runs of the command line

A run first works out everything it will print. Only then does it print, and only after that does it
create the output file, so a failure before that point prints nothing and leaves every file alone. A
file that cannot be created is reported, with the printed lines kept.
-/

namespace ProcedureAtlas

set_option autoImplicit false

/-- The lines that a run prints, and the file that is to hold the same. -/
structure Plan where
  lines : List Text
  output : Option Bytes
deriving DecidableEq, Repr

inductive ExitCode where
  | success
  | failure
  | usage
deriving DecidableEq, Repr

def ExitCode.toNat : ExitCode → Nat
  | .success => 0
  | .failure => 1
  | .usage => 2

structure RunResult where
  exitCode : ExitCode
  printed : Text
  report : Option Report
deriving DecidableEq, Repr

def versionLine : Text := "rust-procmap 0.1.0".toList

def writeLines : List Text → Text
  | [] => []
  | line :: lines => line ++ '\n' :: writeLines lines

def Record.listing (record : Record) : Text :=
  record.display ++ '\t' :: record.label

namespace Request

def planMap (disk : Disk) (request : MapRequest) : Except Report Plan :=
  match disk.loadCatalog request.origin.discovery request.origin.policy request.origin.root with
  | .error failure => .error (.ofLoadFailure failure)
  | .ok catalog =>
      let mapping := catalog.map request.style request.schema request.procedure
      match mapping.outcome with
      | .error failure => .error (.ofCatalogFailure failure)
      | .ok .notFound =>
          .error (.notFound request.schema request.procedure request.origin.root)
      | .ok (.mapped _) => .ok ⟨mapping.lines, request.output⟩

def planList (disk : Disk) (origin : Origin) : Except Report Plan :=
  match disk.loadCatalog origin.discovery origin.policy origin.root with
  | .error failure => .error (.ofLoadFailure failure)
  | .ok catalog => .ok ⟨catalog.records.map Record.listing, none⟩

def plan (disk : Disk) : Request → Except Report Plan
  | .version => .ok ⟨[versionLine], none⟩
  | .map request => planMap disk request
  | .list origin => planList disk origin

end Request

namespace RunResult

def usage : RunResult :=
  ⟨.usage, [], none⟩

def failed (report : Report) : RunResult :=
  ⟨.failure, [], some report⟩

def succeeded (plan : Plan) : RunResult :=
  ⟨.success, writeLines plan.lines, none⟩

def notCreated (plan : Plan) (path : Bytes) (fault : DiskFault) : RunResult :=
  ⟨.failure, writeLines plan.lines, some (.notCreated path fault)⟩

end RunResult

def Plan.carryOut (plan : Plan) (system : FileSystem) : RunResult × FileSystem :=
  match plan.output with
  | none => (.succeeded plan, system)
  | some path =>
      match system.write path (writeLines plan.lines).utf8 with
      | .error fault => (.notCreated plan path fault, system)
      | .ok written => (.succeeded plan, written)

def run (arguments : List Bytes) (system : FileSystem) : RunResult × FileSystem :=
  match Request.ofArguments arguments with
  | .error _ => (.usage, system)
  | .ok request =>
      match request.plan system.disk with
      | .error report => (.failed report, system)
      | .ok plan => plan.carryOut system

end ProcedureAtlas
