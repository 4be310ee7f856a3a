import ProcedureAtlas.Command.Run
import ProcedureAtlas.Folder.Listing

/-!
# The program

Gathers what a request asks of the disk, hands it to the pure run, and carries the plan out. Nothing
is decided here. The entries at and below the root come as a listing on standard input, with a NUL
character behind each item, which enters a link only when it is the root itself; the contents of the
files are read from the disk.
-/

namespace ProcedureAtlas.Program

set_option autoImplicit false

/-- Some calls give the error number itself and some give it negated. -/
def errorNumber (code : UInt32) : UInt32 :=
  if code < 0x80000000 then code else 0 - code

def faultOfCode (code : UInt32) (description : String) : DiskFault :=
  if errorNumber code = 2 then
    .missing
  else if errorNumber code = 13 then
    .denied
  else if errorNumber code = 20 then
    .notFolder
  else if errorNumber code = 21 then
    .isFolder
  else if errorNumber code = 36 then
    .nameTooLong
  else if errorNumber code = 40 then
    .tooManyLinks
  else
    .other (description ++ " (os error " ++ toString (errorNumber code) ++ ")")

def faultOf : IO.Error → DiskFault
  | .noFileOrDirectory _ code description => faultOfCode code description
  | .inappropriateType _ code description => faultOfCode code description
  | .invalidArgument _ code description => faultOfCode code description
  | .permissionDenied _ code description => faultOfCode code description
  | .resourceExhausted _ code description => faultOfCode code description
  | .otherError code description => faultOfCode code description
  | .illegalOperation code description => faultOfCode code description
  | error => .other (toString error)

def readFile (path : Bytes) : IO (Except DiskFault Bytes) := do
  match ← (IO.FS.readBinFile (String.ofList path.shown)).toBaseIO with
  | .ok content => return .ok content.toList
  | .error error => return .error (faultOf error)

/-- What the disk answers about one root: the listing on standard input, and the contents of the
root and of the scripts listed. -/
def gather (root : Bytes) : IO Disk := do
  let listing ← (← IO.getStdin).readToEnd
  let listed := (listing.splitOn "\x00").filterMap fun item => Found.ofItem? item.toList
  let scripts := listed.filter fun found => found.kind == .file && Discovery.isScript found.path
  let contents ← (root :: scripts.map Found.path).mapM fun path => do
    return (path, ← readFile path)
  return Disk.ofListing listed fun path => (contents.lookup path).getD (.error .missing)

def bytesOf (argument : String) : Bytes :=
  Text.utf8 argument.toList

def gatherFor : Request → IO Disk
  | .version => return ⟨fun _ => .ok [], fun _ => .error .missing⟩
  | .map request => gather request.origin.root
  | .list origin => gather origin.root

def finish (result : RunResult) : IO UInt32 := do
  IO.print (String.ofList result.printed)
  if let some report := result.report then
    IO.eprintln (String.ofList report.render)
  return UInt32.ofNat result.exitCode.toNat

def carryOut (plan : Plan) : IO UInt32 := do
  match plan.output with
  | none => finish (.succeeded plan)
  | some path =>
      IO.print (String.ofList (writeLines plan.lines))
      (← IO.getStdout).flush
      let content := (writeLines plan.lines).utf8.toByteArray
      match ← (IO.FS.writeBinFile (String.ofList path.shown) content).toBaseIO with
      | .ok _ => finish { RunResult.succeeded plan with printed := [] }
      | .error error =>
          finish { RunResult.notCreated plan path (faultOf error) with printed := [] }

end ProcedureAtlas.Program

def main (arguments : List String) : IO UInt32 := do
  match ProcedureAtlas.Request.ofArguments (arguments.map ProcedureAtlas.Program.bytesOf) with
  | .error fault =>
      IO.eprintln fault.message
      ProcedureAtlas.Program.finish .usage
  | .ok request =>
      match request.plan (← ProcedureAtlas.Program.gatherFor request) with
      | .error report => ProcedureAtlas.Program.finish (.failed report)
      | .ok plan => ProcedureAtlas.Program.carryOut plan
