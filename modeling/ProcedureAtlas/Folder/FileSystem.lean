import ProcedureAtlas.Folder.Tree

/-!
# File systems

A file system is a top folder, which is its own parent, the location of the working folder, and
what is denied at which location. A path is followed from the working folder, or from the top folder
when it begins with a slash. A link in the middle of a path, or in front of a slash that ends it, is
always followed, and one at the end unless the link itself is asked for.

Names and paths have a greatest length. A path that is too long is refused at once; a name that is
too long only when the folder it is looked for in has been reached.

A walk meets the entries at and below a path. A folder that cannot be listed is met as an entry and
then as a fault, and the first fault ends the walk.
-/

namespace ProcedureAtlas

set_option autoImplicit false

/-- Where a path leads: to an entry, or to a name that its folder does not have. -/
inductive Place where
  | entry (location : List Bytes)
  | vacancy (folder : List Bytes) (name : Bytes)
deriving DecidableEq, Repr

/-- What a path is followed for: to look at the entry it names, to reach what lies there, or to
create a file. Only the first stops at a link. A path that ends in a slash names no file that could
be created. -/
inductive Aim where
  | inspect
  | reach
  | create
deriving DecidableEq, Repr

/-- The faults with which an access to a location is denied: to read the file or list the folder
that lies there, to go through the folder, and to write the file or create one in the folder. -/
structure Access where
  reading : List Bytes → Option DiskFault := fun _ => none
  passing : List Bytes → Option DiskFault := fun _ => none
  writing : List Bytes → Option DiskFault := fun _ => none

/-- The fault that a step from the folder at `here` meets. The step without a name behind a slash
does not leave the folder. -/
def Access.barrier (access : Access) (here : List Bytes) (step : Bytes) : Option DiskFault :=
  if step = [] then none else access.passing here

structure FileSystem where
  top : Folder
  working : List Bytes
  access : Access := {}

namespace FileSystem

open ProcedureAtlas.Path (slash dot)

def nameLimit : Nat := 255

def pathLimit : Nat := 4095

def linkLimit : Nat := 40

/-! ## Paths that are followed -/

/-- The steps of a path. A slash at its end is one more step, without a name. -/
def stepsOf (path : Bytes) : List Bytes :=
  (path.splitOn slash).filter (fun piece => !piece.isEmpty)
    ++ (if path.getLast? = some slash then [[]] else [])

/-- Where the first step of a path is taken that stands in the folder at `here`. -/
def startOf (here : List Bytes) (path : Bytes) : List Bytes :=
  if path.head? = some slash then [] else here

/-- Takes steps from the folder at `here`. A link that has to be followed is handed over with the
folder its target starts in and the steps that then lie ahead. -/
def takeSteps (system : FileSystem) (aim : Aim)
    (followLink : List Bytes → List Bytes → Except DiskFault Place) (here : List Bytes) :
    List Bytes → Except DiskFault Place
  | [] => .ok (.entry here)
  | step :: rest =>
      match system.top.nodeAt here with
      | some (.folder entries) =>
          match system.access.barrier here step with
          | some fault => .error fault
          | none =>
              if aim = .create ∧ rest = [[]] then
                .error .isFolder
              else if step = [] ∨ step = [dot] then
                takeSteps system aim followLink here rest
              else if step = [dot, dot] then
                takeSteps system aim followLink here.dropLast rest
              else if nameLimit < step.length then
                .error .nameTooLong
              else
                match entries.lookup step with
                | none => if rest.isEmpty then .ok (.vacancy here step) else .error .missing
                | some (.link target) =>
                    if aim = .inspect ∧ rest = [] then
                      .ok (.entry (here ++ [step]))
                    else
                      followLink (startOf here target) (stepsOf target ++ rest)
                | some _ => takeSteps system aim followLink (here ++ [step]) rest
      | some _ => .error .notFolder
      | none => .error .missing

/-- Takes steps and follows at most `links` links on the way. -/
def takeStepsAndLinks (system : FileSystem) (aim : Aim) :
    Nat → List Bytes → List Bytes → Except DiskFault Place
  | 0 => takeSteps system aim fun _ _ => .error .tooManyLinks
  | links + 1 => takeSteps system aim (takeStepsAndLinks system aim links)

def place (system : FileSystem) (aim : Aim) (path : Bytes) : Except DiskFault Place :=
  if path.contains 0 then
    .error .nulInPath
  else if path.isEmpty then
    .error .missing
  else if pathLimit < path.length then
    .error .nameTooLong
  else
    takeStepsAndLinks system aim linkLimit (startOf system.working path) (stepsOf path)

def find (system : FileSystem) (aim : Aim) (path : Bytes) :
    Except DiskFault (List Bytes × Node) :=
  match system.place aim path with
  | .error fault => .error fault
  | .ok (.vacancy _ _) => .error .missing
  | .ok (.entry location) =>
      match system.top.nodeAt location with
      | none => .error .missing
      | some node => .ok (location, node)

def read (system : FileSystem) (path : Bytes) : Except DiskFault Bytes :=
  match system.find .reach path with
  | .error fault => .error fault
  | .ok (location, node) =>
      match system.access.reading location with
      | some fault => .error fault
      | none =>
          match node with
          | .file content => .ok content
          | .special fault => .error fault
          | _ => .error .isFolder

def put (system : FileSystem) (location : List Bytes) (node : Node) : FileSystem :=
  { system with top := system.top.put location node }

def putUnless (system : FileSystem) (fault : Option DiskFault) (location : List Bytes)
    (content : Bytes) : Except DiskFault FileSystem :=
  match fault with
  | some fault => .error fault
  | none => .ok (system.put location (.file content))

def write (system : FileSystem) (path content : Bytes) : Except DiskFault FileSystem :=
  match system.place .create path with
  | .error fault => .error fault
  | .ok (.vacancy folder name) =>
      system.putUnless (system.access.writing folder) (folder ++ [name]) content
  | .ok (.entry location) =>
      match system.top.nodeAt location with
      | some (.file _) => system.putUnless (system.access.writing location) location content
      | some (.special fault) => .error fault
      | _ => .error .isFolder

/-! ## Walks -/

/-- The fault that listing a folder meets, when its parent can be gone through but for `barrier`. -/
def listingFault (access : Access) (barrier : Option DiskFault) (location : List Bytes)
    (path : Bytes) : Option DiskFault :=
  if pathLimit < path.length then some .nameTooLong else barrier.or (access.reading location)

mutual

/-- What a walk meets at and below a node. Links are not followed. -/
def meetNode (access : Access) (barrier : Option DiskFault) (location : List Bytes)
    (path : Bytes) : Node → List (Except WalkFault Found)
  | .file _ => [.ok ⟨path, .file⟩]
  | .link _ => [.ok ⟨path, .link⟩]
  | .special _ => [.ok ⟨path, .other⟩]
  | .folder entries =>
      .ok ⟨path, .folder⟩ ::
        match listingFault access barrier location path with
        | some fault => [.error ⟨path, fault⟩]
        | none => meetEntries access location path entries

def meetEntries (access : Access) (location : List Bytes) (path : Bytes) :
    List (Bytes × Node) → List (Except WalkFault Found)
  | [] => []
  | (name, node) :: entries =>
      meetNode access (access.passing location) (location ++ [name]) (Path.join path name) node
        ++ meetEntries access location path entries

end

/-- The entries that were met, unless there is a fault among them. -/
def met : List (Except WalkFault Found) → Except WalkFault (List Found)
  | [] => .ok []
  | .error fault :: _ => .error fault
  | .ok entry :: rest => do
      let found ← met rest
      .ok (entry :: found)

/-- The entries at and below a path. A path that is itself a link to a folder is entered. -/
def walk (system : FileSystem) (path : Bytes) : Except WalkFault (List Found) :=
  match system.find .inspect path with
  | .error fault => .error ⟨path, fault⟩
  | .ok (_, .link _) =>
      match system.find .reach path with
      | .error fault => .error ⟨path, fault⟩
      | .ok (location, .folder entries) =>
          met (.ok ⟨path, .link⟩ ::
            (meetNode system.access none location path (.folder entries)).tail)
      | .ok _ => .ok [⟨path, .link⟩]
  | .ok (location, node) => met (meetNode system.access none location path node)

def disk (system : FileSystem) : Disk where
  walk := system.walk
  read := system.read

/-! ## Files and folders that are added -/

/-- The file system whose only folders are those on the way to an empty working folder. -/
def ofWorking (working : List Bytes) : FileSystem where
  top := Folder.put [] working (.folder [])
  working := working

/-- Takes steps from the folder at `here` and makes the folders that are not there yet. -/
def makeFolders (system : FileSystem) (here : List Bytes) :
    List Bytes → Except DiskFault FileSystem
  | [] => .ok system
  | step :: rest =>
      match system.takeStepsAndLinks .reach linkLimit here [step] with
      | .error fault => .error fault
      | .ok (.entry location) => makeFolders system location rest
      | .ok (.vacancy folder name) =>
          makeFolders (system.put (folder ++ [name]) (.folder [])) (folder ++ [name]) rest

def addFolder (system : FileSystem) (path : Bytes) : Except DiskFault FileSystem :=
  system.makeFolders (startOf system.working path) (stepsOf path)

/-- Makes the folders on the way to what a path names. -/
def addParents (system : FileSystem) (path : Bytes) : Except DiskFault FileSystem :=
  system.makeFolders (startOf system.working path) (stepsOf path).dropLast

def addFile (system : FileSystem) (path : Bytes) (content : Bytes) :
    Except DiskFault FileSystem := do
  let prepared ← system.addParents path
  prepared.write path content

def addLink (system : FileSystem) (path target : Bytes) : Except DiskFault FileSystem := do
  let prepared ← system.addParents path
  match prepared.place .inspect path with
  | .error fault => .error fault
  | .ok (.vacancy folder name) => .ok (prepared.put (folder ++ [name]) (.link target))
  | .ok (.entry location) => .ok (prepared.put location (.link target))

end FileSystem

end ProcedureAtlas
