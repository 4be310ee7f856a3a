import ProcedureAtlas.CallTree.Printer
import ProcedureAtlas.Folder.Discovery

/-!
# Command line arguments

The first argument chooses between mapping one procedure and listing all. Options follow in any
order. A long option takes its value behind an equals sign or from the next argument; a short one
takes the rest of its argument, less one equals sign in front, or the next argument. Short flags may
share an argument. A value from the next argument may not begin with a dash, unless it is a dash
alone. Every option but the exclude patterns may be given once only. Two dashes end the options, and
nothing may follow them.

Arguments are bytes. Paths are taken as they are, and every other value has to be UTF-8.
-/

namespace ProcedureAtlas

set_option autoImplicit false

inductive UsageFault where
  | missingCommand
  | unknownCommand (written : Bytes)
  | unknownOption (written : Bytes)
  | missingValue (name : Text)
  | unexpectedValue (written : Bytes)
  | strayArgument (written : Bytes)
  | repeatedOption (name : Text)
  | missingOption (name : Text)
  | emptyPath (name : Text)
  | invalidCharacters (name : Text)
deriving DecidableEq, Repr

def UsageFault.message : UsageFault → String
  | .missingCommand => "a command is needed: map or list"
  | .unknownCommand written => "unknown command " ++ String.ofList written.shown
  | .unknownOption written => "unknown option " ++ String.ofList written.shown
  | .missingValue name => "a value is needed for --" ++ String.ofList name
  | .unexpectedValue written => "no value is taken by " ++ String.ofList written.shown
  | .strayArgument written => "unexpected argument " ++ String.ofList written.shown
  | .repeatedOption name => "given more than once: --" ++ String.ofList name
  | .missingOption name => "needed and not given: --" ++ String.ofList name
  | .emptyPath name => "an empty path was given for --" ++ String.ofList name
  | .invalidCharacters name => "invalid characters were given for --" ++ String.ofList name

inductive CommandOption where
  | dir
  | folderSuffix
  | exclude
  | skipMalformed
  | verbose
  | schema
  | procedure
  | output
  | padding
  | cycleMarker
deriving DecidableEq, Repr

namespace CommandOption

def all : List CommandOption :=
  [.dir, .folderSuffix, .exclude, .skipMalformed, .verbose, .schema, .procedure, .output, .padding,
   .cycleMarker]

def longName : CommandOption → Text
  | .dir => "dir".toList
  | .folderSuffix => "folder-suffix".toList
  | .exclude => "exclude".toList
  | .skipMalformed => "skip-malformed".toList
  | .verbose => "verbose".toList
  | .schema => "schema".toList
  | .procedure => "procedure".toList
  | .output => "output".toList
  | .padding => "padding".toList
  | .cycleMarker => "cycle-marker".toList

def shortName : CommandOption → Option Char
  | .dir => some 'd'
  | .verbose => some 'v'
  | .schema => some 's'
  | .procedure => some 'p'
  | .output => some 'o'
  | _ => none

def hasShort (letter : UInt8) (option : CommandOption) : Bool :=
  option.shortName.any fun name => Text.utf8 [name] == [letter]

def takesValue : CommandOption → Bool
  | .skipMalformed => false
  | .verbose => false
  | _ => true

def isRepeatable : CommandOption → Bool
  | .exclude => true
  | _ => false

/-- Whether the option says where and what to read, which both commands ask. -/
def isCommon : CommandOption → Bool
  | .dir => true
  | .folderSuffix => true
  | .exclude => true
  | .skipMalformed => true
  | .verbose => true
  | _ => false

def isPath : CommandOption → Bool
  | .dir => true
  | .output => true
  | _ => false

end CommandOption

inductive CommandName where
  | map
  | list
deriving DecidableEq, Repr

def CommandName.options : CommandName → List CommandOption
  | .map => CommandOption.all
  | .list => CommandOption.all.filter CommandOption.isCommon

/-- An option with its value; a flag has an empty one. -/
structure Setting where
  option : CommandOption
  value : Bytes
deriving DecidableEq, Repr

namespace Setting

def dash : UInt8 := 0x2D

def equals : UInt8 := 0x3D

/-- The settings that short options in one argument give, and the option whose value is still to
come. -/
def readShort (command : CommandName) :
    Bytes → Except UsageFault (List Setting × Option CommandOption)
  | [] => .ok ([], none)
  | letter :: rest =>
      match command.options.find? (CommandOption.hasShort letter) with
      | none => .error (.unknownOption (dash :: letter :: rest))
      | some option =>
          if option.takesValue then
            match rest with
            | [] => .ok ([], some option)
            | first :: others =>
                .ok ([⟨option, if first = equals then others else first :: others⟩], none)
          else do
            let (settings, pending) ← readShort command rest
            .ok (⟨option, []⟩ :: settings, pending)

def readLong (command : CommandName) (written : Bytes) :
    Except UsageFault (List Setting × Option CommandOption) :=
  let name := written.takeWhile (· != equals)
  match command.options.find? fun option => option.longName.utf8 == name with
  | none => .error (.unknownOption (dash :: dash :: name))
  | some option =>
      match written.dropWhile (· != equals), option.takesValue with
      | [], true => .ok ([], some option)
      | [], false => .ok ([⟨option, []⟩], none)
      | _ :: value, true => .ok ([⟨option, value⟩], none)
      | _ :: _, false => .error (.unexpectedValue (dash :: dash :: name))

def isValue (written : Bytes) : Bool :=
  written.head? != some dash || written.length == 1

def readArgument (command : CommandName) (written : Bytes) :
    Except UsageFault (List Setting × Option CommandOption) :=
  if isValue written then
    .error (.strayArgument written)
  else if written.take 2 = [dash, dash] then
    readLong command (written.drop 2)
  else
    readShort command (written.drop 1)

def readAll (command : CommandName) : List Bytes → Except UsageFault (List Setting)
  | [] => .ok []
  | written :: rest =>
      if written = [dash, dash] then
        match rest with
        | [] => .ok []
        | stray :: _ => .error (.strayArgument stray)
      else
        match readArgument command written with
        | .error fault => .error fault
        | .ok (settings, none) => do
            let others ← readAll command rest
            .ok (settings ++ others)
        | .ok (settings, some option) =>
            match rest with
            | [] => .error (.missingValue option.longName)
            | value :: behind =>
                if isValue value then do
                  let others ← readAll command behind
                  .ok (settings ++ ⟨option, value⟩ :: others)
                else
                  .error (.missingValue option.longName)

def valuesOf (settings : List Setting) (option : CommandOption) : List Bytes :=
  (settings.filter fun setting => setting.option == option).map Setting.value

def value? (settings : List Setting) (option : CommandOption) : Option Bytes :=
  (valuesOf settings option).head?

def readText (option : CommandOption) (value : Bytes) : Except UsageFault Text :=
  match Encoding.readUtf8 value with
  | some text => .ok text
  | none => .error (.invalidCharacters option.longName)

def textsOf (settings : List Setting) (option : CommandOption) : Except UsageFault (List Text) :=
  (valuesOf settings option).mapM (readText option)

def textOr (settings : List Setting) (option : CommandOption) (default : Text) :
    Except UsageFault Text :=
  (value? settings option).elim (.ok default) (readText option)

def isGiven (settings : List Setting) (option : CommandOption) : Bool :=
  (value? settings option).isSome

def required (settings : List Setting) (option : CommandOption) : Except UsageFault Bytes :=
  match value? settings option with
  | some value => .ok value
  | none => .error (.missingOption option.longName)

def check (settings : List Setting) : Except UsageFault Unit :=
  match CommandOption.all.find? fun option =>
      !option.isRepeatable && 1 < (valuesOf settings option).length with
  | some option => .error (.repeatedOption option.longName)
  | none =>
      match CommandOption.all.find? fun option =>
          option.isPath && (valuesOf settings option).any List.isEmpty with
      | some option => .error (.emptyPath option.longName)
      | none => .ok ()

end Setting

/-- Where procedures are read and which of them count. -/
structure Origin where
  root : Bytes
  discovery : Discovery
  policy : Policy
deriving DecidableEq, Repr

structure MapRequest where
  origin : Origin
  schema : Text
  procedure : Text
  output : Option Bytes
  style : Style
deriving DecidableEq, Repr

inductive Request where
  | version
  | map (request : MapRequest)
  | list (origin : Origin)
deriving DecidableEq, Repr

namespace Request

def originOf (settings : List Setting) : Except UsageFault Origin := do
  let plain : Discovery := {}
  let root ← Setting.required settings .dir
  let folderSuffix ← Setting.textOr settings .folderSuffix plain.folderSuffix
  let excludes ← Setting.textsOf settings .exclude
  .ok {
    root := root
    discovery := ⟨folderSuffix, excludes⟩
    policy := if Setting.isGiven settings .skipMalformed then .skip else .strict
  }

def mapOf (settings : List Setting) : Except UsageFault MapRequest := do
  let plain : Style := {}
  let origin ← originOf settings
  let schema ← Setting.textOr settings .schema Identifier.defaultSchema
  let named ← Setting.required settings .procedure
  let procedure ← Setting.readText .procedure named
  let padding ← Setting.textOr settings .padding plain.padding
  let cycleMarker ← Setting.textOr settings .cycleMarker plain.cycleMarker
  .ok {
    origin := origin
    schema := schema
    procedure := procedure
    output := Setting.value? settings .output
    style := ⟨padding, cycleMarker⟩
  }

def ofArguments : List Bytes → Except UsageFault Request
  | [] => .error .missingCommand
  | first :: rest =>
      if first = Text.utf8 "map".toList then do
        let settings ← Setting.readAll .map rest
        Setting.check settings
        let request ← mapOf settings
        .ok (.map request)
      else if first = Text.utf8 "list".toList then do
        let settings ← Setting.readAll .list rest
        Setting.check settings
        let origin ← originOf settings
        .ok (.list origin)
      else if first = Text.utf8 "--version".toList || first.take 2 = Text.utf8 "-V".toList then
        .ok .version
      else
        .error (.unknownCommand first)

end Request

end ProcedureAtlas
