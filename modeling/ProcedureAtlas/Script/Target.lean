import ProcedureAtlas.Script.Position

/-!
# Written names

A segment is a word character and all word characters and dashes that follow, with an opening
bracket before it and a closing bracket behind it if they are there; the two are independent. A
dotted name is read in the longest of its readings that fits: when the text after a dot is no
segment, the dot is left alone.
-/

namespace ProcedureAtlas

set_option autoImplicit false

/-- A segment as it stands in the script, without its brackets. -/
structure Segment where
  position : Position
  name : Text
deriving DecidableEq, Repr

/-- The last segment of a dotted name, the segment that gives its schema, and where it ends. -/
structure Target where
  schema : Option Segment
  name : Segment
  stop : Position
deriving DecidableEq, Repr

def isSegmentPart (character : Char) : Bool :=
  isWord character || character == '-'

namespace Segment

def read (position : Position) : Option (Segment × Position) :=
  let opened := position.skipChar '['
  match opened.after with
  | [] => none
  | character :: rest =>
      if isWord character then
        let stop := (opened.pass character rest).skipWhile isSegmentPart
        some (⟨opened, character :: rest.takeWhile isSegmentPart⟩, stop.skipChar ']')
      else
        none

def readDotted (position : Position) : Option (Segment × Position) := do
  let (segment, stop) ← read position
  let afterDot ← stop.readChar '.'
  some (segment, afterDot)

end Segment

namespace Target

def readName (position : Position) : Option Target := do
  let (name, stop) ← Segment.read position
  some ⟨none, name, stop⟩

/-- The reading `schema.name`. -/
def readSchemaName (position : Position) : Option Target := do
  let (schema, afterSchema) ← Segment.readDotted position
  let (name, stop) ← Segment.read afterSchema
  some ⟨some schema, name, stop⟩

/-- The reading `.name`. -/
def readDotName (position : Position) : Option Target := do
  let afterDot ← position.readChar '.'
  readName afterDot

/-- The reading `database..name`. -/
def readDatabaseName (position : Position) : Option Target := do
  let (_, afterDatabase) ← Segment.readDotted position
  readDotName afterDatabase

/-- The reading `database.schema.name`. -/
def readDatabaseSchemaName (position : Position) : Option Target := do
  let (_, afterDatabase) ← Segment.readDotted position
  readSchemaName afterDatabase

def readDeclared (position : Position) : Option Target :=
  (readSchemaName position).or (readName position)

def readCalled (position : Position) : Option Target :=
  (readDatabaseSchemaName position).or <|
    (readDatabaseName position).or <|
      (readSchemaName position).or <|
        (readDotName position).or (readName position)

end Target

end ProcedureAtlas
