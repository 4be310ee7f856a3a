import ProcedureAtlas.Folder.Name
import ProcedureAtlas.Text.LetterCase
import ProcedureAtlas.Text.Order

/-!
# Paths

A path is a sequence of bytes whose pieces are parted by slashes. It stands for a list of
components: a slash in front is the root, a dot in front is the current folder, and every other
empty piece or dot counts for nothing. Two dots are kept as they are. A backslash is an ordinary
byte of a name.

Paths are ordered component by component, which is not the order of their bytes.
-/

namespace ProcedureAtlas

set_option autoImplicit false

namespace Path

def slash : UInt8 := 0x2F

def dot : UInt8 := 0x2E

end Path

open ProcedureAtlas.Path (slash dot)

inductive Component where
  | root
  | current
  | parent
  | normal (name : Bytes)
deriving DecidableEq, Repr

namespace Component

def rank : Component → Nat
  | .root => 0
  | .current => 1
  | .parent => 2
  | .normal _ => 3

def name : Component → Bytes
  | .normal name => name
  | _ => []

def compareRanks (left right : Component) : Ordering :=
  Ord.compare left.rank right.rank

def compareNames (left right : Component) : Ordering :=
  Ord.compare left.name right.name

/-- The root comes first, then the current folder, then the folder above, then names. -/
def compare : Component → Component → Ordering :=
  compareLex compareRanks compareNames

instance : Std.TransCmp compareRanks :=
  transCmp_through rank Ord.compare

instance : Std.TransCmp compareNames :=
  transCmp_through name Ord.compare

instance : Std.TransCmp compare :=
  inferInstanceAs (Std.TransCmp (compareLex compareRanks compareNames))

/-- What a piece stands for behind the first one. -/
def ofPiece (piece : Bytes) : Option Component :=
  if piece = [] ∨ piece = [dot] then
    none
  else if piece = [dot, dot] then
    some .parent
  else
    some (.normal piece)

/-- What the first piece stands for. It is the root when it is empty and a slash follows. -/
def ofFirstPiece (piece : Bytes) (slashFollows : Bool) : Option Component :=
  if piece = [] ∧ slashFollows then
    some .root
  else if piece = [dot] then
    some .current
  else
    ofPiece piece

end Component

namespace Path

/-- The pieces of a path, each with the component it stands for. -/
def pieces (path : Bytes) : List (Bytes × Option Component) :=
  match path.splitOn slash with
  | [] => []
  | first :: others =>
      (first, Component.ofFirstPiece first (!others.isEmpty)) ::
        others.map fun piece => (piece, Component.ofPiece piece)

def components (path : Bytes) : List Component :=
  (pieces path).filterMap Prod.snd

def isRedundant (piece : Bytes × Option Component) : Bool :=
  piece.2.isNone

def dropComponents : Nat → List (Bytes × Option Component) → List (Bytes × Option Component)
  | 0, pieces => pieces
  | _ + 1, [] => []
  | count + 1, piece :: pieces =>
      if isRedundant piece then dropComponents (count + 1) pieces else dropComponents count pieces

/-- The path of some pieces, less the redundant ones at both ends. -/
def ofPieces (pieces : List (Bytes × Option Component)) : Bytes :=
  match ((pieces.dropWhile isRedundant).reverse.dropWhile isRedundant).reverse with
  | [(_, some .root)] => [slash]
  | kept => List.intercalate [slash] (kept.map Prod.fst)

/-- The path as seen from `root`; a path that does not begin with the components of `root` is left
as it is. -/
def relative (root path : Bytes) : Bytes :=
  if (components root).isPrefixOf (components path) then
    ofPieces (dropComponents (components root).length (pieces path))
  else
    path

/-- The label of a file: its path from the root as it is shown, with slashes only. -/
def label (root path : Bytes) : Text :=
  Text.withSlashes (relative root path).shown

def nameOf : List Component → Option Bytes
  | [] => none
  | components =>
      match components.getLast? with
      | some (.normal name) => some name
      | _ => none

def fileName (path : Bytes) : Option Bytes :=
  nameOf (components path)

def folderName (path : Bytes) : Option Bytes :=
  nameOf (components path).dropLast

/-- What follows the last dot of a name, unless that dot is its first byte. -/
def extensionOf (name : Bytes) : Option Bytes :=
  match (name.splitOn dot).reverse with
  | [] => none
  | [_] => none
  | [_, []] => none
  | suffix :: _ => some suffix

def extension (path : Bytes) : Option Bytes :=
  (fileName path).bind extensionOf

def join (folder name : Bytes) : Bytes :=
  if folder = [] then
    name
  else if folder.getLast? = some slash then
    folder ++ name
  else
    folder ++ slash :: name

def compare (left right : Bytes) : Ordering :=
  List.compareLex Component.compare (components left) (components right)

instance : Std.TransCmp compare :=
  transCmp_through components (List.compareLex Component.compare)

end Path

/-- The small form of an ASCII capital; every other byte is left alone. -/
def lowerByte (byte : UInt8) : UInt8 :=
  if 0x41 ≤ byte ∧ byte ≤ 0x5A then byte + 0x20 else byte

/-- Whether the bytes of a text end in those of another, up to the case of ASCII letters. -/
def Text.endsWithLetters (text suffix : Text) : Bool :=
  suffix.utf8.length ≤ text.utf8.length
    && (text.utf8.drop (text.utf8.length - suffix.utf8.length)).map lowerByte
      == suffix.utf8.map lowerByte

end ProcedureAtlas
