import ProcedureAtlas.CallTree.Walk

/-!
# Printed call trees

Each event of a walk is one line: the padding once per level, the display name, and the marker on a
cycle. A printer keeps every line it has printed, those before a failure too, and can be used again.
It counts its lines one by one and never sets the count back; a print returns by how much the count
has grown.
-/

namespace ProcedureAtlas

set_option autoImplicit false

structure Style where
  padding : Text := ['|', '\t']
  cycleMarker : Text := ['.', '.', '.']
deriving DecidableEq, Repr

def Style.line (style : Style) (depth : Nat) (display : Text) (isCycle : Bool) : Text :=
  (List.replicate depth style.padding).flatten ++ display
    ++ (if isCycle then style.cycleMarker else [])

def Event.line {catalog : Catalog} (style : Style) (event : Event catalog) : Text :=
  style.line event.depth (catalog.display event.entry) event.isCycle

def Walk.lines {catalog : Catalog} (style : Style) (walk : Walk catalog) : List Text :=
  walk.events.map (Event.line style)

structure Printer where
  style : Style
  printed : List Text := []
  count : Nat := 0
deriving DecidableEq, Repr

namespace Printer

/-- The printer afterwards, and the number of lines printed or the failure that stopped it. -/
def print (printer : Printer) (catalog : Catalog) (start : catalog.Entry) :
    Printer × Except CatalogFailure Nat :=
  let (outcome, trail) := catalog.walkAfter printer.count start
  let after := { printer with
    printed := printer.printed ++ trail.noted.reverse.map (Event.line printer.style)
    count := trail.count }
  match outcome with
  | .error failure => (after, .error failure)
  | .ok _ => (after, .ok (after.count - printer.count))

end Printer

def Catalog.render (catalog : Catalog) (style : Style) (start : catalog.Entry) :
    Except CatalogFailure (List Text) :=
  match Printer.print { style := style } catalog start with
  | (_, .error failure) => .error failure
  | (printer, .ok _) => .ok printer.printed

inductive MapOutcome where
  | mapped (count : Nat)
  | notFound
deriving DecidableEq, Repr

structure Mapping where
  lines : List Text
  outcome : Except CatalogFailure MapOutcome

/-- Maps the tree below the procedure that a written schema and name stand for. -/
def Catalog.map (catalog : Catalog) (style : Style) (schema name : Text) : Mapping :=
  match catalog.lookup name schema with
  | .error failure => ⟨[], .error failure⟩
  | .ok none => ⟨[], .ok .notFound⟩
  | .ok (some start) =>
      match Printer.print { style := style } catalog start with
      | (printer, .error failure) => ⟨printer.printed, .error failure⟩
      | (printer, .ok count) => ⟨printer.printed, .ok (.mapped count)⟩

end ProcedureAtlas
