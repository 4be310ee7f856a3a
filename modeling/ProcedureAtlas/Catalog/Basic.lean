import ProcedureAtlas.Catalog.Failure
import ProcedureAtlas.Catalog.Index

/-!
# The catalog

The records of many sources in the order of the sources. A strict catalog refuses the first source
that is not well formed; a skipping one leaves such sources out and remembers their labels.

An entry is a position in the catalog, so two records with equal contents remain two entries. A
lookup takes a written name and schema and answers only when exactly one record matches.
-/

namespace ProcedureAtlas

set_option autoImplicit false

/-- What happens to a source or a reference whose procedure name cannot be read. -/
inductive Policy where
  | strict
  | skip
deriving DecidableEq, Repr

structure Catalog where
  records : List Record
  skipped : List Text
  policy : Policy
  index : Index
  index_eq : index = Index.ofRecords records := by rfl

namespace Catalog

def ofRecords (policy : Policy) (skipped : List Text) (records : List Record) : Catalog where
  records := records
  skipped := skipped
  policy := policy
  index := Index.ofRecords records

/-- The records of the sources and the labels of those left out. -/
def readSources (policy : Policy) :
    List Source → Except CatalogFailure (List Record × List Text)
  | [] => .ok ([], [])
  | source :: sources =>
      match Record.ofSource source with
      | .ok record => do
          let (records, skipped) ← readSources policy sources
          .ok (record :: records, skipped)
      | .error fault =>
          match policy with
          | .strict => .error (.malformedDefinition source.label fault)
          | .skip => do
              let (records, skipped) ← readSources policy sources
              .ok (records, source.label :: skipped)

def ofSources (policy : Policy) (sources : List Source) : Except CatalogFailure Catalog := do
  let (records, skipped) ← readSources policy sources
  .ok (ofRecords policy skipped records)

abbrev Entry (catalog : Catalog) := Fin catalog.records.length

def record (catalog : Catalog) (entry : catalog.Entry) : Record :=
  catalog.records.get entry

def display (catalog : Catalog) (entry : catalog.Entry) : Text :=
  (catalog.record entry).display

def entry? (catalog : Catalog) (position : Nat) : Option catalog.Entry :=
  if bound : position < catalog.records.length then some ⟨position, bound⟩ else none

/-- The entries found under the key of a bare name and schema that also match them. -/
def matching (catalog : Catalog) (name schema : Text) : List catalog.Entry :=
  ((catalog.index.bucket (Key.ofName schema name)).filterMap catalog.entry?).filter
    fun entry => (catalog.record entry).isMatch name schema

/-- The one entry in a list, none, or the ambiguity of several. -/
def only (catalog : Catalog) : List catalog.Entry → Except CatalogFailure (Option catalog.Entry)
  | [] => .ok none
  | [entry] => .ok (some entry)
  | first :: others =>
      .error (.ambiguousProcedure (catalog.display first)
        ((first :: others).map fun entry => (catalog.record entry).label))

def lookup (catalog : Catalog) (name schema : Text) :
    Except CatalogFailure (Option catalog.Entry) :=
  catalog.only (catalog.matching (Identifier.bare name) (Identifier.bare schema))

def lookupIdentity (catalog : Catalog) (identity : Identity) :
    Except CatalogFailure (Option catalog.Entry) :=
  catalog.lookup identity.name identity.schema

end Catalog

end ProcedureAtlas
