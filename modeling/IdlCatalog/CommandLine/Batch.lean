/-
# IdlCatalog.CommandLine.Batch — many files into one catalog

Every file becomes part of the same catalog, in order. A file that fails is reported and the others
go on. With a library for each file, the library of a file that fails is removed again; with one
library for all files, what the file declared before it failed stays.
-/
import IdlCatalog.CommandLine.Sources
import IdlCatalog.Ingest

namespace IdlCatalog

/-- A file that could not be read or was not accepted, with the reason. -/
structure FileFailure where
  path : String
  reason : String
deriving DecidableEq, Repr

/-- The line that reports a failure. -/
def FileFailure.line (f : FileFailure) : String := f.path ++ ": " ++ f.reason

/-- What a number of files came to: the catalog, the libraries of the accepted files in order, and
the failures in order. -/
structure Batch where
  catalog : Catalog
  libraries : List LibraryId
  failures : List FileFailure

namespace Batch

/-- Notes a failure. -/
def fail (b : Batch) (path reason : String) : Batch :=
  { b with failures := b.failures ++ [⟨path, reason⟩] }

/-- Ingests a file into a library that all files share. -/
def addShared (l : LibraryId) (b : Batch) (source : Source) : Batch :=
  match source.text with
  | .error fault => b.fail source.path fault.message
  | .ok text =>
    let report := b.catalog.ingest l text
    let b := { b with catalog := report.catalog }
    match report.outcome with
    | .ok _ => b
    | .error failure => b.fail source.path failure.message

/-- Ingests a file into a library of its own, named after the file. -/
def addOwn (b : Batch) (source : Source) : Batch :=
  match source.text with
  | .error fault => b.fail source.path fault.message
  | .ok text =>
    let (l, c) := b.catalog.addLibrary (libraryNameFor source.path) true .silent
    let report := c.ingest l text
    match report.outcome with
    | .ok _ => { b with catalog := report.catalog, libraries := b.libraries ++ [l] }
    | .error failure =>
      { b with catalog := (report.catalog.removeLibrary l).2 }.fail source.path failure.message

/-- Ingests files, each into a library of its own. -/
def ofSources (sources : List Source) : Batch :=
  sources.foldl addOwn ⟨Catalog.initial, [], []⟩

/-- Ingests files into one library of the given name. -/
def ofSourcesShared (name : String) (sources : List Source) : Batch :=
  let (l, c) := Catalog.initial.addLibrary name true .silent
  sources.foldl (addShared l) ⟨c, [l], []⟩

/-! ## Comparing -/

/-- Whether a name stands for a declared type. A placeholder for a name that is only mentioned does
not count. -/
def declares (b : Batch) (name : String) : Bool :=
  match b.catalog.resolve? name with
  | some t => (b.catalog.type t).library ≠ some Catalog.hidden
  | none => false

/-- The names that the libraries of a batch have entries for. -/
def names (b : Batch) : List String :=
  b.libraries.flatMap fun l => (b.catalog.library l).types.keys

/-- The names that `candidate` has entries for and `baseline` does not declare, in order and each
once. -/
def missingFrom (baseline candidate : Batch) : List String :=
  ((∅ : Std.TreeSet String).insertMany
    (candidate.names.filter fun name => !baseline.declares name)).toList

end Batch

end IdlCatalog
