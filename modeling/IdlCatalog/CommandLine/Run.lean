/-
# IdlCatalog.CommandLine.Run — what a run prints

A run is a function of the files that its paths lead to. It prints the answer on the standard
output and the failures on the standard error, and ends with code zero exactly if there were none.
-/
import IdlCatalog.Catalog.Describe
import IdlCatalog.CommandLine.Arguments
import IdlCatalog.CommandLine.Batch
import IdlCatalog.CommandLine.JsonText

namespace IdlCatalog

/-- What a run leaves behind. -/
structure RunResult where
  code : Nat
  output : String
  errors : String
deriving DecidableEq, Repr

/-- Lines of text, each with its newline. -/
def unlines (lines : List String) : String :=
  String.join (lines.map (· ++ "\n"))

/-- The result of a run with these lines and these failures. -/
def RunResult.of (lines : List String) (failures : List FileFailure) : RunResult :=
  ⟨if failures.isEmpty then 0 else 1, unlines lines, unlines (failures.map (·.line))⟩

/-! ## Listings -/

/-- The lines for a library: its name and size, then its types in the order of their names. -/
def libraryLines (c : Catalog) (l : LibraryId) : List String :=
  let library := c.library l
  (library.name ++ ": " ++ toString library.types.size ++ " types") ::
    library.types.values.map fun t => "  " ++ (c.type t).kind.label ++ " " ++ c.typeName t

/-- A field that is left out when the list is empty. -/
def fieldIfAny (name : String) (items : List JsonText) : List (String × JsonText) :=
  if items.isEmpty then [] else [(name, .list items)]

/-- A list of texts. -/
def textList (texts : List String) : List JsonText := texts.map .string

/-- The structured form of a type. Fields without content are left out. -/
def typeDocument (c : Catalog) (t : TypeId) : JsonText :=
  let node := c.type t
  let superType :=
    match node.superType with
    | some s => [("super_type", JsonText.string (c.typeName s))]
    | none => []
  .object ([("name", .string node.name), ("kind", .string node.kind.name)] ++ superType ++
    fieldIfAny "implements" (textList (node.types.toList.map c.typeName)) ++
    fieldIfAny "constructors" (textList (node.constructors.toList.map c.signature)) ++
    fieldIfAny "properties" (textList (node.properties.values.map c.signature)) ++
    fieldIfAny "operations" (textList (node.operations.values.map c.signature)) ++
    fieldIfAny "literals" (textList node.literals.toList))

/-- The structured form of a library. -/
def libraryDocument (c : Catalog) (l : LibraryId) : JsonText :=
  let library := c.library l
  .object [("name", .string library.name), ("read_only", .boolean library.readOnly),
    ("types", .list (library.types.values.map (typeDocument c)))]

/-- The structured form of a failure. -/
def failureDocument (f : FileFailure) : JsonText :=
  .object [("path", .string f.path), ("error", .string f.reason)]

/-- The structured form of a batch. -/
def batchDocument (b : Batch) : JsonText :=
  .object ([("libraries", JsonText.list (b.libraries.map (libraryDocument b.catalog)))] ++
    fieldIfAny "failures" (b.failures.map failureDocument))

/-! ## Runs -/

/-- The lines that list a batch. -/
def batchLines (b : Batch) (json : Bool) : List String :=
  if json then [(batchDocument b).render 0]
  else b.libraries.flatMap (libraryLines b.catalog)

/-- Runs an invocation on the files that paths lead to. -/
def Invocation.run (look : String → Place) : Invocation → RunResult
  | .parse paths library json =>
    let sources := sourcesOf look paths
    let batch :=
      match library with
      | some name => Batch.ofSourcesShared name sources
      | none => Batch.ofSources sources
    .of (batchLines batch json) batch.failures
  | .compare baseline candidate =>
    let old := Batch.ofSources (sourcesOf look baseline)
    let new := Batch.ofSources (sourcesOf look candidate)
    .of (Batch.missingFrom old new) (old.failures ++ new.failures)

/-- The paths that an invocation names. -/
def Invocation.paths : Invocation → List String
  | .parse paths _ _ => paths
  | .compare baseline candidate => baseline ++ candidate

end IdlCatalog
