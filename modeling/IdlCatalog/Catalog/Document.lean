/-
# IdlCatalog.Catalog.Document — documentation of entries

The path of an entry depends on the names at the time of asking: on its owner, and on the library
that owns the owner.
-/
import IdlCatalog.Catalog.Basic

namespace IdlCatalog

namespace Catalog

/-- The name of the library that owns a type; empty when none does. -/
def libraryNameOf (c : Catalog) (t : TypeId) : String :=
  match (c.type t).library with
  | some l => (c.library l).name
  | none => ""

/-- The path of an entry. A member without an owner belongs to no library. -/
def artifactPath (c : Catalog) : Artifact → ArtifactPath
  | .library l => ⟨(c.library l).name, none, ""⟩
  | .type t => ⟨c.libraryNameOf t, none, c.typeName t⟩
  | .member m =>
    match (c.member m).owner with
    | some owner => ⟨c.libraryNameOf owner, some (c.typeName owner), (c.member m).name⟩
    | none => ⟨"", none, (c.member m).name⟩

/-- Asks the provider of a library about an entry and keeps the answer with the entry. A library
keeps no documentation of its own. -/
def document (c : Catalog) (l : LibraryId) (artifact : Artifact) : Catalog :=
  let documentation := (c.library l).docs.lookup (c.artifactPath artifact)
  match artifact with
  | .library _ => c
  | .type t => c.modifyType t fun node => { node with documentation }
  | .member m => c.modifyMember m fun member => { member with documentation }

end Catalog

end IdlCatalog
