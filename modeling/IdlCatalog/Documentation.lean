/-
# IdlCatalog.Documentation — summaries and links

Documentation comes from outside: a provider is asked about a declared artifact by its path, and
what it answers is kept with the artifact. A path names an artifact by library and name, so it
means the same to a provider whatever numbers the catalog uses.
-/

namespace IdlCatalog

/-- The name of an artifact for documentation. -/
structure ArtifactPath where
  library : String
  /-- The name of the type that owns the member, for members. -/
  owner : Option String
  name : String
deriving DecidableEq, Repr

/-- A path as text: `library/name`, or `library/owner.name` for a member. -/
def ArtifactPath.text (p : ArtifactPath) : String :=
  match p.owner with
  | some owner => p.library ++ "/" ++ owner ++ "." ++ p.name
  | none => p.library ++ "/" ++ p.name

/-- What is known about an artifact. -/
structure Documentation where
  summary : Option String
  link : Option String
deriving DecidableEq, Repr

/-- A source of documentation. -/
structure DocumentationProvider where
  title : String
  summary : ArtifactPath → Option String
  link : ArtifactPath → Option String

/-- What a provider is asked. -/
inductive Question
  | summary (path : ArtifactPath)
  | link (path : ArtifactPath)
deriving DecidableEq, Repr

namespace DocumentationProvider

/-- The provider that knows nothing. -/
def silent : DocumentationProvider := ⟨"", fun _ => none, fun _ => none⟩

instance : Inhabited DocumentationProvider := ⟨silent⟩

/-- Puts one question to a provider, after those that were put before. -/
def ask (provider : DocumentationProvider) (question : Question) :
    StateM (List Question) (Option String) := do
  modify (· ++ [question])
  match question with
  | .summary path => return provider.summary path
  | .link path => return provider.link path

/-- Asks a provider about an artifact: for the summary, and then for the link. Knowing neither is
knowing nothing. -/
def inquire (provider : DocumentationProvider) (path : ArtifactPath) :
    StateM (List Question) (Option Documentation) := do
  let summary ← provider.ask (.summary path)
  let link ← provider.ask (.link path)
  return if summary.isSome || link.isSome then some ⟨summary, link⟩ else none

/-- What a provider knows about an artifact. -/
def lookup (provider : DocumentationProvider) (path : ArtifactPath) : Option Documentation :=
  ((provider.inquire path).run []).1

/-- The questions that are put to a provider for what it knows about an artifact, in order. -/
def questions (provider : DocumentationProvider) (path : ArtifactPath) : List Question :=
  ((provider.inquire path).run []).2

end DocumentationProvider

end IdlCatalog
