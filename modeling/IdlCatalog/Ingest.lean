/-
# IdlCatalog.Ingest — a description becomes part of a catalog

Ingesting reads a whole description for a library. The outcome says whether the description was
accepted. Either way there is a catalog afterwards: everything declared before the first failure
stays, so a library whose description failed is best removed.
-/
import IdlCatalog.Grammar.Declarations

namespace IdlCatalog

/-- What reading a text came to. -/
structure Report (α : Type) where
  outcome : Except (Failure SyntaxError) α
  catalog : Catalog
  /-- What the reading did, in order. -/
  events : List Event

namespace Catalog

/-- Finds the place of a failure in the text that was read for a library. -/
def locateFailure (c : Catalog) (l : LibraryId) (text : List Char) (failure : Failure Fault) :
    Failure SyntaxError :=
  failure.map (SyntaxError.ofFault (c.library l).name text)

/-- Reads a text for a library, from its first token. -/
def read {α : Type} (c : Catalog) (l : LibraryId) (p : Parser α) (source : String) : Report α :=
  let text := source.toList
  let (outcome, s) := p l (ReadState.start (Lexer.tokens text) c)
  ⟨outcome.mapError (s.catalog.locateFailure l text), s.catalog, s.journal.toList⟩

/-- Reads a whole description for a library. -/
def ingest (c : Catalog) (l : LibraryId) (source : String) : Report Unit :=
  c.read l Grammar.description source

end Catalog

end IdlCatalog
