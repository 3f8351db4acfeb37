/-
# IdlCatalog.Failure — why a reading ends early

The first failure ends a reading. What was declared before it stays in the catalog, so the reader
of a failure decides whether to keep the library.
-/
import IdlCatalog.Catalog.Library
import IdlCatalog.Diagnostic

namespace IdlCatalog

/-- Why a reading ended early; `ε` says where and how the grammar was not met. -/
inductive Failure (ε : Type)
  /-- The grammar was not met. -/
  | malformed (error : ε)
  /-- A library would give one name to two types. -/
  | duplicate (error : DuplicateType)
  /-- A production called itself without reading a token in between. -/
  | stalled
deriving DecidableEq, Repr

namespace Failure

/-- Replaces where and how the grammar was not met. -/
def map {ε δ : Type} (f : ε → δ) : Failure ε → Failure δ
  | malformed error => malformed (f error)
  | duplicate error => duplicate error
  | stalled => stalled

/-- The one-line report of a failure. -/
def message : Failure SyntaxError → String
  | malformed error => error.message
  | duplicate error => error.message
  | stalled => "a production called itself without reading a token"

end Failure

end IdlCatalog
