/-
# IdlCatalog.Catalog.Library — the types one description declares

A library maps names to types. Constants outside any type belong to the type of globals, which
answers to a name that no description can write and is no entry of the map.
-/
import IdlCatalog.Catalog.TypeNode
import IdlCatalog.Text.Quoted

namespace IdlCatalog

/-- The name of the type that owns the constants outside any type. -/
def globalsName : String := "(Global)"

/-- A library that would give one name to two types. -/
structure DuplicateType where
  library : String
  name : String
deriving DecidableEq, Repr

/-- The report of a name given twice. -/
def DuplicateType.message (d : DuplicateType) : String :=
  "library " ++ d.library ++ " already contains a different type named " ++ d.name

/-- The types declared by one description. -/
structure Library where
  name : String
  readOnly : Bool
  types : NameMap TypeId
  globals : TypeId
  docs : DocumentationProvider

namespace Library

instance : Inhabited Library := ⟨"", false, ∅, default, default⟩

/-- The type that the library calls `name`, its globals included. -/
def get? (l : Library) (name : String) : Option TypeId :=
  if name = globalsName then some l.globals else l.types[name]?

/-- Enters a type under a name. Entering it again changes nothing; another type under the same
name is refused. -/
def insert (l : Library) (name : String) (t : TypeId) : Except DuplicateType Library :=
  match l.types[name]? with
  | some existing => if existing = t then .ok l else .error ⟨l.name, name⟩
  | none => .ok { l with types := l.types.insert name t }

/-- Takes the entry of a name out if it is the given type. -/
def erase (l : Library) (name : String) (t : TypeId) : Library :=
  if l.types[name]? = some t then { l with types := l.types.erase name } else l

/-- A library at a glance: its name, whether it is read only, and how many types it holds. -/
def glance (l : Library) : String :=
  "Library \x7b name: " ++ quoted l.name ++ ", read_only: " ++ (if l.readOnly then "true" else "false") ++
    ", types: " ++ toString l.types.size ++ ", .. \x7d"

end Library

end IdlCatalog
