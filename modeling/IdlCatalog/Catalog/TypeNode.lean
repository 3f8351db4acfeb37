/-
# IdlCatalog.Catalog.TypeNode — an entry of the type graph

One structure serves every kind of type; which of its fields say something depends on the kind.
A super type is an inherited type, the target of a typedef or the wrapped type; `types` holds
mixins, the branches of a union or the arguments of a generic type.
-/
import Std.Data.TreeMap
import Std.Data.TreeSet
import IdlCatalog.Catalog.Ids
import IdlCatalog.Catalog.Kind
import IdlCatalog.Catalog.Modifiers
import IdlCatalog.Documentation

namespace IdlCatalog

/-- A finite map from names, in the order of the names. Names are ordered by code point. -/
abbrev NameMap (α : Type) := Std.TreeMap String α

/-- The key type of an iterable, and the value type if it has one. -/
structure Iterable where
  key : TypeId
  value : Option TypeId
deriving DecidableEq, Repr

/-- An entry of the type graph. -/
structure TypeNode where
  /-- The declared name; for a composite type, the type as it is written. -/
  name : String
  kind : Kind
  modifiers : Modifiers
  /-- The library that owns the type, if any does. -/
  library : Option LibraryId
  superType : Option TypeId
  types : Array TypeId
  /-- Types that name this one as super type or mixin, in the order in which they did. -/
  implementedBy : Array TypeId
  properties : NameMap MemberId
  operations : NameMap MemberId
  constructors : Array MemberId
  literals : Array String
  /-- Members that mention this type, through wrappers and typedefs too. -/
  referencedBy : Std.TreeSet MemberId
  iterable : Option Iterable
  documentation : Option Documentation

namespace TypeNode

/-- A type about which nothing but its name and kind is known. -/
def new (name : String) (kind : Kind) : TypeNode where
  name
  kind
  modifiers := Modifiers.empty
  library := none
  superType := none
  types := #[]
  implementedBy := #[]
  properties := ∅
  operations := ∅
  constructors := #[]
  literals := #[]
  referencedBy := ∅
  iterable := none
  documentation := none

instance : Inhabited TypeNode := ⟨new "" .interface⟩

end TypeNode

end IdlCatalog
