/-
# IdlCatalog.Catalog.Basic — the catalog, its look-ups and the edges of the type graph

A catalog holds types, members and libraries, each under the number it got when it was created.
Nothing is ever taken out again: removing a library only ends its part in resolution. Reading an
entry that does not exist gives a default entry, and writing to one changes nothing.

Names are resolved in tiers: the primitives, then the hidden library of placeholders and
composites, then the registered libraries in the order in which they were added. A type that only
reopens another one never answers for its name.
-/
import IdlCatalog.Catalog.Library
import IdlCatalog.Catalog.Member

namespace IdlCatalog

/-- Types, members and libraries, and the libraries that take part in resolution, in order. -/
structure Catalog where
  types : Array TypeNode
  members : Array Member
  libraries : Array Library
  registered : List LibraryId

namespace Catalog

/-! ## Entries -/

/-- The entry of a type. -/
def type (c : Catalog) (t : TypeId) : TypeNode := c.types.getD t.index default

/-- The entry of a member. -/
def member (c : Catalog) (m : MemberId) : Member := c.members.getD m.index default

/-- The entry of a library. -/
def library (c : Catalog) (l : LibraryId) : Library := c.libraries.getD l.index default

/-- Changes the entry of a type. -/
def modifyType (c : Catalog) (t : TypeId) (f : TypeNode → TypeNode) : Catalog :=
  { c with types := c.types.modify t.index f }

/-- Changes the entry of a member. -/
def modifyMember (c : Catalog) (m : MemberId) (f : Member → Member) : Catalog :=
  { c with members := c.members.modify m.index f }

/-- Changes the entry of a library. -/
def modifyLibrary (c : Catalog) (l : LibraryId) (f : Library → Library) : Catalog :=
  { c with libraries := c.libraries.modify l.index f }

/-- Creates an entry for a type. -/
def pushType (c : Catalog) (node : TypeNode) : TypeId × Catalog :=
  (⟨c.types.size⟩, { c with types := c.types.push node })

/-- The name of a type; a composite type is named as it is written. -/
def typeName (c : Catalog) (t : TypeId) : String := (c.type t).name

/-! ## Libraries -/

/-- The library of the primitive types. -/
def primitives : LibraryId := ⟨0⟩

/-- The library that owns composite types, and placeholders for names not declared so far. -/
def hidden : LibraryId := ⟨1⟩

/-- Creates a library with a type for its globals. -/
def pushLibrary (c : Catalog) (name : String) (readOnly : Bool) (docs : DocumentationProvider) :
    LibraryId × Catalog :=
  let id : LibraryId := ⟨c.libraries.size⟩
  let (globals, c) :=
    c.pushType { TypeNode.new globalsName .noInterfaceObject with library := some id }
  (id, { c with libraries := c.libraries.push ⟨name, readOnly, ∅, globals, docs⟩ })

/-- Adds a library, after those that are registered already. -/
def addLibrary (c : Catalog) (name : String) (readOnly : Bool) (docs : DocumentationProvider) :
    LibraryId × Catalog :=
  let (id, c) := c.pushLibrary name readOnly docs
  (id, { c with registered := c.registered ++ [id] })

/-- The libraries that names are looked up in, first to last. -/
def tiers (c : Catalog) : List LibraryId := primitives :: hidden :: c.registered

/-- The first library with the given name. -/
def libraryByName? (c : Catalog) (name : String) : Option LibraryId :=
  c.tiers.find? fun l => (c.library l).name = name

/-- The library that keeps a type when its owner goes: the latest registered library that still
gives `name` to it, or else the hidden one if that does. -/
def heir? (c : Catalog) (name : String) (t : TypeId) : Option LibraryId :=
  (c.registered.reverse ++ [hidden]).find? fun l => (c.library l).types[name]? = some t

/-- Ends the part of a library in resolution. Types it owned go to their heirs; the others keep
their owner. The answer is whether the library was registered. -/
def removeLibrary (c : Catalog) (l : LibraryId) : Bool × Catalog :=
  if l ∈ c.registered then
    let c := { c with registered := c.registered.filter (· ≠ l) }
    let owned := (c.library l).types.toList.filter fun entry =>
      (c.type entry.2).library = some l
    (true, owned.foldl (fun c entry =>
      match c.heir? entry.1 entry.2 with
      | some heir => c.modifyType entry.2 fun node => { node with library := some heir }
      | none => c) c)
  else (false, c)

/-! ## Resolution -/

/-- Whether a type only reopens another one. -/
def isReopening (c : Catalog) (t : TypeId) : Bool := (c.type t).kind = .reopening

/-- The entry of a name in one library, unless it only reopens another type. -/
def declaredIn? (c : Catalog) (l : LibraryId) (name : String) : Option TypeId :=
  (c.library l).types[name]?.filter fun t => !c.isReopening t

/-- The type that a name stands for. -/
def resolve? (c : Catalog) (name : String) : Option TypeId :=
  match (c.library primitives).types[name]? with
  | some t => some t
  | none => (hidden :: c.registered).findSome? fun l => c.declaredIn? l name

/-- The names that some tier has an entry for, in order. -/
def allTypeNames (c : Catalog) : Std.TreeSet String :=
  c.tiers.foldl (fun names l => (c.library l).types.foldl (fun names name _ => names.insert name)
    names) ∅

/-! ## The first catalog -/

/-- The names of the primitive types, in the order of their numbers. -/
def primitiveNames : List String :=
  ["number", "boolean", "string", "object", "function", "any", "octet", "byte", "short", "int",
    "long", "long long", "unsigned byte", "unsigned short", "unsigned int", "unsigned long",
    "unsigned long long", "unrestricted double"]

/-- Creates a primitive type. -/
def addPrimitive (c : Catalog) (name : String) : Catalog :=
  let (t, c) := c.pushType { TypeNode.new name .primitive with library := some primitives }
  c.modifyLibrary primitives fun l => { l with types := l.types.insert name t }

/-- The catalog of the primitive types, without any registered library. -/
def initial : Catalog :=
  let empty : Catalog := ⟨#[], #[], #[], []⟩
  let (_, c) := empty.pushLibrary "primitives" true .silent
  let (_, c) := c.pushLibrary "hidden" true .silent
  primitiveNames.foldl addPrimitive c

/-- The primitive type `any`, which stands in where merged overloads disagree. -/
def any : TypeId := ⟨7⟩

theorem resolve?_any : initial.resolve? "any" = some any := by
  decide +kernel

/-! ## Types -/

/-- Creates a type that belongs to no library so far. -/
def newType (c : Catalog) (name : String) (kind : Kind) : TypeId × Catalog :=
  c.pushType (TypeNode.new name kind)

/-- Creates a composite type. It belongs to the hidden library, which has no entry for its name,
and the wrapped type does not count it among its implementers. -/
def newSynthesized (c : Catalog) (name : String) (kind : Kind) (superType : Option TypeId) :
    TypeId × Catalog :=
  c.pushType { TypeNode.new name kind with library := some hidden, superType }

/-- The placeholder for a name, created at the first mention. -/
def addPlaceholder (c : Catalog) (name : String) : TypeId × Catalog :=
  match (c.library hidden).types[name]? with
  | some t => (t, c)
  | none =>
    let (t, c) := c.pushType { TypeNode.new name .noInterfaceObject with library := some hidden }
    (t, c.modifyLibrary hidden fun l => { l with types := l.types.insert name t })

/-- Enters a type into a library under its name and makes the library its owner. A library that
had an entry for it before keeps the entry. -/
def addType (c : Catalog) (l : LibraryId) (t : TypeId) : Except DuplicateType Catalog := do
  let entered ← (c.library l).insert (c.typeName t) t
  return (c.modifyLibrary l fun _ => entered).modifyType t fun node =>
    { node with library := some l }

/-- Takes a type out of the library that owns it; it then has no owner. -/
def deleteType (c : Catalog) (t : TypeId) : Catalog :=
  match (c.type t).library with
  | none => c
  | some l =>
    (c.modifyType t fun node => { node with library := none }).modifyLibrary l fun library =>
      library.erase (c.typeName t) t

/-- Gives a type another kind. -/
def setKind (c : Catalog) (t : TypeId) (kind : Kind) : Catalog :=
  c.modifyType t fun node => { node with kind }

/-- Adds qualifiers to those of a type. -/
def addModifiers (c : Catalog) (t : TypeId) (modifiers : Modifiers) : Catalog :=
  c.modifyType t fun node => { node with modifiers := node.modifiers ||| modifiers }

/-- Adds a literal to an enumeration. -/
def addLiteral (c : Catalog) (t : TypeId) (literal : String) : Catalog :=
  c.modifyType t fun node => { node with literals := node.literals.push literal }

/-- Says over which types one iterates. -/
def setIterable (c : Catalog) (t : TypeId) (iterable : Iterable) : Catalog :=
  c.modifyType t fun node => { node with iterable := some iterable }

/-! ## Edges -/

/-- Notes that `t` names `base` as super type or mixin. -/
def addImplementer (c : Catalog) (base t : TypeId) : Catalog :=
  c.modifyType base fun node => { node with implementedBy := node.implementedBy.push t }

/-- Sets the super type. The super type learns of it where the kind of `t` says so. -/
def setSuperType (c : Catalog) (t superType : TypeId) : Catalog :=
  let c := c.modifyType t fun node => { node with superType := some superType }
  if (c.type t).kind.registersImplementedBy then c.addImplementer superType t else c

/-- Adds a branch of a union or an argument of a generic type. -/
def pushTypeArgument (c : Catalog) (t argument : TypeId) : Catalog :=
  c.modifyType t fun node => { node with types := node.types.push argument }

/-- Adds a mixin, in both directions. -/
def addImplements (c : Catalog) (t base : TypeId) : Catalog :=
  (c.pushTypeArgument t base).addImplementer base t

/-! ## Reopened types -/

/-- Bound on the length of the chains that are followed through the graph, which may be cyclic. -/
def maxDepth : Nat := 64

/-- Follows at most `count` reopenings. -/
def followReopenings (c : Catalog) : (count : Nat) → TypeId → TypeId
  | 0, t => t
  | count + 1, t =>
    match (c.type t).kind, (c.type t).superType with
    | .reopening, some target => c.followReopenings count target
    | _, _ => t

/-- The type that stores the members of `t`: what it reopens, or else itself. -/
def storage (c : Catalog) (t : TypeId) : TypeId := c.followReopenings maxDepth t

end Catalog

end IdlCatalog
