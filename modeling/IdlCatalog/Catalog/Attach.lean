/-
# IdlCatalog.Catalog.Attach — members become part of types

Attaching a member gives it a number and an owner and notes every type it mentions. A member
attached to a type that reopens another one lands on the other one, because only that one stores
members.
-/
import IdlCatalog.Catalog.Reach

namespace IdlCatalog

namespace Catalog

/-- Notes that a member mentions each of the types. -/
def addReferences (c : Catalog) (ts : List TypeId) (m : MemberId) : Catalog :=
  ts.foldl (fun c t => c.addReference t m) c

/-- Creates an entry for a member of `owner`. -/
def pushMember (c : Catalog) (member : Member) (owner : TypeId) : MemberId × Catalog :=
  let id : MemberId := ⟨c.members.size⟩
  let c := { c with members := c.members.push { member with owner := some owner } }
  (id, c.addReferences member.referencedTypes id)

/-- Takes the owner from a member that gave way to another one. -/
def detach (c : Catalog) (replaced : Option MemberId) : Catalog :=
  match replaced with
  | some m => c.modifyMember m fun member => { member with owner := none }
  | none => c

/-- Attaches a property. A property of the same name that was there before loses its owner. -/
def addProperty (c : Catalog) (t : TypeId) (member : Member) : MemberId × Catalog :=
  let target := c.storage t
  let (m, c) := c.pushMember member target
  let replaced := (c.type target).properties[member.name]?
  let c := c.modifyType target fun node =>
    { node with properties := node.properties.insert member.name m }
  (m, c.detach replaced)

/-- Attaches an operation. An operation of the same name that was there before loses its owner. -/
def addOperation (c : Catalog) (t : TypeId) (member : Member) : MemberId × Catalog :=
  let target := c.storage t
  let (m, c) := c.pushMember member target
  let replaced := (c.type target).operations[member.name]?
  let c := c.modifyType target fun node =>
    { node with operations := node.operations.insert member.name m }
  (m, c.detach replaced)

/-- Attaches a constructor, to the type itself. A type without an interface object gains one. -/
def addConstructor (c : Catalog) (t : TypeId) (member : Member) : MemberId × Catalog :=
  let (m, c) :=
    c.pushMember { member with modifiers := member.modifiers ||| Modifiers.constructor } t
  (m, c.modifyType t fun node =>
    { node with
      constructors := node.constructors.push m
      kind := if node.kind = .noInterfaceObject then .interface else node.kind })

/-- The property of a type with the given name. -/
def property? (c : Catalog) (t : TypeId) (name : String) : Option MemberId :=
  (c.type (c.storage t)).properties[name]?

/-- The operation of a type with the given name. -/
def operation? (c : Catalog) (t : TypeId) (name : String) : Option MemberId :=
  (c.type (c.storage t)).operations[name]?

/-- Folds the parameters of a further overload into an operation. The result type and the
qualifiers stay those of the operation. -/
def mergeOperation (c : Catalog) (m : MemberId) (incoming : Member) : Catalog :=
  let merged := Parameter.merge any (c.member m).parameters incoming.parameters
  let c := c.modifyMember m fun member => member.withParameters merged
  c.addReferences (merged.map (·.type)) m

end Catalog

end IdlCatalog
