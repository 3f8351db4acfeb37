/-
# IdlCatalog.Catalog.Member — properties, operations and their parameters

A member is built on its own and becomes part of a type when it is attached; only then does it
have an owner. Two operations of one name on one type are kept as a single operation whose
parameter list stands for both: `Parameter.merge` is that list.
-/
import IdlCatalog.Catalog.Ids
import IdlCatalog.Catalog.Modifiers
import IdlCatalog.Documentation

namespace IdlCatalog

/-! ## Names of parameters -/

/-- Whether `part` stands somewhere in a text. The empty text stands everywhere. -/
def occursIn (part : List Char) : List Char → Bool
  | [] => part.isEmpty
  | c :: text => part.isPrefixOf (c :: text) || occursIn part text

/-- Whether one of the two texts stands somewhere in the other. -/
def overlaps (s t : String) : Bool :=
  occursIn t.toList s.toList || occursIn s.toList t.toList

/-! ## Parameters -/

/-- A parameter of an operation. -/
structure Parameter where
  name : String
  type : TypeId
  modifiers : Modifiers
deriving DecidableEq, Repr

namespace Parameter

/-- Whether the parameter may be left out. -/
def isOptional (p : Parameter) : Bool := p.modifiers.contains Modifiers.optional

/-- Whether the parameter stands for any number of arguments. -/
def isVariadic (p : Parameter) : Bool := p.modifiers.contains Modifiers.variadic

/-- The parameter, made optional. -/
def orAbsent (p : Parameter) : Parameter :=
  { p with modifiers := p.modifiers ||| Modifiers.optional }

/-- One parameter for two at the same place. The names are joined unless one is part of the other,
types that differ give way to `any`, and the modifiers are combined. -/
def unify (any : TypeId) (a b : Parameter) : Parameter where
  name := if overlaps a.name b.name then a.name else a.name ++ "_" ++ b.name
  type := if a.type = b.type then a.type else any
  modifiers := a.modifiers ||| b.modifiers

/-- One parameter list for two, place by place. A parameter without a counterpart becomes
optional. -/
def merge (any : TypeId) : List Parameter → List Parameter → List Parameter
  | a :: existing, b :: incoming => unify any a b :: merge any existing incoming
  | existing, [] => existing.map orAbsent
  | [], incoming => incoming.map orAbsent

end Parameter

/-! ## Members -/

/-- What distinguishes properties and operations. -/
inductive MemberBody
  /-- The raw text of the value of a constant or of the default of a dictionary entry. -/
  | property (initial : Option String)
  | operation (parameters : List Parameter) (specials : Specials)
deriving DecidableEq, Repr

/-- A property, an operation or a constructor. -/
structure Member where
  name : String
  /-- The type of a property or the result of an operation; `none` is `void`. -/
  type : Option TypeId
  modifiers : Modifiers
  owner : Option TypeId
  documentation : Option Documentation
  body : MemberBody
deriving DecidableEq, Repr

namespace Member

/-- A property without an owner. -/
def property (name : String) (type : TypeId) (modifiers : Modifiers) (initial : Option String) :
    Member :=
  ⟨name, some type, modifiers, none, none, .property initial⟩

/-- An operation without an owner. -/
def operation (name : String) (type : Option TypeId) (modifiers : Modifiers)
    (parameters : List Parameter) (specials : Specials) : Member :=
  ⟨name, type, modifiers, none, none, .operation parameters specials⟩

/-- A constructor without an owner. -/
def ofConstructor (name : String) (parameters : List Parameter) : Member :=
  operation name none Modifiers.constructor parameters Specials.empty

instance : Inhabited Member := ⟨property "" default Modifiers.empty none⟩

/-- The parameters; a property has none. -/
def parameters (m : Member) : List Parameter :=
  match m.body with
  | .property _ => []
  | .operation parameters _ => parameters

/-- Whether the member is a constructor. -/
def isConstructor (m : Member) : Bool := m.modifiers.contains Modifiers.constructor

/-- The member with other parameters; a property has none and stays as it is. -/
def withParameters (m : Member) (parameters : List Parameter) : Member :=
  match m.body with
  | .property _ => m
  | .operation _ specials => { m with body := .operation parameters specials }

/-- The member with further special roles; a property has none and stays as it is. -/
def withSpecials (m : Member) (specials : Specials) : Member :=
  match m.body with
  | .property _ => m
  | .operation parameters present =>
    { m with body := .operation parameters (present.union specials) }

/-- Every type the member mentions: its own, then those of its parameters. -/
def referencedTypes (m : Member) : List TypeId := m.type.toList ++ m.parameters.map (·.type)

end Member

end IdlCatalog
