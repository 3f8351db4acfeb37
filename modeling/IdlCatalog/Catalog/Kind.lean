/-
# IdlCatalog.Catalog.Kind — what a type is

The kind of a type says which declaration introduced it, or which composite it is. A type may
change its kind: a name that is only mentioned so far is a placeholder, and the declaration that
comes later gives it its kind in place.
-/

namespace IdlCatalog

/-- What a type is. -/
inductive Kind
  | interface
  | global
  /-- An interface without an object of its own: a mixin, or a name not declared so far. -/
  | noInterfaceObject
  | primitive
  | exception
  | dictionary
  /-- Another name for its super type. -/
  | typedef
  | union
  | enumeration
  | sequence
  | array
  | nullable
  /-- Reopens a type declared in another library; members added here land on the super type. -/
  | reopening
  | callbackFunction
  | callbackInterface
  | generic
deriving DecidableEq, Repr, Inhabited

namespace Kind

/-- Every kind, in the order of declaration. -/
def all : List Kind :=
  [interface, global, noInterfaceObject, primitive, exception, dictionary, typedef, union,
    enumeration, sequence, array, nullable, reopening, callbackFunction, callbackInterface, generic]

/-- The name of a kind in structured output. -/
def name : Kind → String
  | interface => "Interface"
  | global => "Global"
  | noInterfaceObject => "NoInterfaceObject"
  | primitive => "Primitive"
  | exception => "Exception"
  | dictionary => "Dictionary"
  | typedef => "Alias"
  | union => "Union"
  | enumeration => "Enum"
  | sequence => "Sequence"
  | array => "Array"
  | nullable => "Nullable"
  | reopening => "Partial"
  | callbackFunction => "CallbackFunction"
  | callbackInterface => "CallbackInterface"
  | generic => "Generic"

/-- The kind with the given name in structured output. -/
def ofName? (s : String) : Option Kind := all.find? fun k => k.name = s

theorem ofName?_name (k : Kind) : ofName? k.name = some k := by
  cases k <;> decide +kernel

/-- A kind in words. -/
def label : Kind → String
  | interface => "interface"
  | global => "global"
  | noInterfaceObject => "no interface object"
  | primitive => "primitive"
  | exception => "exception"
  | dictionary => "dictionary"
  | typedef => "alias"
  | union => "union"
  | enumeration => "enum"
  | sequence => "sequence"
  | array => "array"
  | nullable => "nullable"
  | reopening => "partial"
  | callbackFunction => "callback function"
  | callbackInterface => "callback interface"
  | generic => "generic"

/-- Whether the super type of such a type knows the type as one of its implementers. It does
where the super type says what the type is, and not where it is a mere part. -/
def registersImplementedBy : Kind → Bool
  | union | sequence | nullable => false
  | _ => true

/-- Composite types come into being once for each mention and have no entry by name. -/
def isSynthesized : Kind → Bool
  | array | sequence | nullable | union | generic => true
  | _ => false

/-- Wrappers pass a reference on to their parts and take no note of it themselves. -/
def isTransparent : Kind → Bool
  | array | sequence | nullable | union => true
  | _ => false

end Kind

end IdlCatalog
