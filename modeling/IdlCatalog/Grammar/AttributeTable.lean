/-
# IdlCatalog.Grammar.AttributeTable — the extended attributes of the language

An extended attribute that may stand before a declaration is known by name. The table says what
each one means for the catalog and what may follow its name.
-/
import IdlCatalog.Catalog.Modifiers

namespace IdlCatalog

/-- What an extended attribute means. -/
inductive AttributeAction
  /-- The declaration is qualified so. -/
  | modifier (modifiers : Modifiers)
  /-- The interface has no object of its own. -/
  | noInterfaceObject
  /-- The interface is a global one; a name, or names in parentheses, may follow after `=`. -/
  | global (primary : Bool)
  /-- The interface has a constructor, with or without a parameter list. -/
  | constructor
  /-- The interface has a constructor of the name after `=`. -/
  | namedConstructor
  /-- A name, or names in parentheses, must follow after `=`, without effect. -/
  | exposed
  /-- No effect, and nothing follows. -/
  | ignore
  /-- No effect; values joined by `&` and `|` may follow after `=`. -/
  | ignoreWithValue
  /-- No effect; a group in parentheses may follow. -/
  | ignoreWithArguments
deriving DecidableEq, Repr

namespace AttributeAction

/-- The attributes that mean something. -/
def effective : List (String × AttributeAction) :=
  [("ArrayClass", modifier Modifiers.arrayClass),
    ("OverrideBuiltins", modifier Modifiers.overrideBuiltins),
    ("LegacyOverrideBuiltIns", modifier Modifiers.overrideBuiltins),
    ("Unforgeable", modifier Modifiers.unforgeable),
    ("LegacyUnforgeable", modifier Modifiers.unforgeable),
    ("NoInterfaceObject", noInterfaceObject),
    ("LegacyNoInterfaceObject", noInterfaceObject),
    ("Global", global false),
    ("PrimaryGlobal", global true),
    ("Constructor", constructor),
    ("NamedConstructor", namedConstructor),
    ("LegacyFactoryFunction", namedConstructor),
    ("Exposed", exposed)]

/-- The attributes without effect that stand alone. -/
def ignored : List String :=
  ["ActiveDOMObject", "CEReactions", "CheckSecurity", "CrossOriginIsolated", "CustomToV8",
    "DedicatedWorker", "DependentLifetime", "HTMLConstructor", "LegacyTreatNonObjectAsNull",
    "LegacyUnenumerableNamedProperties", "NoHeader", "SecureContext", "Serializable",
    "SharedWorker", "Supplemental", "Transferable", "TreatNonCallableAsNull",
    "TreatNonObjectAsNull", "Worker"]

/-- The attributes without effect that may take a value. -/
def ignoredWithValue : List String :=
  ["Callback", "Conditional", "DoNotCheckConstants", "ImplementedAs", "LegacyNamespace",
    "LegacyWindowAlias", "MeasureAs", "RuntimeEnabled", "SetWrapperReferenceFrom",
    "SetWrapperReferenceTo"]

/-- The attributes without effect that may take arguments. -/
def ignoredWithArguments : List String :=
  ["ConstructorCallWith", "CustomConstructor", "RaisesException"]

/-- Every known attribute with its meaning. -/
def table : List (String × AttributeAction) :=
  effective ++ ignored.map (·, ignore) ++ ignoredWithValue.map (·, ignoreWithValue) ++
    ignoredWithArguments.map (·, ignoreWithArguments)

/-- The meaning of the attribute with the given name. -/
def ofName? (name : String) : Option AttributeAction :=
  (table.find? fun entry => entry.1 = name).map (·.2)

end AttributeAction

end IdlCatalog
