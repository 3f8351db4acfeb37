/-
# IdlCatalog.Grammar.Declarations — declarations and descriptions

A declaration introduces a name or reopens one. Introducing a name that is known already gives the
type at hand the kind of the declaration; in particular a placeholder becomes the declared type, so
that references made before and after the declaration mean the same type.
-/
import IdlCatalog.Grammar.Attributes
import IdlCatalog.Grammar.Members

namespace IdlCatalog

namespace Grammar

open IdlCatalog.Parser

/-! ## Declared names -/

/-- The type that the library, or else any tier, has under a name. -/
def existing? (l : LibraryId) (name : String) (c : Catalog) : Option TypeId :=
  ((c.library l).get? name).or (c.resolve? name)

/-- Enters a type into the library and asks for its documentation. -/
def introduce (name : String) (t : TypeId) (reopens : Bool) : Parser Unit := do
  register t
  note (.declared name t reopens)
  document (.type t)

/-- The type a declaration is about. A reopening is about the type itself where the library owns
it, and about a type of its own that reopens it where another library does. Any other declaration
gives the type its kind, and the library becomes its owner. -/
def declaredType (kind : Kind) (reopens : Bool) : Parser TypeId := do
  let name ← identifier
  let l ← library
  let existing ← view (existing? l name)
  match reopens, existing with
  | true, some target =>
    if (← view (·.type target)).library = some l then
      note (.declared name target true)
      return target
    let t ← change (·.newType name .reopening)
    introduce name t reopens
    modify (·.setSuperType t target)
    return t
  | _, some t =>
    modify (·.setKind t kind)
    introduce name t reopens
    return t
  | _, none =>
    let t ← change (·.newType name kind)
    introduce name t reopens
    return t

/-! ## Small declarations -/

/-- Makes `superType` the super type of `t`, as a declaration says. -/
def giveSuperType (t superType : TypeId) : Parser Unit := do
  modify (·.setSuperType t superType)
  note (.extended t superType)

/-- Makes `target` the super type of `t`, unless they are the same. -/
def setTarget (t target : TypeId) : Parser Unit := do
  if target ≠ t then giveSuperType t target

/-- Another name for a type. -/
def typedef : Parser Unit := do
  requireKeyword "typedef"
  skipAttributes
  let target ← typeReference
  let t ← declaredType .typedef false
  setTarget t target
  let _ ← require .semicolon

/-- Another name for a primitive type, the name first. -/
def valueType : Parser Unit := do
  requireKeyword "valuetype"
  let t ← declaredType .primitive false
  let target ← typeReference
  setTarget t target
  let _ ← require .semicolon

/-- One literal of an enumeration with the comma after it; whether another one may follow. -/
def enumerationLiteral (t : TypeId) : Parser Bool := do
  if (← peekCategory) = .braceClose then return false
  let literal ← require .string
  modify (·.addLiteral t literal.value)
  accept .comma

/-- An enumeration of string literals. -/
def enumeration : Parser Unit := do
  requireKeyword "enum"
  let t ← declaredType .enumeration false
  let _ ← require .braceOpen
  repeatWhile (enumerationLiteral t)
  let _ ← require .braceClose
  let _ ← require .semicolon

/-- Reads one of the two words by which a type takes on a mixin. -/
def acceptImplements : Parser Bool := do
  if ← acceptKeyword "implements" then return true
  acceptKeyword "includes"

/-- A type takes on a mixin. -/
def implementsStatement : Parser Unit := do
  let target ← typeReference
  if ← acceptImplements then
    let mixin ← typeReference
    modify (·.addImplements target mixin)
    let _ ← require .semicolon
  else expected (.keyword "implements")

/-- A callback function, after its keyword. The type has one operation, of its own name, which says
how the function is called. -/
def callbackFunction : Parser TypeId := do
  let t ← declaredType .callbackFunction false
  let _ ← require .equals
  let result ← resultType
  let name ← view (·.typeName t)
  let parameters ← parameterList
  let _ ← require .semicolon
  attachOperation t (Member.operation name result Modifiers.empty parameters Specials.empty)
  return t

/-! ## Bodies -/

/-- Reads a body in braces, whose opening brace was read: `entry` for each entry, to the brace that
closes the body. -/
def bodyOf (entry : Parser Unit) : Parser Unit :=
  repeatWhile do
    if ← accept .braceClose then return false
    if (← peekCategory) = .eof then expected (.token .braceClose)
    entry
    return true

/-- Reads the super type that may follow a colon. -/
def superTypeIfAny (t : TypeId) : Parser Unit := do
  if ← accept .colon then
    let superType ← typeReference
    giveSuperType t superType

/-- An entry of an exception: a constant, or a type and a name. -/
def exceptionField : Parser Member := do
  if ← atKeyword "const" then
    constant
  else
    let type ← typeReference
    let name ← identifier
    let _ ← require .semicolon
    return Member.property name type Modifiers.empty none

/-- An exception. -/
def exception : Parser TypeId := do
  requireKeyword "exception"
  let t ← declaredType .exception false
  superTypeIfAny t
  let _ ← require .braceOpen
  repeatWhile do
    let category ← peekCategory
    if category = .braceClose || category = .eof then return false
    attachProperty t (← exceptionField)
    return true
  let _ ← require .braceClose
  let _ ← require .semicolon
  return t

/-- The default of an entry of a dictionary, as it is written. -/
def defaultIfAny : Parser (Option String) := do
  if ← accept .equals then return some (← rawUntilSemicolon)
  return none

/-- An entry of a dictionary. -/
def dictionaryEntry (t : TypeId) : Parser Unit := do
  skipAttributes
  let _ ← acceptKeyword "required"
  let type ← typeReference
  let name ← identifier
  let initial ← defaultIfAny
  let _ ← require .semicolon
  attachProperty t (Member.property name type Modifiers.empty initial)

/-- A dictionary. -/
def dictionary (reopens : Bool) : Parser TypeId := do
  requireKeyword "dictionary"
  let t ← declaredType .dictionary reopens
  superTypeIfAny t
  let _ ← require .braceOpen
  bodyOf (dictionaryEntry t)
  let _ ← require .semicolon
  return t

/-! ## Interfaces -/

/-- A member that starts with one of the words for attributes and constants, or with none of the
words that start a member of another form. -/
def interfaceMemberNamed (t : TypeId) (modifiers : Modifiers) : Parser Unit := do
  if ← atAnyKeyword ["readonly", "attribute"] then
    attachProperty t (← property modifiers)
  else if ← atKeyword "const" then
    let member ← constant
    attachProperty t { member with modifiers := member.modifiers ||| modifiers }
  else if ← acceptKeyword "serializer" then
    skipBalanced [.semicolon]
    let _ ← require .semicolon
  else if ← atKeyword "typedef" then
    typedef
  else if ← acceptKeyword "constructor" then
    let name ← view (·.typeName t)
    let parameters ← parameterList
    let _ ← require .semicolon
    attachConstructor t (Member.ofConstructor name parameters)
  else
    match ← operation modifiers with
    | some member => attachOverload t member
    | none => pure ()

/-- A member of an interface. The word `stringifier` alone is a member without effect; before
anything else it is skipped, and so is `inherit`. -/
def interfaceMember (t : TypeId) : Parser Unit := do
  let attributes ← memberAttributes
  let isStatic ← acceptKeyword "static"
  let modifiers :=
    attributes ||| (if isStatic then Modifiers.static else Modifiers.empty)
  if ← acceptKeyword "stringifier" then
    if ← accept .semicolon then return
  let _ ← acceptKeyword "inherit"
  interfaceMemberNamed t modifiers

/-- Reads a mixin after the word or comma before it; whether another one follows. -/
def listedMixin (t : TypeId) : Parser Bool := do
  let _ ← next
  let base ← typeReference
  modify (·.addImplements t base)
  return (← peekCategory) = .comma

/-- Reads one of the two marks after which an interface names its super type. -/
def acceptExtends : Parser Bool := do
  if ← accept .colon then return true
  acceptKeyword "extends"

/-- The clauses between the name of an interface and its body. -/
def interfaceClauses (t : TypeId) : Parser Unit := do
  if ← acceptExtends then
    let superType ← typeReference
    giveSuperType t superType
  if (← atKeyword "implements") || (← peekCategory) = .comma then
    repeatWhile (listedMixin t)

/-- An interface, whose first word is read unseen. A semicolon in place of the body makes it a
forward declaration; the semicolon after a body may be left out. -/
def interface (kind : Kind) (reopens : Bool) : Parser TypeId := do
  let _ ← next
  let isMixin ← acceptKeyword "mixin"
  let t ← declaredType (if isMixin then .noInterfaceObject else kind) reopens
  interfaceClauses t
  if ← accept .semicolon then return t
  let _ ← require .braceOpen
  bodyOf (interfaceMember t)
  let _ ← accept .semicolon
  return t

/-! ## Declarations with attributes -/

/-- Attaches the constructors that the attributes before a declaration ask for, in order. -/
def attachConstructors (t : TypeId) : List Member → Parser Unit
  | [] => return
  | member :: rest => do
    let name ← view (·.typeName t)
    attachConstructor t (if member.name.isEmpty then { member with name } else member)
    attachConstructors t rest

/-- Applies the attributes before a declaration to its type. -/
def applyAttributes (attributes : DeclarationAttributes) (t : TypeId) : Parser Unit := do
  attachConstructors t attributes.constructors
  if !attributes.modifiers.isEmpty then
    modify (·.addModifiers t attributes.modifiers)

/-- What attributes may stand before, apart from callback functions. -/
def attributedType (kind : Kind) (reopens : Bool) : Parser TypeId := do
  if ← atAnyKeyword ["interface", "class"] then interface kind reopens
  else if ← atKeyword "exception" then exception
  else if ← atKeyword "dictionary" then dictionary reopens
  else expected (.phrase "interface, callback, exception or dictionary")

/-- A declaration that attributes may stand before. -/
def attributedDeclaration : Parser Unit := do
  let attributes ← declarationAttributes
  let reopens ← acceptKeyword "partial"
  let kind := attributes.kind.getD .interface
  let t ←
    if ← acceptKeyword "callback" then
      if ← atKeyword "interface" then attributedType .callbackInterface reopens
      else callbackFunction
    else attributedType kind reopens
  applyAttributes attributes t

/-! ## Descriptions -/

/-- The words that start a declaration that attributes may stand before. -/
def attributedKeywords : List String :=
  ["dictionary", "exception", "partial", "callback", "interface", "class"]

/-- A module, whose declarations `body` reads. Its name has no effect. -/
def moduleWith (body : Parser Unit) : Parser Unit := do
  requireKeyword "module"
  let _ ← identifier
  let _ ← require .braceOpen
  body
  let _ ← require .braceClose
  let _ ← require .semicolon

/-- A constant outside any type; it belongs to the globals of the library. -/
def globalConstant : Parser Unit := do
  let member ← constant
  let l ← library
  attachProperty (← view fun c => (c.library l).globals) member

/-- A declaration; `body` reads the declarations of a module. -/
def declarationWith (body : Parser Unit) : Parser Unit := do
  let t ← peek
  if t.category = .bracketOpen || attributedKeywords.any t.isKeyword then attributedDeclaration
  else if t.isKeyword "typedef" then typedef
  else if t.isKeyword "valuetype" then valueType
  else if t.isKeyword "module" then moduleWith body
  else if t.isKeyword "const" then globalConstant
  else if t.isKeyword "enum" then enumeration
  else if t.category = .word then implementsStatement
  else expected (.phrase
    "dictionary, callback, exception, interface, typedef, valuetype, module or const")

/-- Declarations up to the end of the input, or to the brace that closes a module. -/
def declarations : Parser Unit :=
  fix fun self => repeatWhile do
    let category ← peekCategory
    if category = .eof || category = .braceClose then return false
    declarationWith self
    return true

/-- A module. -/
def nestedModule : Parser Unit := moduleWith declarations

/-- A whole description. -/
def description : Parser Unit := do
  declarations
  let _ ← require .eof

end Grammar

end IdlCatalog
