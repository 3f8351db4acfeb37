/-
# IdlCatalog.Grammar.Members — members of interfaces, dictionaries and exceptions

A member is read on its own first and attached to its type afterwards. An operation whose name the
type has already is folded into the one that is there; a property replaces an earlier one.
-/
import IdlCatalog.Grammar.Parameters

namespace IdlCatalog

namespace Grammar

open IdlCatalog.Parser

/-! ## Members on their own -/

/-- Skips the exceptions that reading or writing a property raises. -/
def skipRaises : Parser Unit := do
  let _ ← require .parenthesisOpen
  let _ ← identifier
  let _ ← require .parenthesisClose

/-- Reads one of the two words after which a property names its exceptions. -/
def acceptRaises : Parser Bool := do
  if ← acceptKeyword "setraises" then return true
  acceptKeyword "raises"

/-- An attribute of an interface, which may be read only. -/
def property (modifiers : Modifiers) : Parser Member := do
  let isReadOnly ← acceptKeyword "readonly"
  requireKeyword "attribute"
  let type ← typeReference
  let name ← identifier
  if ← acceptRaises then skipRaises
  let _ ← require .semicolon
  return Member.property name type
    (modifiers ||| (if isReadOnly then Modifiers.readOnly else Modifiers.empty)) none

/-- A constant. Its value is kept as it is written and means nothing here. -/
def constant : Parser Member := do
  requireKeyword "const"
  let type ← typeReference
  let name ← identifier
  let _ ← require .equals
  let value ← rawUntilSemicolon
  let _ ← require .semicolon
  return Member.property name type Modifiers.constant (some value)

/-- The words that give an operation a special role. -/
def specialKeywords : List String := ["getter", "setter", "deleter", "creator", "legacycaller"]

/-- A word that gives an operation a special role. -/
def specialKeyword : Parser (Option String) := do
  if ← atAnyKeyword specialKeywords then return some (← identifier)
  return none

/-- The result type of an operation; `void` is none. -/
def resultType : Parser (Option TypeId) := do
  if ← acceptKeyword "void" then return none
  return some (← typeReference)

/-- The name of an operation. One that has a special role may go without; it is then named by the
words for its roles. -/
def operationName (specials : List String) : Parser String := do
  if (← peekCategory) = .parenthesisOpen && !specials.isEmpty then
    return " ".intercalate specials
  identifier

/-- Whether a result type is an iterable, which declares no operation. -/
def isIterable (c : Catalog) (type : Option TypeId) : Bool :=
  match type with
  | some t => (c.type t).iterable.isSome
  | none => false

/-- An operation, or nothing where an iterable is declared. -/
def operation (modifiers : Modifiers) : Parser (Option Member) := do
  let specials ← collect specialKeyword
  let type ← resultType
  if ← view (isIterable · type) then
    let _ ← require .semicolon
    return none
  let name ← operationName specials
  let parameters ← parameterList
  let _ ← require .semicolon
  let roles := specials.foldl (fun roles word => roles.union (Specials.ofKeyword word))
    Specials.empty
  return some (Member.operation name type modifiers parameters roles)

/-! ## Attaching -/

/-- Attaches a property and asks for its documentation. -/
def attachProperty (t : TypeId) (member : Member) : Parser Unit := do
  let m ← change (·.addProperty t member)
  note (.attached t m)
  document (.member m)

/-- Attaches an operation and asks for its documentation. -/
def attachOperation (t : TypeId) (member : Member) : Parser Unit := do
  let m ← change (·.addOperation t member)
  note (.attached t m)
  document (.member m)

/-- Attaches a constructor and asks for its documentation. -/
def attachConstructor (t : TypeId) (member : Member) : Parser Unit := do
  let m ← change (·.addConstructor t member)
  note (.attached t m)
  document (.member m)

/-- Attaches an operation, or folds it into the one of the same name. -/
def attachOverload (t : TypeId) (member : Member) : Parser Unit := do
  match ← view (·.operation? t member.name) with
  | some existing =>
    modify (·.mergeOperation existing member)
    note (.merged t existing)
  | none => attachOperation t member

end Grammar

end IdlCatalog
