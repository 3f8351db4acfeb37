/-
# IdlCatalog.Grammar.Attributes — extended attributes before a declaration

The blocks of attributes before a declaration are read entry by entry, each entry by the meaning
of its name. What they ask for is then put together from the entries, in their order; the kind
does not depend on that order, because a global interface stays global.
-/
import IdlCatalog.Grammar.Parameters

namespace IdlCatalog

namespace Grammar

open IdlCatalog.Parser

/-! ## What attributes ask for -/

/-- What one attribute asks for. -/
inductive AttributeEffect
  | modifier (modifiers : Modifiers)
  | noInterfaceObject
  | global (primary : Bool)
  | constructor (member : Member)
  | nothing
deriving DecidableEq, Repr

/-- What the attributes before a declaration ask for. -/
structure DeclarationAttributes where
  kind : Option Kind
  modifiers : Modifiers
  /-- The constructors; one without a name is named after the type when it is attached. -/
  constructors : List Member
deriving DecidableEq, Repr

namespace DeclarationAttributes

/-- No attributes. -/
def none : DeclarationAttributes := ⟨.none, Modifiers.empty, []⟩

/-- Adds what one attribute asks for. -/
def add (a : DeclarationAttributes) : AttributeEffect → DeclarationAttributes
  | .modifier modifiers => { a with modifiers := a.modifiers ||| modifiers }
  | .noInterfaceObject =>
    { a with kind := if a.kind = some .global then a.kind else some .noInterfaceObject }
  | .global primary =>
    { a with
      kind := some .global
      modifiers :=
        if primary then a.modifiers ||| Modifiers.primaryGlobal else a.modifiers }
  | .constructor member => { a with constructors := a.constructors ++ [member] }
  | .nothing => a

/-- What the attributes ask for together. -/
def ofEffects (effects : List AttributeEffect) : DeclarationAttributes := effects.foldl add none

end DeclarationAttributes

/-! ## Values -/

/-- Skips a name, or names in parentheses. -/
def skipNames : Parser Unit := do
  if ← accept .parenthesisOpen then
    let _ ← sepBy identifier (accept .comma)
    let _ ← require .parenthesisClose
  else
    let _ ← identifier

/-- Skips one value: a group in parentheses, a word, a string or a number. -/
def skipValue : Parser Unit := do
  match ← peekCategory with
  | .parenthesisOpen => skipParenthesized
  | .word | .string | .number => let _ ← next
  | _ => expected (.phrase "extended attribute value")

/-- Reads the sign that joins two values. -/
def acceptValueSign : Parser Bool := do
  if ← accept .ampersand then return true
  accept .bar

/-! ## Entries -/

/-- What follows the name of an attribute, and what the attribute asks for. -/
def attributeEffect : AttributeAction → Parser AttributeEffect
  | .modifier modifiers => return .modifier modifiers
  | .noInterfaceObject => return .noInterfaceObject
  | .global primary => do
    if ← accept .equals then skipNames
    return .global primary
  | .constructor => do
    return .constructor (Member.ofConstructor "" (← parameterListIfAny))
  | .namedConstructor => do
    let _ ← require .equals
    let name ← identifier
    return .constructor (Member.ofConstructor name (← parameterListIfAny))
  | .exposed => do
    let _ ← require .equals
    skipNames
    return .nothing
  | .ignore => return .nothing
  | .ignoreWithValue => do
    if ← accept .equals then
      let _ ← sepBy skipValue acceptValueSign
    return .nothing
  | .ignoreWithArguments => do
    if (← peekCategory) = .parenthesisOpen then skipParenthesized
    return .nothing

/-- One attribute. A name that the table does not know is refused, at the name. -/
def namedAttribute : Parser AttributeEffect := do
  let index ← position
  let token ← require .word
  match AttributeAction.ofName? token.text with
  | some action => attributeEffect action
  | none => refuse (.malformed ⟨.knownAttribute, index, token⟩)

/-- One block of attributes; nothing where no block starts. -/
def attributeBlock : Parser (Option (List AttributeEffect)) := do
  if ← accept .bracketOpen then
    let effects ← sepBy namedAttribute (accept .comma)
    let _ ← require .bracketClose
    return some effects
  return none

/-- The blocks of attributes before a declaration. -/
def declarationAttributes : Parser DeclarationAttributes := do
  return DeclarationAttributes.ofEffects (← collect attributeBlock).flatten

end Grammar

end IdlCatalog
