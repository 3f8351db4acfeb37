/-
# IdlCatalog.Grammar.TypeReference — types as they are written

A type reference is a name, which is looked up, or a composite, which gets an entry of its own for
each mention. The entry of a composite is named as the composite is written, in one canonical
spelling.
-/
import IdlCatalog.Grammar.Parser

namespace IdlCatalog

namespace Grammar

open IdlCatalog.Parser

/-! ## Names -/

/-- The type that a reference stands for. The library itself is asked first, then the tiers; a
name that none of them knows gets a placeholder. A type that only reopens another one is passed
over in favour of the one it reopens. -/
def resolve (name : String) : Parser TypeId := do
  let l ← library
  let t ← change fun c =>
    match ((c.library l).get? name).filter fun t => !c.isReopening t with
    | some t => (t, c)
    | none =>
      match c.resolve? name with
      | some t => (t, c)
      | none => c.addPlaceholder name
  note (.referenced name t)
  return t

/-- One segment of a scoped name. The two words that qualify numeric types take the next word
along, and `unsigned` before a question mark means an unsigned `int`. -/
def nameSegment : Parser String := do
  if ← acceptKeyword "unrestricted" then
    return "unrestricted " ++ (← identifier)
  if ← acceptKeyword "unsigned" then
    if (← peekCategory) = .question then return "unsigned int"
    return "unsigned " ++ (← identifier)
  identifier

/-- The last segment of a scoped name. -/
def scopedName : Parser String :=
  fix fun again => do
    let segment ← nameSegment
    if ← accept .colonColon then again else return segment

/-- Whether a type name ends in `long`, and so takes a second `long` along. -/
def endsInLong (name : String) : Bool := "long".toList.isSuffixOf name.toList

/-- The name of a type. -/
def typeName : Parser String := do
  let name ← scopedName
  if endsInLong name then
    if ← acceptKeyword "long" then return name ++ " long"
  return name

/-! ## Composites -/

/-- Creates a composite type around `element`. -/
def wrap (kind : Kind) (rendered : String → String) (element : TypeId) : Parser TypeId :=
  change fun c => c.newSynthesized (rendered (c.typeName element)) kind (some element)

/-- A type that may be null. -/
def nullable : TypeId → Parser TypeId := wrap .nullable (· ++ "?")

/-- The nullable form of a type if a question mark follows, and the type itself otherwise. -/
def nullableIfMarked (t : TypeId) : Parser TypeId := do
  if ← accept .question then nullable t else return t

/-- The array of a type if brackets follow, and the type itself otherwise. -/
def arrayIfMarked (t : TypeId) : Parser TypeId := do
  if ← accept .bracketOpen then
    let _ ← require .bracketClose
    wrap .array (· ++ "[]") t
  else return t

/-- A looked-up name, nullable or not, and its array. -/
def namedType (name : String) : Parser TypeId := do
  arrayIfMarked (← nullableIfMarked (← resolve name))

/-- The element type of a sequence, in chevrons. -/
def sequenceType (self : Parser TypeId) : Parser TypeId := do
  let _ ← require .chevronLeft
  let element ← self
  let _ ← require .chevronRight
  wrap .sequence (fun name => "sequence<" ++ name ++ ">") element

/-- Creates a composite type and its arguments. -/
def newWithArguments (kind : Kind) (superType : Option TypeId) (arguments : List TypeId)
    (rendered : List String → String) : Parser TypeId :=
  change fun c =>
    let (t, c) := c.newSynthesized (rendered (arguments.map c.typeName)) kind superType
    (t, arguments.foldl (fun c argument => c.pushTypeArgument t argument) c)

/-- The iterable that the arguments of a generic type give: a key type, then a value type. -/
def iterableOf : List TypeId → Option Iterable
  | key :: rest => some ⟨key, rest.head?⟩
  | [] => none

/-- The arguments of a generic type, in chevrons. The generic type `iterable` also says which key
and value types it has. -/
def genericType (self : Parser TypeId) (name : String) : Parser TypeId := do
  let _ ← require .chevronLeft
  let arguments ← sepBy self (accept .comma)
  let _ ← require .chevronRight
  let t ← newWithArguments .generic arguments.getLast? arguments fun names =>
    name ++ "<" ++ ", ".intercalate names ++ ">"
  if name = "iterable" then
    match iterableOf arguments with
    | some iterable => modify (·.setIterable t iterable)
    | none => pure ()
  return t

/-- A union in parentheses. A question mark after it is read and has no effect. -/
def unionType (self : Parser TypeId) : Parser TypeId := do
  let _ ← require .parenthesisOpen
  let branches ← sepBy self (acceptKeyword "or")
  let _ ← require .parenthesisClose
  let _ ← accept .question
  newWithArguments .union none branches fun names => "(" ++ " or ".intercalate names ++ ")"

/-! ## References -/

/-- A type reference within which `self` reads the inner ones. -/
def typeReferenceWith (self : Parser TypeId) : Parser TypeId := do
  if (← peekCategory) = .parenthesisOpen then
    unionType self
  else
    let name ← typeName
    let t ←
      if name = "sequence" then sequenceType self
      else if (← peekCategory) = .chevronLeft then genericType self name
      else namedType name
    nullableIfMarked t

/-- A type reference. -/
def typeReference : Parser TypeId := fix typeReferenceWith

end Grammar

end IdlCatalog
