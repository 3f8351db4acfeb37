/-
# IdlCatalog.Proofs.Grammar.Actions — what productions do with what they have read

The productions of the grammar mix two things: reading tokens, and doing something to the catalog
with what was read. Proofs about the catalog want to speak of the second part alone. So this module
gives names to the parts: what a declaration does with its name (`declareNamed`), what a generic
type or a union does with its arguments (`genericOf`, `unionOf`), what comes after the name of a
callback function (`callbackBody`), and the rounds of the loops over bodies and modules.

The parts are no second version of the grammar. Each production is the sequence of such a part and
the tokens before it, most of them by unfolding alone; where that is not plain from the text of the
production, an equation such as `declaredType_eq` or `callbackFunction_eq` says so.
-/
import IdlCatalog.Grammar.Declarations

namespace IdlCatalog

/-- The kinds that a declaration gives. -/
def Kind.IsDeclared (kind : Kind) : Prop := kind.isSynthesized = false ∧ kind ≠ .reopening

instance (kind : Kind) : Decidable kind.IsDeclared :=
  inferInstanceAs (Decidable (_ ∧ _))

/-! ## Actions on the catalog -/

namespace Grammar

open IdlCatalog.Parser

/-- Declares a name that stands for nothing. -/
def createNamed (kind : Kind) (reopens : Bool) (name : String) : Parser TypeId := do
  let t ← change (·.newType name kind)
  introduce name t reopens
  return t

/-- Gives its kind to the type that the name stands for. -/
def upgradeNamed (kind : Kind) (reopens : Bool) (name : String) (t : TypeId) : Parser TypeId := do
  modify (·.setKind t kind)
  introduce name t reopens
  return t

/-- Declares a type of its own for a name that stands for a type of another library. -/
def reopenNamed (reopens : Bool) (name : String) (target : TypeId) : Parser TypeId := do
  let t ← change (·.newType name .reopening)
  introduce name t reopens
  modify (·.setSuperType t target)
  return t

/-- What a declaration does with its name, given the type that the name stands for. -/
def declareOver (l : LibraryId) (kind : Kind) (reopens : Bool) (name : String)
    (existing : Option TypeId) : Parser TypeId :=
  match reopens, existing with
  | true, some target => do
    if (← view (·.type target)).library = some l then
      note (.declared name target true)
      return target
    reopenNamed reopens name target
  | _, some t => upgradeNamed kind reopens name t
  | _, none => createNamed kind reopens name

/-- What a declaration does with its name. -/
def declareNamed (kind : Kind) (reopens : Bool) (name : String) : Parser TypeId := do
  let l ← library
  declareOver l kind reopens name (← view (existing? l name))

/-- A declared type is a name and what is done with it. The library that reads and the type that the
name stands for are looked up once the name was read. -/
theorem declaredType_eq (kind : Kind) (reopens : Bool) :
    declaredType kind reopens = identifier >>= declareNamed kind reopens := by
  unfold declaredType declareNamed declareOver createNamed upgradeNamed reopenNamed
  rfl

/-- The composites around one type, and how they are written. -/
inductive Wrapper : Kind → (String → String) → Prop
  | nullable : Wrapper .nullable (· ++ "?")
  | array : Wrapper .array (· ++ "[]")
  | sequence : Wrapper .sequence fun name => "sequence<" ++ name ++ ">"

/-- What a generic type does once its arguments are read. -/
def genericOf (name : String) (arguments : List TypeId) : Parser TypeId := do
  let t ← newWithArguments .generic arguments.getLast? arguments fun names =>
    name ++ "<" ++ ", ".intercalate names ++ ">"
  if name = "iterable" then
    match iterableOf arguments with
    | some iterable => modify (·.setIterable t iterable)
    | none => pure ()
  return t

/-- What a union does once its branches are read. -/
def unionOf (branches : List TypeId) : Parser TypeId :=
  newWithArguments .union none branches fun names => "(" ++ " or ".intercalate names ++ ")"

/-! ### The rests of some productions -/

/-- What stands in a union after its parenthesis. -/
def unionTail (self : Parser TypeId) : Parser TypeId := do
  let branches ← sepBy self (acceptKeyword "or")
  let _ ← require .parenthesisClose
  let _ ← accept .question
  unionOf branches

/-- What stands in a parameter from its type on. -/
def parameterTail (modifiers : Bool → Modifiers) : Parser Parameter := do
  let type ← typeReference
  let isVariadic ← accept .dotDotDot
  let name ← identifier
  if ← accept .equals then
    skipBalanced [.comma, .parenthesisClose]
  return { name, type, modifiers := modifiers isVariadic }

/-- Attaches the operation that was read, if one was. -/
def attachIfAny (t : TypeId) : Option Member → Parser Unit
  | some member => attachOverload t member
  | none => pure ()

/-- The operation of a callback function, which stands after its name. -/
def callbackOperation (t : TypeId) : Parser Member := do
  let _ ← require .equals
  let result ← resultType
  let name ← view (·.typeName t)
  let parameters ← parameterList
  let _ ← require .semicolon
  return Member.operation name result Modifiers.empty parameters Specials.empty

/-- A callback function after its name. -/
def callbackBody (t : TypeId) : Parser TypeId := do
  attachOperation t (← callbackOperation t)
  return t

/-- A callback function is a declared name and what follows it. -/
theorem callbackFunction_eq :
    callbackFunction = declaredType .callbackFunction false >>= callbackBody := by
  refine congrArg (declaredType .callbackFunction false >>= ·) (funext fun t => ?_)
  simp only [callbackBody, callbackOperation, bind_assoc, pure_bind]

/-- A constructor after its keyword. -/
def constructorMember (t : TypeId) : Parser Unit := do
  let name ← view (·.typeName t)
  let parameters ← parameterList
  let _ ← require .semicolon
  attachConstructor t (Member.ofConstructor name parameters)

/-- The mixins that the clauses of an interface name. -/
def listedMixins (t : TypeId) : Parser Unit := do
  if (← atKeyword "implements") || (← peekCategory) = .comma then
    repeatWhile (listedMixin t)

/-! ### Rounds of loops -/

/-- Skips a block of attributes if one starts here. -/
def skippedBlock : Parser Bool := do
  if ← accept .bracketOpen then
    skipBalanced [.bracketClose]
    let _ ← require .bracketClose
    return true
  return false

/-- An entry of a body in braces, or the brace that closes the body. -/
def bodyRound (entry : Parser Unit) : Parser Bool := do
  if ← accept .braceClose then return false
  if (← peekCategory) = .eof then expected (.token .braceClose)
  entry
  return true

/-- An entry of an exception, unless its body ends. -/
def exceptionRound (t : TypeId) : Parser Bool := do
  let category ← peekCategory
  if category = .braceClose || category = .eof then return false
  attachProperty t (← exceptionField)
  return true

/-- A declaration, unless the module or the input ends. -/
def declarationRound (self : Parser Unit) : Parser Bool := do
  let category ← peekCategory
  if category = .eof || category = .braceClose then return false
  declarationWith self
  return true

end Grammar

end IdlCatalog
