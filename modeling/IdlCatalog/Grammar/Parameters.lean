/-
# IdlCatalog.Grammar.Parameters — member attributes and parameter lists

Attributes before a member, a parameter or an entry of a dictionary are skipped, whatever their
names; only `Unforgeable` before a member or parameter has an effect.
-/
import IdlCatalog.Grammar.AttributeTable
import IdlCatalog.Grammar.TypeReference

namespace IdlCatalog

namespace Grammar

open IdlCatalog.Parser

/-! ## Attributes in brackets -/

/-- The effect that an attribute has on a member or parameter when it starts with this token. -/
def memberModifier (t : Token) : Modifiers :=
  if t.category = .word then
    match AttributeAction.ofName? t.text with
    | some (.modifier m) => m &&& Modifiers.unforgeable
    | _ => Modifiers.empty
  else Modifiers.empty

/-- The qualifiers that are in one of the sets. -/
def unionAll (sets : List Modifiers) : Modifiers := sets.foldl (· ||| ·) Modifiers.empty

/-- One entry of a block, with the comma after it; nothing at the bracket that ends the block. -/
def memberAttribute : Parser (Option Modifiers) := do
  if ← accept .bracketClose then return none
  let modifiers := memberModifier (← peek)
  skipBalanced [.comma, .bracketClose]
  let _ ← accept .comma
  return some modifiers

/-- One block of attributes; nothing where no block starts. -/
def memberAttributeBlock : Parser (Option Modifiers) := do
  if ← accept .bracketOpen then
    return some (unionAll (← collect memberAttribute))
  return none

/-- The blocks of attributes before a member or a parameter. -/
def memberAttributes : Parser Modifiers := do
  return unionAll (← collect memberAttributeBlock)

/-- Skips the blocks of attributes before an entry of a dictionary or the target of a typedef. -/
def skipAttributes : Parser Unit :=
  repeatWhile do
    if ← accept .bracketOpen then
      skipBalanced [.bracketClose]
      let _ ← require .bracketClose
      return true
    return false

/-! ## Parameters -/

/-- One parameter. Its attributes may stand on either side of the words before its type; a default
is skipped. -/
def parameter : Parser Parameter := do
  let leading ← memberAttributes
  let isOptional ← acceptKeyword "optional"
  if ← atAnyKeyword ["in", "out", "inout"] then
    let _ ← next
  let trailing ← memberAttributes
  let type ← typeReference
  let isVariadic ← accept .dotDotDot
  let name ← identifier
  if ← accept .equals then
    skipBalanced [.comma, .parenthesisClose]
  return {
    name, type
    modifiers := leading ||| (if isOptional then Modifiers.optional else Modifiers.empty) |||
      trailing ||| (if isVariadic then Modifiers.variadic else Modifiers.empty) }

/-- One parameter with the comma after it; nothing at the parenthesis that ends the list. -/
def listedParameter : Parser (Option Parameter) := do
  if (← peekCategory) = .parenthesisClose then return none
  let p ← parameter
  note (.parameter p)
  if ← accept .comma then return some p
  if (← peekCategory) = .parenthesisClose then return some p
  expected (.phrase "`,` or `)`")

/-- A parameter list in parentheses, and the exceptions an operation declares after it, which have
no effect. -/
def parameterList : Parser (List Parameter) := do
  let _ ← require .parenthesisOpen
  let parameters ← collect listedParameter
  let _ ← require .parenthesisClose
  if ← acceptKeyword "raises" then
    let _ ← require .parenthesisOpen
    let _ ← typeReference
    let _ ← require .parenthesisClose
  return parameters

/-- A parameter list if one starts here, and no parameters otherwise. -/
def parameterListIfAny : Parser (List Parameter) := do
  if (← peekCategory) = .parenthesisOpen then parameterList else return []

end Grammar

end IdlCatalog
