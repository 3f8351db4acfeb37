/-
# IdlCatalog.Catalog.Describe — entries in words

Names and declarations as a reader writes them: the qualified name of a type or member, the short
label of a member, and its signature.
-/
import IdlCatalog.Catalog.Basic

namespace IdlCatalog

/-- A text with every space written as `mark`. -/
def replaceSpaces (mark : Char) (text : String) : String :=
  String.ofList (text.toList.map fun c => if c = ' ' then mark else c)

namespace Catalog

/-- The name of a type after its library, in which spaces are written as pluses. A type without a
library has its own name only. -/
def qualifiedName (c : Catalog) (t : TypeId) : String :=
  match (c.type t).library with
  | some l => replaceSpaces '+' (c.library l).name ++ "/" ++ c.typeName t
  | none => c.typeName t

/-- The name of a member after the qualified name of its owner. -/
def qualifiedMemberName (c : Catalog) (m : MemberId) : String :=
  match (c.member m).owner with
  | some owner => c.qualifiedName owner ++ "." ++ (c.member m).name
  | none => (c.member m).name

/-- A short label. An operation shows that it takes parameters, and the type of a single one. -/
def label (c : Catalog) (m : MemberId) : String :=
  let member := c.member m
  match member.body with
  | .property _ => member.name
  | .operation [] _ => member.name ++ "()"
  | .operation [p] _ => member.name ++ "(" ++ c.typeName p.type ++ ")"
  | .operation _ _ => member.name ++ "(\u2026)"

/-- A parameter as it is declared. -/
def parameterText (c : Catalog) (p : Parameter) : String :=
  (if p.isOptional then "optional " else "") ++ c.typeName p.type ++
    (if p.isVariadic then "..." else "") ++ " " ++ p.name

/-- The type of a member and the blank after it; `none` has no text. -/
def typeText (c : Catalog) (t : Option TypeId) : String :=
  match t with
  | some t => c.typeName t ++ " "
  | none => ""

/-- A member as it is declared. A constructor has no result type. -/
def signature (c : Catalog) (m : MemberId) : String :=
  let member := c.member m
  let qualifiers :=
    (if member.modifiers.contains Modifiers.unforgeable then "[Unforgeable] " else "") ++
      (if member.modifiers.contains Modifiers.static then "static " else "")
  match member.body with
  | .property initial =>
    let access :=
      if member.modifiers.contains Modifiers.constant then "const "
      else if member.modifiers.contains Modifiers.readOnly then "readonly "
      else ""
    let value :=
      match initial with
      | some text => " = " ++ text
      | none => ""
    qualifiers ++ access ++ c.typeText member.type ++ member.name ++ value
  | .operation parameters _ =>
    let result :=
      if member.isConstructor then ""
      else if member.type.isNone then "void "
      else c.typeText member.type
    qualifiers ++ result ++ member.name ++ "(" ++
      ", ".intercalate (parameters.map c.parameterText) ++ ")"

end Catalog

end IdlCatalog
