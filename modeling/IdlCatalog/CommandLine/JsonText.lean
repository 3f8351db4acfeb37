/-
# IdlCatalog.CommandLine.JsonText — structured output

A document is printed one value to a line, indented by two spaces for each level. Empty lists stay
on their line. Strings escape quotes, backslashes and controls, and nothing else.
-/
import IdlCatalog.Text.Quoted

namespace IdlCatalog

/-- A document of structured output. The fields of an object keep their order. -/
inductive JsonText
  | string (text : String)
  | boolean (value : Bool)
  | list (items : List JsonText)
  | object (fields : List (String × JsonText))

namespace JsonText

/-! ## Strings -/

/-- A control character by its number in four hexadecimal digits. -/
def numberedEscape (c : Char) : List Char :=
  let digits := hexDigits c.toNat
  ['\\', 'u'] ++ List.replicate (4 - digits.length) '0' ++ digits

/-- A character as it stands in a string. -/
def char (c : Char) : List Char :=
  if c = '"' then ['\\', '"']
  else if c = '\\' then ['\\', '\\']
  else if c = '\n' then ['\\', 'n']
  else if c = '\r' then ['\\', 'r']
  else if c = '\t' then ['\\', 't']
  else if c = '\x08' then ['\\', 'b']
  else if c = '\x0c' then ['\\', 'f']
  else if c < ' ' then numberedEscape c
  else [c]

/-- A string with its quotes. -/
def stringText (text : String) : String :=
  String.ofList ('"' :: (text.toList.flatMap char ++ ['"']))

/-! ## Layout -/

/-- A new line, indented to a level. -/
def newLine (level : Nat) : String := String.ofList ('\n' :: List.replicate (2 * level) ' ')

/-- Items in brackets, each on a line of its own one level further in. -/
def bracketed (level : Nat) (opening closing : String) (items : List String) : String :=
  if items.isEmpty then opening ++ closing
  else
    opening ++ ",".intercalate (items.map (newLine (level + 1) ++ ·)) ++ newLine level ++ closing

mutual

/-- The text of a document whose first line is indented to a level. -/
def render (level : Nat) : JsonText → String
  | string text => stringText text
  | boolean value => if value then "true" else "false"
  | list items => bracketed level "[" "]" (renderItems (level + 1) items)
  | object fields => bracketed level "\x7b" "\x7d" (renderFields (level + 1) fields)

/-- The texts of the items of a list. -/
def renderItems (level : Nat) : List JsonText → List String
  | [] => []
  | item :: items => render level item :: renderItems level items

/-- The texts of the fields of an object. -/
def renderFields (level : Nat) : List (String × JsonText) → List String
  | [] => []
  | (name, value) :: fields =>
    (stringText name ++ ": " ++ render level value) :: renderFields level fields

end

end JsonText

end IdlCatalog
