/-
# IdlCatalog.Diagnostic — why a description is refused

A refusal says what was expected and what stands there instead. Inside the grammar the place of a
refusal is the number of the token, because what is read depends on the tokens alone; the line,
the column and the snippet are found afterwards in the text itself.

Each expectation has a stable code, so that tools need not match the wording.
-/
import IdlCatalog.Text.Position
import IdlCatalog.Text.Quoted
import IdlCatalog.Token.Basic
import IdlCatalog.Token.Lexer

namespace IdlCatalog

/-! ## Expectations -/

/-- What the grammar expected. -/
inductive Expectation
  /-- A token of this category. -/
  | token (category : Category)
  /-- This keyword. -/
  | keyword (word : String)
  /-- Something that one token does not name. -/
  | phrase (what : String)
  /-- An extended attribute of the table of known ones. -/
  | knownAttribute
deriving DecidableEq, Repr

namespace Expectation

/-- The stable code of an expectation. -/
def code : Expectation → String
  | token _ => "IDL0001"
  | keyword _ => "IDL0002"
  | phrase _ => "IDL0003"
  | knownAttribute => "IDL0004"

/-- What was expected, in words. -/
def message : Expectation → String
  | token category => "expected token " ++ category.name
  | keyword word => "expected `" ++ word ++ "`"
  | phrase what => "expected " ++ what
  | knownAttribute => "unrecognized extended attribute"

end Expectation

/-! ## Faults -/

/-- A token where it was not expected: its number in the stream, counted from zero, and the token
itself. -/
structure Fault where
  expectation : Expectation
  index : Nat
  found : Token
deriving DecidableEq, Repr

/-! ## Errors with a place -/

/-- A fault with its place in the text and the library that was being read. -/
structure SyntaxError where
  expectation : Expectation
  /-- The library that was being read; empty when there is none. -/
  library : String
  line : Nat
  column : Nat
  /-- The text of the offending token. -/
  token : String
  actual : Category
  /-- The line of the token up to and including the token. -/
  context : String
deriving DecidableEq, Repr

namespace SyntaxError

/-- The error at a token of a text. -/
def of (expectation : Expectation) (library : String) (text : List Char)
    (span : Span) (token : Token) : SyntaxError :=
  let position := Position.of text span.start
  { expectation, library, line := position.line, column := position.column,
    token := token.text, actual := token.category,
    context := String.ofList (span.context text) }

/-- The error that a fault is, once the text is known. -/
def ofFault (library : String) (text : List Char) (fault : Fault) : SyntaxError :=
  of fault.expectation library text (Lexer.locate text fault.index).1 fault.found

/-- The one-line report of an error. -/
def message (e : SyntaxError) : String :=
  (if e.library.isEmpty then "" else "error parsing " ++ e.library ++ ": ") ++
    e.expectation.message ++ " at " ++ toString e.line ++ ":" ++ toString e.column ++
    ", found " ++ e.actual.name ++ " " ++ quoted e.token ++ " (" ++ e.expectation.code ++ ")"

/-- The report of an error with the snippet. -/
def detail (e : SyntaxError) : String := e.message ++ " [" ++ quoted e.context ++ "]"

end SyntaxError

end IdlCatalog
