/-
# IdlCatalog.Token.Basic — tokens of an interface description

A token is a category and the text it stands for. Positions are no part of it: they belong to
the stream, so that two texts with the same tokens read the same.

Keywords are words. Which words are keywords depends on the place in the grammar, so the category
does not tell them apart.
-/

namespace IdlCatalog

/-! ## Categories -/

/-- What kind of text a token is. The five categories of blanks, comments and hexadecimal digits
name parts of a text that are never tokens on their own; a diagnostic may still speak of them. -/
inductive Category
  /-- The end of the text, or a string that the text never closes. -/
  | eof
  /-- One character with which no token starts. -/
  | other
  | commentMultiline
  | commentShell
  | commentSingle
  | literalNumberHex
  | whitespace
  | ampersand
  | asterisk
  | bar
  | braceClose
  | braceOpen
  | bracketClose
  | bracketOpen
  | chevronLeft
  | chevronLeftEquals
  | chevronRight
  | chevronRightEquals
  | colon
  | colonColon
  | comma
  | dot
  | dotDotDot
  | equals
  | equalsEquals
  | exclamation
  | exclamationEquals
  | hyphen
  | number
  | parenthesisClose
  | parenthesisOpen
  | plus
  | question
  | semicolon
  | slash
  | string
  | word
deriving DecidableEq, Repr, Inhabited

namespace Category

/-- Every category, in the order of declaration. -/
def all : List Category :=
  [eof, other, commentMultiline, commentShell, commentSingle, literalNumberHex, whitespace,
    ampersand, asterisk, bar, braceClose, braceOpen, bracketClose, bracketOpen, chevronLeft,
    chevronLeftEquals, chevronRight, chevronRightEquals, colon, colonColon, comma, dot, dotDotDot,
    equals, equalsEquals, exclamation, exclamationEquals, hyphen, number, parenthesisClose,
    parenthesisOpen, plus, question, semicolon, slash, string, word]

/-- The name by which diagnostics call a category. -/
def name : Category → String
  | eof => "EOF"
  | other => "Other"
  | commentMultiline => "CommentMultiline"
  | commentShell => "CommentShell"
  | commentSingle => "CommentSingle"
  | literalNumberHex => "LiteralNumberHex"
  | whitespace => "Whitespace"
  | ampersand => "Ampersand"
  | asterisk => "Asterisk"
  | bar => "Bar"
  | braceClose => "BraceClose"
  | braceOpen => "BraceOpen"
  | bracketClose => "BracketClose"
  | bracketOpen => "BracketOpen"
  | chevronLeft => "ChevronLeft"
  | chevronLeftEquals => "ChevronLeftEquals"
  | chevronRight => "ChevronRight"
  | chevronRightEquals => "ChevronRightEquals"
  | colon => "Colon"
  | colonColon => "ColonColon"
  | comma => "Comma"
  | dot => "Dot"
  | dotDotDot => "DotDotDot"
  | equals => "Equals"
  | equalsEquals => "EqualsEquals"
  | exclamation => "Exclamation"
  | exclamationEquals => "ExclamationEquals"
  | hyphen => "Hyphen"
  | number => "Number"
  | parenthesisClose => "ParenthesisClose"
  | parenthesisOpen => "ParenthesisOpen"
  | plus => "Plus"
  | question => "Question"
  | semicolon => "Semicolon"
  | slash => "Slash"
  | string => "String"
  | word => "Word"

/-- The category that diagnostics call `s`. -/
def ofName? (s : String) : Option Category := all.find? fun c => c.name = s

theorem ofName?_name (c : Category) : ofName? c.name = some c := by
  cases c <;> decide +kernel

/-- The operators with their texts, longer texts first: the first entry that a text starts with
is the longest one. -/
def operators : List (Category × String) :=
  [(dotDotDot, "..."),
    (chevronLeftEquals, "<="), (chevronRightEquals, ">="), (colonColon, "::"),
    (equalsEquals, "=="), (exclamationEquals, "!="),
    (ampersand, "&"), (asterisk, "*"), (bar, "|"), (braceClose, "\x7d"), (braceOpen, "\x7b"),
    (bracketClose, "]"), (bracketOpen, "["), (chevronLeft, "<"), (chevronRight, ">"),
    (colon, ":"), (comma, ","), (dot, "."), (equals, "="), (exclamation, "!"), (hyphen, "-"),
    (parenthesisClose, ")"), (parenthesisOpen, "("), (plus, "+"), (question, "?"),
    (semicolon, ";"), (slash, "/")]

/-- No operator is longer than one that stands before it. -/
theorem operators_pairwise :
    operators.Pairwise fun longer shorter => shorter.2.length ≤ longer.2.length := by
  decide +kernel

/-- Brackets that open a balanced group. -/
def opensGroup : Category → Bool
  | braceOpen | bracketOpen | parenthesisOpen | chevronLeft => true
  | _ => false

/-- Brackets that close a balanced group. -/
def closesGroup : Category → Bool
  | braceClose | bracketClose | parenthesisClose | chevronRight => true
  | _ => false

end Category

/-! ## Tokens -/

/-- A token: its category and its text, quotes included. -/
structure Token where
  category : Category
  text : String
deriving DecidableEq, Repr

instance : Inhabited Token := ⟨⟨.eof, ""⟩⟩

namespace Token

/-- The token that ends every stream, and that stands for everything after it. -/
def endOfInput : Token := ⟨.eof, ""⟩

/-- What a token says: a string without its quotes, nothing at the end of the input, and its own
text otherwise. -/
def value (t : Token) : String :=
  match t.category with
  | .eof => ""
  | .string => String.ofList t.text.toList.tail.dropLast
  | _ => t.text

/-- Whether the token is the word `keyword`. -/
def isKeyword (t : Token) (keyword : String) : Bool :=
  t.category = .word && t.text = keyword

end Token

end IdlCatalog
