/-
# IdlCatalog.Token.Lexer — the tokens of a text

A text is read as an alternation of gaps (blanks and comments, which may be empty) and tokens.
`Lexer.scan` gives the alternation itself, so nothing of the text is lost: gaps and tokens, put
back together, are the text. A token is always the longest one that starts where it stands.

The stream ends with the first end-of-input token. That token is empty, except that a string the
text never closes is an end-of-input token that reaches from the quote to the end of the text.
-/
import IdlCatalog.Text.CharSet
import IdlCatalog.Text.Position
import IdlCatalog.Token.Basic

namespace IdlCatalog

namespace Lexer

/-! ## Gaps -/

/-- Where a gap stands: between comments, in a comment that ends with the line, or in one that
ends with its closing mark. -/
inductive GapMode
  | between
  | line
  | block
deriving DecidableEq, Repr

/-- Puts `head` in front of the first part of a split text. -/
def prepend (head : List Char) (split : List Char × List Char) : List Char × List Char :=
  (head ++ split.1, split.2)

/-- Splits a text after the gap at its head. A line comment takes its newline along, a block
comment its closing mark; a comment without its end reaches to the end of the text. -/
def splitGap : GapMode → List Char → List Char × List Char
  | .between, '/' :: '/' :: text => prepend ['/', '/'] (splitGap .line text)
  | .between, '/' :: '*' :: text => prepend ['/', '*'] (splitGap .block text)
  | .between, c :: text =>
    if c = '#' then prepend [c] (splitGap .line text)
    else if isBlank c then prepend [c] (splitGap .between text)
    else ([], c :: text)
  | .line, c :: text => prepend [c] (splitGap (if c = '\n' then .between else .line) text)
  | .block, '*' :: '/' :: text => prepend ['*', '/'] (splitGap .between text)
  | .block, c :: text => prepend [c] (splitGap .block text)
  | _, [] => ([], [])

/-! ## Tokens by class -/

/-- Splits a text after the characters at its head that satisfy `p`. -/
def splitWhile (p : Char → Bool) (text : List Char) : List Char × List Char :=
  (text.takeWhile p, text.dropWhile p)

/-- Splits off the fraction of a number: a point and any digits after it. -/
def splitFraction : List Char → List Char × List Char
  | '.' :: text => prepend ['.'] (splitWhile isDecimalDigit text)
  | text => ([], text)

/-- Splits off the sign of an exponent. -/
def splitSign : List Char → List Char × List Char
  | c :: text => if c = '+' || c = '-' then ([c], text) else ([], c :: text)
  | [] => ([], [])

/-- Splits off the exponent of a number. The letter is an exponent only if a digit follows it,
after one optional sign; otherwise it starts the next word. -/
def splitExponent : List Char → List Char × List Char
  | c :: text =>
    if c = 'e' || c = 'E' then
      let sign := splitSign text
      let digits := splitWhile isDecimalDigit sign.2
      if digits.1 = [] then ([], c :: text) else (c :: (sign.1 ++ digits.1), digits.2)
    else ([], c :: text)
  | [] => ([], [])

/-- Splits off a number that starts with a decimal digit: digits, a fraction, an exponent. -/
def splitDecimal (text : List Char) : List Char × List Char :=
  let whole := splitWhile isDecimalDigit text
  let fraction := splitFraction whole.2
  prepend whole.1 (prepend fraction.1 (splitExponent fraction.2))

/-- Splits off a number. A zero and an `x` of either case start a hexadecimal number, whose
digits may be missing. -/
def splitNumber : List Char → List Char × List Char
  | '0' :: c :: text =>
    if c = 'x' || c = 'X' then prepend ['0', c] (splitWhile isHexDigit text)
    else splitDecimal ('0' :: c :: text)
  | text => splitDecimal text

/-- Splits off a string, given its opening quote and the text after it. The string ends at the
next quote of the same kind; there are no escapes. Without such a quote there is no string. -/
def splitString (quote : Char) (text : List Char) : Option (List Char × List Char) :=
  let body := splitWhile (· ≠ quote) text
  match body.2 with
  | [] => none
  | close :: rest => some (quote :: (body.1 ++ [close]), rest)

/-- The operators with their texts as characters, longest first. -/
def operatorTexts : List (Category × List Char) :=
  Category.operators.map fun e => (e.1, e.2.toList)

/-- The longest operator at the head of a text. -/
def operator? (text : List Char) : Option (Category × List Char) :=
  operatorTexts.find? fun e => e.2.isPrefixOf text

/-! ## One token -/

/-- The token at the head of a text that starts with no gap, with the text after it. -/
def token : List Char → Token × List Char
  | [] => (Token.endOfInput, [])
  | c :: text =>
    if isWordStart c then
      let word := splitWhile isWordPart (c :: text)
      (⟨.word, String.ofList word.1⟩, word.2)
    else if isDecimalDigit c then
      let number := splitNumber (c :: text)
      (⟨.number, String.ofList number.1⟩, number.2)
    else if c = '"' || c = '\'' then
      match splitString c text with
      | some quoted => (⟨.string, String.ofList quoted.1⟩, quoted.2)
      | none => (⟨.eof, String.ofList (c :: text)⟩, [])
    else
      match operator? (c :: text) with
      | some (category, lexeme) =>
        (⟨category, String.ofList lexeme⟩, (c :: text).drop lexeme.length)
      | none => (⟨.other, String.ofList [c]⟩, text)

end Lexer

/-! ## Streams -/

/-- A token with the gap that stands before it. -/
structure Lexeme where
  gap : List Char
  token : Token
deriving DecidableEq, Repr, Inhabited

namespace Lexeme

/-- The text of a lexeme: its gap, then its token. -/
def text (l : Lexeme) : List Char := l.gap ++ l.token.text.toList

end Lexeme

namespace Lexer

/-- The first lexeme of a text, with the text after it. -/
def lexeme (text : List Char) : Lexeme × List Char :=
  let gap := splitGap .between text
  let next := token gap.2
  (⟨gap.1, next.1⟩, next.2)

/-- At most `count` lexemes of a text, through the first end-of-input token. -/
def scanUpTo : (count : Nat) → List Char → List Lexeme
  | 0, _ => []
  | count + 1, text =>
    let next := lexeme text
    if next.1.token.category = .eof then [next.1] else next.1 :: scanUpTo count next.2

/-- The lexemes of a text through the first end-of-input token. There is at most one token for
each character, and the token that ends the stream. -/
def scan (text : List Char) : List Lexeme := scanUpTo (text.length + 1) text

/-- The tokens of a text through the first end-of-input token. -/
def tokens (text : List Char) : List Token := (scan text).map (·.token)

/-! ## Places -/

/-- The spans of the tokens of consecutive lexemes, the first of which starts at `offset`. -/
def spansFrom (offset : Nat) : List Lexeme → List Span
  | [] => []
  | l :: rest =>
    let start := offset + utf8Length l.gap
    let stop := start + utf8Length l.token.text.toList
    ⟨start, stop⟩ :: spansFrom stop rest

/-- The token number `index` of a text, counted from zero, and its span. Every token after the
stream is an empty end of input at the end of the text. -/
def locate (text : List Char) (index : Nat) : Span × Token :=
  let lexemes := scan text
  let stop := utf8Length text
  (((spansFrom 0 lexemes)[index]?).getD ⟨stop, stop⟩,
    (lexemes[index]?.map (·.token)).getD Token.endOfInput)

/-- The tokens of a text through the first end-of-input token, each with its span. -/
def placed (text : List Char) : List (Span × Token) :=
  let lexemes := scan text
  (spansFrom 0 lexemes).zip (lexemes.map (·.token))

end Lexer

end IdlCatalog
