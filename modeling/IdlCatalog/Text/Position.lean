/-
# IdlCatalog.Text.Position — where a byte offset lies in a text

Tokens and diagnostics address a text by UTF-8 byte offsets; people read lines and columns.
This module holds the byte length of a text, the cut of a text at a byte offset, the position
of an offset, and the span between two offsets with the snippet that a diagnostic shows for it.

Every function is total in the offset. An offset past the end counts as the end, and an offset
inside a character is told apart by the number of that character's bytes that lie before it.
-/

namespace IdlCatalog

/-! ## Bytes and cuts -/

/-- Number of bytes of the UTF-8 form of a text. -/
def utf8Length : List Char → Nat
  | [] => 0
  | c :: text => c.utf8Size + utf8Length text

/-- A text cut at a byte offset: the characters that end at or before the offset, and how many
bytes of the next character lie before it. The second part is zero exactly when the offset is a
character boundary or lies past the end. -/
structure Cut where
  before : List Char
  excess : Nat
deriving DecidableEq, Repr

/-- Cuts `text` at the byte offset `offset`. -/
def Cut.of : List Char → Nat → Cut
  | [], _ => ⟨[], 0⟩
  | c :: text, offset =>
    if c.utf8Size ≤ offset then
      let cut := Cut.of text (offset - c.utf8Size)
      ⟨c :: cut.before, cut.excess⟩
    else ⟨[], offset⟩

/-- The part of `text` after its last newline. -/
def lastLine (text : List Char) : List Char :=
  (text.reverse.takeWhile (· ≠ '\n')).reverse

/-! ## Positions -/

/-- A line and a column, both counted from one. -/
structure Position where
  line : Nat
  column : Nat
deriving DecidableEq, Repr, Inhabited

/-- The position of a byte offset. Lines are counted by newlines. Columns count characters,
except that an offset inside a character has no character column: there the column counts
bytes. -/
def Position.of (text : List Char) (offset : Nat) : Position :=
  let cut := Cut.of text offset
  let line := lastLine cut.before
  ⟨cut.before.count '\n' + 1,
    if cut.excess = 0 then line.length + 1 else utf8Length line + cut.excess + 1⟩

/-! ## Spans -/

/-- A stretch of a text between two byte offsets. -/
structure Span where
  start : Nat
  stop : Nat
deriving DecidableEq, Repr, Inhabited

namespace Span

/-- Number of bytes; a reversed span has none. -/
def length (s : Span) : Nat := s.stop - s.start

/-- A span is empty when it does not reach past its start. -/
def isEmpty (s : Span) : Bool := s.stop ≤ s.start

/-- The smallest span that covers both spans. -/
def hull (s t : Span) : Span := ⟨min s.start t.start, max s.stop t.stop⟩

/-- The line on which the span starts, from its beginning to the end of the span, without
trailing line breaks. It is empty when the span ends inside a character, because there is no
text that ends there. -/
def context (s : Span) (text : List Char) : List Char :=
  let start := (Cut.of text s.start).before
  let stop := Cut.of text (max s.start s.stop)
  if stop.excess = 0 then
    let snippet := stop.before.drop (start.length - (lastLine start).length)
    (snippet.reverse.dropWhile (fun c => c = '\r' || c = '\n')).reverse
  else []

end Span

end IdlCatalog
