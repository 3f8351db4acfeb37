/-
# IdlCatalog.Text.CharSet — character classes and sets of characters

The five classes below decide every token boundary. All of them are ASCII by definition of the
language: a character outside ASCII belongs to no class, so it is a token of its own.

`CharSet` is the general form, a union of inclusive ranges, with its members in order. The properties
that Unicode gives to characters have no rule of their own: they are tables of code points, listed
by the ranges on which they hold.
-/

namespace IdlCatalog

/-! ## Classes of the language -/

/-- Blanks separate tokens: the space and every character below it, controls included. -/
def isBlank (c : Char) : Bool := c ≤ ' '

/-- Decimal digits. -/
def isDecimalDigit (c : Char) : Bool := '0' ≤ c && c ≤ '9'

/-- Hexadecimal digits of either case. -/
def isHexDigit (c : Char) : Bool :=
  isDecimalDigit c || ('a' ≤ c && c ≤ 'f') || ('A' ≤ c && c ≤ 'F')

/-- A word starts with a letter or an underscore. -/
def isWordStart (c : Char) : Bool :=
  ('a' ≤ c && c ≤ 'z') || ('A' ≤ c && c ≤ 'Z') || c = '_'

/-- A word goes on with letters, underscores and digits. -/
def isWordPart (c : Char) : Bool := isWordStart c || isDecimalDigit c

/-! ## Sets given by ranges -/

/-- A set of characters, given as a union of inclusive ranges. A range whose ends are reversed
is empty. -/
structure CharSet where
  ranges : List (Char × Char)
deriving Repr, Inhabited

namespace CharSet

/-- The set without members. -/
def empty : CharSet := ⟨[]⟩

/-- Adds every character from `first` to `last`, both included. -/
def insertRange (s : CharSet) (first last : Char) : CharSet := ⟨(first, last) :: s.ranges⟩

/-- Adds one character. -/
def insert (s : CharSet) (c : Char) : CharSet := s.insertRange c c

/-- Whether `c` lies in one of the ranges. -/
def contains (s : CharSet) (c : Char) : Bool :=
  s.ranges.any fun r => r.1 ≤ c && c ≤ r.2

/-- The characters from `first` to `last` in order; the code points between them that are no
characters are passed over. -/
def range (first last : Char) : List Char :=
  (List.range' first.toNat (last.toNat + 1 - first.toNat)).filterMap fun n =>
    if h : n.isValidChar then some (Char.ofNatAux n h) else none

/-- The members in code point order, each once. -/
def toList (s : CharSet) : List Char :=
  ((s.ranges.flatMap fun r => range r.1 r.2).mergeSort (· ≤ ·)).eraseReps

end CharSet

/-! ## Tables of code points -/

/-- Inclusive ranges of code points. -/
abbrev RangeTable := List (Nat × Nat)

/-- Whether the character lies in one of the ranges. -/
def RangeTable.contains (table : RangeTable) (c : Char) : Bool :=
  table.any fun r => r.1 ≤ c.toNat && c.toNat ≤ r.2

end IdlCatalog
