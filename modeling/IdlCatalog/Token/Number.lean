/-
# IdlCatalog.Token.Number — the value of a number token

A number is written in decimal or hexadecimal. Its value is the double nearest to what is
written, ties going to the even neighbour; a decimal number beyond the largest double is infinite.
A hexadecimal number is a 64-bit word first: without digits, or beyond 64 bits, it counts as zero.

`nearestDouble` works on exact fractions, so the result does not depend on how many digits a
number has.
-/
import IdlCatalog.Text.CharSet
import IdlCatalog.Token.Basic
import IdlCatalog.Token.Lexer

namespace IdlCatalog

/-! ## Rounding a fraction -/

/-- The bits of positive infinity. -/
def infinityBits : Nat := 0x7FF0000000000000

/-- The quotient of two numbers rounded to the nearest whole number, ties to the even one. -/
def roundDiv (num den : Nat) : Nat :=
  let q := num / den
  let twice := 2 * (num % den)
  if twice > den || (twice = den && q % 2 = 1) then q + 1 else q

/-- The largest `k` with `2 ^ k ≤ num / den`, for positive numbers. -/
def log2Div (num den : Nat) : Int :=
  let k : Int := (Nat.log2 num : Int) - Nat.log2 den
  if num * Nat.pow 2 (-k).toNat < den * Nat.pow 2 k.toNat then k - 1 else k

/-- The bits of the double nearest to `num / den`. The significand takes 53 bits, fewer below the
smallest normal double. Because exponents and significands are adjacent fields, a significand
that rounds up to the next power of two carries into the exponent on its own. -/
def nearestDouble (num den : Nat) : Nat :=
  if num = 0 then 0 else
  let unit : Int := max (-1074) (log2Div num den - 52)
  let significand := roundDiv (num * Nat.pow 2 (-unit).toNat) (den * Nat.pow 2 unit.toNat)
  min infinityBits ((unit + 1074).toNat * Nat.pow 2 52 + significand)

/-! ## Reading digits -/

/-- The value of a hexadecimal digit of either case. -/
def hexDigitValue (c : Char) : Nat :=
  if isDecimalDigit c then c.toNat - '0'.toNat
  else if 'a' ≤ c then c.toNat - 'a'.toNat + 10
  else c.toNat - 'A'.toNat + 10

/-- The number that a row of digits writes in the given base. -/
def digitsValue (base : Nat) (digits : List Char) : Nat :=
  digits.foldl (fun n c => n * base + hexDigitValue c) 0

/-! ## The value of a token -/

/-- A decimal number as written: its digits without the point, and the power of ten of the last
digit. -/
structure DecimalText where
  digits : Nat
  exponent : Int
deriving DecidableEq, Repr

namespace DecimalText

/-- Reads a decimal number token. -/
def ofChars (text : List Char) : DecimalText :=
  let whole := Lexer.splitWhile isDecimalDigit text
  let fraction := Lexer.splitFraction whole.2
  let places := fraction.1.drop 1
  let scale : Int :=
    match fraction.2 with
    | _ :: '-' :: digits => - (digitsValue 10 digits : Int)
    | _ :: '+' :: digits => digitsValue 10 digits
    | _ :: digits => digitsValue 10 digits
    | [] => 0
  ⟨digitsValue 10 (whole.1 ++ places), scale - places.length⟩

/-- The bits of the nearest double. The two bounds keep the powers of ten small: a number of
`10 ^ 309` or more is infinite, and one below `10 ^ (-324)` rounds to zero. -/
def toBits (d : DecimalText) : Nat :=
  if d.digits = 0 then 0 else
  let magnitude : Int := (Nat.toDigits 10 d.digits).length + d.exponent
  if magnitude > 309 then infinityBits
  else if magnitude ≤ -324 then 0
  else nearestDouble (d.digits * Nat.pow 10 d.exponent.toNat) (Nat.pow 10 (-d.exponent).toNat)

end DecimalText

/-- The bits of the value of a hexadecimal number with the given digits. -/
def hexBits (digits : List Char) : Nat :=
  let word := digitsValue 16 digits
  if word < Nat.pow 2 64 then nearestDouble word 1 else 0

/-- The bits of the double that a token stands for. Only numbers stand for one other than
zero. -/
def Token.numericBits (t : Token) : Nat :=
  if t.category ≠ .number then 0 else
  match t.text.toList with
  | '0' :: c :: digits =>
    if c = 'x' || c = 'X' then hexBits digits else (DecimalText.ofChars ('0' :: c :: digits)).toBits
  | digits => (DecimalText.ofChars digits).toBits

/-- The double that a token stands for. -/
def Token.numericValue (t : Token) : Float := Float.ofBits (UInt64.ofNat t.numericBits)

end IdlCatalog
