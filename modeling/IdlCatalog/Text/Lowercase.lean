/-
# IdlCatalog.Text.Lowercase — the lowercase form of a text

Members are listed without regard to case, by the lowercase form of their names. The form is the
one Unicode defines: each letter by itself, with two exceptions. The dotted capital I becomes two
characters, and a capital sigma at the end of a word becomes the final small sigma.
-/
import IdlCatalog.Text.CaseTable
import IdlCatalog.Text.CaseIgnorable
import IdlCatalog.Text.Cased

namespace IdlCatalog

namespace Lowercase

/-- The lowercase form of a code point within a run, if the run holds it. -/
def inRun (n : Nat) (run : CaseRun) : Option Nat :=
  if run.first ≤ n && n ≤ run.last && (n - run.first) % run.stride = 0 then
    some (run.lower + (n - run.first))
  else none

/-- The lowercase form of a character by itself. -/
def char (c : Char) : List Char :=
  if c.toNat < 0x80 then [c.toLower]
  else if c = 'İ' then ['i', '\u0307']
  else [((caseRuns.findSome? (inRun c.toNat)).map Char.ofNat).getD c]

/-- Whether the first character that case rules do not look through is a letter with case. -/
def startsCased (text : List Char) : Bool :=
  match text.dropWhile caseIgnorable.contains with
  | [] => false
  | c :: _ => cased.contains c

/-- The lowercase form of `text`, which stands after the text whose reversal is `before`. A
capital sigma ends a word when a letter with case comes before it and none after it. -/
def after (before : List Char) : List Char → List Char
  | [] => []
  | c :: text =>
    let lower :=
      if c = 'Σ' then [if startsCased before && !startsCased text then 'ς' else 'σ']
      else char c
    lower ++ after (c :: before) text

end Lowercase

/-- The lowercase form of a text. -/
def lowercase (text : String) : String := String.ofList (Lowercase.after [] text.toList)

end IdlCatalog
