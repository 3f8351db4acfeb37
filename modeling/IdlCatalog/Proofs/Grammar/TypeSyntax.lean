/-
# IdlCatalog.Proofs.Grammar.TypeSyntax — type references as trees

The grammar of type references is irregular: two words qualify the next one, a name that ends in
`long` takes a second `long` along, a name may be nullable before and after its brackets, and a
question mark after a union says nothing. `TypeExpr` has one tree for each reference up to spellings
that mean the same, so a tree has one text and one row of tokens.

What a parser sees and what a reader sees differ here in one respect. In a scoped name only the last
segment counts for the type; the trees hold no others. A mark after a union is passed over; the
trees hold none. So every tree is printed in one way, and it is from printed references that the
results about reading back start.
-/
import IdlCatalog.Grammar.TypeReference
import IdlCatalog.Proofs.Token.Printing

namespace IdlCatalog

open Grammar Lexer

/-! ## Names

A name is a qualifier, if any, a word, and possibly a further `long`. Whether a `long` is taken
along is decided by the letters at the end of the text so far and not by the word, which is why
`oblong long` is one name here: `TakesLong` is about the text. -/

/-- The words that qualify a numeric type. -/
inductive Qualifier
  | unrestricted
  | unsigned
deriving DecidableEq, Repr

/-- The word itself. -/
def Qualifier.text : Qualifier → String
  | unrestricted => "unrestricted"
  | unsigned => "unsigned"

/-- The words of which the name of a type consists. -/
structure TypeWords where
  qualifier : Option Qualifier
  word : String
  /-- Whether a further `long` follows. -/
  long : Bool
deriving DecidableEq, Repr

namespace TypeWords

/-- The words without a further `long`. -/
def segment (w : TypeWords) : String :=
  match w.qualifier with
  | some q => q.text ++ " " ++ w.word
  | none => w.word

/-- The name. -/
def text (w : TypeWords) : String := if w.long then w.segment ++ " long" else w.segment

/-- The tokens of the words without a further `long`. -/
def segmentTokens (w : TypeWords) : List Token :=
  match w.qualifier with
  | some q => [⟨.word, q.text⟩, ⟨.word, w.word⟩]
  | none => [⟨.word, w.word⟩]

/-- The tokens of the name. -/
def tokens (w : TypeWords) : List Token :=
  w.segmentTokens ++ if w.long then [⟨.word, "long"⟩] else []

/-- A further `long` would be read along with the words. -/
def TakesLong (w : TypeWords) : Prop := w.long = false ∧ endsInLong w.segment = true

end TypeWords

/-- The words are read as one name. -/
structure TypeWords.IsName (w : TypeWords) : Prop where
  spelled : Spells .word w.word.toList
  unqualified : w.qualifier = none → ∀ q : Qualifier, w.word ≠ q.text
  extended : w.long = true → endsInLong w.segment = true

/-- A word of its own is a name, unless it qualifies the next one. -/
theorem TypeWords.isName_word {word : String} (spelled : Spells .word word.toList)
    (unqualified : ∀ q : Qualifier, word ≠ q.text) : TypeWords.IsName ⟨none, word, false⟩ :=
  ⟨spelled, fun _ => unqualified, nofun⟩

/-- The name of a type: words that are read as a name, and not as the start of a sequence. -/
structure TypeName extends TypeWords where
  isName : toTypeWords.IsName
  plain : toTypeWords.text ≠ "sequence"

namespace TypeName

/-- Qualifiers are words. -/
theorem spells_qualifier (q : Qualifier) : Spells .word q.text.toList := by
  cases q <;> exact spells_word (by decide) (by decide)

/-- A name starts like a word. -/
theorem head (name : TypeName) :
    ∃ c more, name.text.toList = c :: more ∧ isWordStart c = true := by
  have segment : ∃ c more, name.segment.toList = c :: more ∧ isWordStart c = true := by
    rw [TypeWords.segment]
    cases name.qualifier with
    | none =>
      obtain ⟨c, more, eq, start, -⟩ := name.isName.spelled.word_head
      exact ⟨c, more, eq, start⟩
    | some q =>
      obtain ⟨c, more, eq, start, -⟩ := (spells_qualifier q).word_head
      exact ⟨c, more ++ (" ".toList ++ name.word.toList), by simp [eq], start⟩
  obtain ⟨c, more, eq, start⟩ := segment
  rw [TypeWords.text]
  split
  · exact ⟨c, more ++ " long".toList, by simp [eq], start⟩
  · exact ⟨c, more, eq, start⟩

/-- The type of the globals has a name that no reference can write. -/
theorem ne_globalsName (name : TypeName) : name.text ≠ globalsName := by
  obtain ⟨c, more, eq, start⟩ := name.head
  intro globals
  rw [globals] at eq
  obtain ⟨rfl, -⟩ : '(' = c ∧ _ := List.cons.inj eq
  exact absurd start (by decide)

end TypeName

/-! ## References

The marks of a named type stand in the order in which they are read: a question mark, brackets, a
second question mark. A second mark alone would be read as the first one; `marked` rules such trees
out, so that no reference has two trees. The name `sequence` opens a reference of its own and is not
a `TypeName`. -/

/-- A question mark, or nothing. -/
def questionIf (nullable : Bool) : List Token := if nullable then [⟨.question, "?"⟩] else []

/-- Brackets, or nothing. -/
def bracketsIf (array : Bool) : List Token :=
  if array then [⟨.bracketOpen, "["⟩, ⟨.bracketClose, "]"⟩] else []

/-- A type reference. A single question mark after a name stands before its brackets. -/
inductive TypeExpr
  | named (name : TypeName) (nullable array again : Bool)
      (marked : again = true → nullable = true ∨ array = true)
  | sequence (element : TypeExpr) (nullable : Bool)
  | generic (name : TypeName) (first : TypeExpr) (others : List TypeExpr) (nullable : Bool)
  | union (first : TypeExpr) (others : List TypeExpr)

namespace TypeExpr

/-- What holds of a reference if it holds of its parts, holds of every reference. -/
@[elab_as_elim, induction_eliminator]
theorem induction {P : TypeExpr → Prop}
    (named : ∀ name nullable array again marked, P (.named name nullable array again marked))
    (sequence : ∀ element nullable, P element → P (.sequence element nullable))
    (generic : ∀ name first others nullable, P first → (∀ e ∈ others, P e) →
      P (.generic name first others nullable))
    (union : ∀ first others, P first → (∀ e ∈ others, P e) → P (.union first others))
    (e : TypeExpr) : P e := by
  refine TypeExpr.rec (motive_1 := P) (motive_2 := fun es => ∀ e ∈ es, P e) named sequence
    generic union ?_ ?_ e
  · exact fun e inside => absurd inside List.not_mem_nil
  · intro e es first others f inside
    rcases List.mem_cons.1 inside with rfl | later
    · exact first
    · exact others f later

mutual

/-- The reference as it is written in the name of a composite. -/
def text : TypeExpr → String
  | .named name nullable array again _ =>
    name.text ++ (if nullable then "?" else "") ++ (if array then "[]" else "") ++
      (if again then "?" else "")
  | .sequence element nullable =>
    "sequence<" ++ element.text ++ ">" ++ (if nullable then "?" else "")
  | .generic name first others nullable =>
    name.text ++ "<" ++ ", ".intercalate (first.text :: texts others) ++ ">" ++
      (if nullable then "?" else "")
  | .union first others => "(" ++ " or ".intercalate (first.text :: texts others) ++ ")"

/-- The texts of several references. -/
def texts : List TypeExpr → List String
  | [] => []
  | e :: others => e.text :: texts others

end

mutual

/-- The tokens of a reference. -/
def tokens : TypeExpr → List Token
  | .named name nullable array again _ =>
    name.tokens ++ (questionIf nullable ++ (bracketsIf array ++ questionIf again))
  | .sequence element nullable =>
    [⟨.word, "sequence"⟩, ⟨.chevronLeft, "<"⟩] ++
      (element.tokens ++ (⟨.chevronRight, ">"⟩ :: questionIf nullable))
  | .generic name first others nullable =>
    name.tokens ++ (⟨.chevronLeft, "<"⟩ :: (first.tokens ++
      (tokensAfter ⟨.comma, ","⟩ others ++ (⟨.chevronRight, ">"⟩ :: questionIf nullable))))
  | .union first others =>
    ⟨.parenthesisOpen, "("⟩ :: (first.tokens ++
      (tokensAfter ⟨.word, "or"⟩ others ++ [⟨.parenthesisClose, ")"⟩]))

/-- The tokens of further references, each after the separator. -/
def tokensAfter (separator : Token) : List TypeExpr → List Token
  | [] => []
  | e :: others => separator :: (e.tokens ++ tokensAfter separator others)

end

/-- A `long` after the reference would be read along with it. -/
def TakesLong : TypeExpr → Prop
  | .named name nullable array again _ =>
    (nullable = false ∧ array = false ∧ again = false) ∧ name.TakesLong
  | _ => False

/-- The texts of references in a row, one by one. -/
theorem texts_eq_map (es : List TypeExpr) : texts es = es.map text := by
  induction es with
  | nil => rw [texts, List.map_nil]
  | cons e es ih => rw [texts, ih, List.map_cons]

end TypeExpr

end IdlCatalog
