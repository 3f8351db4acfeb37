/-
# IdlCatalog.Proofs.Grammar.TypeText — the text of a type reference

The text of a type reference reads back as its tokens, whatever follows that no word and no operator
goes on into. Each part of a reference starts with a character that ends what stands before it: a
mark ends a name, and a name or a parenthesis ends a mark.

The lexer always takes the longest token. So for the pieces of a text to come apart where they were
put together, each piece must end where the next one cannot prolong it. `ReadsAs text tokens rest`
states this for a piece in front of a rest, and such statements are joined from the end of the text
to its front.
-/
import IdlCatalog.Proofs.Grammar.TypeSyntax

namespace IdlCatalog

open Lexer

variable {rest : List Char}

/-! ## Names

The words of a name stand apart by single spaces. -/

namespace TypeName

/-- The text of a name is read as its words. -/
theorem readsAs (name : TypeName) (ends : EndsWord rest) :
    ReadsAs name.text.toList name.tokens rest := by
  have blank (more : List Char) : EndsWord (' ' :: more) := endsWord_cons (by decide) more
  have segment (more) (ends : EndsWord more) :
      ReadsAs name.segment.toList name.segmentTokens more := by
    have word := readsAs_word name.isName.spelled ends
    rw [TypeWords.segment, TypeWords.segmentTokens]
    cases name.qualifier with
    | none => exact word
    | some q =>
      have first : ReadsAs q.text.toList [⟨.word, q.text⟩] (' ' :: name.word.toList ++ more) :=
        readsAs_word (spells_qualifier q) (blank _)
      simpa using first.append word.blank
  rw [TypeWords.text, TypeWords.tokens]
  cases name.long with
  | false => simpa using segment rest ends
  | true =>
    have spelled : Spells .word "long".toList := spells_word (by decide) (by decide)
    have first : ReadsAs name.segment.toList name.segmentTokens (' ' :: "long".toList ++ rest) :=
      segment _ (blank _)
    simpa using first.append (readsAs_word spelled ends).blank

end TypeName

/-! ## Marks

A mark is an operator, which nothing in a type reference prolongs. An absent mark is no text at all,
so what ends before it has to end before the next piece. -/

/-- A question mark is read as such, if there is one. -/
theorem readsAs_question (nullable : Bool) (ends : EndsOperator rest) :
    ReadsAs (if nullable then "?" else "").toList (questionIf nullable) rest := by
  cases nullable with
  | false => exact .nil rest
  | true =>
    have mark : ReadsAs ['?'] [⟨.question, "?"⟩] rest :=
      readsAs_operator (by decide +kernel) (by decide) ends
    exact mark

/-- A question mark ends a name, and so does what comes after it. -/
theorem breaks_question (nullable : Bool) (breaks : Breaks rest) :
    Breaks ((if nullable then "?" else "").toList ++ rest) := by
  cases nullable with
  | false => exact breaks
  | true => exact breaks_cons (by decide) (by decide) rest

/-- Brackets are read as such, if there are any. -/
theorem readsAs_brackets (array : Bool) (ends : EndsOperator rest) :
    ReadsAs (if array then "[]" else "").toList (bracketsIf array) rest := by
  cases array with
  | false => exact .nil rest
  | true =>
    have opens : ReadsAs ['['] [⟨.bracketOpen, "["⟩] (']' :: rest) :=
      readsAs_operator (by decide +kernel) (by decide) (endsOperator_cons (by decide) rest)
    have closes : ReadsAs [']'] [⟨.bracketClose, "]"⟩] rest :=
      readsAs_operator (by decide +kernel) (by decide) ends
    exact opens.append closes

/-- Brackets end a name, and so does what comes after them. -/
theorem breaks_brackets (array : Bool) (breaks : Breaks rest) :
    Breaks ((if array then "[]" else "").toList ++ rest) := by
  cases array with
  | false => exact breaks
  | true => exact breaks_cons (by decide) (by decide) _

namespace TypeExpr

/-! ## References in a row

Type arguments are separated by a comma and a space, branches of a union by a word between spaces.
In both cases the separator ends the reference before it. -/

/-- References after their separators, each of which ends what stands before it. -/
theorem readsAs_after {separator : Token} {mark : List Char} {es : List TypeExpr}
    (reads : ∀ (e : TypeExpr) rest, ReadsAs mark [separator] (e.text.toList ++ rest))
    (marks : ∀ rest, Breaks (mark ++ rest))
    (each : ∀ e ∈ es, ∀ {rest}, Breaks rest → ReadsAs e.text.toList e.tokens rest)
    (breaks : Breaks rest) :
    ReadsAs (es.flatMap fun e => mark ++ e.text.toList) (tokensAfter separator es) rest ∧
      Breaks ((es.flatMap fun e => mark ++ e.text.toList) ++ rest) := by
  induction es with
  | nil => exact ⟨.nil rest, breaks⟩
  | cons e es ih =>
    obtain ⟨others, next⟩ := ih fun e inside => each e (List.mem_cons_of_mem _ inside)
    have first := (reads e _).append (each e List.mem_cons_self next)
    refine ⟨?_, ?_⟩
    · rw [List.flatMap_cons, tokensAfter]
      exact first.append others
    · rw [List.flatMap_cons, List.append_assoc, List.append_assoc]
      exact marks _

/-- A row with separators is its first text and then pairs of a separator and a text. -/
theorem toList_intercalate (separator : String) (e : TypeExpr) (es : List TypeExpr) :
    (separator.intercalate (e.text :: texts es)).toList =
      e.text.toList ++ es.flatMap fun e => separator.toList ++ e.text.toList := by
  rw [texts_eq_map]
  induction es generalizing e with
  | nil => simp
  | cons f es ih => simp [String.intercalate_cons_cons, ← ih]

/-- A reference starts with nothing that an operator goes on into. -/
theorem endsOperator (e : TypeExpr) (rest : List Char) :
    EndsOperator (e.text.toList ++ rest) := by
  have named (name : TypeName) (more : List Char) : EndsOperator (name.text.toList ++ more) := by
    obtain ⟨c, others, eq, start⟩ := name.head
    rw [eq]
    exact endsOperator_of_wordStart start _
  cases e with
  | named name => simpa [text] using named name _
  | generic name => simpa [text] using named name _
  | sequence =>
    rw [text, String.append_assoc, String.append_assoc, String.toList_append, List.append_assoc]
    exact endsOperator_of_wordStart (by decide) _
  | union =>
    rw [text, String.append_assoc, String.toList_append, List.append_assoc]
    exact endsOperator_cons (by decide) _

/-! ## References

By induction on the tree, with all the texts around it. The separators start with a character that
no name goes on into, and end before a reference in a space. -/

/-- The separator of type arguments. -/
theorem readsAs_comma (e : TypeExpr) (rest : List Char) :
    ReadsAs ", ".toList [⟨.comma, ","⟩] (e.text.toList ++ rest) := by
  have comma : ReadsAs [','] [⟨.comma, ","⟩] (' ' :: (e.text.toList ++ rest)) :=
    readsAs_operator (by decide +kernel) (by decide) (endsOperator_cons (by decide) _)
  exact comma.append (ReadsAs.nil _).blank

/-- The separator of the branches of a union. -/
theorem readsAs_or (e : TypeExpr) (rest : List Char) :
    ReadsAs " or ".toList [⟨.word, "or"⟩] (e.text.toList ++ rest) := by
  have spelled : Spells .word "or".toList := spells_word (by decide) (by decide)
  have blank : isWordPart ' ' = false := by decide
  have word := readsAs_word spelled (endsWord_cons blank (e.text.toList ++ rest))
  exact (word.append (ReadsAs.nil (e.text.toList ++ rest)).blank).blank

/-- A reference with further ones after it. -/
theorem readsAs_row {separator : Token} {mark : List Char} {first : TypeExpr}
    {others : List TypeExpr}
    (reads : ∀ (e : TypeExpr) rest, ReadsAs mark [separator] (e.text.toList ++ rest))
    (marks : ∀ rest, Breaks (mark ++ rest))
    (head : ∀ {rest}, Breaks rest → ReadsAs first.text.toList first.tokens rest)
    (each : ∀ e ∈ others, ∀ {rest}, Breaks rest → ReadsAs e.text.toList e.tokens rest)
    (breaks : Breaks rest) :
    ReadsAs (first.text.toList ++ others.flatMap fun e => mark ++ e.text.toList)
      (first.tokens ++ tokensAfter separator others) rest := by
  obtain ⟨after, next⟩ := readsAs_after reads marks each breaks
  exact (head next).append after

/-- What stands in chevrons after a name, and a question mark or none. -/
theorem readsAs_chevrons {name inner : List Char} {ts us : List Token} (nullable : Bool)
    (word : ∀ {rest}, EndsWord rest → ReadsAs name ts rest)
    (items : ∀ {rest}, Breaks rest → ReadsAs inner us rest)
    (starts : ∀ rest, EndsOperator (inner ++ rest)) (breaks : Breaks rest) :
    ReadsAs (name ++ '<' :: (inner ++ '>' :: (if nullable then "?" else "").toList))
      (ts ++ ⟨.chevronLeft, "<"⟩ :: (us ++ ⟨.chevronRight, ">"⟩ :: questionIf nullable)) rest := by
  have mark := readsAs_question nullable breaks.operator
  have breaks := breaks_question nullable breaks
  have closes : ReadsAs ['>'] [⟨.chevronRight, ">"⟩]
      ((if nullable then "?" else "").toList ++ rest) :=
    readsAs_operator (by decide +kernel) (by decide) breaks.operator
  have tail := closes.append mark
  have close : Breaks (['>'] ++ (if nullable then "?" else "").toList ++ rest) :=
    breaks_cons (by decide) (by decide) _
  have inside := (items close).append tail
  have opens : ReadsAs ['<'] [⟨.chevronLeft, "<"⟩]
      (inner ++ '>' :: (if nullable then "?" else "").toList ++ rest) := by
    refine readsAs_operator (by decide +kernel) (by decide) ?_
    rw [List.append_assoc]
    exact starts _
  exact (word (endsWord_cons (by decide) _)).append (opens.append inside)

/-- In front of a text that breaks words and operators, the text of a reference reads back as its
tokens. -/
theorem readsAs (e : TypeExpr) (breaks : Breaks rest) : ReadsAs e.text.toList e.tokens rest := by
  induction e generalizing rest with
  | named name nullable array again =>
    have third := readsAs_question again breaks.operator
    have breaks := breaks_question again breaks
    have second := readsAs_brackets array breaks.operator
    have breaks := breaks_brackets array breaks
    have first := readsAs_question nullable breaks.operator
    have breaks := breaks_question nullable breaks
    have whole := (((name.readsAs breaks.word).append first).append second).append third
    simpa [text, tokens] using whole
  | sequence element nullable ih =>
    have spelled : Spells .word "sequence".toList := spells_word (by decide) (by decide)
    have whole := readsAs_chevrons nullable (readsAs_word spelled) ih element.endsOperator breaks
    simpa [text, tokens] using whole
  | generic name first others nullable ih ihs =>
    have comma (rest) : Breaks (", ".toList ++ rest) := breaks_cons (by decide) (by decide) _
    have starts (rest) := first.endsOperator
      ((others.flatMap fun e => ", ".toList ++ e.text.toList) ++ rest)
    have whole := readsAs_chevrons nullable name.readsAs (readsAs_row readsAs_comma comma ih ihs)
      (fun rest => by rw [List.append_assoc]; exact starts rest) breaks
    simpa [text, tokens, toList_intercalate, -String.toList_intercalate] using whole
  | union first others ih ihs =>
    have closes : ReadsAs [')'] [⟨.parenthesisClose, ")"⟩] rest :=
      readsAs_operator (by decide +kernel) (by decide) breaks.operator
    have mark (rest) : Breaks (" or ".toList ++ rest) := breaks_cons (by decide) (by decide) _
    have close : Breaks ([')'] ++ rest) := breaks_cons (by decide) (by decide) rest
    have row := readsAs_row readsAs_or mark ih ihs close
    have opens : ReadsAs ['('] [⟨.parenthesisOpen, "("⟩] (first.text.toList ++
        (others.flatMap fun e => " or ".toList ++ e.text.toList) ++ [')'] ++ rest) := by
      refine readsAs_operator (by decide +kernel) (by decide) ?_
      rw [List.append_assoc, List.append_assoc]
      exact first.endsOperator _
    have whole := opens.append (row.append closes)
    simpa [text, tokens, toList_intercalate, -String.toList_intercalate] using whole

end TypeExpr

end IdlCatalog
