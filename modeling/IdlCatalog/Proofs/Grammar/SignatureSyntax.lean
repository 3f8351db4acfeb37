/-
# IdlCatalog.Proofs.Grammar.SignatureSyntax — signatures of operations as trees

The signature of an operation says whether the operation is unforgeable and static, and then its
result type, its name and its parameters. `Signature` has one tree for each signature of which all
parts are read for what they are, with the text and the tokens of the signature. A name may be
`long` here, unless the type in front of it would take it along.

A signature is the line by which an operation is shown. It has a text in one form, with the result
type before the name and the parameters in parentheses; a result that is absent is written `void`.
The tree has no body of a member, no special words and no attributes but one, since none of these is
part of the line.
-/
import IdlCatalog.Proofs.Grammar.MemberSyntax

namespace IdlCatalog

open Grammar Lexer

/-! ## Parameters -/

/-- The text of a parameter. -/
def WrittenParameter.text (q : WrittenParameter) : String :=
  (if q.isOptional then "optional " else "") ++ q.type.text ++
    (if q.isVariadic then "..." else "") ++ " " ++ q.name

/-! ## Signatures

The condition `plain` has three parts, all about the result type: it is none of the words that may
stand in its place, it is no iterable, which would be read as a member of another sort, and it does
not take along a name that is `long`. -/

/-- The signature of an operation; without a result type it is `void`. -/
structure Signature where
  isUnforgeable : Bool
  isStatic : Bool
  result : Option TypeExpr
  name : String
  parameters : List WrittenParameter
  spelled : Spells .word name.toList
  plain : ∀ e ∈ result, e.Avoids memberWords ∧ ¬e.IsIterable ∧ (e.TakesLong → name ≠ "long")

/-- The block of attributes for an unforgeable member, or nothing. -/
def unforgeableIf (present : Bool) : List Token :=
  if present then
    [⟨.bracketOpen, "["⟩, ⟨.word, "Unforgeable"⟩, ⟨.bracketClose, "]"⟩]
  else []

namespace Signature

/-- The token of the name. -/
def nameToken (x : Signature) : Token := ⟨.word, x.name⟩

/-- The qualifiers that are written out. -/
def modifiers (x : Signature) : Modifiers :=
  (if x.isUnforgeable then Modifiers.unforgeable else Modifiers.empty) |||
    if x.isStatic then Modifiers.static else Modifiers.empty

/-- The text of a result type and the blank after it. -/
def resultText : Option TypeExpr → String
  | some e => e.text ++ " "
  | none => "void "

/-- The text of a signature. -/
def text (x : Signature) : String :=
  (if x.isUnforgeable then "[Unforgeable] " else "") ++ (if x.isStatic then "static " else "") ++
    resultText x.result ++ x.name ++ "(" ++
      ", ".intercalate (x.parameters.map WrittenParameter.text) ++ ")"

/-- The tokens after the words for the qualifiers, up to the semicolon after the signature. -/
def bodyTokens (x : Signature) : List Token :=
  MemberSyntax.resultTokens x.result ++ (x.nameToken :: ⟨.parenthesisOpen, "("⟩ ::
    (WrittenParameter.listTokens x.parameters ++ [⟨.parenthesisClose, ")"⟩]))

/-- The tokens of a signature. -/
def tokens (x : Signature) : List Token :=
  unforgeableIf x.isUnforgeable ++ (tokenIf ⟨.word, "static"⟩ x.isStatic ++ x.bodyTokens)

/-- The operation for the tree; `R` says which types its references may stand for. -/
inductive ReadAs (R : TypeExpr → TypeId → Prop) (x : Signature) : Member → Prop
  | operation {type : Option TypeId} {ps : List Parameter} (answer : Option.Rel R x.result type)
      (parameters : List.Forall₂ (WrittenParameter.ReadAs R) x.parameters ps) :
      ReadAs R x (Member.operation x.name type x.modifiers ps Specials.empty)

variable {R R' : TypeExpr → TypeId → Prop} {x : Signature} {a : Member}

/-- The qualifier of a static operation is written out. -/
theorem contains_static (x : Signature) : x.modifiers.contains Modifiers.static = x.isStatic := by
  rw [modifiers]
  cases x.isUnforgeable <;> cases x.isStatic <;> decide

/-- The qualifier of an unforgeable operation is written out. -/
theorem contains_unforgeable (x : Signature) :
    x.modifiers.contains Modifiers.unforgeable = x.isUnforgeable := by
  rw [modifiers]
  cases x.isUnforgeable <;> cases x.isStatic <;> decide

/-- An operation stays the one that is written when more types fit its references. -/
theorem ReadAs.imp (h : x.ReadAs R a) (imp : ∀ e t, R e t → R' e t) : x.ReadAs R' a := by
  obtain ⟨answer, parameters⟩ := h
  exact .operation (MemberSyntax.result_imp answer imp)
    (parameters.imp fun _ _ read => read.imp imp)

end Signature

/-! ## Texts

The text of a signature is read as its tokens. The pieces are joined from the end to the front; each
of them is known to end before the next. -/

section Texts

variable {rest text : List Char} {ts : List Token}

/-- A blank after a text, and what is read after it. -/
theorem Lexer.ReadsAs.spaced {text' : List Char} {ts' : List Token}
    (h : ReadsAs text ts (' ' :: (text' ++ rest))) (h' : ReadsAs text' ts' rest) :
    ReadsAs (text ++ ' ' :: text') (ts ++ ts') rest :=
  h.append h'.blank

/-- A word in front of a character that ends it. -/
theorem readsAs_wordBefore {word : String} {c : Char} (spelled : Spells .word word.toList)
    (ends : isWordPart c = false) (more : ReadsAs (c :: text) ts rest) :
    ReadsAs (word.toList ++ c :: text) (⟨.word, word⟩ :: ts) rest := by
  have first : ReadsAs word.toList [⟨.word, word⟩] (c :: text ++ rest) :=
    readsAs_word spelled (endsWord_cons ends (text ++ rest))
  exact first.append more

/-- A keyword that may be left out, in front of what is read after it. -/
theorem readsAs_keywordIf {word : String} (spelled : Spells .word word.toList) (present : Bool)
    (more : ReadsAs text ts rest) :
    ReadsAs ((if present then word ++ " " else "").toList ++ text)
      (tokenIf ⟨.word, word⟩ present ++ ts) rest := by
  cases present with
  | false => exact more
  | true =>
    have whole := (readsAs_word spelled (endsWord_cons (by decide) (text ++ rest))).spaced more
    simpa [tokenIf] using whole

/-- The block in front of an unforgeable operation. -/
theorem readsAs_unforgeableIf (present : Bool) (more : ReadsAs text ts rest) :
    ReadsAs ((if present then "[Unforgeable] " else "").toList ++ text)
      (unforgeableIf present ++ ts) rest := by
  cases present with
  | false => exact more
  | true =>
    have spelled : Spells .word "Unforgeable".toList := spells_word (by decide) (by decide)
    have closes : ReadsAs [']'] [⟨.bracketClose, "]"⟩] (' ' :: (text ++ rest)) :=
      readsAs_operator (by decide +kernel) (by decide) (endsOperator_cons (by decide) _)
    have name := readsAs_wordBefore spelled (by decide) closes
    have opens : ReadsAs ['['] [⟨.bracketOpen, "["⟩]
        ("Unforgeable".toList ++ [']'] ++ ' ' :: (text ++ rest)) :=
      readsAs_operator (by decide +kernel) (by decide) (endsOperator_cons (by decide) _)
    exact (opens.append name).spaced more

/-- The dots of a variadic parameter. -/
theorem readsAs_dotsIf (present : Bool) :
    ReadsAs (if present then "..." else "").toList (tokenIf ⟨.dotDotDot, "..."⟩ present)
      (' ' :: rest) := by
  cases present with
  | false => exact .nil _
  | true =>
    have dots : IsToken ⟨.dotDotDot, "..."⟩ := isToken_operator (by decide)
    refine dots.readsAs fun c first => ?_
    obtain rfl : ' ' = c := by simpa using first
    exact goesOn_blank _ (by decide)

/-- Dots end a type. -/
theorem breaks_dotsIf (present : Bool) (rest : List Char) :
    Breaks ((if present then "..." else "").toList ++ ' ' :: rest) := by
  cases present with
  | false => exact breaks_cons (by decide) (by decide) rest
  | true => exact breaks_cons (by decide) (by decide) _

/-- The text of a parameter is read as its tokens. -/
theorem WrittenParameter.readsAs (q : WrittenParameter) (ends : EndsWord rest) :
    ReadsAs q.text.toList q.tokens rest := by
  have optional : Spells .word "optional".toList := spells_word (by decide) (by decide)
  have dots := (readsAs_dotsIf q.isVariadic).spaced (readsAs_word q.spelled ends)
  have breaks := breaks_dotsIf q.isVariadic (q.name.toList ++ rest)
  have type := (q.type.readsAs (by simpa using breaks)).append dots
  simpa [text, tokens, nameToken, String.append_assoc] using
    readsAs_keywordIf optional q.isOptional type

/-- A parameter starts with nothing that an operator goes on into. -/
theorem WrittenParameter.endsOperator (q : WrittenParameter) (rest : List Char) :
    EndsOperator (q.text.toList ++ rest) := by
  rw [WrittenParameter.text]
  cases q.isOptional with
  | false => simpa using q.type.endsOperator _
  | true =>
    simp only [if_true, String.append_assoc, String.toList_append, List.append_assoc]
    exact endsOperator_of_wordStart (by decide) _

/-- A parameter in front of further ones. -/
theorem WrittenParameter.readsAs_comma (q : WrittenParameter) (more : ReadsAs text ts rest) :
    ReadsAs (q.text.toList ++ ',' :: ' ' :: text) (q.tokens ++ ⟨.comma, ","⟩ :: ts) rest := by
  have comma : ReadsAs [','] [⟨.comma, ","⟩] (' ' :: (text ++ rest)) :=
    readsAs_operator (by decide +kernel) (by decide) (endsOperator_cons (by decide) _)
  have tail := comma.spaced more
  have first : ReadsAs q.text.toList q.tokens ([','] ++ ' ' :: text ++ rest) :=
    q.readsAs (endsWord_cons (by decide) _)
  simpa using first.append tail

/-- The texts of parameters, with commas between them. -/
theorem readsAs_parameters (qs : List WrittenParameter) (ends : EndsWord rest) :
    ReadsAs (", ".intercalate (qs.map WrittenParameter.text)).toList
      (WrittenParameter.listTokens qs) rest := by
  induction qs with
  | nil => exact .nil rest
  | cons q others ih =>
    cases others with
    | nil => simpa [WrittenParameter.listTokens, WrittenParameter.commaBefore] using q.readsAs ends
    | cons q' others =>
      simpa [WrittenParameter.listTokens, WrittenParameter.commaBefore,
        String.intercalate_cons_cons, -String.toList_intercalate] using q.readsAs_comma ih

/-- The result type in front of the name. -/
theorem Signature.readsAs_result (result : Option TypeExpr) (more : ReadsAs text ts rest) :
    ReadsAs ((resultText result).toList ++ text) (MemberSyntax.resultTokens result ++ ts) rest := by
  cases result with
  | none =>
    have spelled : Spells .word "void".toList := spells_word (by decide) (by decide)
    exact readsAs_keywordIf spelled true more
  | some e =>
    have type := e.readsAs (breaks_cons (c := ' ') (by decide) (by decide) (text ++ rest))
    simpa [resultText, MemberSyntax.resultTokens] using type.spaced more

/-- The text of a signature reads back as its tokens. -/
theorem Signature.readsAs (x : Signature) (ends : EndsOperator rest) :
    ReadsAs x.text.toList x.tokens rest := by
  have static : Spells .word "static".toList := spells_word (by decide) (by decide)
  have closes : ReadsAs [')'] [⟨.parenthesisClose, ")"⟩] rest :=
    readsAs_operator (by decide +kernel) (by decide) ends
  have parameters : ReadsAs (", ".intercalate (x.parameters.map WrittenParameter.text)).toList
      (WrittenParameter.listTokens x.parameters) ([')'] ++ rest) :=
    readsAs_parameters x.parameters (endsWord_cons (by decide) rest)
  have list := parameters.append closes
  have opens : ReadsAs ['('] [⟨.parenthesisOpen, "("⟩] ((", ".intercalate
      (x.parameters.map WrittenParameter.text)).toList ++ [')'] ++ rest) := by
    refine readsAs_operator (by decide +kernel) (by decide) ?_
    cases x.parameters with
    | nil => exact endsOperator_cons (by decide) rest
    | cons q others =>
      cases others with
      | nil => simpa using q.endsOperator _
      | cons q' others =>
        simpa [String.intercalate_cons_cons, -String.toList_intercalate] using q.endsOperator _
  have named := readsAs_wordBefore x.spelled (by decide) (opens.append list)
  have qualified := readsAs_keywordIf static x.isStatic (readsAs_result x.result named)
  simpa [text, tokens, bodyTokens, nameToken, -String.toList_intercalate] using
    readsAs_unforgeableIf x.isUnforgeable qualified

end Texts

end IdlCatalog
