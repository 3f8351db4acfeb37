/-
# IdlCatalog.Proofs.Grammar.MemberSyntax — members of interfaces as trees

`MemberSyntax` has a tree for each attribute, constant and operation of an interface, with the
tokens with which it is written. `ReadAs` says which member such a tree is, given the types for
which the references in it stand; it speaks about no reading.

Words mean what the place in the grammar makes of them, so not every row of tokens can be written
down: the name of an attribute must not be `long`, that of a parameter only where the type in front
of it would not take it along, and the first word of a type must not be one of the words that may
stand in its place.

## Trees that carry their conditions

Where a word may stand only with a meaning of its own, the tree has a field that excludes it. A
`WrittenParameter` knows that its type does not start with `optional`, and an operation that its
result type is none of the words for other members. So there is no tree that would be read as
another one, and the reading lemmas have no side conditions about spelling.

A value of a constant is kept as a row of tokens. The grammar does not look into it, and neither
does the tree.
-/
import IdlCatalog.Grammar.Members
import IdlCatalog.Proofs.Grammar.TypeText
import IdlCatalog.Proofs.Token.Layout

namespace IdlCatalog

open Grammar Lexer

/-! ## Names -/

/-- A word that may stand after a type as the name of a member or a parameter. A type that ends in
`long` would take a second one along. -/
structure Identifier where
  text : String
  spelled : Spells .word text.toList
  short : text ≠ "long"

/-- The token of the name. -/
def Identifier.token (name : Identifier) : Token := ⟨.word, name.text⟩

/-- The token, or nothing. -/
def tokenIf (t : Token) (present : Bool) : List Token := if present then [t] else []

/-- The reference starts with none of the words. -/
def TypeExpr.Avoids (e : TypeExpr) (words : List String) : Prop :=
  ∀ t ∈ e.tokens.head?, ∀ word ∈ words, t.isKeyword word = false

instance (e : TypeExpr) (words : List String) : Decidable (e.Avoids words) :=
  inferInstanceAs (Decidable (∀ t ∈ e.tokens.head?, ∀ word ∈ words, t.isKeyword word = false))

/-- The reference is to an iterable, which declares no operation where a result type stands. -/
def TypeExpr.IsIterable : TypeExpr → Prop
  | .generic name _ _ nullable => name.text = "iterable" ∧ nullable = false
  | _ => False

/-! ## Parameters

A list of parameters has commas between its items and none after the last. `listTokens` goes by the
list, so that what stands after a parameter is known from the parameters that follow. -/

/-- The words that may stand before the type of a parameter. -/
def parameterWords : List String := ["optional", "in", "out", "inout"]

/-- A parameter. Its name may be `long`, unless it would be read along with the type. -/
structure WrittenParameter where
  isOptional : Bool
  type : TypeExpr
  isVariadic : Bool
  name : String
  spelled : Spells .word name.toList
  plain : type.Avoids parameterWords
  /-- The name is not read along with the type. -/
  apart : isVariadic = false → type.TakesLong → name ≠ "long"

namespace WrittenParameter

/-- The token of the name. -/
def nameToken (q : WrittenParameter) : Token := ⟨.word, q.name⟩

/-- The qualifiers that are written out. -/
def modifiers (q : WrittenParameter) : Modifiers :=
  (if q.isOptional then Modifiers.optional else Modifiers.empty) |||
    if q.isVariadic then Modifiers.variadic else Modifiers.empty

/-- The tokens of a parameter. -/
def tokens (q : WrittenParameter) : List Token :=
  tokenIf ⟨.word, "optional"⟩ q.isOptional ++ (q.type.tokens ++
    (tokenIf ⟨.dotDotDot, "..."⟩ q.isVariadic ++ [q.nameToken]))

/-- The comma after a parameter, if there are further ones. -/
def commaBefore : List WrittenParameter → List Token
  | [] => []
  | _ :: _ => [⟨.comma, ","⟩]

/-- The tokens of a list of parameters. -/
def listTokens : List WrittenParameter → List Token
  | [] => []
  | q :: others => q.tokens ++ (commaBefore others ++ listTokens others)

/-- The parameter for the tree; `R` says which types its reference may stand for. -/
structure ReadAs (R : TypeExpr → TypeId → Prop) (q : WrittenParameter) (p : Parameter) : Prop where
  name : p.name = q.name
  type : R q.type p.type
  modifiers : p.modifiers = q.modifiers

variable {R R' : TypeExpr → TypeId → Prop} {q : WrittenParameter} {p : Parameter}

/-- A parameter stays the one that is written when more types fit its reference. -/
theorem ReadAs.imp (h : q.ReadAs R p) (imp : ∀ e t, R e t → R' e t) : q.ReadAs R' p :=
  ⟨h.name, imp _ _ h.type, h.modifiers⟩

/-- A parameter is optional where the tree says so. -/
theorem ReadAs.isOptional (h : q.ReadAs R p) : p.isOptional = q.isOptional := by
  rw [Parameter.isOptional, h.modifiers, WrittenParameter.modifiers]
  cases q.isOptional <;> cases q.isVariadic <;> decide

/-- A parameter is variadic where the tree says so. -/
theorem ReadAs.isVariadic (h : q.ReadAs R p) : p.isVariadic = q.isVariadic := by
  rw [Parameter.isVariadic, h.modifiers, WrittenParameter.modifiers]
  cases q.isOptional <;> cases q.isVariadic <;> decide

end WrittenParameter

/-! ## Members

Of the many forms of a member the trees cover attributes, constants, and operations without special
words. `ReadAs` is an inductive relation, since the member depends on which types the references
stand for. -/

/-- The words that may stand in the place of the result type of an operation. -/
def memberWords : List String :=
  ["static", "stringifier", "inherit", "readonly", "attribute", "const", "serializer", "typedef",
    "constructor", "void"] ++ specialKeywords

/-- A member of an interface. An operation without a result type is `void`. -/
inductive MemberSyntax
  | property (isReadOnly : Bool) (type : TypeExpr) (name : Identifier)
  | constant (type : TypeExpr) (name : Identifier) (value : List Token)
      (plain : ∀ t ∈ value, IsToken t ∧ t.category ≠ .semicolon)
  | operation (isStatic : Bool) (result : Option TypeExpr) (name : Identifier)
      (parameters : List WrittenParameter)
      (plain : ∀ e ∈ result, e.Avoids memberWords ∧ ¬e.IsIterable)

namespace MemberSyntax

/-- The tokens of a result type. -/
def resultTokens : Option TypeExpr → List Token
  | some e => e.tokens
  | none => [⟨.word, "void"⟩]

/-- The tokens of a member. -/
def tokens : MemberSyntax → List Token
  | .property isReadOnly type name =>
    tokenIf ⟨.word, "readonly"⟩ isReadOnly ++ (⟨.word, "attribute"⟩ :: (type.tokens ++
      [name.token, ⟨.semicolon, ";"⟩]))
  | .constant type name value _ =>
    ⟨.word, "const"⟩ :: (type.tokens ++ (name.token :: ⟨.equals, "="⟩ :: (value ++
      [⟨.semicolon, ";"⟩])))
  | .operation isStatic result name parameters _ =>
    tokenIf ⟨.word, "static"⟩ isStatic ++ (resultTokens result ++
      (name.token :: ⟨.parenthesisOpen, "("⟩ :: (WrittenParameter.listTokens parameters ++
        [⟨.parenthesisClose, ")"⟩, ⟨.semicolon, ";"⟩])))

/-- The member for the tree; `R` says which types its references may stand for. -/
inductive ReadAs (R : TypeExpr → TypeId → Prop) : MemberSyntax → Member → Prop
  | property {isReadOnly : Bool} {e : TypeExpr} {name : Identifier} {t : TypeId} (type : R e t) :
      ReadAs R (.property isReadOnly e name) (Member.property name.text t
        (if isReadOnly then Modifiers.readOnly else Modifiers.empty) none)
  | constant {e : TypeExpr} {name : Identifier} {value : List Token} {plain} {t : TypeId}
      (type : R e t) :
      ReadAs R (.constant e name value plain) (Member.property name.text t Modifiers.constant
        (some (" ".intercalate (value.map (·.text)))))
  | operation {isStatic : Bool} {result : Option TypeExpr} {name : Identifier}
      {qs : List WrittenParameter} {plain} {type : Option TypeId} {ps : List Parameter}
      (answer : Option.Rel R result type)
      (parameters : List.Forall₂ (WrittenParameter.ReadAs R) qs ps) :
      ReadAs R (.operation isStatic result name qs plain) (Member.operation name.text type
        (if isStatic then Modifiers.static else Modifiers.empty) ps Specials.empty)

variable {R R' : TypeExpr → TypeId → Prop} {m : MemberSyntax} {a : Member}

/-- A result type stays the one that is written when more types fit. -/
theorem result_imp {result : Option TypeExpr} {type : Option TypeId}
    (h : Option.Rel R result type) (imp : ∀ e t, R e t → R' e t) : Option.Rel R' result type := by
  cases h with
  | none => exact .none
  | some answer => exact .some (imp _ _ answer)

/-- A member stays the one that is written when more types fit its references. -/
theorem ReadAs.imp (h : m.ReadAs R a) (imp : ∀ e t, R e t → R' e t) : m.ReadAs R' a := by
  cases h with
  | property type => exact .property (imp _ _ type)
  | constant type => exact .constant (imp _ _ type)
  | operation answer parameters =>
    exact .operation (result_imp answer imp) (parameters.imp fun _ _ read => read.imp imp)

end MemberSyntax

/-- The tokens of an interface with these members. -/
def interfaceTokens (name : String) (ms : List MemberSyntax) : List Token :=
  [⟨.word, "interface"⟩, ⟨.word, name⟩, ⟨.braceOpen, "\x7b"⟩] ++ (ms.flatMap MemberSyntax.tokens ++
    [⟨.braceClose, "\x7d"⟩, ⟨.semicolon, ";"⟩])

/-! ## Tokens

None of these tokens is empty or ends the input. The texts that are printed from them are read back
token by token because of this. -/

/-- The token of a name is one. -/
theorem Identifier.isToken (name : Identifier) : IsToken name.token := isToken_word name.spelled

/-- The tokens of a type reference are such. -/
theorem TypeExpr.isToken (e : TypeExpr) {t : Token} (inside : t ∈ e.tokens) : IsToken t :=
  (e.readsAs breaks_nil).isToken inside

theorem tokenIf_isToken {t u : Token} (isToken : IsToken t) {present : Bool}
    (inside : u ∈ tokenIf t present) : IsToken u := by
  cases present with
  | false => cases inside
  | true =>
    obtain rfl := List.mem_singleton.1 inside
    exact isToken

/-- The tokens of a parameter are such. -/
theorem WrittenParameter.isToken (q : WrittenParameter) {t : Token} (inside : t ∈ q.tokens) :
    IsToken t := by
  rw [WrittenParameter.tokens, List.mem_append, List.mem_append, List.mem_append] at inside
  rcases inside with inside | inside | inside | inside
  · exact tokenIf_isToken (isToken_word (spells_word (by decide) (by decide))) inside
  · exact q.type.isToken inside
  · exact tokenIf_isToken (isToken_operator (by decide)) inside
  · obtain rfl := List.mem_singleton.1 inside
    exact isToken_word q.spelled

/-- The tokens of a list of parameters are such. -/
theorem WrittenParameter.list_isToken (qs : List WrittenParameter) {t : Token}
    (inside : t ∈ listTokens qs) : IsToken t := by
  induction qs with
  | nil => cases inside
  | cons q qs ih =>
    rw [listTokens, List.mem_append, List.mem_append] at inside
    rcases inside with inside | inside | inside
    · exact q.isToken inside
    · cases qs with
      | nil => cases inside
      | cons =>
        obtain rfl := List.mem_singleton.1 inside
        exact isToken_operator (by decide)
    · exact ih inside

/-- The tokens with which a member is written can be laid out as a text. -/
theorem MemberSyntax.isToken (m : MemberSyntax) {t : Token} (inside : t ∈ m.tokens) :
    IsToken t := by
  have word {word : String} (start : word.toList.head?.any isWordStart = true)
      (parts : word.toList.all isWordPart = true) : IsToken ⟨.word, word⟩ :=
    isToken_word (spells_word start parts)
  have semicolon : IsToken ⟨.semicolon, ";"⟩ := isToken_operator (by decide)
  cases m with
  | property isReadOnly type name =>
    simp only [tokens, List.mem_append, List.mem_cons, List.not_mem_nil, or_false] at inside
    rcases inside with inside | rfl | inside | rfl | rfl
    · exact tokenIf_isToken (word (by decide) (by decide)) inside
    · exact word (by decide) (by decide)
    · exact type.isToken inside
    · exact name.isToken
    · exact semicolon
  | constant type name value plain =>
    simp only [tokens, List.mem_append, List.mem_cons, List.not_mem_nil, or_false] at inside
    rcases inside with rfl | inside | rfl | rfl | inside | rfl
    · exact word (by decide) (by decide)
    · exact type.isToken inside
    · exact name.isToken
    · exact isToken_operator (by decide)
    · exact (plain t inside).1
    · exact semicolon
  | operation isStatic result name parameters plain =>
    simp only [tokens, List.mem_append, List.mem_cons, List.not_mem_nil, or_false] at inside
    rcases inside with inside | inside | rfl | rfl | inside | rfl | rfl
    · exact tokenIf_isToken (word (by decide) (by decide)) inside
    · cases result with
      | some e => exact e.isToken inside
      | none =>
        obtain rfl := List.mem_singleton.1 inside
        exact word (by decide) (by decide)
    · exact name.isToken
    · exact isToken_operator (by decide)
    · exact WrittenParameter.list_isToken parameters inside
    · exact isToken_operator (by decide)
    · exact semicolon

/-- The tokens of a whole interface are such. -/
theorem interfaceTokens_isToken {name : String} (spelled : Spells .word name.toList)
    (ms : List MemberSyntax) {t : Token} (inside : t ∈ interfaceTokens name ms) : IsToken t := by
  simp only [interfaceTokens, List.mem_append, List.mem_cons, List.not_mem_nil, or_false] at inside
  rcases inside with (rfl | rfl | rfl) | inside | rfl | rfl
  · exact isToken_word (spells_word (by decide) (by decide))
  · exact isToken_word spelled
  · exact isToken_operator (by decide)
  · obtain ⟨m, -, inside⟩ := List.mem_flatMap.1 inside
    exact m.isToken inside
  · exact isToken_operator (by decide)
  · exact isToken_operator (by decide)

/-! ## First tokens

A type starts with a word or a parenthesis, which tells it apart from brackets and from the end of a
list. -/

/-- A reference starts with a word or with a parenthesis. -/
theorem TypeExpr.starts (e : TypeExpr) (rest : List Token) :
    ∃ t more, e.tokens ++ rest = t :: more ∧ t ∈ e.tokens.head? ∧
      (t.category = .word ∨ t.category = .parenthesisOpen) := by
  have named (name : TypeName) (others : List Token) : ∃ t more, name.tokens ++ others ++ rest =
      t :: more ∧ t ∈ (name.tokens ++ others).head? ∧
        (t.category = .word ∨ t.category = .parenthesisOpen) := by
    rw [TypeWords.tokens, TypeWords.segmentTokens]
    cases name.qualifier <;> exact ⟨_, _, rfl, rfl, .inl rfl⟩
  cases e with
  | named name => exact named name _
  | generic name => exact named name _
  | sequence => exact ⟨_, _, rfl, rfl, .inl rfl⟩
  | union => exact ⟨_, _, rfl, rfl, .inr rfl⟩

end IdlCatalog
