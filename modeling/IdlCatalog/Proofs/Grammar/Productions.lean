/-
# IdlCatalog.Proofs.Grammar.Productions — what every congruence says of the grammar

The productions one by one, in the order of the grammar. What stands within a declaration may look
at the token after its end. A declaration itself does not: it ends with a brace or a semicolon that
it reads, and of the semicolon that may follow an interface it only asks whether it is there.

Where a production looks at one token several times before it refuses it, the looks are put together
first, so that everything that was found is known of the refused token.

## How a proof goes

A production is a sequence of parsers with choices in between. Its proof follows the text: `bind`
for a sequence, `ite` where the choice does not depend on a token, `ifAt` where it does, `fix` and
the rules for loops at the recursions. The order of the lemmas is such that each production is put
together from those above it. When a production changes, its own lemma changes, and no other does.

The letter `R` is an arbitrary congruence throughout. Nothing in this module knows what the relation
is about.
-/
import IdlCatalog.Proofs.Grammar.Congruence

namespace IdlCatalog

open Grammar

/-! ## Looks put together

Some productions ask two or three questions about one token before they refuse it, and a congruence
is told about a refusal at once with the look. These lemmas turn such rows of questions into one
`atToken`, where the last case knows that all questions were answered with no. -/

namespace Parser

variable {α β : Type}

/-- Nothing comes after a refusal. -/
theorem expected_bind (expectation : Expectation) (f : α → Parser β) :
    (expected expectation >>= f) = expected expectation := rfl

/-- What is done after a look is done at the token. -/
theorem peek_bind (k : Token → Parser β) (l : LibraryId) (s : ReadState) :
    (peek >>= k) l s = k s.peek l s := rfl

/-- A question about a keyword moves nothing. -/
theorem atKeyword_bind (keyword : String) (k : Bool → Parser β) (l : LibraryId) (s : ReadState) :
    (atKeyword keyword >>= k) l s = k (s.peek.isKeyword keyword) l s := rfl

/-- A question about several keywords moves nothing. -/
theorem atAnyKeyword_bind (keywords : List String) (k : Bool → Parser β) (l : LibraryId)
    (s : ReadState) : (atAnyKeyword keywords >>= k) l s = k (keywords.any s.peek.isKeyword) l s :=
  rfl

/-- What is done after a token was taken is done behind it. -/
theorem next_bind (k : Token → Parser β) (l : LibraryId) (s : ReadState) :
    (next >>= k) l s = k s.peek l s.advance := rfl

/-- What is done after a keyword was accepted, behind it or in front of another token. -/
theorem acceptKeyword_bind (keyword : String) (k : Bool → Parser β) (l : LibraryId)
    (s : ReadState) :
    (acceptKeyword keyword >>= k) l s =
      if s.peek.isKeyword keyword then k true l s.advance else k false l s := by
  rw [Parser.bind_apply, acceptKeyword]
  by_cases word : s.peek.isKeyword keyword = true
  · rw [if_pos word, if_pos word]
  · rw [if_neg word, if_neg word]

end Parser

namespace Grammar

open IdlCatalog.Parser

/-- What comes after a parameter in a list. -/
theorem separator_eq (p : Parameter) :
    (do
      if ← accept .comma then return some p
      if (← peekCategory) = .parenthesisClose then return some p
      expected (.phrase "`,` or `)`")) =
    atToken fun t =>
      if t.category = .comma then .ok (some p, true)
      else if t.category = .parenthesisClose then .ok (some p, false)
      else .error (.phrase "`,` or `)`") := by
  funext l s
  rw [Parser.bind_apply, accept, atToken]
  by_cases comma : s.peek.category = .comma
  · rw [if_pos comma, if_pos comma]
    rfl
  · rw [if_neg comma, if_neg comma]
    by_cases close : s.peek.category = .parenthesisClose
    · simp [Parser.bind_apply, peekCategory, close, Parser.pure_apply]
    · simp [Parser.bind_apply, peekCategory, close]

/-- Either of the two words by which a type takes on a mixin, or a refusal. -/
def implementsWord : Parser Unit :=
  atToken fun t =>
    if t.isKeyword "implements" || t.isKeyword "includes" then .ok ((), true)
    else .error (.keyword "implements")

/-- The two questions for the word of an implements statement are one. -/
theorem implements_eq (p : Parser Unit) :
    (acceptImplements >>= fun found => if found then p else expected (.keyword "implements")) =
      implementsWord >>= fun _ => p := by
  unfold implementsWord
  funext l s
  cases one : s.peek.isKeyword "implements"
  · cases other : s.peek.isKeyword "includes" <;>
      simp [acceptImplements, Parser.bind_apply, acceptKeyword, atToken, expected, one, other]
  · simp [acceptImplements, Parser.bind_apply, Parser.pure_apply, acceptKeyword, atToken, one]

/-- What attributes may stand before, at its first token. -/
def attributedTypeAt (kind : Kind) (reopens : Bool) (t : Token) : Parser TypeId :=
  if ["interface", "class"].any t.isKeyword then interface kind reopens
  else if t.isKeyword "exception" then exception
  else if t.isKeyword "dictionary" then dictionary reopens
  else expected (.phrase "interface, callback, exception or dictionary")

/-- The choice among attributed declarations, made by one look. -/
theorem attributedType_apply (kind : Kind) (reopens : Bool) (l : LibraryId) (s : ReadState) :
    attributedType kind reopens l s = attributedTypeAt kind reopens s.peek l s := by
  rw [attributedType, atAnyKeyword_bind, attributedTypeAt]
  by_cases first : ["interface", "class"].any s.peek.isKeyword = true
  · rw [if_pos first, if_pos first]
  rw [if_neg first, if_neg first, atKeyword_bind]
  by_cases second : s.peek.isKeyword "exception" = true
  · rw [if_pos second, if_pos second]
  · rw [if_neg second, if_neg second]
    rfl

/-- A declaration of a type, its attributes apart; `f` is done with the type. -/
def typeDeclaration (kind : Kind) (reopens : Bool) (f : TypeId → Parser Unit) : Parser Unit := do
  if ← acceptKeyword "callback" then
    if ← atKeyword "interface" then f (← attributedType .callbackInterface reopens)
    else f (← callbackFunction)
  else f (← attributedType kind reopens)

/-- The declaration at its first token, and after the word for callbacks at the second one. -/
theorem typeDeclaration_eq (kind : Kind) (reopens : Bool) (f : TypeId → Parser Unit) :
    typeDeclaration kind reopens f =
      peek >>= fun t =>
        if t.isKeyword "callback" then
          next >>= fun _ => peek >>= fun t =>
            if t.isKeyword "interface" then interface .callbackInterface reopens >>= f
            else callbackFunction >>= f
        else attributedTypeAt kind reopens t >>= f := by
  funext l s
  rw [typeDeclaration, acceptKeyword_bind, peek_bind]
  by_cases callback : s.peek.isKeyword "callback" = true
  · rw [if_pos callback, if_pos callback, if_pos rfl, atKeyword_bind, next_bind, peek_bind]
    by_cases word : s.advance.peek.isKeyword "interface" = true
    · have first : ["interface", "class"].any s.advance.peek.isKeyword = true := by simp [word]
      rw [if_pos word, if_pos word, Parser.bind_apply, attributedType_apply, attributedTypeAt,
        if_pos first, Parser.bind_apply]
    · rw [if_neg word, if_neg word]
  · rw [if_neg callback, if_neg callback, if_neg Bool.false_ne_true, Parser.bind_apply,
      attributedType_apply, Parser.bind_apply]

end Grammar

namespace Parser.Congruence.Rel

variable {R : Congruence}

/-! ## Type references

A type reference calls itself for type arguments, for elements of a sequence and for branches of a
union; the recursion is passed in as `self`, so that these lemmas can be stated before it is closed.
After every name and every closing bracket it asks for a question mark or a pair of brackets, so it
always looks at the token after its end. -/

/-- A word with a qualifier or without, or the qualifier `unsigned` alone, which is seen at the
token after it. -/
theorem nameSegment : R.Rel false .looking nameSegment nameSegment :=
  .bind (.acceptKeyword _) fun _ =>
    .ite (fun _ => .bind .identifier fun _ => .pure _) fun _ =>
      .bind (.acceptKeyword _) fun _ =>
        .ite
          (fun _ => .bind .peekCategory fun _ =>
            .ite (fun _ => .pure _) fun _ => .bind .identifier fun _ => .pure _)
          fun _ => .weaken .identifier

/-- Whether a name goes on is seen at the token after a segment. -/
theorem scopedName : R.Rel false .looking scopedName scopedName :=
  .fix fun calls => .bind .nameSegment fun segment =>
    .bind (.accept (by decide)) fun _ => .ite (fun _ => calls) fun _ => .pure segment

/-- Whether a `long` belongs to a name is seen at the token after it. -/
theorem typeName : R.Rel false .looking typeName typeName :=
  .bind .scopedName fun name =>
    .ite
      (fun _ => .bind (.acceptKeyword _) fun _ =>
        .ite (fun _ => .pure _) fun _ => .pure name)
      fun _ => .pure name

theorem nullableIfMarked (t : TypeId) :
    R.Rel false .looking (nullableIfMarked t) (nullableIfMarked t) :=
  .bind (.accept (by decide)) fun _ => .ite (fun _ => .neutral (.wrap _ _ t)) fun _ => .pure t

theorem arrayIfMarked (t : TypeId) : R.Rel false .looking (arrayIfMarked t) (arrayIfMarked t) :=
  .bind (.accept (by decide)) fun _ =>
    .ite (fun _ => .bind (.require (by decide)) fun _ => .neutral (.wrap _ _ t)) fun _ => .pure t

theorem namedType (name : String) : R.Rel false .looking (namedType name) (namedType name) :=
  .bind (.neutral (.resolve name)) fun t => .bind (.nullableIfMarked t) .arrayIfMarked

section Composites

variable {self₁ self₂ : Parser TypeId} (calls : R.Rel false .looking self₁ self₂)

include calls

/-- The element of a sequence is a reference in turn. -/
theorem sequenceType : R.Rel false .looking (sequenceType self₁) (sequenceType self₂) :=
  .bind (.require (by decide)) fun _ => .bind calls fun t =>
    .bind (.require (by decide)) fun _ => .neutral (.wrap _ _ t)

/-- Whether an argument is the last one is seen at the token after it. -/
theorem genericType (name : String) :
    R.Rel false .looking (genericType self₁ name) (genericType self₂ name) :=
  .bind (.require (by decide)) fun _ => .bind (.sepBy calls (.accept (by decide))) fun arguments =>
    .bind (.require (by decide)) fun _ => .neutral (.genericOf name arguments)

/-- A question mark is looked for behind the parenthesis of a union. -/
theorem unionType : R.Rel false .looking (unionType self₁) (unionType self₂) :=
  .bind (.require (by decide)) fun _ => .bind (.sepBy calls (.acceptKeyword _)) fun branches =>
    .bind (.require (by decide)) fun _ => .bind (.accept (by decide)) fun _ =>
      .neutral (.unionOf branches)

/-- A reference starts with the parenthesis of a union or with a name, and what follows a name says
the rest. -/
theorem typeReferenceWith :
    R.Rel false .looking (typeReferenceWith self₁) (typeReferenceWith self₂) :=
  .bind .peekCategory fun _ => .ite (fun _ => .unionType calls) fun _ =>
    .bind .typeName fun name => .bind .peekCategory fun _ =>
      .ite (fun _ => .bind (.sequenceType calls) .nullableIfMarked) fun _ =>
        .ite (fun _ => .bind (.genericType calls name) .nullableIfMarked) fun _ =>
          .bind (.namedType name) .nullableIfMarked

end Composites

theorem typeReference : R.Rel false .looking typeReference typeReference := .fix .typeReferenceWith

/-! ## Attributes in brackets

Blocks before members, of which only the words are looked at, and blocks that are skipped
altogether. -/

theorem memberAttribute : R.Rel false .looking memberAttribute memberAttribute :=
  .bind (.accept (by decide)) fun _ => .ite (fun _ => .pure none) fun _ =>
    .bind .peek fun t => .bind (.skipBalanced _) fun _ =>
      .bind (.accept (by decide)) fun _ => .pure (some (memberModifier t))

/-- A block may be missing, which its first token tells. -/
theorem memberAttributeBlock : R.Rel false .looking memberAttributeBlock memberAttributeBlock :=
  .bind (.accept (by decide)) fun _ =>
    .ite (fun _ => .bind (.collect .memberAttribute) fun _ => .pure _) fun _ => .pure none

theorem memberAttributes : R.Rel false .looking memberAttributes memberAttributes :=
  .bind (.collect .memberAttributeBlock) fun _ => .pure _

/-- Blocks are skipped as long as there are any. -/
theorem skipAttributes : R.Rel false .looking skipAttributes skipAttributes :=
  .repeatWhile <| .bind (.accept (by decide)) fun _ =>
    .ite
      (fun _ => .bind (.skipBalanced _) fun _ =>
        .bind (.require (by decide)) fun _ => .pure true)
      fun _ => .pure false

/-! ## Parameters

A list of parameters ends where a closing parenthesis stands in the place of a comma. That question
is one of the rows put together above. -/

/-- A default is looked for behind the name of a parameter. -/
theorem parameterTail (modifiers : Bool → Modifiers) :
    R.Rel false .looking (parameterTail modifiers) (parameterTail modifiers) :=
  .bind .typeReference fun _ => .bind (.accept (by decide)) fun _ => .bind .identifier fun _ =>
    .bind (.accept (by decide)) fun _ =>
      .ite (fun _ => .bind (.skipBalanced _) fun _ => .pure _) fun _ => .pure _

/-- Attributes may stand in two places, before the words that qualify a parameter and after them. -/
theorem parameter : R.Rel false .looking parameter parameter := by
  refine .bind .memberAttributes fun leading => .bind (.acceptKeyword _) fun isOptional =>
    .ifAnyKeyword (by decide) fun isDirected => ?_
  have tail := bind (R := R) .memberAttributes fun trailing =>
    parameterTail fun isVariadic =>
      leading ||| (if isOptional then Modifiers.optional else Modifiers.empty) |||
        trailing ||| (if isVariadic then Modifiers.variadic else Modifiers.empty)
  exact .ite (fun found => .bind (.next found) fun _ => tail) fun _ => tail.anywhere

/-- A comma is taken, and a parenthesis is only seen. Any other token is neither of them, and this
is what the refusal says. -/
theorem separator (p : Parameter) :
    R.Rel false .looking
      (do
        if ← Parser.accept .comma then return some p
        if (← Parser.peekCategory) = .parenthesisClose then return some p
        Parser.expected (.phrase "`,` or `)`"))
      (do
        if ← Parser.accept .comma then return some p
        if (← Parser.peekCategory) = .parenthesisClose then return some p
        Parser.expected (.phrase "`,` or `)`")) := by
  rw [separator_eq]
  refine R.atToken _ (fun t a read => ?_) fun t expectation refused => ?_
  · split at read
    · next comma => simp [comma]
    · split at read <;> cases read
  · split at refused
    · cases refused
    · next comma =>
      split at refused
      · cases refused
      · next close =>
        cases refused
        exact .separator comma close

theorem listedParameter : R.Rel false .looking listedParameter listedParameter :=
  .bind .peekCategory fun _ => .ite (fun _ => .pure none) fun _ =>
    .bind .parameter fun p => .bind (.neutral (.note _)) fun _ => .separator p

/-- A clause about exceptions is looked for behind the parenthesis. -/
theorem parameterList : R.Rel false .looking parameterList parameterList :=
  .bind (.require (by decide)) fun _ => .bind (.collect .listedParameter) fun parameters =>
    .bind (.require (by decide)) fun _ => .bind (.acceptKeyword _) fun _ =>
      .ite
        (fun _ => .bind (.require (by decide)) fun _ => .bind .typeReference fun _ =>
          .bind (.require (by decide)) fun _ => .pure parameters)
        fun _ => .pure parameters

theorem parameterListIfAny : R.Rel false .looking parameterListIfAny parameterListIfAny :=
  .bind .peekCategory fun _ => .ite (fun _ => .parameterList) fun _ => .pure []

/-! ## Members

A member ends with its semicolon, so it is closed. Where it starts with neither a type nor one of
the words for members, the refusal names the last word that was tried. -/

theorem skipRaises : R.Rel false .looking skipRaises skipRaises :=
  .bind (.require (by decide)) fun _ => .bind .identifier fun _ =>
    .bind (.require (by decide)) fun _ => .pure ()

/-- Either of two words. -/
theorem eitherKeyword (one other : String) :
    R.Rel false .looking
      (do if ← Parser.acceptKeyword one then return true else Parser.acceptKeyword other)
      (do if ← Parser.acceptKeyword one then return true else Parser.acceptKeyword other) :=
  .bind (.acceptKeyword one) fun _ => .ite (fun _ => .pure true) fun _ => .acceptKeyword other

/-- An attribute ends with its semicolon, with or without a clause about exceptions. -/
theorem property (modifiers : Modifiers) :
    R.Rel false .closing (property modifiers) (property modifiers) := by
  refine .close (.acceptKeyword _) fun isReadOnly => .close (.requireKeyword _) fun _ =>
    .close .typeReference fun type => .close .identifier fun name =>
      .close (.eitherKeyword _ _) fun _ => ?_
  have rest := finish (R := R) (.require (by decide : Category.semicolon ≠ .eof)) fun _ =>
    pure_still (Member.property name type
      (modifiers ||| (if isReadOnly then Modifiers.readOnly else Modifiers.empty)) none)
  exact .ite (fun _ => .close .skipRaises fun _ => rest) fun _ => rest

/-- A constant takes all tokens up to a semicolon as its value. -/
theorem constant : R.Rel false .closing constant constant :=
  .close (.requireKeyword _) fun _ => .close .typeReference fun _ => .close .identifier fun _ =>
    .close (.require (by decide)) fun _ => .close .rawUntilSemicolon fun _ =>
      .finish (.require (by decide)) fun _ => .pure_still _

theorem specialKeyword : R.Rel false .looking specialKeyword specialKeyword :=
  .bind (.atAnyKeyword _) fun _ =>
    .ite (fun _ => .bind .identifier fun _ => .pure _) fun _ => .pure none

theorem resultType : R.Rel false .looking resultType resultType :=
  .bind (.acceptKeyword _) fun _ =>
    .ite (fun _ => .pure none) fun _ => .bind .typeReference fun _ => .pure _

theorem operationName (specials : List String) :
    R.Rel false .looking (operationName specials) (operationName specials) :=
  .bind .peekCategory fun _ => .ite (fun _ => .pure _) fun _ => .weaken .identifier

/-- An operation ends with its semicolon, and so does what is read as an iterable declaration. -/
theorem operation (modifiers : Modifiers) :
    R.Rel false .closing (operation modifiers) (operation modifiers) :=
  .close (.collect .specialKeyword) fun specials => .close .resultType fun _ =>
    .close (.view _) fun _ =>
      .ite (fun _ => .finish (.require (by decide)) fun _ => .pure_still none) fun _ =>
        .close (.operationName specials) fun _ => .close .parameterList fun _ =>
          .finish (.require (by decide)) fun _ => .pure_still _

/-! ## Attributes before a declaration

Each attribute has an action, looked up by its name in a table. A name that the table lacks is
refused as an unknown attribute, and the congruence is told that it is not in the table. -/

theorem skipNames : R.Rel false .looking skipNames skipNames :=
  .bind (.accept (by decide)) fun _ =>
    .ite
      (fun _ => .bind (.sepBy .identifier (.accept (by decide))) fun _ =>
        .bind (.require (by decide)) fun _ => .pure ())
      fun _ => .bind .identifier fun _ => .pure ()

/-- One token or a group in parentheses. Another token is refused, and it starts no value. -/
theorem skipValue : R.Rel false .looking skipValue skipValue := by
  refine .atCategory (by decide) fun t => ?_
  cases known : t.category with
  | parenthesisOpen => exact .goOn (.anywhere (.weaken .skipParenthesized))
  | word | string | number => exact .goOn (.bind (.next rfl) fun _ => .pure ())
  | _ => exact .refuse (.value (by simp [known]))

theorem acceptValueSign : R.Rel false .looking acceptValueSign acceptValueSign :=
  .bind (.accept (by decide)) fun _ => .ite (fun _ => .pure true) fun _ => .accept (by decide)

/-- How much an attribute takes with it depends on its action. -/
theorem attributeEffect (action : AttributeAction) :
    R.Rel false .looking (attributeEffect action) (attributeEffect action) := by
  cases action with
  | modifier | noInterfaceObject | ignore => exact .pure _
  | global primary =>
    exact .bind (.accept (by decide)) fun _ =>
      .ite (fun _ => .bind .skipNames fun _ => .pure _) fun _ => .pure _
  | constructor => exact .bind .parameterListIfAny fun _ => .pure _
  | namedConstructor =>
    exact .bind (.require (by decide)) fun _ => .bind .identifier fun _ =>
      .bind .parameterListIfAny fun _ => .pure _
  | exposed => exact .bind (.require (by decide)) fun _ => .bind .skipNames fun _ => .pure _
  | ignoreWithValue =>
    exact .bind (.accept (by decide)) fun _ =>
      .ite (fun _ => .bind (.sepBy .skipValue .acceptValueSign) fun _ => .pure _) fun _ => .pure _
  | ignoreWithArguments =>
    exact .bind .peekCategory fun _ =>
      .ite (fun _ => .bind .skipParenthesized fun _ => .pure _) fun _ => .pure _

theorem namedAttribute :
    R.Rel false .looking Grammar.namedAttribute Grammar.namedAttribute :=
  R.namedAttribute .attributeEffect

theorem attributeBlock : R.Rel false .looking attributeBlock attributeBlock :=
  .bind (.accept (by decide)) fun _ =>
    .ite
      (fun _ => .bind (.sepBy .namedAttribute (.accept (by decide))) fun _ =>
        .bind (.require (by decide)) fun _ => .pure _)
      fun _ => .pure none

theorem declarationAttributes : R.Rel false .looking declarationAttributes declarationAttributes :=
  .bind (.collect .attributeBlock) fun _ => .pure _

/-! ## Small declarations

Declarations without a body of members. All of them are closed by the semicolon or the brace at
their end. -/

/-- A declaration reads its name, and what it does with it reads nothing. -/
theorem declaredType (kind : Kind) (reopens : Bool) :
    R.Rel false .closing (declaredType kind reopens) (declaredType kind reopens) := by
  rw [declaredType_eq]
  exact .finish .identifier fun name => .neutral_still (.declareNamed kind reopens name)

theorem typedef : R.Rel false .closing typedef typedef :=
  .close (.requireKeyword _) fun _ => .close .skipAttributes fun _ =>
    .close .typeReference fun _ => .close (.declaredType _ _) fun _ =>
      .close (.neutral (.setTarget _ _)) fun _ =>
        .finish (.require (by decide)) fun _ => .pure_still ()

theorem valueType : R.Rel false .closing valueType valueType :=
  .close (.requireKeyword _) fun _ => .close (.declaredType _ _) fun _ =>
    .close .typeReference fun _ => .close (.neutral (.setTarget _ _)) fun _ =>
      .finish (.require (by decide)) fun _ => .pure_still ()

theorem enumerationLiteral (t : TypeId) :
    R.Rel false .looking (enumerationLiteral t) (enumerationLiteral t) :=
  .bind .peekCategory fun _ => .ite (fun _ => .pure false) fun _ =>
    .bind (.require (by decide)) fun _ => .bind (.neutral (.addLiteral t _)) fun _ =>
      .accept (by decide)

theorem enumeration : R.Rel false .closing enumeration enumeration :=
  .close (.requireKeyword _) fun _ => .close (.declaredType _ _) fun t =>
    .close (.require (by decide)) fun _ => .close (.repeatWhile (.enumerationLiteral t)) fun _ =>
      .close (.require (by decide)) fun _ =>
        .finish (.require (by decide)) fun _ => .pure_still ()

theorem implementsWord : R.Rel false .closing implementsWord implementsWord := by
  refine R.atTokenClose _ (fun t eof => ⟨_, if_neg fun found => ?_⟩)
    fun t expectation refused => ?_
  · rcases Bool.or_eq_true_iff.1 found with word | word
    · exact category_of_isKeyword word eof
    · exact category_of_isKeyword word eof
  · split at refused
    · cases refused
    · next other =>
      cases refused
      exact .of_isKeyword fun word => other (by simp [word])

theorem implementsStatement : R.Rel false .closing implementsStatement implementsStatement := by
  refine .close .typeReference fun target => ?_
  rw [implements_eq]
  refine .close implementsWord fun _ => .close .typeReference fun mixin => ?_
  refine .close (.neutral (.addImplements target mixin)) fun _ => ?_
  exact .finish (.require (by decide)) fun _ => .pure_still ()

/-- A callback function ends with a semicolon, and then its signature is attached. -/
theorem callbackFunction : R.Rel false .closing callbackFunction callbackFunction :=
  .close (.declaredType _ _) fun t => .close (.require (by decide)) fun _ =>
    .close .resultType fun _ => .close (.view _) fun _ => .close .parameterList fun _ =>
      .finish (.require (by decide)) fun _ =>
        .both (.neutral_still (.attachOperation _ _)) fun _ => .pure_still t

/-! ## Bodies

A body is closed by its brace, whatever its entries are. So one lemma serves for all bodies, and
asks of the entries only that they are closed themselves. -/

/-- A round of a body looks for the brace first. At the end of the input it is refused there, and
not within an entry. -/
theorem bodyOf {entry : Parser Unit} (h : R.Rel false .closing entry entry) :
    R.Rel false .closing (bodyOf entry) (bodyOf entry) := by
  have rest : R.Rel false .closing (entry >>= fun _ => Pure.pure true)
      (entry >>= fun _ => Pure.pure true) := .finish h fun _ => .pure_still true
  exact .repeatWhile_close <| .choose (by decide) (.pure_still false) <|
    .atCategory (by decide) fun t =>
      .ite (fun eof => .refuse (.token (by rw [eof]; decide))) fun _ => .goOn rest.anywhere

theorem superTypeIfAny (t : TypeId) : R.Rel false .looking (superTypeIfAny t) (superTypeIfAny t) :=
  .bind (.accept (by decide)) fun _ =>
    .ite (fun _ => .bind .typeReference fun _ => .neutral (.giveSuperType t _)) fun _ => .pure ()

theorem exceptionField : R.Rel false .looking exceptionField exceptionField :=
  .bind (.atKeyword _) fun _ => .ite (fun _ => .weaken .constant) fun _ =>
    .bind .typeReference fun _ => .bind .identifier fun _ =>
      .bind (.require (by decide)) fun _ => .pure _

/-- The semicolon behind an exception is asked for, as behind a dictionary. -/
theorem exception : R.Rel false .closing exception exception :=
  .close (.requireKeyword _) fun _ => .close (.declaredType _ _) fun t =>
    .close (.superTypeIfAny t) fun _ => .close (.require (by decide)) fun _ =>
      .close
        (.repeatWhile <| .bind .peekCategory fun _ => .ite (fun _ => .pure false) fun _ =>
          .bind .exceptionField fun _ => .bind (.neutral (.attachProperty t _)) fun _ =>
            .pure true)
        fun _ => .close (.require (by decide)) fun _ =>
          .finish (.require (by decide)) fun _ => .pure_still t

theorem defaultIfAny : R.Rel false .looking defaultIfAny defaultIfAny :=
  .bind (.accept (by decide)) fun _ =>
    .ite (fun _ => .bind .rawUntilSemicolon fun _ => .pure _) fun _ => .pure none

/-- An entry ends with its semicolon, after a default or without one. -/
theorem dictionaryEntry (t : TypeId) :
    R.Rel false .closing (dictionaryEntry t) (dictionaryEntry t) :=
  .close .skipAttributes fun _ => .close (.acceptKeyword _) fun _ =>
    .close .typeReference fun _ => .close .identifier fun _ => .close .defaultIfAny fun _ =>
      .finish (.require (by decide)) fun _ => .neutral_still (.attachProperty t _)

theorem dictionary (reopens : Bool) :
    R.Rel false .closing (dictionary reopens) (dictionary reopens) :=
  .close (.requireKeyword _) fun _ => .close (.declaredType _ _) fun t =>
    .close (.superTypeIfAny t) fun _ => .close (.require (by decide)) fun _ =>
      .close (.bodyOf (.dictionaryEntry t)) fun _ =>
        .finish (.require (by decide)) fun _ => .pure_still t

/-! ## Interfaces

An interface is read where its keyword was seen, so a token is left when its production starts; that
is the mark `true` in its statement. The semicolon after its body is accepted where it stands and
not asked for otherwise, which does not count as a look. -/

theorem constructorMember (t : TypeId) :
    R.Rel false .closing (constructorMember t) (constructorMember t) :=
  .close (.view _) fun _ => .close .parameterList fun _ =>
    .finish (.require (by decide)) fun _ => .neutral_still (.attachConstructor t _)

/-- The words are tried one after the other, and an operation is what is left. Each member ends with
a semicolon of its own. -/
theorem interfaceMemberNamed (t : TypeId) (modifiers : Modifiers) :
    R.Rel false .closing (interfaceMemberNamed t modifiers) (interfaceMemberNamed t modifiers) := by
  refine .close (.atAnyKeyword _) fun _ => .ite (fun _ => ?property) fun _ =>
    .close (.atKeyword _) fun _ => .ite (fun _ => ?constant) fun _ =>
      .close (.acceptKeyword _) fun _ => .ite (fun _ => ?serializer) fun _ =>
        .close (.atKeyword _) fun _ => .ite (fun _ => .typedef) fun _ =>
          .close (.acceptKeyword _) fun _ => .ite (fun _ => .constructorMember t) fun _ =>
            .finish (.operation modifiers) fun found => ?operation
  case property =>
    exact .finish (.property modifiers) fun _ => .neutral_still (.attachProperty t _)
  case constant => exact .finish .constant fun _ => .neutral_still (.attachProperty t _)
  case serializer =>
    exact .close (.skipBalanced _) fun _ =>
      .finish (.require (by decide)) fun _ => .pure_still ()
  case operation =>
    cases found with
    | some member => exact .neutral_still (.attachOverload t member)
    | none => exact .pure_still ()

/-- The word `stringifier` with a semicolon behind it is a member by itself; otherwise it is passed
over. -/
theorem interfaceMember (t : TypeId) :
    R.Rel false .closing (interfaceMember t) (interfaceMember t) := by
  refine .close .memberAttributes fun attributes => .close (.acceptKeyword _) fun isStatic => ?_
  have rest := close (R := R) (.acceptKeyword "inherit") fun _ =>
    interfaceMemberNamed t
      (attributes ||| (if isStatic then Modifiers.static else Modifiers.empty))
  exact .close (.acceptKeyword _) fun _ =>
    .ite (fun _ => .choose (by decide) (.pure_still ()) rest) fun _ => rest

/-- Each mixin is read after a word or a comma, at which the round before it has looked. -/
theorem repeatMixins (t : TypeId) :
    R.Rel true .looking (Parser.repeatWhile (listedMixin t))
      (Parser.repeatWhile (listedMixin t)) := by
  refine .fix fun calls => ?_
  simp only [listedMixin, bind_assoc, pure_bind]
  exact .bind (.next rfl) fun _ => .bind .typeReference fun _ =>
    .bind (.neutral (.addImplements t _)) fun _ => .atCategory (by decide) fun next =>
      .goOn <| .ite (fun comma => R.mono calls fun _ => by simp [of_decide_eq_true comma])
        fun _ => .anywhere (.pure ())

theorem listedMixins (t : TypeId) : R.Rel false .looking (listedMixins t) (listedMixins t) := by
  refine .ifKeyword (by decide) fun word => .atCategory (by decide) fun next => .goOn <|
    .ite (fun found => R.mono (.repeatMixins t) fun _ => ?_) fun _ => .anywhere (.pure ())
  rcases Bool.or_eq_true_iff.1 found with word | comma
  · simp [word]
  · simp [of_decide_eq_true comma]

/-- A colon or a word stands before a super type. -/
theorem acceptExtends : R.Rel false .looking acceptExtends acceptExtends :=
  .bind (.accept (by decide)) fun _ => .ite (fun _ => .pure true) fun _ => .acceptKeyword _

/-- Behind a super type and behind every mixin a further one is looked for. -/
theorem interfaceClauses (t : TypeId) :
    R.Rel false .looking (interfaceClauses t) (interfaceClauses t) :=
  .bind .acceptExtends fun _ =>
    .ite
      (fun _ => .bind .typeReference fun _ => .bind (.neutral (.giveSuperType t _)) fun _ =>
        .listedMixins t)
      fun _ => .listedMixins t

/-- A forward declaration ends with its semicolon; a body ends with its brace, and the semicolon
behind it is taken if it is there. -/
theorem interface (kind : Kind) (reopens : Bool) :
    R.Rel true .closing (interface kind reopens) (interface kind reopens) :=
  .close (.next rfl) fun _ => .close (.acceptKeyword _) fun _ => .close (.declaredType _ _) fun t =>
    .close (.interfaceClauses t) fun _ => .choose (by decide) (.pure_still t) <|
      .close (.require (by decide)) fun _ => .finish (.bodyOf (.interfaceMember t)) fun _ =>
        .both .acceptSemicolon fun _ => .pure_still t

/-! ## Declarations with attributes

The blocks come first, then the word that says what is declared. What the attributes mean is applied
to the type afterwards and has nothing to do with tokens. -/

section Attributed

variable {f : TypeId → Parser Unit} (apply : ∀ t, R.Rel false .still (f t) (f t))

include apply

/-- At a token that is not the word for callbacks. -/
theorem attributedTypeAt (kind : Kind) (reopens : Bool) {t : Token}
    (other : ¬t.isKeyword "callback" = true) :
    OrRefused (R.Rel (decide (t.category ≠ .eof)) .closing) t
      (attributedTypeAt kind reopens t >>= f) (attributedTypeAt kind reopens t >>= f) := by
  rw [Grammar.attributedTypeAt]
  split
  · next found =>
    obtain ⟨_, -, word⟩ := List.any_eq_true.1 found
    exact .goOn (.finish (R.mono (.interface kind reopens) fun _ =>
      decide_eq_true (category_of_isKeyword word)) apply)
  split
  · exact .goOn (.anywhere (.finish .exception apply))
  split
  · exact .goOn (.anywhere (.finish (.dictionary reopens) apply))
  · rw [expected_bind]
    exact .refuse (.attributed (by simp_all [attributedWords]))

theorem typeDeclaration (kind : Kind) (reopens : Bool) :
    R.Rel false .closing (typeDeclaration kind reopens f) (typeDeclaration kind reopens f) := by
  rw [typeDeclaration_eq]
  refine .lookingAt (by decide) fun t => .ite (fun callback => .goOn ?_) fun other =>
    attributedTypeAt apply kind reopens other
  refine .close (.next (decide_eq_true (category_of_isKeyword callback))) fun _ =>
    .lookingAt (by decide) fun t => .goOn <| .ite (fun word => ?_) fun _ =>
      .anywhere (.finish .callbackFunction apply)
  exact .finish (R.mono (.interface _ reopens) fun _ =>
    decide_eq_true (category_of_isKeyword word)) apply

end Attributed

/-- What the attributes say is applied when the declaration is over, without a look at a token. -/
theorem attributedDeclaration :
    R.Rel false .closing attributedDeclaration attributedDeclaration :=
  .close .declarationAttributes fun attributes => .close (.acceptKeyword _) fun reopens =>
    .typeDeclaration (fun t => .neutral_still (.applyAttributes attributes t)) _ reopens

/-! ## Descriptions

A description is declarations up to the end of the input. Modules hold declarations as well, so the
two productions are read off one recursion. -/

theorem globalConstant : R.Rel false .closing globalConstant globalConstant :=
  .finish .constant fun _ =>
    .neutral_still (.bind .library fun _ => .bind (.view _) fun t => .attachProperty t _)

section Modules

variable {body₁ body₂ : Parser Unit} (h : R.Rel false .looking body₁ body₂)

include h

/-- A module calls for declarations, which end at its brace. -/
theorem moduleWith : R.Rel false .closing (moduleWith body₁) (moduleWith body₂) :=
  .close (.requireKeyword _) fun _ => .close .identifier fun _ =>
    .close (.require (by decide)) fun _ => .close h fun _ =>
      .close (.require (by decide)) fun _ =>
        .finish (.require (by decide)) fun _ => .pure_still ()

/-- All words that may start a declaration are compared with one token, so the refusal is about all
of them. -/
theorem declarationWith :
    R.Rel false .closing (declarationWith body₁) (declarationWith body₂) := by
  have goOn {t : Token} {p q : Parser Unit} (rel : R.Rel false .closing p q) :
      OrRefused (R.Rel (decide (t.category ≠ .eof)) .closing) t p q := .goOn rel.anywhere
  refine .lookingAt (by decide) fun t => .ite (fun _ => goOn .attributedDeclaration) fun bracket =>
    .ite (fun _ => goOn .typedef) fun _ => .ite (fun _ => goOn .valueType) fun _ =>
      .ite (fun _ => goOn (.moduleWith h)) fun _ => .ite (fun _ => goOn .globalConstant) fun _ =>
        .ite (fun _ => goOn .enumeration) fun _ =>
          .ite (fun _ => goOn .implementsStatement) fun word => .refuse (.declaration ?_)
  simp_all

end Modules

/-- Declarations end at the end of the input or at a brace, which is seen and not taken. -/
theorem declarations : R.Rel false .looking declarations declarations :=
  .fix fun calls => .repeatWhile <| .bind .peekCategory fun _ =>
    .ite (fun _ => .pure false) fun _ => .bind (.declarationWith calls) fun _ => .pure true

end Parser.Congruence.Rel

end IdlCatalog
