/-
# IdlCatalog.Proofs.Declarators — where a type ends and the name of a member begins

In `attribute X y;` both the type and the member may be any word, so whether a word belongs to the
one or to the other has to be seen from the words themselves. A type that is one word ends after
that word and stands for what the word is looked up as, with one exception: a word that ends in the
letters `long` takes a `long` after it along, whether or not it is a numeric type. So the member
`long` cannot have a type such as `oblong`, and everywhere else types and names stay apart.

## What is followed

Three things are shown of a single word in front of others. It is taken as the name of a type, with
a `long` after it or without. Nothing more belongs to the type unless a mark follows. And what was
read as the type is not looked at again, so the name that comes next is the name of the member.

The words that the grammar of types knows by themselves, `unsigned`, `unrestricted` and `sequence`,
are left out by `compoundWords`. The statement about interfaces is an equivalence: with any other
type the attribute is stored as it is written, except in the one case, where the source is refused.
-/
import IdlCatalog.Proofs.Folding
import IdlCatalog.Proofs.Grammar.Taking

namespace IdlCatalog

open Grammar Catalog Lexer IdlCatalog.Parser

variable {α β : Type} {l : LibraryId} {s u : ReadState} {rest : List Token} {t : TypeId}
  {X y I : String}

/-! ## Types that are one word

The branches of `typeName` and of the parser for what follows a name, each under the condition on
the next token that leads into it. -/

/-- The words with which a type may start that goes on after them. -/
def compoundWords : List String := ["long", "sequence", "unsigned", "unrestricted"]

/-- The categories of the tokens that go on with a type of one word. -/
def typeMarks : List Category := [.colonColon, .chevronLeft, .question, .bracketOpen]

/-- The next token is taken for a part of the type. -/
def TakesLong (X : String) (rest : List Token) : Prop :=
  endsInLong X = true ∧ (nextToken rest).isKeyword "long" = true

instance (X : String) (rest : List Token) : Decidable (TakesLong X rest) :=
  inferInstanceAs (Decidable (_ ∧ _))

theorem ne_of_plain {word : String} (plain : X ∉ compoundWords) (inside : word ∈ compoundWords) :
    X ≠ word := by
  rintro rfl
  exact plain inside

/-- One word is read as the name of a type, with the `long` after it where the word ends so. -/
theorem typeName_word (stands : s.rest = ⟨.word, X⟩ :: rest) (plain : X ∉ compoundWords)
    (scope : (nextToken rest).category ≠ .colonColon) (l : LibraryId) :
    Grammar.typeName l s =
      if TakesLong X rest then (.ok (X ++ " long"), s.advance.advance) else (.ok X, s.advance) := by
  obtain ⟨peek, left⟩ := ReadState.peek_of_rest stands
  have other (word : String) (inside : word ∈ compoundWords) : s.peek.isKeyword word = false :=
    isKeyword_word peek (ne_of_plain plain inside)
  -- a word that qualifies no other is a segment by itself
  have segment : nameSegment.Takes s X := by
    intro l
    rw [nameSegment, (passes_acceptKeyword (other "unrestricted" (by decide))).bind_apply,
      if_neg Bool.false_ne_true,
      (passes_acceptKeyword (other "unsigned" (by decide))).bind_apply,
      if_neg Bool.false_ne_true, takes_identifier (by rw [peek]), peek]
  have next : s.advance.peek = nextToken rest := ReadState.peek_eq left
  have last : scopedName.Takes s X := by
    intro l
    have apart : s.advance.peek.category ≠ .colonColon := next ▸ scope
    rw [scopedName, fix_apply, segment.bind_apply, (passes_accept apart).bind_apply]
    rfl
  rw [Grammar.typeName, last.bind_apply]
  -- the letters decide, and then the next word
  by_cases ends : endsInLong X = true
  · rw [if_pos ends]
    by_cases here : (nextToken rest).isKeyword "long" = true
    · rw [if_pos ⟨ends, here⟩, (takes_acceptKeyword (next ▸ here)).bind_apply]
      rfl
    · rw [if_neg fun both => here both.2,
        (passes_acceptKeyword (next ▸ Bool.not_eq_true _ ▸ here)).bind_apply]
      rfl
  · rw [if_neg ends, if_neg fun both => ends both.1]
    rfl

/-- What is read of a type reference after its name. -/
def typeReferenceAfter (self : Parser TypeId) (name : String) : Parser TypeId := do
  let t ←
    if name = "sequence" then sequenceType self
    else if (← peekCategory) = .chevronLeft then genericType self name
    else namedType name
  nullableIfMarked t

theorem typeReference_of_typeName {name : String} (starts : s.peek.category ≠ .parenthesisOpen)
    (named : Grammar.typeName l s = (.ok name, u)) :
    typeReference l s = typeReferenceAfter (below s.left typeReference) name l u := by
  have looked : peekCategory.Passes s s.peek.category := fun _ => rfl
  rw [typeReference, fix_apply, typeReferenceWith, looked.bind_apply, if_neg starts,
    Parser.bind_apply, named]
  rfl

/-- Without a mark after it, a name is looked up and nothing more. -/
theorem typeReferenceAfter_plain {self : Parser TypeId} {name : String} (plain : name ≠ "sequence")
    (left : s.rest = rest) (ends : (nextToken rest).category ∉ typeMarks) (l : LibraryId) :
    typeReferenceAfter self name l s = resolve name l s := by
  have other {v : ReadState} (same : v.rest = s.rest) {category : Category}
      (inside : category ∈ typeMarks) : v.peek.category ≠ category := by
    rw [ReadState.peek_eq (same.trans left)]
    rintro rfl
    exact ends inside
  have chevron : s.peek.category ≠ .chevronLeft := other rfl (by decide)
  have looked : peekCategory.Passes s s.peek.category := fun _ => rfl
  rw [typeReferenceAfter, looked.bind_apply]
  dsimp only
  rw [if_neg plain, if_neg chevron, namedType, bind_assoc, Parser.bind_apply]
  -- to look the name up leaves the tokens, so the next token is still no mark
  cases run : resolve name l s with
  | mk answer v =>
    cases answer with
    | error => rfl
    | ok t =>
      have same : v.rest = s.rest := (Parser.Neutral.resolve name).rest run
      have question : (accept .question).Passes v false :=
        passes_accept (other same (by decide))
      have bracket : (accept .bracketOpen).Passes v false :=
        passes_accept (other same (by decide))
      dsimp only
      rw [bind_assoc, nullableIfMarked, bind_assoc, question.bind_apply, if_neg Bool.false_ne_true,
        pure_bind, arrayIfMarked, bind_assoc, bracket.bind_apply, if_neg Bool.false_ne_true,
        pure_bind, nullableIfMarked, question.bind_apply]
      rfl

theorem word_not_parenthesis (stands : s.rest = ⟨.word, X⟩ :: rest) :
    s.peek.category ≠ .parenthesisOpen := by
  rw [(ReadState.peek_of_rest stands).1]
  exact nofun

theorem TakesLong.not_scope (takes : TakesLong X rest) :
    (nextToken rest).category ≠ .colonColon := by
  intro scope
  have word := takes.2
  simp [Token.isKeyword, scope] at word

theorem not_scope (ends : (nextToken rest).category ∉ typeMarks) :
    (nextToken rest).category ≠ .colonColon := by
  intro scope
  rw [scope] at ends
  exact ends (by decide)

/-- A word that does not take the next one along is all of the type. -/
theorem typeReference_word (stands : s.rest = ⟨.word, X⟩ :: rest) (plain : X ∉ compoundWords)
    (ends : (nextToken rest).category ∉ typeMarks) (apart : ¬TakesLong X rest) (l : LibraryId) :
    typeReference l s = resolve X l s.advance := by
  have named := typeName_word stands plain (not_scope ends) l
  rw [if_neg apart] at named
  rw [typeReference_of_typeName (word_not_parenthesis stands) named]
  exact typeReferenceAfter_plain (ne_of_plain plain (by decide)) (ReadState.peek_of_rest stands).2
    ends l

/-- A word that ends in `long` takes a `long` after it along. -/
theorem typeReference_long {more : List Token} (stands : s.rest = ⟨.word, X⟩ :: rest)
    (plain : X ∉ compoundWords) (takes : TakesLong X rest) (second : rest.tail = more)
    (ends : (nextToken more).category ∉ typeMarks) (l : LibraryId) :
    typeReference l s = resolve (X ++ " long") l s.advance.advance := by
  have named := typeName_word stands plain takes.not_scope l
  rw [if_pos takes] at named
  rw [typeReference_of_typeName (word_not_parenthesis stands) named]
  have left : s.advance.advance.rest = more := by
    rw [ReadState.rest_advance, (ReadState.peek_of_rest stands).2, second]
  refine typeReferenceAfter_plain (fun sequence => ?_) left ends l
  have letters := congrArg (fun text : String => text.toList.getLast?) sequence
  simp at letters

/-! ### No way back -/

theorem takesTokens_typeReference : typeReference.TakesTokens :=
  Congruence.Rel.typeReference (R := takingCongruence)

theorem takesTokens_typeReferenceAfter (limit : Nat) (name : String) :
    (typeReferenceAfter (below limit typeReference) name).TakesTokens := by
  have calls : (below limit typeReference).TakesTokens := by
    intro l s goesOn
    rw [below] at goesOn ⊢
    by_cases fewer : s.left < limit
    · rw [if_pos fewer] at goesOn ⊢
      obtain ⟨ts, takes⟩ := takesTokens_typeReference l s goesOn
      exact ⟨ts, .again fewer takes⟩
    · rw [if_neg fewer] at goesOn
      exact absurd rfl goesOn
  -- the productions for what follows a name, by the congruence of taking
  let R := takingCongruence
  let self := below limit typeReference
  have calls : R.Rel false .looking self self := calls
  have sequence : (sequenceType self).TakesTokens := Congruence.Rel.sequenceType calls
  have generic : (genericType self name).TakesTokens := Congruence.Rel.genericType calls name
  have marked (t : TypeId) : (nullableIfMarked t).TakesTokens :=
    Congruence.Rel.nullableIfMarked (R := R) t
  have named : (namedType name).TakesTokens := Congruence.Rel.namedType (R := R) name
  have looked : peekCategory.TakesTokens := Congruence.Rel.peekCategory (R := R)
  exact .bind looked fun _ => .ite (.bind sequence marked) <|
    .ite (.bind generic marked) (.bind named marked)

/-- Where two words were taken, the type is not what the first word alone is looked up as. -/
theorem typeReference_takes_two (stands : s.rest = ⟨.word, X⟩ :: rest)
    (plain : X ∉ compoundWords) (takes : TakesLong X rest) (l : LibraryId) :
    typeReference l s ≠ resolve X l s.advance := by
  intro same
  have named := typeName_word stands plain takes.not_scope l
  rw [if_pos takes] at named
  rw [typeReference_of_typeName (word_not_parenthesis stands) named] at same
  -- looking a name up leaves the second word to be read, and it was read already
  have left : (resolve X l s.advance).2.rest = rest :=
    ((Parser.Neutral.resolve X).rest rfl).trans (ReadState.peek_of_rest stands).2
  have some_left : rest ≠ [] := by
    rintro rfl
    exact absurd takes.2 (by decide)
  have going : (typeReferenceAfter (below s.left typeReference) (X ++ " long") l
      s.advance.advance).1 ≠ .error .stalled := by
    rw [same]
    intro stalled
    cases stalled
  obtain ⟨ts, consumed⟩ := takesTokens_typeReferenceAfter _ _ _ _ going
  have split := consumed.split (by rw [same, left]; exact some_left)
  rw [same, left, ReadState.rest_advance, (ReadState.peek_of_rest stands).2] at split
  have longer := congrArg List.length split
  have := List.length_pos_iff.2 some_left
  rw [List.length_tail, List.length_append] at longer
  omega

/-! ## Failing

A parser that fails after another one has come to an answer, whatever the answer is. -/

namespace Parser

variable {p : Parser α} {f : α → Parser β} {P : α → List Event → Catalog → Prop}

/-- What is told from a later state on, before which nothing was told of. -/
theorem Tells.from_later {q : Parser α} (same : q l s = p l u) (noted : u.told = s.told)
    (h : p.Tells l u rest P) : q.Tells l s rest P := by
  obtain ⟨a, more, v, run, left, told, holds⟩ := h
  exact ⟨a, more, v, same.trans run, left, noted ▸ told, holds⟩

theorem Tells.fails (h : p.Tells l s rest P)
    (next : ∀ a noted u, u.rest = rest → P a noted u.catalog → (f a).Fails l u) :
    (p >>= f).Fails l s := by
  obtain ⟨a, noted, u, run, left, -, q⟩ := h
  refine .of_apply ?_ (next a noted u left q)
  rw [Parser.bind_apply, run]

end Parser

/-! ## Attributes

An attribute up to its semicolon. The type is looked up, so it may add a placeholder; the name does
nothing. -/

/-- The tokens of an attribute. -/
def attributeTokens (X y : String) : List Token :=
  [⟨.word, "attribute"⟩, ⟨.word, X⟩, ⟨.word, y⟩, ⟨.semicolon, ";"⟩]

/-- What is read of an attribute after its type. -/
def declarator (type : TypeId) : Parser Member := do
  let name ← identifier
  if ← acceptRaises then skipRaises
  let _ ← require .semicolon
  return Member.property name type Modifiers.empty none

/-- A name is looked up from a later state on. -/
theorem resolve_later {p : Parser TypeId} {name : String} (same : p l s = resolve name l u)
    (store : u.store = s.store) (left : u.rest = rest) (registry : Registry s.catalog)
    (plain : name ≠ globalsName) :
    p.Answers l s rest fun t d => Mentioning s.catalog d ∧ d.lookUp l name = some t := by
  have catalog : u.catalog = s.catalog := congrArg Store.catalog store
  rw [← catalog] at registry ⊢
  exact .from_later same (ReadState.told_congr store) (resolve_answers left registry plain)

section Attributes

variable (stands : s.rest = attributeTokens X y ++ rest)

include stands

theorem property_apply (l : LibraryId) :
    property Modifiers.empty l s = (typeReference >>= declarator) l s.advance := by
  have peek := (ReadState.peek_of_rest stands).1
  have readOnly : (acceptKeyword "readonly").Passes s false :=
    passes_acceptKeyword (isKeyword_word peek (by decide))
  have word : (requireKeyword "attribute").Takes s () := takes_requireKeyword (by rw [peek]; rfl)
  rw [property, readOnly.bind_apply, word.bind_apply]
  simp only [Bool.false_eq_true, if_false, Modifiers.empty_or]
  rfl

/-- The member that starts with the word for attributes is a property. -/
theorem interfaceMember_apply (t : TypeId) (l : LibraryId) :
    interfaceMember t l s = (property Modifiers.empty >>= attachProperty t) l s := by
  have peek := (ReadState.peek_of_rest stands).1
  have bracket : s.peek.category ≠ .bracketOpen := by
    rw [peek]
    exact nofun
  have attributes : memberAttributes.Passes s Modifiers.empty :=
    (passes_collect ((passes_accept bracket).bind fun _ => rfl)).bind fun _ => rfl
  have other (word : String) (differs : "attribute" ≠ word) : (acceptKeyword word).Passes s false :=
    passes_acceptKeyword (isKeyword_word peek differs)
  have here : (atAnyKeyword ["readonly", "attribute"]).Passes s true := by
    have looked := passes_look (fun t => ["readonly", "attribute"].any t.isKeyword) s
    rwa [peek] at looked
  -- no attributes and none of the words in front, so the word is `attribute`
  rw [interfaceMember, attributes.bind_apply, (other "static" (by decide)).bind_apply,
    (other "stringifier" (by decide)).bind_apply]
  dsimp only
  rw [if_neg Bool.false_ne_true, (other "inherit" (by decide)).bind_apply, interfaceMemberNamed,
    here.bind_apply, if_pos rfl, if_neg Bool.false_ne_true, Modifiers.or_self]

theorem type_stands : s.advance.rest = ⟨.word, X⟩ :: ⟨.word, y⟩ :: ⟨.semicolon, ";"⟩ :: rest :=
  (ReadState.peek_of_rest stands).2

/-- The type and the name are told apart. -/
theorem property_answers (plain : X ∉ compoundWords) (apart : ¬(endsInLong X = true ∧ y = "long"))
    (registry : Registry s.catalog) (named : X ≠ globalsName) :
    (property Modifiers.empty).Answers l s rest fun a d =>
      ∃ u, a = Member.property y u Modifiers.empty none ∧ Mentioning s.catalog d ∧
        d.lookUp l X = some u := by
  have stands' := type_stands stands
  -- the name is not taken along with the type
  have ends : ¬TakesLong X (⟨.word, y⟩ :: ⟨.semicolon, ";"⟩ :: rest) := by
    rintro ⟨letters, word⟩
    have other : y ≠ "long" := fun long => apart ⟨letters, long⟩
    have differs : (⟨.word, y⟩ : Token).isKeyword "long" = false := isKeyword_word rfl other
    exact Bool.false_ne_true (differs.symm.trans word)
  have read := typeReference_word stands' plain (by simp [nextToken, typeMarks]) ends l
  rw [← s.catalog_advance] at registry ⊢
  refine .from_later (property_apply stands l) s.told_advance ?_
  refine (resolve_later read (ReadState.store_advance _) (ReadState.peek_of_rest stands').2 registry
    named).bind ?_
  rintro u v left ⟨later, found⟩
  obtain ⟨peek, left⟩ := ReadState.peek_of_rest left
  refine (takes_identifier (by rw [peek])).tells ?_
  rw [← v.catalog_advance] at later found
  rw [peek]
  obtain ⟨peek, left⟩ := ReadState.peek_of_rest left
  refine (passes_acceptRaises (by rw [peek]; decide)).tells ?_
  refine (takes_require (by rw [peek])).tells ?_
  rw [← v.advance.catalog_advance] at later found
  exact answers_of_run rfl left rfl ⟨u, rfl, later, found⟩

/-- Where the type takes the name along, no name is left. -/
theorem property_fails (plain : X ∉ compoundWords) (letters : endsInLong X = true)
    (long : y = "long") (registry : Registry s.catalog) (l : LibraryId) :
    (property Modifiers.empty).Fails l s := by
  subst long
  have stands' := type_stands stands
  have takes : TakesLong X (⟨.word, "long"⟩ :: ⟨.semicolon, ";"⟩ :: rest) := ⟨letters, rfl⟩
  -- the type takes the name along, and the semicolon stands in the place of the name
  have read := typeReference_long stands' plain takes rfl (by simp [nextToken, typeMarks]) l
  have left : s.advance.advance.advance.rest = ⟨.semicolon, ";"⟩ :: rest := by
    rw [ReadState.rest_advance, (ReadState.peek_of_rest stands').2]
    rfl
  have store : s.advance.advance.advance.store = s.advance.store := by
    rw [ReadState.store_advance, ReadState.store_advance]
  have name : X ++ " long" ≠ globalsName := by
    intro globals
    have letters := congrArg (fun text : String => text.toList.getLast?) globals
    simp [globalsName] at letters
  rw [← s.catalog_advance] at registry
  refine .of_apply (property_apply stands l) (Tells.fails (resolve_later read store left registry
    name) ?_)
  intro t _ u left _
  have other : u.peek.category ≠ .word := by
    rw [(ReadState.peek_of_rest left).1]
    decide
  exact ((refuses_identifier other).fails l).bind

end Attributes

/-! ## Interfaces with one attribute

The tokens of such an interface are written out, and read from the first to the last. -/

/-- The property is attached to the type itself, in the place of an earlier one. -/
theorem attachProperty_answers {a : Member} (registry : Registry s.catalog)
    (tables : s.catalog.Tables) (bound : t.index < s.catalog.types.size)
    (stands : s.catalog.isReopening t = false) (home : Table.home a = .properties) :
    (attachProperty t a).Tells l s s.rest fun _ _ d => Retains s.catalog d ∧ Registry d ∧
      d.Tables ∧ d.listed .properties t a.name = some a.bare := by
  let added := s.catalog.addProperty t a
  have storage : s.catalog.storage t = t := followReopenings_of_stands _ stands
  have holds : Table.properties.Holds a := home ▸ Table.holds_home a
  have tables' : added.2.Tables := (placed_enter .properties s.catalog t a).tables holds tables
  have quiet : Quiet s.catalog added.2 := quiet_addProperty s.catalog t a
  have keeps := keepsLists_document added.2 l (.member added.1)
  have documented := quiet_document added.2 l (.member added.1)
  refine ⟨(), _, s.put (attachedStore s l t added), rfl, rfl, told_attachedStore s l t added, ?_,
    ?_, keeps.grows.tables tables', ?_⟩
  · exact (quiet.retains registry fun _ => sameShapes_enter .properties s.catalog t a _).trans
      (documented.retains (registry.quiet quiet) fun _ => rfl)
  · exact (registry.quiet quiet).quiet documented
  · have inside : (s.catalog.storage t).index < s.catalog.types.size := storage.symm ▸ bound
    -- the type stores its own members, so the property is listed under it
    have listed : (enter .properties s.catalog t a).2.listed .properties t a.name = _ :=
      listed_enter tables inside .properties t a.name
    rw [if_pos ⟨storage.symm, rfl, rfl⟩] at listed
    exact (keeps.listed tables' .properties t a.name).trans listed

/-- The tokens of an interface with one attribute. -/
def propertyTokens (I X y : String) : List Token :=
  BodyForm.interface.start false I ++ (attributeTokens X y ++ bodyEnd)

/-- What the library has after such an interface: the property `m` of the type `t`, whose type `u`
is the one that is named. -/
structure Catalog.HasProperty (d : Catalog) (l : LibraryId) (I X y : String) (t : TypeId)
    (m : MemberId) (u : TypeId) : Prop where
  entry : (d.library l).types[I]? = some t
  property : d.property? t y = some m
  owner : (d.member m).owner = some t
  member : (d.member m).bare = Member.property y u Modifiers.empty none
  lookUp : d.lookUp l X = some u
  typeName : d.typeName u = X

/-- The description declares the interface, and then there is the body. -/
theorem interface_opens {c : Catalog} {more : List Token} (here : s.catalog = c)
    (readable : c.Readable l) (plain : I ≠ globalsName) (other : I ≠ "mixin")
    (stands : s.rest = BodyForm.interface.start false I ++ more) :
    ∃ t es d v, Declaration l .interface I c false (.ok t) es d ∧ v.rest = more ∧ v.catalog = d ∧
      declarationWith declarations l s = BodyForm.interface.body t l v := by
  subst here
  obtain ⟨u, rest, store, run⟩ :=
    declaration_apply (l := l) .interface false declarations stands fun _ => other
  have catalog : u.catalog = s.catalog := congrArg Store.catalog store
  have performs : (declareNamed .interface false I).Performs l s.catalog fun answer es d =>
      Declaration l .interface I s.catalog false answer es d :=
    declareNamed_performs readable plain false
  obtain ⟨answer, es, x, declared, -, declaration⟩ := performs u catalog
  obtain ⟨t, rfl⟩ := declaration.accepted
  obtain ⟨v, rest, store, named⟩ := named_apply (b := .interface) rest declared
  exact ⟨t, es, x.catalog, v, declaration, rest, congrArg Store.catalog store, run.trans named⟩

/-- What is known of the type when its body starts. -/
theorem Declaration.opened {c d : Catalog} {es : List Event}
    (declaration : Declaration l .interface I c false (.ok t) es d) (readable : c.Readable l)
    (plain : I ≠ globalsName) (tables : c.Tables) :
    d.Readable l ∧ d.Tables ∧ t.index < d.types.size ∧ d.isReopening t = false ∧
      (d.library l).types[I]? = some t := by
  have step : Step l c es d := .declaration plain (by decide) declaration
  have introduced := (declaration.introduces readable plain (by decide)).introduced
  have kind : (d.type t).kind = .interface :=
    introduced.kind.resolve_right fun bare => absurd bare.1 (by decide)
  refine ⟨step.readable readable, ?_, introduced.bound, ?_, ?_⟩
  · exact (step.files readable).grows.tables tables
  · rw [isReopening, kind]
    rfl
  · exact introduced.lookup_self

/-- What an attribute leaves behind in the catalog. -/
structure Catalog.GetsProperty (c : Catalog) (l : LibraryId) (X y : String) (t u : TypeId)
    (d : Catalog) : Prop where
  retains : Retains c d
  registry : Registry d
  tables : d.Tables
  lookUp : d.lookUp l X = some u
  listed : d.listed .properties t y = some (Member.property y u Modifiers.empty none)

theorem interfaceMember_answers (stands : s.rest = attributeTokens X y ++ rest)
    (plain : X ∉ compoundWords) (apart : ¬(endsInLong X = true ∧ y = "long"))
    (registry : Registry s.catalog) (tables : s.catalog.Tables)
    (bound : t.index < s.catalog.types.size) (owns : s.catalog.isReopening t = false)
    (named : X ≠ globalsName) :
    (interfaceMember t).Tells l s rest fun _ _ d => ∃ u, s.catalog.GetsProperty l X y t u d := by
  refine .of_apply (interfaceMember_apply stands t l) ?_
  refine (property_answers stands plain apart registry named).bind ?_
  rintro _ v left ⟨u, rfl, later, found⟩
  have retains := later.retains registry
  have registry' := later.registry registry
  have tables' := later.keepsLists.grows.tables tables
  have bound' := Nat.lt_of_lt_of_le bound later.size_le
  have owns' := (retains.isReopening bound).trans owns
  rw [← left]
  refine (attachProperty_answers registry' tables' bound' owns' rfl).imp ?_
  rintro _ _ d ⟨attached, registry'', tables'', listed⟩
  exact ⟨u, retains.trans attached, registry'', tables'', attached.lookUp named found, listed⟩

theorem body_answers (stands : s.rest = attributeTokens X y ++ (bodyEnd ++ [Token.endOfInput]))
    (plain : X ∉ compoundWords) (apart : ¬(endsInLong X = true ∧ y = "long"))
    (registry : Registry s.catalog) (tables : s.catalog.Tables)
    (bound : t.index < s.catalog.types.size) (owns : s.catalog.isReopening t = false)
    (named : X ≠ globalsName) :
    (BodyForm.interface.body t).Tells l s [Token.endOfInput] fun _ _ d =>
      ∃ u, s.catalog.GetsProperty l X y t u d := by
  have starts : s.peek.category.startsEntry = true := by
    rw [(ReadState.peek_of_rest stands).1]
    rfl
  -- one entry, and then the brace
  have entry : (bodyOf (interfaceMember t)).Tells l s (⟨.semicolon, ";"⟩ :: [Token.endOfInput])
      fun _ _ d => ∃ u, s.catalog.GetsProperty l X y t u d := by
    refine .of_apply (bodyOf_apply starts) ?_
    refine (interfaceMember_answers stands plain apart registry tables bound owns named).bind ?_
    rintro _ _ v left gets
    obtain ⟨peek, left'⟩ := ReadState.peek_of_rest left
    have fewer : v.left < s.left := by
      rw [v.left_eq, s.left_eq, left, stands]
      simp [attributeTokens]
    refine Tells.below fewer ⟨(), [], v.advance, bodyOf_close (by rw [peek]), left', ?_, ?_⟩
    · rw [v.told_advance, List.append_nil]
    · rwa [v.catalog_advance]
  refine entry.bind ?_
  rintro _ _ v left gets
  obtain ⟨peek, left⟩ := ReadState.peek_of_rest left
  have semicolon : (accept .semicolon).Takes v true := fun _ => if_pos (by rw [peek])
  rw [← v.catalog_advance] at gets
  exact semicolon.tells ⟨(), [], v.advance, rfl, left, (List.append_nil _).symm, gets⟩

theorem body_fails (stands : s.rest = attributeTokens X y ++ rest) (plain : X ∉ compoundWords)
    (letters : endsInLong X = true) (long : y = "long") (registry : Registry s.catalog)
    (t : TypeId) (l : LibraryId) : (BodyForm.interface.body t).Fails l s := by
  have starts : s.peek.category.startsEntry = true := by
    rw [(ReadState.peek_of_rest stands).1]
    rfl
  have member : (interfaceMember t).Fails l s :=
    .of_apply (interfaceMember_apply stands t l)
      (property_fails stands plain letters long registry l).bind
  have entries : (bodyOf (interfaceMember t)).Fails l s :=
    .of_apply (bodyOf_apply starts) member.bind
  exact entries.bind

/-- What the interface has is there in the end. -/
theorem Catalog.GetsProperty.hasProperty {c d : Catalog} {u : TypeId}
    (gets : c.GetsProperty l X y t u d) (readable : c.Readable l)
    (bound : t.index < c.types.size) (owns : c.isReopening t = false)
    (entry : (c.library l).types[I]? = some t) (named : X ≠ globalsName) :
    ∃ m, d.HasProperty l I X y t m u := by
  have elsewhere : l ≠ Catalog.hidden := by
    rintro rfl
    exact absurd readable.two_le (by decide)
  have storage : d.storage t = t :=
    followReopenings_of_stands _ ((gets.retains.isReopening bound).trans owns)
  have listed := gets.listed
  rw [Catalog.listed, Option.map_eq_some_iff] at listed
  obtain ⟨m, found, bare⟩ := listed
  refine ⟨m, ?_, ?_, (gets.tables .properties t y m found).2.1, bare, gets.lookUp, ?_⟩
  · rw [gets.retains.entry elsewhere, entry]
  · rw [property?, storage]
    exact found
  · exact (lookUp_isEntry gets.registry named gets.lookUp).name

/-- An interface with one attribute is accepted, with the property it declares, if type and name are
apart, and refused otherwise. -/
theorem propertyInterface_iff {c : Catalog} (readable : c.Readable l) (tables : c.Tables)
    (plain : X ∉ compoundWords) (other : I ≠ "mixin") {source : String}
    (stands : tokens source.toList = propertyTokens I X y ++ [Token.endOfInput]) :
    let run := c.ingest l source
    (run.outcome = .ok () ∧ ∃ t m u, run.catalog.HasProperty l I X y t m u) ↔
      ¬(endsInLong X = true ∧ y = "long") := by
  intro run
  let s := ReadState.start (tokens source.toList) c
  have word {w : String} (inside : (⟨.word, w⟩ : Token) ∈ propertyTokens I X y) :
      w ≠ globalsName :=
    word_ne_globalsName (ReadState.start_plain source.toList c _
      (stands ▸ List.mem_append_left _ inside) rfl)
  have namedI : I ≠ globalsName := word (by simp [propertyTokens, BodyForm.start, BodyForm.opening])
  have namedX : X ≠ globalsName := word (by simp [propertyTokens, attributeTokens])
  have left : s.rest = BodyForm.interface.start false I ++
      (attributeTokens X y ++ (bodyEnd ++ [Token.endOfInput])) :=
    stands.trans (by simp [propertyTokens])
  have notLast : ¬AtLast s := BodyForm.start_not_atLast left
  obtain ⟨t, es, d, v, declaration, rest, rfl, opened⟩ :=
    interface_opens (s := s) rfl readable namedI other left
  obtain ⟨readable', tables', bound, owns, entry⟩ := declaration.opened readable namedI tables
  -- the two directions have the opening of the interface in common
  by_cases together : endsInLong X = true ∧ y = "long"
  · refine iff_of_false ?_ (not_not_intro together)
    have body := body_fails rest plain together.1 together.2 readable'.registry t l
    have fails : description.Fails l s := description_fails notLast (.of_apply opened body)
    exact fun accepted => ingest_of_fails fails accepted.1
  · refine iff_of_true ?_ together
    obtain ⟨_, noted, u, ended, left', -, x, gets⟩ :=
      body_answers (l := l) rest plain together readable'.registry tables' bound owns namedX
    have fewer : u.left < s.left := by
      rw [u.left_eq, s.left_eq, left', left]
      simp [attributeTokens, bodyEnd]
    have last : u.peek.category = .eof := by
      rw [(ReadState.peek_of_rest left').1]
      rfl
    have whole : description l s = (.ok (), u.advance) :=
      (description_first notLast (opened.trans ended) fewer).trans (description_last last)
    obtain ⟨outcome, catalog⟩ := ingest_of_read whole
    obtain ⟨m, has⟩ := gets.hasProperty readable' bound owns entry namedX
    rw [u.catalog_advance] at catalog
    exact ⟨outcome, t, m, x, catalog ▸ has⟩

/-! ## Types and names

The two parts of the statement, for a source whose tokens are these. -/

/-- A type of one word ends after the word, and is what the word is looked up as, unless the word
ends in `long` and the next one is `long`. So after every session, in every library, an attribute
of any interface declares the property of the type that is named, whatever words type and name are,
with the same exception, in which the description is refused. -/
theorem declarators_apart_iff (commands : List Command) (added : (after commands).WasAdded l)
    (plain : X ∉ compoundWords) :
    (∀ (s : ReadState) (rest : List Token), s.rest = ⟨.word, X⟩ :: rest →
      (nextToken rest).category ∉ typeMarks →
        (typeReference l s = resolve X l s.advance ↔
          ¬(endsInLong X = true ∧ (nextToken rest).isKeyword "long" = true))) ∧
    ∀ I y source : String, I ≠ "mixin" →
      tokens source.toList = propertyTokens I X y ++ [Token.endOfInput] →
        let run := (after commands).ingest l source
        ((run.outcome = .ok () ∧ ∃ t m u, run.catalog.HasProperty l I X y t m u) ↔
          ¬(endsInLong X = true ∧ y = "long")) := by
  refine ⟨fun s rest stands ends => ⟨fun same together => ?_, fun apart => ?_⟩, ?_⟩
  · exact typeReference_takes_two stands plain together l same
  · exact typeReference_word stands plain ends apart l
  · intro I y source other stands
    exact propertyInterface_iff ((registry_after commands).readable added) (tables_after commands)
      plain other stands

/-- A keyword is a name like any other, and so is `long` after a type that does not end so. -/
theorem declarators_apart_long :
    let commands : List Command := [.addLibrary "dom" false .silent]
    let source := "interface File { attribute Blob long; };"
    let run := (after commands).ingest ⟨2⟩ source
    (after commands).WasAdded ⟨2⟩ ∧ "Blob" ∉ compoundWords ∧ "File" ≠ "mixin" ∧
      tokens source.toList = propertyTokens "File" "Blob" "long" ++ [Token.endOfInput] ∧
      run.outcome = .ok () ∧ ∃ t m u, run.catalog.HasProperty ⟨2⟩ "File" "Blob" "long" t m u := by
  intro commands source run
  have added : (after commands).WasAdded ⟨2⟩ := by decide +kernel
  have stands : tokens source.toList = propertyTokens "File" "Blob" "long" ++ [Token.endOfInput] := by
    decide +kernel
  have apart := (declarators_apart_iff commands added (X := "Blob") (by decide)).2 "File" "long"
    source (by decide) stands
  exact ⟨added, by decide, by decide, stands, apart.2 (by decide)⟩

/-- The type `oblong` takes the name of the attribute along, although it is no numeric type. -/
theorem oblong_takes_long :
    let commands : List Command := [.addLibrary "dom" false .silent]
    let source := "interface I { attribute oblong long; };"
    (after commands).WasAdded ⟨2⟩ ∧ "oblong" ∉ compoundWords ∧ "I" ≠ "mixin" ∧
      tokens source.toList = propertyTokens "I" "oblong" "long" ++ [Token.endOfInput] ∧
      ((after commands).ingest ⟨2⟩ source).outcome.isOk = false := by
  decide +kernel

end IdlCatalog
