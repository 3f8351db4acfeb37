/-
# IdlCatalog.Proofs.Grammar.Openings — declarations with a body, up to the body

An interface or a dictionary starts with its keyword, its name and a brace. What these words are
read as depends on nothing before them: the declaration does what it does with its name, and goes on
with the body. A description goes on after its first declaration as if it started there.

## What is left out

The forms here have no clause and no attribute in front, since results that cut a declaration in two
or move its body to another place write the words in front themselves. Declarations of other forms
are covered by the general theorems about productions.

One name is special: after `interface` the word `mixin` is a keyword. `interface_mixin` and
`declaration_mixin` say what becomes of it, so that results about all names need not exclude it
without saying why.
-/
import IdlCatalog.Proofs.Composition
import IdlCatalog.Proofs.Grammar.Bodies
import IdlCatalog.Proofs.Grammar.Replaying

namespace IdlCatalog

open Grammar Catalog Lexer IdlCatalog.Parser

/-! ## Forms of bodies

What interfaces and dictionaries have in common as declarations with a body, as one type of two
forms. They differ in their keyword, their kind, what is read for an entry, and in whether the
semicolon at the end may be missing. -/

/-- The declarations with a body that may be reopened. -/
inductive BodyForm
  | interface
  | dictionary
deriving DecidableEq

namespace BodyForm

/-- The word that starts the declaration. -/
def keyword : BodyForm → String
  | interface => "interface"
  | dictionary => "dictionary"

/-- The kind of type that is declared. -/
def kind : BodyForm → Kind
  | interface => .interface
  | dictionary => .dictionary

/-- What is read for an entry of the body. -/
def entry : BodyForm → TypeId → Parser Unit
  | interface => interfaceMember
  | dictionary => dictionaryEntry

/-- The tokens of a declaration of the name up to the brace that opens its body. -/
def opening (b : BodyForm) (name : String) : List Token :=
  [⟨.word, b.keyword⟩, ⟨.word, name⟩, ⟨.braceOpen, "\x7b"⟩]

/-- The body after its opening brace, and the semicolon after it, which an interface may lack. -/
def body (b : BodyForm) (t : TypeId) : Parser Unit := do
  bodyOf (b.entry t)
  match b with
  | interface => let _ ← accept .semicolon
  | dictionary => let _ ← require .semicolon

/-- Both kinds are kinds that declarations have. -/
theorem isDeclared (b : BodyForm) : b.kind.IsDeclared := by
  cases b <;> decide

end BodyForm

/-- The tokens that close a body and the declaration. -/
def bodyEnd : List Token := [⟨.braceClose, "\x7d"⟩, ⟨.semicolon, ";"⟩]

/-! ## Openings

The words up to the brace are computed: the keyword and the name are read, the name is declared, and
the brace is required. What is left to be read is what follows. -/

/-- Actions leave the tokens. -/
theorem Parser.Neutral.rest {α : Type} {p : Parser α} (neutral : p.Neutral) {l : LibraryId}
    {s t : ReadState} {answer : Except (Failure Fault) α} (run : p l s = (answer, t)) :
    t.rest = s.rest := by
  obtain ⟨_, _, same, -⟩ := neutral l s.catalog
  obtain ⟨j, eq⟩ := same s rfl
  rw [run] at eq
  obtain ⟨-, rfl⟩ := Prod.mk.inj eq
  rfl

/-- What a declaration does with its name, and then its body. -/
def BodyForm.named (b : BodyForm) (reopens : Bool) (name : String) : Parser TypeId := do
  let t ← declareNamed b.kind reopens name
  let _ ← require .braceOpen
  b.body t
  return t

/-- A word is not the end of the input. -/
theorem not_atLast_of_word {s : ReadState} (word : s.peek.category = .word) : ¬AtLast s := by
  rw [AtLast, word]
  decide

section Openings

variable {l : LibraryId} {s : ReadState} {name : String} {more : List Token}

/-- A dictionary is its name and its body. -/
theorem dictionary_apply (reopens : Bool)
    (stands : s.rest = BodyForm.dictionary.opening name ++ more) :
    dictionary reopens l s = BodyForm.dictionary.named reopens name l (s.drop 2) := by
  obtain ⟨peek, rest⟩ := ReadState.peek_of_rest stands
  obtain ⟨peek', rest'⟩ := ReadState.peek_of_rest rest
  have word : s.peek.isKeyword "dictionary" = true := by
    rw [peek]
    decide
  have named : s.advance.peek.category = .word := by rw [peek']
  rw [dictionary, (takes_requireKeyword word).bind_apply, declaredType_eq, bind_assoc,
    (takes_identifier named).bind_apply, peek', BodyForm.named]
  refine bind_congr fun t u run => ?_
  -- declaring the name takes no token, so that the brace is next
  have brace : u.peek.category = .braceOpen := by
    have same := (Parser.Neutral.declareNamed _ _ _).rest run
    rw [(ReadState.peek_of_rest (same.trans rest')).1]
  have clauses : (superTypeIfAny t).Passes u () :=
    (passes_accept (by rw [brace]; decide)).bind fun _ => rfl
  rw [clauses.bind_apply]
  simp [BodyForm.body, BodyForm.entry]

/-- Before a token that starts none of them there are no clauses. -/
theorem passes_interfaceClauses (strange : s.peek.category.startsEntry = false)
    (colon : s.peek.category ≠ .colon) (comma : s.peek.category ≠ .comma) (t : TypeId) :
    (interfaceClauses t).Passes s () := by
  have noSuper : acceptExtends.Passes s false :=
    (passes_accept colon).bind (passes_acceptKeyword (strange_keyword strange _))
  have noMixin : (listedMixins t).Passes s () := by
    refine (passes_atKeyword strange _).bind <| (passes_look (·.category) s).bind ?_
    rw [decide_eq_false comma]
    exact fun _ => rfl
  exact noSuper.bind noMixin

/-- What is read of an interface after its clauses. -/
def interfaceBody (t : TypeId) : Parser TypeId := do
  if ← accept .semicolon then return t
  let _ ← require .braceOpen
  bodyOf (interfaceMember t)
  let _ ← accept .semicolon
  return t

/-- The name is declared, and what comes after it is read. -/
theorem interface_declared {kind : Kind} {t : TypeId} {x : Store}
    (stands : s.rest = ⟨.word, "interface"⟩ :: ⟨.word, name⟩ :: more) (other : name ≠ "mixin")
    (declared : declareNamed kind false name l (s.drop 2) = (.ok t, (s.drop 2).put x))
    (clauses : (interfaceClauses t).Passes ((s.drop 2).put x) ()) :
    interface kind false l s = interfaceBody t l ((s.drop 2).put x) := by
  obtain ⟨-, rest⟩ := ReadState.peek_of_rest stands
  obtain ⟨peek, -⟩ := ReadState.peek_of_rest rest
  have first : Parser.next.Takes s s.peek := fun _ => rfl
  have word : s.advance.peek.isKeyword "mixin" = false := by
    rw [peek]
    simpa [Token.isKeyword] using other
  have named : s.advance.peek.category = .word := by rw [peek]
  have run : declareNamed (if false = true then Kind.noInterfaceObject else kind) false name l
      s.advance.advance = (.ok t, (s.drop 2).put x) := declared
  rw [interface, first.bind_apply, (passes_acceptKeyword word).bind_apply, declaredType_eq,
    bind_assoc, (takes_identifier named).bind_apply, peek, Parser.bind_apply, run]
  dsimp only
  rw [clauses.bind_apply]
  rfl

/-- An interface is read after its attributes. -/
theorem attributedDeclaration_interface {asked : DeclarationAttributes} {u : ReadState}
    (read : declarationAttributes l s = (.ok asked, u))
    (stands : u.rest = ⟨.word, "interface"⟩ :: more) :
    attributedDeclaration l s =
      (interface (asked.kind.getD .interface) false >>= applyAttributes asked) l u := by
  have peek := (ReadState.peek_of_rest stands).1
  have other (word : String) (differs : "interface" ≠ word) :
      (acceptKeyword word).Passes u false :=
    passes_acceptKeyword (by rw [peek]; simpa [Token.isKeyword] using differs)
  have words : (atAnyKeyword ["interface", "class"]).Passes u true := by
    have here := passes_look (fun t => ["interface", "class"].any t.isKeyword) u
    rwa [peek] at here
  rw [attributedDeclaration, Parser.bind_apply, read]
  dsimp only
  rw [(other "partial" (by decide)).bind_apply, (other "callback" (by decide)).bind_apply,
    if_neg Bool.false_ne_true, Parser.bind_apply, attributedType, words.bind_apply, if_pos rfl,
    Parser.bind_apply]

/-- An interface is its name and its body, unless its name is `mixin`. -/
theorem interface_apply (reopens : Bool) (stands : s.rest = BodyForm.interface.opening name ++ more)
    (other : name ≠ "mixin") :
    interface .interface reopens l s = BodyForm.interface.named reopens name l (s.drop 2) := by
  obtain ⟨peek, rest⟩ := ReadState.peek_of_rest stands
  obtain ⟨peek', rest'⟩ := ReadState.peek_of_rest rest
  -- the name `mixin` would be taken for the keyword
  have word : s.advance.peek.isKeyword "mixin" = false := by
    rw [peek']
    simpa [Token.isKeyword] using other
  have named : s.advance.peek.category = .word := by rw [peek']
  have first : Parser.next.Takes s s.peek := fun _ => rfl
  rw [interface, first.bind_apply, (passes_acceptKeyword word).bind_apply, declaredType_eq,
    bind_assoc, (takes_identifier named).bind_apply, peek', BodyForm.named]
  refine bind_congr fun t u run => ?_
  have brace : u.peek.category = .braceOpen := by
    have same := (Parser.Neutral.declareNamed _ _ _).rest run
    rw [(ReadState.peek_of_rest (same.trans rest')).1]
  have clauses : (interfaceClauses t).Passes u () :=
    passes_interfaceClauses (by rw [brace]; rfl) (by rw [brace]; decide) (by rw [brace]; decide) t
  rw [clauses.bind_apply, (passes_accept (by rw [brace]; decide)).bind_apply]
  simp [BodyForm.body, BodyForm.entry]

/-- An interface cannot have the name `mixin`: the word is taken for the one that marks mixins, and
there is no name after it. -/
theorem interface_mixin (reopens : Bool) {t : Token}
    (stands : s.rest = ⟨.word, "interface"⟩ :: ⟨.word, "mixin"⟩ :: t :: more)
    (nameless : t.category ≠ .word) :
    interface .interface reopens l s = Parser.expected (.token .word) l (s.drop 2) := by
  obtain ⟨-, rest⟩ := ReadState.peek_of_rest stands
  obtain ⟨peek, rest'⟩ := ReadState.peek_of_rest rest
  obtain ⟨peek', -⟩ := ReadState.peek_of_rest rest'
  have word : s.advance.peek.isKeyword "mixin" = true := by
    rw [peek]
    decide
  have first : Parser.next.Takes s s.peek := fun _ => rfl
  have refused : identifier l s.advance.advance =
      Parser.expected (.token .word) l s.advance.advance := by
    rw [identifier, Parser.bind_apply, require, if_neg (by rwa [peek'])]
    rfl
  rw [interface, first.bind_apply, (takes_acceptKeyword word).bind_apply, declaredType_eq,
    bind_assoc, Parser.bind_apply, refused]
  rfl

/-- A declaration with a body is its name and its body. -/
theorem attributedType_apply (b : BodyForm) (reopens : Bool)
    (stands : s.rest = b.opening name ++ more) (other : b = .interface → name ≠ "mixin") :
    attributedType .interface reopens l s = b.named reopens name l (s.drop 2) := by
  obtain ⟨peek, -⟩ := ReadState.peek_of_rest stands
  -- the keyword decides
  cases b with
  | interface =>
    have words : (atAnyKeyword ["interface", "class"]).Passes s true := by
      have here := passes_look (fun t => ["interface", "class"].any t.isKeyword) s
      rwa [peek] at here
    rw [attributedType, words.bind_apply, if_pos rfl, interface_apply reopens stands (other rfl)]
  | dictionary =>
    have words : (atAnyKeyword ["interface", "class"]).Passes s false := by
      have here := passes_look (fun t => ["interface", "class"].any t.isKeyword) s
      rwa [peek] at here
    have exception : (atKeyword "exception").Passes s false := by
      have here := passes_look (·.isKeyword "exception") s
      rwa [peek] at here
    have dictionary : (atKeyword "dictionary").Passes s true := by
      have here := passes_look (·.isKeyword "dictionary") s
      rwa [peek] at here
    rw [attributedType, words.bind_apply, if_neg (by decide), exception.bind_apply,
      if_neg (by decide), dictionary.bind_apply, if_pos rfl, dictionary_apply reopens stands]

/-! ### With what stands before -/

/-- The tokens of a declaration up to the brace that opens its body, the word for partial ones
included. -/
def BodyForm.start (b : BodyForm) (reopens : Bool) (name : String) : List Token :=
  (if reopens then [⟨.word, "partial"⟩] else []) ++ b.opening name

/-- A declaration is read by what its first words say, after the word for partial ones. -/
theorem attributedDeclaration_apply (b : BodyForm) (reopens : Bool)
    (stands : s.rest = b.start reopens name ++ more) :
    ∃ u : ReadState, u.rest = b.opening name ++ more ∧ u.store = s.store ∧
      attributedDeclaration l s =
        (attributedType .interface reopens >>= fun _ => pure ()) l u := by
  have attributes : s.peek.category ≠ .bracketOpen →
      declarationAttributes.Passes s DeclarationAttributes.none := fun other =>
    (passes_collect ((passes_accept other).bind fun _ => rfl)).bind fun _ => rfl
  have named {u : ReadState} (rest : u.rest = b.opening name ++ more) :
      (acceptKeyword "callback").Passes u false := by
    refine passes_acceptKeyword ?_
    rw [(ReadState.peek_of_rest rest).1]
    cases b <;> decide
  -- with `partial` in front, or without it
  cases reopens with
  | false =>
    have rest : s.rest = b.opening name ++ more := stands
    have peek := (ReadState.peek_of_rest rest).1
    have word : s.peek.isKeyword "partial" = false := by
      rw [peek]
      cases b <;> decide
    refine ⟨s, rest, rfl, ?_⟩
    rw [attributedDeclaration, (attributes (by rw [peek]; nofun)).bind_apply,
      (passes_acceptKeyword word).bind_apply, (named rest).bind_apply]
    rfl
  | true =>
    obtain ⟨peek, rest⟩ := ReadState.peek_of_rest stands
    have word : s.peek.isKeyword "partial" = true := by
      rw [peek]
      decide
    refine ⟨s.advance, rest, s.store_advance, ?_⟩
    rw [attributedDeclaration, (attributes (by rw [peek]; decide)).bind_apply,
      (takes_acceptKeyword word).bind_apply, (named rest).bind_apply]
    rfl

/-- A declaration with a body is read as such. -/
theorem declarationWith_apply (b : BodyForm) (reopens : Bool) (self : Parser Unit)
    (stands : s.rest = b.start reopens name ++ more) :
    declarationWith self l s = attributedDeclaration l s := by
  have peek : Parser.peek.Passes s s.peek := fun _ => rfl
  have word : attributedKeywords.any s.peek.isKeyword = true := by
    cases reopens with
    | true =>
      rw [(ReadState.peek_of_rest stands).1]
      decide
    | false =>
      have rest : s.rest = b.opening name ++ more := stands
      rw [(ReadState.peek_of_rest rest).1]
      cases b <;> decide
  rw [declarationWith, peek.bind_apply, if_pos (by simp [word])]

/-- A declaration with a body: what it does with its name, and then the body. -/
theorem declaration_apply (b : BodyForm) (reopens : Bool) (self : Parser Unit)
    (stands : s.rest = b.start reopens name ++ more) (other : b = .interface → name ≠ "mixin") :
    ∃ u : ReadState, u.rest = ⟨.braceOpen, "\x7b"⟩ :: more ∧ u.store = s.store ∧
      declarationWith self l s = (b.named reopens name >>= fun _ => pure ()) l u := by
  obtain ⟨u, rest, store, run⟩ := attributedDeclaration_apply b reopens stands
  refine ⟨u.drop 2, ?_, ?_, ?_⟩
  · rw [ReadState.rest_drop, rest]
    rfl
  · rw [ReadState.store_drop, store]
  · rw [declarationWith_apply b reopens self stands, run, Parser.bind_apply, Parser.bind_apply,
      attributedType_apply b reopens rest other]

/-- After the word for mixins a name has to follow. -/
theorem declaration_mixin (self : Parser Unit)
    (stands : s.rest = BodyForm.interface.start false "mixin" ++ more) :
    ∃ u : ReadState, u.catalog = s.catalog ∧ u.peek = ⟨.braceOpen, "\x7b"⟩ ∧
      declarationWith self l s = Parser.expected (.token .word) l u := by
  obtain ⟨u, rest, store, run⟩ := attributedDeclaration_apply .interface false stands
  have catalog : u.catalog = s.catalog := congrArg Store.catalog store
  have words : (atAnyKeyword ["interface", "class"]).Passes u true := by
    have here := passes_look (fun t => ["interface", "class"].any t.isKeyword) u
    rwa [(ReadState.peek_of_rest rest).1] at here
  refine ⟨u.drop 2, (ReadState.catalog_drop u 2).trans catalog, ?_, ?_⟩
  · rw [ReadState.peek, ReadState.rest_drop, rest]
    rfl
  · rw [declarationWith_apply .interface false self stands, run, Parser.bind_apply, attributedType,
      words.bind_apply, if_pos rfl, interface_mixin false rest (by decide)]
    rfl

/-- A declaration that knows its type goes on with the body. -/
theorem named_apply {b : BodyForm} {reopens : Bool} {t : TypeId} {x : Store}
    (stands : s.rest = ⟨.braceOpen, "\x7b"⟩ :: more)
    (declared : declareNamed b.kind reopens name l s = (.ok t, s.put x)) :
    ∃ u : ReadState, u.rest = more ∧ u.store = x ∧
      (b.named reopens name >>= fun _ => pure ()) l s = b.body t l u := by
  obtain ⟨peek, rest⟩ := ReadState.peek_of_rest (s := s.put x) stands
  refine ⟨(s.put x).advance, rest, ReadState.store_advance _, ?_⟩
  rw [BodyForm.named, bind_assoc, Parser.bind_apply, declared]
  dsimp only
  rw [bind_assoc, (takes_require (by rw [peek])).bind_apply]
  simp

/-- A declaration starts before the end of the input. -/
theorem BodyForm.start_not_atLast {b : BodyForm} {reopens : Bool}
    (stands : s.rest = b.start reopens name ++ more) : ¬AtLast s := by
  refine not_atLast_of_word ?_
  rw [ReadState.peek, stands]
  cases reopens <;> rfl

/-- A declaration has more tokens than what follows its opening. -/
theorem BodyForm.start_left {b : BodyForm} {reopens : Bool}
    (stands : s.rest = b.start reopens name ++ more) : more.length < s.left := by
  rw [s.left_eq, stands, List.length_append]
  exact Nat.lt_add_of_pos_left (List.length_pos_of_mem (a := ⟨.word, name⟩) (by
    simp [start, opening]))

end Openings

/-! ## Descriptions

One declaration, and then the others from where it has ended. A description that consists of one
declaration ends there; if the first declaration fails, everything does. -/

section Descriptions

variable {l : LibraryId} {s u : ReadState}

/-- A description goes on after its first declaration. -/
theorem description_first (other : ¬AtLast s)
    (run : declarationWith declarations l s = (.ok (), u)) (fewer : u.left < s.left) :
    description l s = description l u := by
  rw [description, Parser.bind_apply, Parser.bind_apply, declarations_apply l s, if_neg other,
    Parser.bind_apply, run]
  dsimp only
  rw [below, if_pos fewer]

/-- A description ends with the input. -/
theorem description_last (ends : s.peek.category = .eof) :
    description l s = (.ok (), s.advance) := by
  rw [description, Parser.bind_apply, declarations_apply l s, if_pos (.inl ends)]
  exact (takes_require ends).bind_apply l

/-- A description whose first declaration is refused is refused. -/
theorem description_fails (other : ¬AtLast s) (first : (declarationWith declarations).Fails l s) :
    description.Fails l s := by
  obtain ⟨e, u, run⟩ := first
  refine ⟨e, u, ?_⟩
  rw [description, Parser.bind_apply, declarations_apply l s, if_neg other, Parser.bind_apply, run]

/-- A description is accepted where reading it comes to an answer. -/
theorem ingest_of_read {c : Catalog} {source : String}
    (read : description l (ReadState.start (tokens source.toList) c) = (.ok (), u)) :
    (c.ingest l source).outcome = .ok () ∧ (c.ingest l source).catalog = u.catalog := by
  rw [ingest_eq, read]
  exact ⟨rfl, rfl⟩

/-- A description that fails is refused as a source. -/
theorem ingest_of_fails {c : Catalog} {source : String}
    (fails : description.Fails l (ReadState.start (tokens source.toList) c)) :
    (c.ingest l source).outcome ≠ .ok () := by
  obtain ⟨e, u, run⟩ := fails
  rw [ingest_eq, run]
  exact nofun

end Descriptions

/-! ## Declared names

What the five cases of a declaration say about its answer, its name and its kind. -/

/-- A declaration that is not partial is never refused. -/
theorem Declaration.accepted {c d : Catalog} {l : LibraryId} {name : String} {kind : Kind}
    {es : List Event} {answer : Except (Failure Fault) TypeId}
    (declaration : Declaration l kind name c false answer es d) : ∃ t, answer = .ok t := by
  cases declaration with
  | upgraded | created => exact ⟨_, rfl⟩

/-- A declaration that is not partial introduces the type. -/
theorem Declaration.introduces {c d : Catalog} {l : LibraryId} {t : TypeId} {name : String}
    {kind : Kind} {es : List Event}
    (declaration : Declaration l kind name c false (.ok t) es d) (readable : c.Readable l)
    (plain : name ≠ globalsName) (declared : kind.IsDeclared) :
    Introduces l l name t kind c d := by
  cases declaration with
  | upgraded known free ok =>
    exact introduces_upgraded readable.registry readable.inside plain declared known free ok
  | created unknown ok =>
    have free := (existing?_eq_none plain unknown).1
    exact introduces_created readable.inside plain declared free ok

/-- A declaration that is not partial gives the type its kind. -/
theorem Declaration.kind_eq {c d : Catalog} {l : LibraryId} {t : TypeId} {name : String}
    {kind : Kind} {es : List Event} (declaration : Declaration l kind name c false (.ok t) es d)
    (bound : existing? l name c = some t → t.index < c.types.size) : (d.type t).kind = kind := by
  have entered {c d : Catalog} {u : TypeId} (entered : c.addType l u = .ok d) :
      ((d.document l (.type u)).type u).kind = (c.type u).kind := by
    obtain ⟨library, -, -, rfl⟩ := addType_eq_ok entered
    let b := c.modifyLibrary l fun _ => library
    let owned := b.modifyType u fun node => { node with library := some l }
    calc ((owned.document l (.type u)).type u).kind
        = (owned.type u).kind := type_modifyType_of_eq owned u u (·.kind) fun _ => rfl
      _ = (c.type u).kind := type_modifyType_of_eq b u u (·.kind) fun _ => rfl
  -- only the cases that do not reopen are left
  cases declaration with
  | upgraded known _ ok =>
    rw [entered ok]
    exact congrArg TypeNode.kind (type_modifyType_self c _ _ (bound known))
  | created _ ok =>
    have new : (c.newType name kind).2.type ⟨c.types.size⟩ = TypeNode.new name kind := by
      rw [newType, type_pushType, if_pos rfl]
    rw [entered ok, new]
    rfl

end IdlCatalog
