/-
# IdlCatalog.Proofs.Attributes — the order of attributes before a declaration does not matter

Attributes may be written in any order and in any number of blocks. What they ask for together can
be told from their names: the kind from whether there is one for globals, or else one for interfaces
without an object, and the qualifiers as the union of those of the attributes. Only constructors
keep the order in which they were written.

An interface that is written with attributes and an empty body shows this in the catalog. Its kind
is the one that was asked for, unless that is an interface without an object and there is a
constructor, which needs one.

The statement has two parts. One is about readings of attributes at any place: what is read is a row
of blocks, and every permutation of the attributes, in any blocks, asks for the same. The other
follows a whole description in a session, up to the kind that the name has at its end.
-/
import IdlCatalog.Proofs.Appending
import IdlCatalog.Proofs.Declarators
import IdlCatalog.Proofs.ForwardDeclarations
import IdlCatalog.Proofs.Grammar.AttributeMeaning

namespace IdlCatalog

open Grammar Catalog Lexer IdlCatalog.Parser

variable {l : LibraryId} {s u : ReadState} {row rest : List Token} {rows : List (List Token)}
  {blocks : List (List (List Token))} {N : String} {c d : Catalog} {t : TypeId} {kind : Kind}
  {es : List Event} {x : Store} {asked : DeclarationAttributes} {commands : List Command}

/-! ## The catalog after the attributes

Attributes come before the name. Reading them may add placeholders and composites, for the
parameters of constructors, so the name is declared in a later catalog; none of these additions is
about an added library. -/

/-- The parameter lists of attributes only add to the catalog. -/
theorem appending_lawfulParameters (start : c.Closed) : (appending l c).LawfulParameters where
  toLawfulTypes := appending_lawfulTypes start
  noteParameter {w n p q} pq := by
    obtain rfl := pq.eq fun tu => tu.1
    intro s₁ s₂ tokens _ _ holds _
    obtain ⟨same, added⟩ := holds
    obtain rfl := tokens.eq same
    let x : Store := ⟨s₁.catalog, s₁.journal.push (.parameter p)⟩
    exact .ok (ReadState.put_after s₁ x) (ReadState.put_after s₁ x) (Nat.zero_le _) ⟨rfl, added⟩
      ⟨id, id⟩ trivial

theorem declarationAttributes_adds (closed : c.Closed) (readable : c.Readable l) {text : List Char}
    (read : declarationAttributes l (.start (tokens text) c) = (.ok asked, u)) :
    c.Appends l u.catalog ∧ u.catalog.Readable l := by
  let s := ReadState.start (tokens text) c
  have plain : s.Plain := ReadState.start_plain text c
  constructor
  · have outcome : (appending l c).Outcome s s _ _ (declarationAttributes l s)
        (declarationAttributes l s) :=
      (Coupling.declarationAttributes_keeps (appending_lawfulParameters closed)).outcome ⟨rfl, rfl⟩
        plain ⟨rfl, .refl c l, closed⟩
    rw [read] at outcome
    cases outcome with
    | ok _ _ _ holds => exact holds.2.1
  · have outcome : (following l c).Outcome s s _ _ (declarationAttributes l s)
        (declarationAttributes l s) :=
      (Coupling.declarationAttributes_keeps (following_lawful readable).toLawfulParameters).outcome
        ⟨rfl, rfl⟩ plain ⟨rfl, [], .start, rfl, nofun⟩
    rw [read] at outcome
    cases outcome with
    | ok _ _ _ holds =>
      obtain ⟨-, h, reading, -⟩ := holds
      exact reading.readable readable

/-! ## The declared name

In a library that was just added the name has no entry. Whatever it stood for before, after the
declaration it stands for the type that was declared. -/

/-- What a name of no entry stood for before is what the declaration is about. -/
theorem Declaration.known_before (declaration : Declaration l kind N c false (.ok t) es d)
    (registry : Registry c) (plain : N ≠ globalsName) (own : (c.library l).types[N]? = none) :
    c.isReopening t = false ∧ ∀ u, c.resolve? N = some u → u = t := by
  cases declaration with
  | upgraded known =>
    rw [existing?_eq plain, own, Option.none_or] at known
    exact ⟨(resolve?_entry registry known).2,
      fun u found => Option.some.inj (found.symm.trans known)⟩
  | created unknown =>
    have nothing := (existing?_eq_none plain unknown).2
    refine ⟨?_, fun u found => by cases nothing.symm.trans found⟩
    rw [isReopening, type_of_size_le c ⟨c.types.size⟩ (Nat.le_refl _)]
    rfl

/-- What a library declares under a name that stood for nothing else the name stands for, whatever
is done afterwards that look-ups do not depend on. -/
theorem Catalog.Introduces.resolves (introduces : Introduces l l N t kind c d)
    (readable : c.Readable l) (latest : c.IsLatest l) (standing : kind ≠ .reopening)
    (own : (c.library l).types[N]? = none) (before : c.isReopening t = false)
    (known : ∀ u, c.resolve? N = some u → u = t) : d.resolve? N = some t := by
  have introduced := introduces.introduced
  have stands : d.isReopening t = false := introduced.stands standing
  have outside := introduces.outside (n := N) readable fun _ _ _ => stands.trans before.symm
  have latest' : d.IsLatest l := by
    rw [IsLatest, introduced.registered]
    exact latest
  rw [resolve?_of_entry_none latest own] at known
  rw [resolve?_eq_or latest', outside, declaredIn?, introduced.lookup_self,
    Option.filter_some, stands]
  cases elsewhere : (c.unregister l).resolve? N with
  | none => rfl
  | some u => rw [known u elsewhere]; rfl

/-! ## Constructors

To attach a constructor gives an interface without an object the kind of one that has it. This is
the only way in which constructors bear on the kind. -/

/-- A first constructor gives an interface its object. -/
theorem kind_addConstructor (c : Catalog) (a : Member) (bound : t.index < c.types.size) :
    ((c.addConstructor t a).2.type t).kind =
      if (c.type t).kind = .noInterfaceObject then .interface else (c.type t).kind := by
  let b : Member := { a with modifiers := a.modifiers ||| Modifiers.constructor }
  have pushed : ((c.pushMember b t).2.type t).kind = (c.type t).kind :=
    congrArg TypeNode.Shape.kind (sameShapes_addReferences
      { c with members := c.members.push { b with owner := some t } } b.referencedTypes _ t)
  have bound' : t.index < (c.pushMember b t).2.types.size :=
    Nat.lt_of_lt_of_le bound (quiet_pushMember c b t).size_le
  rw [addConstructor, ← pushed]
  exact congrArg TypeNode.kind (type_modifyType_self _ _ _ bound')

/-- The kind of an interface that has constructors as well. -/
def kindWith (constructors : List Member) (kind : Kind) : Kind :=
  if kind = .noInterfaceObject ∧ constructors ≠ [] then .interface else kind

/-- Attaching constructors always succeeds, and changes the kind as the first of them does. -/
theorem attachConstructors_apply (constructors : List Member) (s : ReadState)
    (bound : t.index < s.catalog.types.size) :
    ∃ x : Store, attachConstructors t constructors l s = (.ok (), s.put x) ∧
      Quiet s.catalog x.catalog ∧
      (x.catalog.type t).kind = kindWith constructors (s.catalog.type t).kind := by
  induction constructors generalizing s with
  | nil => exact ⟨s.store, rfl, .refl _, (if_neg fun both => both.2 rfl).symm⟩
  | cons a constructors ih =>
    let name := s.catalog.typeName t
    let b : Member := if a.name.isEmpty then { a with name } else a
    let y := attachedStore s l t (s.catalog.addConstructor t b)
    have quiet : Quiet s.catalog y.catalog :=
      quiet_documentMember l t (quiet_addConstructor s.catalog t b)
    have kind : (y.catalog.type t).kind =
        if (s.catalog.type t).kind = .noInterfaceObject then .interface
        else (s.catalog.type t).kind := kind_addConstructor s.catalog b bound
    obtain ⟨x, run, later, last⟩ := ih (s.put y) (Nat.lt_of_lt_of_le bound quiet.size_le)
    refine ⟨x, run, quiet.trans later, last.trans ?_⟩
    show kindWith constructors (y.catalog.type t).kind = _
    rw [kind, kindWith, kindWith]
    split <;> simp_all

/-! ## The declaration

After the blocks an interface with an empty body is read; then what the attributes ask for is
applied to its type. -/

/-- An interface without members is read to its end, and its name is declared. -/
theorem interface_empty (stands : s.rest = BodyForm.interface.opening N ++ (bodyEnd ++ rest))
    (other : N ≠ "mixin")
    (declared : declareNamed kind false N l (s.drop 2) = (.ok t, (s.drop 2).put x)) :
    ∃ v : ReadState, interface kind false l s = (.ok t, v) ∧ v.rest = rest ∧ v.store = x := by
  obtain ⟨-, left⟩ := ReadState.peek_of_rest stands
  obtain ⟨-, left'⟩ := ReadState.peek_of_rest left
  let w := (s.drop 2).put x
  obtain ⟨brace, inside⟩ := ReadState.peek_of_rest (s := w) left'
  obtain ⟨close, semicolon⟩ := ReadState.peek_of_rest inside
  obtain ⟨last, after⟩ := ReadState.peek_of_rest semicolon
  have clauses : (interfaceClauses t).Passes w () :=
    passes_interfaceClauses (by rw [brace]; rfl) (by rw [brace]; decide) (by rw [brace]; decide) t
  have bodied : (accept .semicolon).Passes w false := passes_accept (by rw [brace]; decide)
  have opens : (require .braceOpen).Takes w w.peek := takes_require (by rw [brace])
  have body : (bodyOf (interfaceMember t)).Takes w.advance () := fun _ =>
    bodyOf_close (by rw [close])
  have ends : (accept .semicolon).Takes w.advance.advance true := fun _ => if_pos (by rw [last])
  refine ⟨w.advance.advance.advance, ?_, after, ?_⟩
  · rw [interface_declared stands other declared clauses, interfaceBody, bodied.bind_apply,
      if_neg Bool.false_ne_true, opens.bind_apply, body.bind_apply, ends.bind_apply]
    rfl
  · simp only [ReadState.store_advance]
    rfl

/-- Applying attributes always succeeds. -/
theorem applyAttributes_apply (asked : DeclarationAttributes) (s : ReadState)
    (bound : t.index < s.catalog.types.size) :
    ∃ x : Store, applyAttributes asked t l s = (.ok (), s.put x) ∧ Quiet s.catalog x.catalog ∧
      (x.catalog.type t).kind = kindWith asked.constructors (s.catalog.type t).kind := by
  obtain ⟨x, run, quiet, kind⟩ := attachConstructors_apply (l := l) asked.constructors s bound
  rw [applyAttributes, Parser.bind_apply, run]
  dsimp only
  by_cases empty : asked.modifiers.isEmpty = true
  · exact ⟨x, by rw [if_neg (by simp [empty])]; rfl, quiet, kind⟩
  · refine ⟨⟨x.catalog.addModifiers t asked.modifiers, x.journal⟩, ?_, ?_, ?_⟩
    · rw [if_pos (by simp [empty])]
      rfl
    · exact quiet.trans (quiet_addModifiers x.catalog t asked.modifiers)
    · rw [← kind]
      exact type_modifyType_of_eq x.catalog t t (·.kind) fun _ => rfl

/-- Where the tokens of blocks stand, and the first word of an interface after them. -/
theorem peek_blocks
    (stands : s.rest = blocksTokens blocks ++ (BodyForm.interface.opening N ++ rest)) :
    s.peek = ⟨.bracketOpen, "["⟩ ∨ s.peek = ⟨.word, "interface"⟩ := by
  cases blocks with
  | nil => exact .inr (ReadState.peek_of_rest stands).1
  | cons rows blocks => exact .inl (ReadState.peek_of_rest stands).1

/-- A description that consists of an interface with attributes declares its name, and then attaches
what was asked for. -/
theorem description_attributed (stands : s.rest = blocksTokens blocks ++
      (BodyForm.interface.opening N ++ (bodyEnd ++ [Token.endOfInput])))
    (read : declarationAttributes l s = (.ok asked, u))
    (left : u.rest = BodyForm.interface.opening N ++ (bodyEnd ++ [Token.endOfInput]))
    (other : N ≠ "mixin") (readable : u.catalog.Readable l) (plain : N ≠ globalsName)
    (declares : (asked.kind.getD .interface).IsDeclared) :
    ∃ t es d w, Declaration l (asked.kind.getD .interface) N u.catalog false (.ok t) es d ∧
      description l s = (.ok (), w) ∧ Quiet d w.catalog ∧
      (w.catalog.type t).kind = kindWith asked.constructors (asked.kind.getD .interface) := by
  let kind := asked.kind.getD .interface
  have performs : (declareNamed kind false N).Performs l u.catalog fun answer es d =>
      Declaration l kind N u.catalog false answer es d := declareNamed_performs readable plain false
  obtain ⟨answer, es, x, declared, -, declaration⟩ := performs (u.drop 2) (u.catalog_drop 2)
  obtain ⟨t, rfl⟩ := declaration.accepted
  have introduced := (declaration.introduces readable plain declares).introduced
  obtain ⟨v, run, rest, store⟩ := interface_empty left other declared
  have catalog : v.catalog = x.catalog := congrArg Store.catalog store
  rw [← catalog] at declaration introduced
  obtain ⟨y, applied, quiet, kind⟩ := applyAttributes_apply (l := l) asked v introduced.bound
  rw [declaration.kind_eq fun known =>
    (existing?_isEntry readable.registry plain known).bound] at kind
  -- the attributes, the interface, and then what the attributes ask for
  have first : declarationWith declarations l s = (.ok (), v.put y) := by
    have looked : Parser.peek.Passes s s.peek := fun _ => rfl
    have starts : (s.peek.category = .bracketOpen ||
        attributedKeywords.any s.peek.isKeyword) = true := by
      rcases peek_blocks stands with here | here <;> rw [here] <;> decide
    rw [declarationWith, looked.bind_apply, if_pos starts,
      attributedDeclaration_interface read left, Parser.bind_apply, run]
    exact applied
  have notLast : ¬AtLast s := by
    rcases peek_blocks stands with here | here <;> rw [AtLast, here] <;> decide
  have fewer : (v.put y).left < s.left := by
    show v.left < s.left
    rw [v.left_eq, s.left_eq, rest, stands]
    simp [bodyEnd]
    omega
  have last : (v.put y).peek.category = .eof := by
    rw [(ReadState.peek_of_rest (s := v.put y) rest).1]
    rfl
  refine ⟨t, es, v.catalog, (v.put y).advance, declaration, ?_, ?_, ?_⟩
  · exact (description_first notLast first fewer).trans (description_last last)
  · rwa [ReadState.catalog_advance]
  · rwa [ReadState.catalog_advance]

/-! ## In a session

From the description to the session: the library is the last one that was added, so its entry is
what the name resolves to. -/

theorem closed_after (commands : List Command) : (after commands).Closed := by
  refine after_induction (P := Closed) closed_initial ?_ ?_ ?_ commands
  · intro c _ _ closed name readOnly docs
    exact closed.addLibrary name readOnly docs
  · intro c _ _ closed l
    exact closed.removeLibrary l
  · intro c l readable closed source
    obtain ⟨calls, made⟩ := ingest_made ⟨closed, readable.inside⟩ source
    exact closed.made made

/-- The kind of a declared interface with these attributes. -/
def declaredKind (rows : List (List Token)) : Kind :=
  if Occurs globalNames rows then .global
  else if Occurs objectlessNames rows ∧ ¬Occurs constructorNames rows then .noInterfaceObject
  else .interface

theorem AskedBy.kindWith (asks : AskedBy rows blocks asked) (perm : blocks.flatten.Perm rows) :
    kindWith asked.constructors (asked.kind.getD .interface) = declaredKind rows := by
  have constructors : asked.constructors = [] ↔ ¬Occurs constructorNames rows := by
    rw [← occurs_perm perm, ← List.length_eq_zero_iff, ← asks.constructors.length_eq,
      List.length_eq_zero_iff, List.filter_eq_nil_iff]
    simp [Occurs]
  simp only [IdlCatalog.kindWith, asks.kind, requestedKind, declaredKind, ne_eq, constructors,
    not_not]
  split
  · rfl
  · split
    · by_cases some : Occurs constructorNames rows <;> simp [*]
    · simp [*]

theorem requestedKind_isDeclared (rows : List (List Token)) :
    ((requestedKind rows).getD .interface).IsDeclared := by
  rw [requestedKind]
  split
  · decide
  · split <;> decide

/-- An interface is declared with the kind that its attributes tell. -/
theorem ingest_attributed (added : JustAdded commands l) (other : N ≠ "mixin")
    (each : ∀ row ∈ rows, IsAttribute row) (perm : blocks.flatten.Perm rows)
    (nonempty : [] ∉ blocks) {source : String} (stands : tokens source.toList =
      blocksTokens blocks ++ BodyForm.interface.opening N ++ bodyEnd ++ [Token.endOfInput]) :
    let r := (after commands).ingest l source
    r.outcome = .ok () ∧ ∃ t, r.catalog.resolve? N = some t ∧
      (r.catalog.library l).types[N]? = some t ∧ (r.catalog.type t).kind = declaredKind rows := by
  intro r
  obtain ⟨readable, latest, free⟩ := added.fresh
  have inside : ⟨.word, N⟩ ∈ tokens source.toList := by simp [stands, BodyForm.opening]
  have plain : N ≠ globalsName := word_ne_globalsName (tokens_spells inside rfl)
  let s := ReadState.start (tokens source.toList) (after commands)
  have stands : s.rest = blocksTokens blocks ++
      (BodyForm.interface.opening N ++ (bodyEnd ++ [Token.endOfInput])) := by
    rw [← List.append_assoc, ← List.append_assoc]
    exact stands
  have ends : (⟨.word, "interface"⟩ : Token).category ≠ .bracketOpen := by decide
  -- the attributes in the order in which they are written, which is a permutation of the given one
  obtain ⟨asked, u, read, left, asks⟩ :=
    declarationAttributes_reads each perm nonempty stands ends l
  obtain ⟨adds, readable'⟩ := declarationAttributes_adds (closed_after commands) readable read
  have own : (u.catalog.library l).types[N]? = none := by
    rw [adds.library readable.ne_hidden]
    exact free N
  have latest' : u.catalog.IsLatest l := by
    rw [IsLatest, adds.registered]
    exact latest
  have declares : (asked.kind.getD .interface).IsDeclared :=
    asks.kind ▸ requestedKind_isDeclared rows
  obtain ⟨t, es, d, w, declaration, whole, quiet, kind⟩ :=
    description_attributed stands read left other readable' plain declares
  obtain ⟨outcome, result⟩ := ingest_of_read whole
  have declared := declaration.introduces readable' plain declares
  have introduces : Introduces l l N t _ u.catalog r.catalog :=
    { declared with introduced := result ▸ declared.introduced.trans_quiet quiet }
  obtain ⟨before, known⟩ := declaration.known_before readable'.registry plain own
  refine ⟨outcome, t, introduces.resolves readable' latest' declares.2 own before known, ?_, ?_⟩
  · exact introduces.introduced.lookup_self
  · rw [result, kind]
    exact asks.kindWith perm

/-! ## The order of attributes -/

/-- What is read before a declaration are blocks of attributes, each of which is one where it stands
alone. And such attributes, in every order and in every way to divide them into blocks, are read
with the same result wherever they stand: the kind and the qualifiers that their names tell, and the
constructors in the order of their attributes. After every session, an interface without members
that is written with them in a new library has the kind for globals if one of them asks for it, the
one for interfaces without an object if one of them asks for that and none for a constructor, and
else the ordinary one. -/
theorem attributes_unordered :
    (∀ {l : LibraryId} {s u : ReadState} {text : List Char} {asked : DeclarationAttributes},
      s.rest <:+ tokens text → declarationAttributes l s = (.ok asked, u) →
        ∃ blocks, [] ∉ blocks ∧ (∀ row ∈ blocks.flatten, IsAttribute row) ∧
          s.rest = blocksTokens blocks ++ u.rest ∧ AskedBy blocks.flatten blocks asked) ∧
      ∀ {rows : List (List Token)} {blocks : List (List (List Token))},
        (∀ row ∈ rows, IsAttribute row) → blocks.flatten.Perm rows → [] ∉ blocks →
          (∀ (l : LibraryId) (s : ReadState) (rest : List Token),
            s.rest = blocksTokens blocks ++ rest → (nextToken rest).category ≠ .bracketOpen →
              ∃ asked u, declarationAttributes l s = (.ok asked, u) ∧ u.rest = rest ∧
                AskedBy rows blocks asked) ∧
          ∀ {commands : List Command} {l : LibraryId} {N source : String}, JustAdded commands l →
            N ≠ "mixin" →
            tokens source.toList = blocksTokens blocks ++ BodyForm.interface.opening N ++ bodyEnd ++
                [Token.endOfInput] →
              let r := (after commands).ingest l source
              r.outcome = .ok () ∧ ∃ t, r.catalog.resolve? N = some t ∧
                (r.catalog.library l).types[N]? = some t ∧
                (r.catalog.type t).kind = declaredKind rows := by
  refine ⟨fun {l s u text asked} place read => ?_, fun each perm nonempty => ⟨?_, ?_⟩⟩
  · obtain ⟨found, t, blocks, answer⟩ := bind_ok read
    cases answer
    obtain ⟨blocks, nonempty, each, stands, ends⟩ := blocks_of_read place blocks
    obtain ⟨asked, v, again, -, asks⟩ :=
      declarationAttributes_reads each (.refl _) nonempty stands ends l
    cases read.symm.trans again
    exact ⟨blocks, nonempty, each, stands, asks⟩
  · exact fun l s rest stands ends => declarationAttributes_reads each perm nonempty stands ends l
  · exact fun added other stands => ingest_attributed added other each perm nonempty stands

/-- An interface without an object that has a constructor, with its attributes in two blocks. -/
theorem attributes_unordered_blocks :
    let bare : List Token := [⟨.word, "LegacyNoInterfaceObject"⟩]
    let array : List Token := [⟨.word, "ArrayClass"⟩]
    let constructor : List Token := [⟨.word, "Constructor"⟩, ⟨.parenthesisOpen, "("⟩,
      ⟨.word, "long"⟩, ⟨.word, "a"⟩, ⟨.parenthesisClose, ")"⟩]
    let rows := [bare, constructor, array]
    let blocks := [[array, constructor], [bare]]
    let source := "[ArrayClass, Constructor(long a)] [LegacyNoInterfaceObject] interface N \x7b\x7d;"
    let commands : List Command := [.addLibrary "dom" false .silent]
    let s := ReadState.start (tokens source.toList) (after commands)
    let r := (after commands).ingest ⟨2⟩ source
    (∀ row ∈ rows, IsAttribute row) ∧ blocks.flatten.Perm rows ∧ [] ∉ blocks ∧
      JustAdded commands ⟨2⟩ ∧
      tokens source.toList = blocksTokens blocks ++ BodyForm.interface.opening "N" ++ bodyEnd ++
        [Token.endOfInput] ∧
      (∃ asked u, declarationAttributes ⟨2⟩ s = (.ok asked, u) ∧ AskedBy rows blocks asked ∧
        ∃ found, s.rest = blocksTokens found ++ u.rest ∧ AskedBy found.flatten found asked) ∧
      r.outcome = .ok () ∧ ∃ t, r.catalog.resolve? "N" = some t ∧
        (r.catalog.type t).kind = .interface := by
  intro bare array constructor rows blocks source commands s r
  have spelled : ∀ row ∈ rows, Spelled row := by
    have inside : ∀ row ∈ rows, row ⊆ tokens source.toList := by decide +kernel
    exact fun row among => spelled_of_subset (inside row among)
  have accepted : ∀ row ∈ rows, (namedAttribute ⟨2⟩ (.start row initial)).1.toBool = true ∧
      (namedAttribute ⟨2⟩ (.start row initial)).2.rest = [] := by decide +kernel
  have each : ∀ row ∈ rows, IsAttribute row := fun row inside =>
    isAttribute_of_accepted (spelled row inside) (accepted row inside).1 (accepted row inside).2
  have perm : blocks.flatten.Perm rows := by decide +kernel
  have nonempty : [] ∉ blocks := by decide +kernel
  have added : JustAdded commands ⟨2⟩ := ⟨[], "dom", false, .silent, rfl, by decide +kernel⟩
  have stands : tokens source.toList = blocksTokens blocks ++ BodyForm.interface.opening "N" ++
      bodyEnd ++ [Token.endOfInput] := by decide +kernel
  -- the second part gives a reading of the blocks, and the first part goes from the reading back to
  -- blocks
  obtain ⟨anywhere, ingested⟩ := attributes_unordered.2 each perm nonempty
  have place : s.rest = blocksTokens blocks ++
      (BodyForm.interface.opening "N" ++ (bodyEnd ++ [Token.endOfInput])) := by
    rw [← List.append_assoc, ← List.append_assoc]
    exact stands
  obtain ⟨asked, u, read, -, asks⟩ := anywhere ⟨2⟩ s _ place (by decide)
  obtain ⟨found, -, -, split, told⟩ := attributes_unordered.1 (List.suffix_refl s.rest) read
  obtain ⟨outcome, t, stood, -, kind⟩ := ingested added (by decide) stands
  refine ⟨each, perm, nonempty, added, stands, ⟨asked, u, read, asks, found, split, told⟩,
    outcome, t, stood, kind.trans ?_⟩
  decide +kernel

end IdlCatalog
