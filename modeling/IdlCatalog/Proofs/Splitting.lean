/-
# IdlCatalog.Proofs.Splitting — a body may be split into two declarations

An interface or a dictionary may be written in one piece, or in two: a declaration with the first
entries of the body, and a partial one with the others. Both come to the same catalog, wherever the
body is split between two entries.

After the first entries the library has the declared type under its name, whatever the entries are
and even if a nested declaration is about that name again. So the partial declaration, which looks
the name up, is about the same type, and reads the other entries from the same catalog.

## How the two descriptions are compared

They have their first tokens in common, up to the place of the split. There the one goes on with the
next entry, and the other closes the body, starts the partial declaration and then goes on with the
same entry. The catalogs at these two places are equal, since a brace, a semicolon, and the name of
a type that the library owns change nothing. From there on both read the same tokens from the same
catalog, and that readings are determined by these is the fork without a difference, `Tails.none`.
-/
import IdlCatalog.Proofs.Grammar.Forks
import IdlCatalog.Proofs.Grammar.Openings
import IdlCatalog.Proofs.Session

namespace IdlCatalog

open Grammar Catalog Lexer IdlCatalog.Parser

/-! ## First entries

What is split off is a list of entries: each is read to its end and leaves the next one. -/

namespace BodyForm

/-- The tokens are the first entries in the body of a declaration of the name: the declaration is
about the type `t`, and the entries lead to the catalog `d`. -/
def Starts (b : BodyForm) (c : Catalog) (l : LibraryId) (name : String) (first : List Token)
    (t : TypeId) (d : Catalog) : Prop :=
  ∃ s, declaredType b.kind false l (ReadState.start [⟨.word, name⟩] c) = (.ok t, s) ∧
    Entries (b.entry t) l s.catalog first d

theorem isEntry (b : BodyForm) (t : TypeId) : IsEntry t (b.entry t) := by
  cases b with
  | interface => exact interfaceMember_isEntry t
  | dictionary => exact dictionaryEntry_isEntry t

end BodyForm

/-! ## The two parts

In one piece, the first part leads into the body; in two, it is closed behind the first entries, and
the second part leads into the body again. -/

section Parts

variable {b : BodyForm} {c d : Catalog} {l : LibraryId} {s : ReadState} {t : TypeId}
  {name : String} {first more : List Token}

theorem BodyForm.body_rel (R : Congruence) (b : BodyForm) (t : TypeId) :
    R.Rel false .closing (b.body t) (b.body t) := by
  cases b with
  | interface =>
    exact .finish (.bodyOf (.interfaceMember t)) fun _ => .both .acceptSemicolon fun _ =>
      .pure_still ()
  | dictionary =>
    exact .close (.bodyOf (.dictionaryEntry t)) fun _ => .finish (.require (by decide)) fun _ =>
      .pure_still ()

/-- A body is closed by a brace and a semicolon. -/
theorem BodyForm.body_close (b : BodyForm) (t : TypeId) {brace semicolon : Token}
    (stands : s.rest = brace :: semicolon :: more) (close : brace.category = .braceClose)
    (ends : semicolon.category = .semicolon) :
    b.body t l s = (.ok (), s.advance.advance) := by
  obtain ⟨peek, rest⟩ := ReadState.peek_of_rest stands
  obtain ⟨peek', -⟩ := ReadState.peek_of_rest rest
  have loop : bodyOf (b.entry t) l s = (.ok (), s.advance) :=
    bodyOf_close (by rw [peek, close])
  cases b with
  | interface =>
    show (bodyOf _ >>= fun _ => accept .semicolon >>= fun _ => pure ()) l s = _
    rw [Parser.bind_apply, loop]
    dsimp only
    rw [Parser.bind_apply, accept, if_pos (by rw [peek', ends])]
    rfl
  | dictionary =>
    show (bodyOf _ >>= fun _ => require .semicolon >>= fun _ => pure ()) l s = _
    rw [Parser.bind_apply, loop]
    dsimp only
    rw [(takes_require (by rw [peek', ends])).bind_apply]
    rfl

/-- What the name of the declaration comes to before the entries. -/
theorem BodyForm.Starts.declared (starts : b.Starts c l name first t d) :
    ∃ e, Entries (b.entry t) l e first d ∧ ∀ s : ReadState, s.catalog = c →
      ∃ j, declareNamed b.kind false name l s = (.ok t, s.put ⟨e, j⟩) := by
  obtain ⟨start, declared, entries⟩ := starts
  rw [declaredType_eq, (takes_identifier rfl).bind_apply] at declared
  obtain ⟨answer, e, same, -⟩ := Parser.Neutral.declareNamed b.kind false name l c
  obtain ⟨j, run⟩ := same (ReadState.start [⟨.word, name⟩] c).advance rfl
  have run := declared.symm.trans run
  obtain ⟨rfl, rfl⟩ := Prod.mk.inj run
  exact ⟨e, entries, same⟩

/-- The first part, up to where the entries end that it has in common with the whole. -/
theorem BodyForm.Starts.apply (starts : b.Starts c l name first t d)
    (other : b = .interface → name ≠ "mixin") (self : Parser Unit)
    (stands : s.rest = b.start false name ++ (first ++ more)) (catalog : s.catalog = c)
    (semicolon : (more.head?.getD Token.endOfInput).category ≠ .semicolon) :
    ∃ u : ReadState, u.rest = more ∧ u.catalog = d ∧ declarationWith self l s = b.body t l u := by
  obtain ⟨e, entries, declared⟩ := starts.declared
  obtain ⟨u, rest, store, run⟩ := declaration_apply b false self stands other (l := l)
  obtain ⟨j, declared⟩ := declared u ((congrArg Store.catalog store).trans catalog)
  obtain ⟨v, rest', store', run'⟩ := named_apply rest declared
  obtain ⟨w, done, after, loop⟩ :=
    (b.isEntry t).bodyOf entries rest' (congrArg Store.catalog store') semicolon
  refine ⟨w, done, after, (run.trans run').trans ?_⟩
  show (bodyOf (b.entry t) >>= _) l v = (bodyOf (b.entry t) >>= _) l w
  rw [Parser.bind_apply, Parser.bind_apply, loop]

/-- After the first entries, the name stands for the declared type, which the library owns. -/
theorem BodyForm.Starts.existing (starts : b.Starts c l name first t d) (readable : c.Readable l)
    (plain : name ≠ globalsName) (words : Spelled first) :
    existing? l name d = some t ∧ (d.type t).library = some l := by
  obtain ⟨e, entries, declared⟩ := starts.declared
  let s := ReadState.start [] c
  obtain ⟨j, run⟩ := declared s rfl
  obtain ⟨answer, es, store, eq, -, declaration⟩ :=
    declareNamed_performs readable plain false s rfl
  rw [run] at eq
  obtain ⟨rfl, same⟩ := Prod.mk.inj eq
  obtain rfl : e = store.catalog := congrArg ReadState.catalog same
  -- what the name was declared as stays its entry through all entries of the body
  have step := Step.declaration plain b.isDeclared declaration
  have owned := declaration_owned readable plain b.isDeclared declaration
  have entry : (store.catalog.library l).types[name]? = some t := by
    have introduces := declaration.introduces readable plain b.isDeclared
    exact introduces.introduced.lookup_self
  obtain ⟨-, owned', stays⟩ :=
    (b.isEntry t).keeps entries words (step.readable readable) owned
  exact ⟨by rw [existing?_eq plain, stays name t entry, Option.some_or], owned'.library⟩

/-- The second part reopens the type. -/
theorem second_apply (self : Parser Unit) (other : b = .interface → name ≠ "mixin")
    (stands : s.rest = b.start true name ++ more)
    (known : existing? l name s.catalog = some t) (own : (s.catalog.type t).library = some l) :
    ∃ u : ReadState, u.rest = more ∧ u.catalog = s.catalog ∧
      declarationWith self l s = b.body t l u := by
  obtain ⟨u, rest, store, run⟩ := declaration_apply b true self stands other (l := l)
  have catalog : u.catalog = s.catalog := congrArg Store.catalog store
  -- no type is created, since the library itself owns the type
  have declared : declareNamed b.kind true name l u =
      (.ok t, u.put ⟨u.catalog, u.journal.push (.declared name t true)⟩) := by
    rw [← catalog] at known own
    show declareOver l b.kind true name (existing? l name u.catalog) l u = _
    simp only [known, declareOver, Parser.bind_apply, Parser.view, own, if_true]
    rfl
  obtain ⟨v, rest', store', run'⟩ := named_apply rest declared
  exact ⟨v, rest', (congrArg Store.catalog store').trans catalog, run.trans run'⟩

end Parts

/-! ## One declaration after the other

A description goes on after its first declaration as a description does from its start. -/

section Descriptions

variable {l : LibraryId} {s s' u : ReadState}

/-- A description fails with its first declaration. -/
theorem description_refuses {x : Failure Fault} (other : ¬AtLast s)
    (run : declarationWith declarations l s = (.error x, u)) :
    description l s = (.error x, u) := by
  rw [description, Parser.bind_apply, declarations_apply l s, if_neg other, Parser.bind_apply, run]

/-- Descriptions go the same way if their first declarations do. -/
theorem description_congr (other : ¬AtLast s) (other' : ¬AtLast s')
    (joint : Tails.none.Joint .closing (declarationWith declarations l s)
      (declarationWith declarations l s'))
    (fewer : ∀ u, declarationWith declarations l s = (.ok (), u) →
      u.left < s.left ∧ u.left < s'.left) :
    Tails.none.Joint .looking (description l s) (description l s') := by
  generalize run : declarationWith declarations l s = r at joint fewer
  generalize run' : declarationWith declarations l s' = r' at joint
  cases joint with
  | @ok _ u u' rel =>
    obtain ⟨less, less'⟩ := fewer u rfl
    have same : u'.left = u.left := rel.left
    rw [description_first other run less, description_first other' run' (same.symm ▸ less')]
    exact Parser.Local.description.joint l u u' rel
  | error same what catalog =>
    rw [description_refuses other run, description_refuses other' run']
    exact .error same what catalog
  | failed apart | missed apart => exact absurd Tails.none_same apart

end Descriptions

/-! ## Splitting

The parts put together. The name `mixin` is the exception, which is refused in both descriptions
before the body. -/

section Split

variable {b : BodyForm} {c d : Catalog} {l : LibraryId} {t : TypeId} {name : String}
  {first rest more : List Token} {s s' : ReadState} {reopens : Bool}

/-- A body that is read goes on from where it starts. -/
theorem BodyForm.body_left {u w : ReadState} (run : b.body t l u = (.ok (), w)) :
    w.left ≤ u.left := by
  have onward := onward_of_related (fun R => b.body_rel R t) l u u.stands_false
  rw [run] at onward
  exact onward.left_le

/-- An interface that cannot have its name is refused before its body. -/
theorem description_mixin (first' : List Token)
    (stands : s.rest = BodyForm.interface.start false "mixin" ++ first)
    (stands' : s'.rest = BodyForm.interface.start false "mixin" ++ first')
    (same : s.catalog = s'.catalog) :
    Tails.none.Joint .looking (description l s) (description l s') := by
  obtain ⟨u, catalog, peek, run⟩ := declaration_mixin declarations stands
  obtain ⟨u', catalog', peek', run'⟩ := declaration_mixin declarations stands'
  rw [description_refuses (BodyForm.start_not_atLast stands) run,
    description_refuses (BodyForm.start_not_atLast stands') run']
  refine .error Tails.none_same ?_ (catalog.trans (same.trans catalog'.symm))
  simp [Failure.what, Failure.map, peek, peek']

/-- A description that starts with a declaration goes the same way if the body is split. -/
theorem BodyForm.Starts.description_joint (starts : b.Starts c l name first t d)
    (readable : c.Readable l) (catalog : s.catalog = c) (catalog' : s'.catalog = c)
    (plain : s.Plain) (stands : s.rest = b.start false name ++ (first ++ rest))
    (stands' : s'.rest = b.start false name ++ (first ++ (bodyEnd ++ (b.start true name ++ rest))))
    (semicolon : (rest.head?.getD Token.endOfInput).category ≠ .semicolon) :
    Tails.none.Joint .looking (description l s) (description l s') := by
  by_cases mixin : b = .interface ∧ name = "mixin"
  · obtain ⟨rfl, rfl⟩ := mixin
    exact description_mixin _ stands stands' (catalog.trans catalog'.symm)
  have other : b = .interface → name ≠ "mixin" := fun interface word => mixin ⟨interface, word⟩
  have plainName : name ≠ globalsName := by
    refine Lexer.word_ne_globalsName (plain ⟨.word, name⟩ ?_ rfl)
    rw [stands]
    simp [BodyForm.start, BodyForm.opening]
  have plainFirst : Spelled first := by
    refine fun token inside => plain token ?_
    rw [stands]
    simp [inside]
  -- after the first entries the name stands for the type, in the library itself
  obtain ⟨known, own⟩ := starts.existing readable plainName plainFirst
  obtain ⟨u, rest₁, catalog₁, run₁⟩ := starts.apply other declarations stands catalog semicolon
  obtain ⟨u', rest₂, catalog₂, run₂⟩ :=
    starts.apply other declarations stands' catalog' (by simp [bodyEnd])
  -- the first part closes the body, and the second part opens it again
  let v := u'.advance.advance
  rw [b.body_close t rest₂ rfl rfl] at run₂
  have again : v.rest = b.start true name ++ rest := by
    rw [ReadState.rest_advance, ReadState.rest_advance, rest₂]
    rfl
  have catalog₃ : v.catalog = d := by
    rw [ReadState.catalog_advance, ReadState.catalog_advance, catalog₂]
  obtain ⟨v', rest₃, catalog₄, run₃⟩ :=
    second_apply declarations other again (catalog₃ ▸ known) (catalog₃ ▸ own)
  -- the loop over declarations goes on where a declaration has taken tokens
  have fewer : v.left < s'.left := by
    have left := BodyForm.start_left stands'
    rw [v.left_eq, again]
    simp only [List.length_append] at left ⊢
    omega
  rw [description_first (BodyForm.start_not_atLast stands') run₂ fewer]
  refine description_congr (BodyForm.start_not_atLast stands)
    (BodyForm.start_not_atLast again) ?_ fun w ended => ?_
  · have rel : Tails.none.Rel u v' :=
      ⟨catalog₁.trans (catalog₄.trans catalog₃).symm, rest, by simp [rest₁, Tails.none],
        by simp [rest₃, Tails.none]⟩
    rw [run₁, run₃]
    exact Parser.Local.joint (b.body_rel Tails.none.congruence t) l u v' rel
  · rw [run₁] at ended
    have le : w.left ≤ rest.length := by
      have le := BodyForm.body_left ended
      rwa [u.left_eq, rest₁] at le
    have left := BodyForm.start_left stands
    rw [List.length_append] at left
    exact ⟨by omega, Nat.lt_of_le_of_lt le (BodyForm.start_left again)⟩

end Split

theorem accepted_of_unplaced {α : Type} {outcome outcome' : Except (Failure SyntaxError) α} {a : α}
    (same : unplaced outcome' = unplaced outcome) (accepted : outcome = .ok a) :
    outcome' = .ok a := by
  subst accepted
  cases outcome' with
  | error => cases same
  | ok => exact congrArg Except.ok (Except.ok.inj same)

/-- A body may be split between two entries. After every session, for every library that was added
and for an interface or a dictionary of whatever name, with whatever first entries: the declaration
in one piece comes to the same catalog as the one that ends after the first entries, followed by a
partial one with the rest. The rest does not start with a semicolon, with which no entry starts and
which would belong to the entry before it. The same declarations may follow, and the second
description is accepted where the first one is, and refused where it is refused, for the same
reason. -/
theorem ingest_split (commands : List Command) {l : LibraryId}
    (added : (after commands).WasAdded l) (b : BodyForm) {name : String} {first rest : List Token}
    {t : TypeId} {d : Catalog} (starts : b.Starts (after commands) l name first t d)
    (other : (rest.head?.getD Token.endOfInput).category ≠ .semicolon) {whole parts : String}
    (inOne : tokens whole.toList = b.start false name ++ (first ++ rest))
    (inTwo : tokens parts.toList =
      b.start false name ++ (first ++ (bodyEnd ++ (b.start true name ++ rest)))) :
    let one := (after commands).ingest l whole
    let two := (after commands).ingest l parts
    two.catalog = one.catalog ∧ (one.outcome = .ok () → two.outcome = .ok ()) ∧
      unplaced two.outcome = unplaced one.outcome := by
  have readable := (registry_after commands).readable added
  let s := ReadState.start (tokens whole.toList) (after commands)
  let s' := ReadState.start (tokens parts.toList) (after commands)
  have joint : Tails.none.Joint .looking (description l s) (description l s') :=
    starts.description_joint readable rfl rfl (ReadState.start_plain _ _) inOne inTwo other
  obtain ⟨catalog, outcome⟩ := joint.alike Tails.none_same l whole.toList parts.toList
  intro one two
  have same : unplaced two.outcome = unplaced one.outcome := by
    simp only [one, two, ingest_eq]
    exact outcome.symm
  refine ⟨?_, accepted_of_unplaced same, same⟩
  simp only [one, two, ingest_eq]
  exact catalog.symm

theorem Entries.single {entry : Parser Unit} {l : LibraryId} {c : Catalog} {tokens : List Token}
    (read : (entry l (ReadState.start tokens c)).1 = .ok ())
    (whole : (entry l (ReadState.start tokens c)).2.rest = []) :
    Entries entry l c tokens (entry l (ReadState.start tokens c)).2.catalog := by
  have entries := Entries.cons (Prod.ext read rfl) whole .nil
  rwa [List.append_nil] at entries

/-- The first entry makes the name of the interface another name for a primitive type, and the
partial declaration is about the interface all the same. -/
theorem ingest_split_typedef :
    let commands := [.addLibrary "x" false .silent]
    let l : LibraryId := ⟨2⟩
    let first := (tokens "typedef long A;".toList).dropLast
    let rest := tokens "void f(A a); \x7d;".toList
    let whole := "interface A { typedef long A; void f(A a); };"
    let parts := "interface A { typedef long A; }; partial interface A { void f(A a); };"
    let one := (after commands).ingest l whole
    let two := (after commands).ingest l parts
    (after commands).WasAdded l ∧
      (∃ t d, BodyForm.interface.Starts (after commands) l "A" first t d) ∧
      (rest.head?.getD Token.endOfInput).category ≠ .semicolon ∧
      tokens whole.toList = BodyForm.interface.start false "A" ++ (first ++ rest) ∧
      tokens parts.toList = BodyForm.interface.start false "A" ++
        (first ++ (bodyEnd ++ (BodyForm.interface.start true "A" ++ rest))) ∧
      one.outcome = .ok () ∧ two.outcome = .ok () ∧ two.catalog = one.catalog := by
  intro commands l first rest whole parts one two
  have facts : (after commands).WasAdded l ∧
      (rest.head?.getD Token.endOfInput).category ≠ .semicolon ∧
      tokens whole.toList = BodyForm.interface.start false "A" ++ (first ++ rest) ∧
      tokens parts.toList = BodyForm.interface.start false "A" ++
        (first ++ (bodyEnd ++ (BodyForm.interface.start true "A" ++ rest))) ∧
      one.outcome = .ok () := by
    decide +kernel
  obtain ⟨added, other, inOne, inTwo, accepted⟩ := facts
  have declared : (declaredType .interface false l
      (ReadState.start [⟨.word, "A"⟩] (after commands))).1 = .ok ⟨21⟩ := by
    decide +kernel
  have starts : ∃ d, BodyForm.interface.Starts (after commands) l "A" first ⟨21⟩ d :=
    ⟨_, _, Prod.ext declared rfl, .single (by decide +kernel) (by decide +kernel)⟩
  obtain ⟨d, starts⟩ := starts
  obtain ⟨same, accepts, -⟩ := ingest_split commands added .interface starts other inOne inTwo
  exact ⟨added, ⟨_, d, starts⟩, other, inOne, inTwo, accepted, accepts accepted, same⟩

end IdlCatalog
