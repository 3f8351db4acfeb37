/-
# IdlCatalog.Proofs.ForwardDeclarations — what a declaration without a body does to a declared type

`interface A;` says that there is an interface `A` and nothing about it. Where the name is declared
already, in the library itself or in another one, the forward declaration is about the declared
type, and everything by which that type is defined stays, down to its members. But a forward
declaration gives the type its kind as any other declaration does, so a global interface, a mixin or
a dictionary becomes an ordinary interface. The kind stays for what is one already, and for the name
`mixin`, which cannot be declared so.

A forward declaration is read like any other declaration up to its name, and ends with a semicolon
there. So it takes the step of a declaration that is no reopening. Of the five cases of that step
only two are left for a name that is known: none that reopens, and none that creates. What remains
is that a type which is known is entered into the library and gets its kind.
-/
import IdlCatalog.Proofs.Folding
import IdlCatalog.Proofs.Placeholders

namespace IdlCatalog

open Grammar Catalog Lexer IdlCatalog.Parser

variable {c d : Catalog} {l : LibraryId} {s : ReadState} {t : TypeId} {n : String} {kind : Kind}
  {es : List Event} {rest : List Token} {commands : List Command}

/-- The tokens of a forward declaration. -/
def forwardTokens (n : String) : List Token :=
  [⟨.word, "interface"⟩, ⟨.word, n⟩, ⟨.semicolon, ";"⟩]

/-! ## Definitions

What defines a type is what its entry says beside its name, its kind, its owner and its
documentation: the modifiers, the super type and the tables of members. A forward declaration writes
kind, owner and documentation only, and no entry of a member. -/

/-- What types are defined by is the same for both, their kinds aside. -/
structure TypeNode.SameDefinition (a b : TypeNode) : Prop where
  modifiers : a.modifiers = b.modifiers
  superType : a.superType = b.superType
  types : a.types = b.types
  properties : a.properties = b.properties
  operations : a.operations = b.operations
  constructors : a.constructors = b.constructors
  literals : a.literals = b.literals

theorem TypeNode.SameDefinition.refl (a : TypeNode) : a.SameDefinition a :=
  ⟨rfl, rfl, rfl, rfl, rfl, rfl, rfl⟩

theorem TypeNode.SameDefinition.trans {a b e : TypeNode} (h : a.SameDefinition b)
    (h' : b.SameDefinition e) : a.SameDefinition e where
  modifiers := h.modifiers.trans h'.modifiers
  superType := h.superType.trans h'.superType
  types := h.types.trans h'.types
  properties := h.properties.trans h'.properties
  operations := h.operations.trans h'.operations
  constructors := h.constructors.trans h'.constructors
  literals := h.literals.trans h'.literals

/-- What the type is defined by stays, its kind aside, and so do all members. -/
def Catalog.KeepsDefinition (c d : Catalog) (t : TypeId) : Prop :=
  (d.type t).SameDefinition (c.type t) ∧ d.members = c.members

theorem sameDefinition_modifyType {f : TypeNode → TypeNode} (c : Catalog) (u t : TypeId)
    (same : ∀ node, (f node).SameDefinition node) :
    ((c.modifyType u f).type t).SameDefinition (c.type t) := by
  rw [type_modifyType]
  split
  · exact same _
  · exact .refl _

/-- A type that is declared once more gets the kind of the declaration, and nothing else by which it
is defined. -/
theorem Declaration.of_known {answer : Except (Failure Fault) TypeId}
    (declaration : Declaration l kind n c false answer es d) (known : existing? l n c = some t)
    (bound : t.index < c.types.size) :
    answer = .ok t ∧ c.KeepsDefinition d t ∧ (d.type t).kind = kind := by
  cases declaration with
  | created unknown =>
    rw [unknown] at known
    cases known
  | @upgraded u _ again free entered =>
    obtain rfl : u = t := Option.some.inj (again.symm.trans known)
    obtain ⟨library, -, -, rfl⟩ := addType_eq_ok entered
    let settled := c.setKind u kind
    let owned := (settled.modifyLibrary l fun _ => library).modifyType u fun node =>
      { node with library := some l }
    -- kind, owner and documentation are written, one after the other
    have ofKind : (settled.type u).SameDefinition (c.type u) :=
      sameDefinition_modifyType c u u fun _ => ⟨rfl, rfl, rfl, rfl, rfl, rfl, rfl⟩
    have ofLibrary : (owned.type u).SameDefinition (settled.type u) :=
      sameDefinition_modifyType (settled.modifyLibrary l fun _ => library) u u
        fun _ => ⟨rfl, rfl, rfl, rfl, rfl, rfl, rfl⟩
    have ofDocumentation : ((owned.document l (.type u)).type u).SameDefinition (owned.type u) :=
      sameDefinition_modifyType owned u u fun _ => ⟨rfl, rfl, rfl, rfl, rfl, rfl, rfl⟩
    exact ⟨rfl, ⟨(ofDocumentation.trans ofLibrary).trans ofKind, rfl⟩,
      Declaration.kind_eq (.upgraded again free entered) fun _ => bound⟩

/-! ## Reading a forward declaration

The tokens are a keyword, a name and a semicolon. Nothing but the declaration of the name happens to
the catalog; the name `mixin` is read as a keyword and is refused. -/

/-- A declaration that starts with the word for interfaces is one without attributes. -/
theorem declaration_interface (self : Parser Unit)
    (stands : s.rest = ⟨.word, "interface"⟩ :: rest) :
    declarationWith self l s = (interface .interface false >>= fun _ => pure ()) l s := by
  have peek := (ReadState.peek_of_rest stands).1
  have looked : Parser.peek.Passes s s.peek := fun _ => rfl
  have bracket : s.peek.category ≠ .bracketOpen := by
    rw [peek]
    exact nofun
  have attributes : declarationAttributes.Passes s DeclarationAttributes.none :=
    (passes_collect ((passes_accept bracket).bind fun _ => rfl)).bind fun _ => rfl
  rw [declarationWith, looked.bind_apply, if_pos (by rw [peek]; decide),
    attributedDeclaration_interface (attributes l) stands]
  rfl

section Forward

variable (stands : s.rest = forwardTokens n ++ rest)

include stands

/-- The name is declared, and that is all. -/
theorem interface_forward (other : n ≠ "mixin") {x : Store}
    (declared : declareNamed .interface false n l (s.drop 2) = (.ok t, (s.drop 2).put x)) :
    interface .interface false l s = (.ok t, ((s.drop 2).put x).advance) := by
  obtain ⟨-, rest⟩ := ReadState.peek_of_rest stands
  obtain ⟨-, rest'⟩ := ReadState.peek_of_rest rest
  have semicolon : ((s.drop 2).put x).peek.category = .semicolon := by
    rw [(ReadState.peek_of_rest (s := (s.drop 2).put x) rest').1]
  have clauses : (interfaceClauses t).Passes ((s.drop 2).put x) () :=
    passes_interfaceClauses (by rw [semicolon]; rfl) (by rw [semicolon]; decide)
      (by rw [semicolon]; decide) t
  have ends : (accept .semicolon).Takes ((s.drop 2).put x) true := fun _ => if_pos semicolon
  rw [interface_declared stands other declared clauses, interfaceBody, ends.bind_apply]
  rfl

end Forward

section Description

variable (stands : s.rest = forwardTokens n ++ [Token.endOfInput])

include stands

theorem forward_not_atLast : ¬AtLast s := by
  refine not_atLast_of_word ?_
  rw [(ReadState.peek_of_rest stands).1]

/-- A description that consists of a forward declaration declares the name. -/
theorem forward_declares (readable : s.catalog.Readable l) (plain : n ≠ globalsName)
    (other : n ≠ "mixin") :
    ∃ t es, Declaration l .interface n s.catalog false (.ok t) es (description l s).2.catalog := by
  have catalog : (s.drop 2).catalog = s.catalog := s.catalog_drop 2
  have performs : (declareNamed .interface false n).Performs l s.catalog fun answer es d =>
      Declaration l .interface n s.catalog false answer es d :=
    declareNamed_performs readable plain false
  obtain ⟨answer, es, x, declared, -, declaration⟩ := performs (s.drop 2) catalog
  obtain ⟨t, rfl⟩ := declaration.accepted
  -- the one declaration of the description, up to its semicolon
  have first : declarationWith declarations l s = (.ok (), ((s.drop 2).put x).advance) := by
    rw [declaration_interface declarations stands, Parser.bind_apply,
      interface_forward stands other declared]
    rfl
  have left : ((s.drop 2).put x).advance.rest = [Token.endOfInput] := by
    rw [ReadState.rest_advance]
    change (s.drop 2).rest.tail = _
    rw [ReadState.rest_drop, stands]
    rfl
  have fewer : ((s.drop 2).put x).advance.left < s.left := by
    rw [ReadState.left_eq, s.left_eq, left, stands]
    simp [forwardTokens]
  have last : ((s.drop 2).put x).advance.peek.category = .eof := by
    rw [(ReadState.peek_of_rest left).1]
    rfl
  have whole := (description_first (forward_not_atLast stands) first fewer).trans
    (description_last last)
  refine ⟨t, es, ?_⟩
  rw [whole, ReadState.catalog_advance, ReadState.catalog_advance]
  exact declaration

/-- Nothing is declared under the name `mixin`. -/
theorem forward_mixin_declares (mixin : n = "mixin") :
    (description l s).2.catalog = s.catalog := by
  subst mixin
  have first : declarationWith declarations l s = Parser.expected (.token .word) l (s.drop 2) := by
    rw [declaration_interface declarations stands, Parser.bind_apply,
      interface_mixin false stands (by decide)]
    rfl
  have whole : description l s = Parser.expected (.token .word) l (s.drop 2) := by
    rw [description, Parser.bind_apply, declarations_apply l s, if_neg (forward_not_atLast stands),
      Parser.bind_apply, first]
    rfl
  rw [whole]
  exact s.catalog_drop 2

end Description

/-! ## Where a name is declared forward

A type that was declared for a library in some session is still found under its name there, by that
library; and a library that was just added finds what the tiers have. -/

/-- What a library declares it has an entry for. -/
theorem Step.entry_of_declared (readable : c.Readable l) (owns : c.OwnsOnly l) {reopens : Bool}
    (step : Step l c es d) (inside : .declared n t reopens ∈ es) :
    n ≠ globalsName ∧ (d.library l).types[n]? = some t := by
  obtain ⟨plain, kind, again, declared, declaration⟩ := step.declaration_of_declared readable inside
  refine ⟨plain, ?_⟩
  rcases declaration.naming readable.registry readable.inside plain declared with
    ⟨_, same, rfl, known, own⟩ | ⟨_, _, same, introduces⟩ | ⟨_, _, refused, -⟩
  · obtain rfl := Except.ok.inj same
    have isEntry := existing?_isEntry readable.registry plain known
    -- a type that the library owns is its globals or has an entry under its name
    rcases owns t own with globals | entry
    · -- the globals have a name that cannot be declared
      have named := (readable.registry.globals readable.inside).name
      rw [← globals, isEntry.name] at named
      exact absurd named plain
    · rwa [isEntry.name] at entry
  · obtain rfl := Except.ok.inj same
    exact introduces.introduced.lookup_self
  · cases refused

theorem Reading.entry_of_declared {h : History} (readable : c.Readable l) (owns : c.OwnsOnly l)
    {reopens : Bool} (reading : Reading l c h d) (inside : .declared n t reopens ∈ h.events) :
    n ≠ globalsName ∧ (d.library l).types[n]? = some t := by
  induction reading with
  | start => cases inside
  | step reading step ih =>
    have before := reading.readable readable
    rw [History.events_append, List.mem_append] at inside
    rcases inside with earlier | now
    · exact (ih earlier).imp id (step.entry_stays before)
    · exact step.entry_of_declared before (reading.ownsOnly readable owns readable.ne_hidden) now

/-- The library declared the name as this type in the course of the session. -/
def DeclaredBy (commands : List Command) (l : LibraryId) (n : String) (t : TypeId) : Prop :=
  ∃ before source more reopens, commands = before ++ .ingest l source :: more ∧
    (after before).WasAdded l ∧ .declared n t reopens ∈ ((after before).ingest l source).events

/-- The library was added last of all. -/
def JustAdded (commands : List Command) (l : LibraryId) : Prop :=
  ∃ before name readOnly docs, commands = before ++ [.addLibrary name readOnly docs] ∧
    l = ((after before).addLibrary name readOnly docs).1

/-- A library that declared the name has it still. -/
theorem DeclaredBy.existing (declared : DeclaredBy commands l n t) :
    (after commands).Readable l ∧ existing? l n (after commands) = some t := by
  obtain ⟨before, source, more, reopens, rfl, added, inside⟩ := declared
  have readable := (registry_after before).readable added
  obtain ⟨h, reading, events⟩ := ingest_reading readable source
  rw [← events] at inside
  obtain ⟨plain, entry⟩ :=
    reading.entry_of_declared readable (ownsOnly_after before added.1) inside
  have performed :
      after (before ++ [.ingest l source]) = ((after before).ingest l source).catalog := by
    rw [after_concat, perform, if_pos added]
  have keeps := keepsEntries_after (before ++ [.ingest l source]) more
  -- the entry was made by the reading and is never taken out again
  have stays := keeps l n t (performed ▸ entry)
  rw [List.append_assoc, List.singleton_append] at stays
  have registry := registry_after (before ++ .ingest l source :: more)
  refine ⟨⟨registry, added.1, ?_⟩, ?_⟩
  · by_contra outside
    rw [entry_of_size_le _ _ (Nat.not_lt.1 outside)] at stays
    cases stays
  · rw [existing?_eq plain, stays]
    rfl

/-- A library that was just added has no entry, and is asked last. -/
theorem JustAdded.fresh (added : JustAdded commands l) :
    (after commands).Readable l ∧ (after commands).IsLatest l ∧
      ∀ n : String, ((after commands).library l).types[n]? = none := by
  obtain ⟨before, name, readOnly, docs, rfl, rfl⟩ := added
  rw [after_concat, perform]
  have registry := registry_after before
  exact ⟨readable_addLibrary registry name readOnly docs, isLatest_addLibrary registry _ _ _,
    entry_addLibrary _ _ _ _⟩

/-- A library that was just added has nothing of its own for the name. -/
theorem JustAdded.existing (added : JustAdded commands l) (plain : n ≠ globalsName)
    (found : (after commands).resolve? n = some t) :
    (after commands).Readable l ∧ existing? l n (after commands) = some t := by
  obtain ⟨readable, -, free⟩ := added.fresh
  refine ⟨readable, ?_⟩
  rw [existing?_eq plain, free, found]
  rfl

/-! ## What becomes of the declared type

The definition stays in every case. The kind is that of an interface afterwards, unless the name is
`mixin`, for which nothing is declared. -/

/-- After every session, for a name that stands for a type: a forward declaration of the name, in
the library that declared the type or in one that was just added, leaves what the type is defined by
and all members, and its kind if and only if the type is an ordinary interface already or the name
is `mixin`. -/
theorem forward_keeps_iff (commands : List Command)
    (found : (after commands).resolve? n = some t)
    (place : DeclaredBy commands l n t ∨ JustAdded commands l) {source : String}
    (stands : tokens source.toList = forwardTokens n ++ [Token.endOfInput]) :
    let c := after commands
    let d := (c.ingest l source).catalog
    c.KeepsDefinition d t ∧
      ((d.type t).kind = (c.type t).kind ↔ (c.type t).kind = .interface ∨ n = "mixin") := by
  intro c d
  have plain : n ≠ globalsName :=
    word_ne_globalsName (ReadState.start_plain source.toList c ⟨.word, n⟩
      (stands ▸ List.mem_append_left _ (by simp [forwardTokens])) rfl)
  obtain ⟨readable, known⟩ : c.Readable l ∧ existing? l n c = some t := by
    rcases place with declared | added
    · exact declared.existing
    · exact added.existing plain found
  let s := ReadState.start (tokens source.toList) c
  have left : s.rest = forwardTokens n ++ [Token.endOfInput] := stands
  have whole : d = (description l s).2.catalog := congrArg (·.catalog) (ingest_eq c l source)
  by_cases mixin : n = "mixin"
  · have same : d = c := whole.trans (forward_mixin_declares left mixin)
    rw [same]
    exact ⟨⟨.refl _, rfl⟩, iff_of_true rfl (.inr mixin)⟩
  · obtain ⟨u, es, declaration⟩ := forward_declares left readable plain mixin
    rw [← whole] at declaration
    have bound := (existing?_isEntry readable.registry plain known).bound
    obtain ⟨-, keeps, kind⟩ := declaration.of_known known bound
    refine ⟨keeps, ?_⟩
    rw [kind]
    exact ⟨fun same => .inl same.symm, fun either => (either.resolve_right mixin).symm⟩

/-- An interface with a body is declared forward in another library. -/
theorem forward_keeps_interface :
    let commands : List Command := [.addLibrary "dom" false .silent,
      .ingest ⟨2⟩ "interface A : B { attribute long x; };", .addLibrary "html" false .silent]
    let c := after commands
    let d := (c.ingest ⟨3⟩ "interface A;").catalog
    c.resolve? "A" = some ⟨21⟩ ∧ JustAdded commands ⟨3⟩ ∧
      tokens "interface A;".toList = forwardTokens "A" ++ [Token.endOfInput] ∧
      c.KeepsDefinition d ⟨21⟩ ∧ (d.type ⟨21⟩).kind = (c.type ⟨21⟩).kind := by
  intro commands c d
  have found : c.resolve? "A" = some ⟨21⟩ := by decide +kernel
  have added : JustAdded commands ⟨3⟩ :=
    ⟨[.addLibrary "dom" false .silent, .ingest ⟨2⟩ "interface A : B { attribute long x; };"],
      "html", false, .silent, rfl, by decide +kernel⟩
  have stands : tokens "interface A;".toList = forwardTokens "A" ++ [Token.endOfInput] := by
    decide +kernel
  obtain ⟨keeps, kind⟩ := forward_keeps_iff commands found (.inr added) stands
  exact ⟨found, added, stands, keeps, kind.2 (.inl (by decide +kernel))⟩

/-- A global interface is declared forward in its own library, and is not global any more. -/
theorem forward_demotes_global :
    let commands : List Command := [.addLibrary "dom" false .silent,
      .ingest ⟨2⟩ "[Global] interface W { };"]
    let c := after commands
    let d := (c.ingest ⟨2⟩ "interface W;").catalog
    c.resolve? "W" = some ⟨21⟩ ∧ DeclaredBy commands ⟨2⟩ "W" ⟨21⟩ ∧
      tokens "interface W;".toList = forwardTokens "W" ++ [Token.endOfInput] ∧
      (c.type ⟨21⟩).kind = .global ∧ (d.type ⟨21⟩).kind = .interface := by
  intro commands c d
  have declared : DeclaredBy commands ⟨2⟩ "W" ⟨21⟩ :=
    ⟨[.addLibrary "dom" false .silent], "[Global] interface W { };", [], false, rfl,
      by decide +kernel, by decide +kernel⟩
  exact ⟨by decide +kernel, declared, by decide +kernel, by decide +kernel, by decide +kernel⟩

end IdlCatalog
