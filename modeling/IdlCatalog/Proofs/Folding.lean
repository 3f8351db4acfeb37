/-
# IdlCatalog.Proofs.Folding — an interface has the members that are written in it

An interface of a new name, written with any members and with any gaps between its tokens, is
accepted. The library then has this one type, and its tables list what the members come to: under
each name the last property, and the first operation with the parameters of all overloads merged
into its own. The types of members are those for which the references in them stand, references to
the interface itself included.

## From the text to the tables

The proof goes down the grammar and up again. A text that is laid out has the tokens that it was
laid out from; from these tokens the description reads one declaration, the declaration declares its
name and reads a body, and the body reads one member after the other. On the way back each level
says what it has added: the members one by one, then the type that has them, then the library that
has the type.

What a level knows is a `Tells`: the parser accepts, it leaves these tokens, it notes these events,
and the catalog afterwards is related to the one before. So nothing has to be assumed about
failures.
-/
import IdlCatalog.Proofs.Grammar.MemberReading
import IdlCatalog.Proofs.Grammar.Openings
import IdlCatalog.Proofs.Session

namespace IdlCatalog

open Grammar Catalog Lexer IdlCatalog.Parser

variable {c c' d : Catalog} {l : LibraryId} {s : ReadState} {t : TypeId} {name : String}
  {es : List Event} {ms : List MemberSyntax} {as : List Member}
  {answer : Except (Failure Fault) TypeId}

/-! ## New names

The library was just added, so it has no entries, and the name stands for nothing in the other ones.
Then the declaration can only be the one that creates a type. -/

/-- A library that was just added has no entries. -/
theorem entry_addLibrary (c : Catalog) (library : String) (readOnly : Bool)
    (docs : DocumentationProvider) (n : String) :
    let added := c.addLibrary library readOnly docs
    (added.2.library added.1).types[n]? = none := by
  intro added
  rw [library_addLibrary, addLibrary_fst, if_pos rfl]
  rfl

/-- What is known of a type that was just declared under a new name. -/
structure FreshType (c : Catalog) (l : LibraryId) (name : String) (kind : Kind) (t : TypeId)
    (d : Catalog) : Prop where
  declaring : d.Declaring t []
  entry : ∀ n : String, (d.library l).types[n]? =
    if n = name then some t else (c.library l).types[n]?
  resolve : d.resolve? name = some t
  kind : (d.type t).kind = kind

/-- A name that stands for nothing is given to the next type, and the tables stay as they are. -/
theorem Declaration.created_of_unknown {kind : Kind}
    (declaration : Declaration l kind name c false answer es d)
    (unknown : existing? l name c = none) :
    answer = .ok ⟨c.types.size⟩ ∧ Event.parameters es = [] ∧ KeepsLists c d := by
  cases declaration with
  | upgraded known =>
    rw [unknown] at known
    cases known
  | @created _ d _ entered =>
    exact ⟨rfl, rfl, ((keepsLists_newType c name kind).trans (keepsLists_addType entered)).trans
      (keepsLists_document d l _)⟩

/-- So the declared type is what its name stands for, and it has no members yet. -/
theorem Declaration.fresh {kind : Kind}
    (declaration : Declaration l kind name c false (.ok t) es d)
    (readable : c.Readable l) (latest : c.IsLatest l) (tables : c.Tables)
    (plain : name ≠ globalsName) (declared : kind.IsDeclared)
    (keptKind : kind ≠ .noInterfaceObject) (stands : kind ≠ .reopening)
    (unknown : existing? l name c = none) : FreshType c l name kind t d := by
  obtain ⟨new, -, keeps⟩ := declaration.created_of_unknown unknown
  obtain rfl := Except.ok.inj new
  have introduces := declaration.introduces readable plain declared
  have introduced := introduces.introduced
  have same : (d.type ⟨c.types.size⟩).kind = kind :=
    introduced.kind.resolve_right fun bare => keptKind bare.1
  have alike : ∀ k, k ≠ l → (c.library k).types[name]? = some ⟨c.types.size⟩ →
      d.isReopening ⟨c.types.size⟩ = c.isReopening ⟨c.types.size⟩ := fun k _ entry =>
    absurd (readable.registry.entry entry).bound (Nat.lt_irrefl _)
  have outside := introduces.outside (n := name) readable alike
  have latest' : d.IsLatest l := by
    rw [IsLatest, introduced.registered]
    exact latest
  have entry (n : String) : (d.library l).types[n]? =
      if n = name then some ⟨c.types.size⟩ else (c.library l).types[n]? := by
    rw [introduced.lookup]
    simp
  have notReopening : d.isReopening ⟨c.types.size⟩ = false := by
    simp [isReopening, same, stands]
  refine ⟨⟨?_, keeps.grows.tables tables, introduced.bound, notReopening, .nil fun table => ?_⟩,
    entry, ?_, same⟩
  · exact ((Step.declaration plain declared declaration).readable readable).registry
  · rw [keeps.of, type_of_size_le c ⟨c.types.size⟩ (Nat.le_refl _)]
    cases table <;> rfl
  · have nothing := (existing?_eq_none plain unknown).2
    rw [resolve?_eq_or latest, Option.or_eq_none_iff] at nothing
    rw [resolve?_eq_or latest', outside, nothing.1, Option.none_or, declaredIn?, entry, if_pos rfl,
      Option.filter_some, notReopening]
    rfl

/-! ## Bodies

All members are read and the closing brace after them. The semicolon behind the brace is part of the
form. -/

/-- A description may consist of one declaration. -/
theorem description_tells {P : Unit → List Event → Catalog → Prop} (other : ¬AtLast s)
    (some_left : 1 < s.left)
    (first : (declarationWith declarations).Tells l s [Token.endOfInput] P) :
    description.Tells l s [] P := by
  obtain ⟨_, noted, u, run, left, told, q⟩ := first
  obtain ⟨peek, left'⟩ := ReadState.peek_of_rest left
  have fewer : u.left < s.left := by rwa [u.left_eq, left]
  have whole := (description_first other run fewer).trans (description_last (by rw [peek]; rfl))
  refine ⟨(), noted, u.advance, whole, left', ?_, ?_⟩
  · rw [u.told_advance, told]
  · rwa [u.catalog_advance]

end IdlCatalog
