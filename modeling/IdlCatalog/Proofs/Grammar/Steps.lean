/-
# IdlCatalog.Proofs.Grammar.Steps — a reading as a chain of steps

Seen from the catalog a reading is a chain of steps of three sorts: a name is looked up, a name is
declared, or something is edited that no look-up depends on. `Step` lists them with what they
require, with the events they note and with the catalog they leave; `Reading` is a chain of steps
with the catalogs in between. An invariant of all readings is proved step by step and then follows
along the chain.

## Which facts a step has to give

The constructors name the operation of the catalog and what the grammar knows when it calls it: that
the type it writes to is owned by the library, that the types a member mentions exist, whether a
name was free. They leave out what the grammar did to get there. So `Step` is the interface between
the grammar and the theory of the catalog. A change to a production that keeps its calls changes
nothing behind this line.

Three rough summaries serve most invariants. A step is quiet, or it introduces one type:
`Step.naming`. It keeps a catalog readable: `Step.readable`. Any name it changes belongs to the
library of the reading or to the hidden one: `Catalog.Introduces`.
-/
import IdlCatalog.Proofs.Catalog.Recording
import IdlCatalog.Proofs.Catalog.Resolution
import IdlCatalog.Proofs.Grammar.Lockstep

namespace IdlCatalog

open Grammar

/-! ## What is written

Members and composites as the grammar hands them to the catalog. A member that was just read has
neither owner nor documentation, and the types that it mentions are there already. Composites are
entries of the hidden library, of kinds that no declaration has. -/

/-- A type that a declaration for the library is about. -/
structure Catalog.Owned (c : Catalog) (l : LibraryId) (t : TypeId) : Prop where
  library : (c.type t).library = some l
  declared : (c.type t).kind.isSynthesized = false
  iterable : (c.type t).iterable = none

/-- A type that a library owns exists. -/
theorem Catalog.Owned.bound {c : Catalog} {l : LibraryId} {t : TypeId} (h : c.Owned l t) :
    t.index < c.types.size :=
  Catalog.type_library_lt h.library

/-- A member as it was read, which mentions only types that exist. -/
structure Member.Ready (c : Catalog) (a : Member) : Prop where
  owner : a.owner = none
  documentation : a.documentation = none
  types : ∀ t ∈ a.referencedTypes, t.index < c.types.size

section Ready

variable {R : TypeId → TypeId → Prop} {P : TypeId → Prop} {ts us : List TypeId} {a b : Member}
  {c : Catalog}

/-- What the relation gives for its left side holds for all on the left. -/
theorem forall_left (related : List.Forall₂ R ts us) (imp : ∀ {t u}, R t u → P t) :
    ∀ t ∈ ts, P t :=
  ((List.forall₂_and_left ts us).1 (related.imp fun _ _ tu => ⟨imp tu, tu⟩)).1

/-- What the relation gives for its right side holds for all on the right. -/
theorem forall_right (related : List.Forall₂ R ts us) (imp : ∀ {t u}, R t u → P u) :
    ∀ u ∈ us, P u := by
  have flipped : List.Forall₂ (fun u t => R t u) us ts := related.flip
  exact forall_left flipped imp

/-- Corresponding parameters have corresponding types. -/
theorem parameterTypes_related {ps qs : List Parameter}
    (related : List.Forall₂ (Parameter.Corresponds R) ps qs) :
    List.Forall₂ R (ps.map (·.type)) (qs.map (·.type)) := by
  induction related with
  | nil => exact .nil
  | cons pq _ ih => exact .cons pq.type ih

/-- Corresponding members mention corresponding types, in the same order. -/
theorem Member.Corresponds.referencedTypes (h : Member.Corresponds R a b) :
    List.Forall₂ R a.referencedTypes b.referencedTypes := by
  obtain ⟨_, _, _, _, _, _⟩ := a
  obtain ⟨_, _, _, _, _, _⟩ := b
  obtain ⟨-, types, -, -, -, bodies⟩ := h
  refine List.rel_append ?_ ?_
  · cases types with
    | some tu => exact .cons tu .nil
    | none => exact .nil
  · cases bodies with
    | property => exact .nil
    | operation specials related => exact parameterTypes_related related

/-- A member that corresponds to another one is ready if corresponding types exist on its side. -/
theorem Member.Corresponds.ready_left (h : Member.Corresponds R a b)
    (bound : ∀ {t u}, R t u → t.index < c.types.size) : a.Ready c where
  owner := h.owner.1
  documentation := h.documentation.1
  types := forall_left h.referencedTypes bound

/-- The other member is ready, too. -/
theorem Member.Corresponds.ready_right (h : Member.Corresponds R a b)
    (bound : ∀ {t u}, R t u → u.index < c.types.size) : b.Ready c where
  owner := h.owner.2
  documentation := h.documentation.2
  types := forall_right h.referencedTypes bound

/-- What corresponds to a property is a property. -/
theorem Member.Corresponds.isProperty (h : Member.Corresponds R a b) (body : a.IsProperty) :
    b.IsProperty := by
  obtain ⟨initial, eq⟩ := body
  have bodies := h.body
  rw [eq] at bodies
  generalize shape : b.body = other at bodies
  cases bodies
  exact ⟨initial, shape⟩

/-- What corresponds to an operation is an operation. -/
theorem Member.Corresponds.isOperation (h : Member.Corresponds R a b) (body : a.IsOperation) :
    b.IsOperation := by
  obtain ⟨_, specials, eq⟩ := body
  have bodies := h.body
  rw [eq] at bodies
  generalize shape : b.body = other at bodies
  cases bodies
  exact ⟨_, specials, shape⟩

end Ready

/-- The entry of a composite around one type. -/
def Catalog.wrapperNode (c : Catalog) (kind : Kind) (rendered : String → String)
    (element : TypeId) : TypeNode :=
  { TypeNode.new (rendered (c.typeName element)) kind with
    library := some hidden, superType := some element }

/-- The entry of a generic type. Of all types only `iterable` says over which types one iterates. -/
def Catalog.genericNode (c : Catalog) (name : String) (arguments : List TypeId) : TypeNode :=
  { TypeNode.new (name ++ "<" ++ ", ".intercalate (arguments.map c.typeName) ++ ">") .generic with
    library := some hidden, superType := arguments.getLast?, types := arguments.toArray,
    iterable := if name = "iterable" then iterableOf arguments else none }

/-- The entry of a union. -/
def Catalog.unionNode (c : Catalog) (branches : List TypeId) : TypeNode :=
  { TypeNode.new ("(" ++ " or ".intercalate (branches.map c.typeName) ++ ")") .union with
    library := some hidden, types := branches.toArray }

/-- The entries of composite types, whose parts exist. -/
inductive Catalog.Composite (c : Catalog) : TypeNode → Prop
  | wrapper {kind : Kind} {rendered : String → String} {element : TypeId}
      (wrapper : Wrapper kind rendered) (bound : element.index < c.types.size) :
      Composite c (c.wrapperNode kind rendered element)
  | generic (name : String) {arguments : List TypeId}
      (bound : ∀ t ∈ arguments, t.index < c.types.size) : Composite c (c.genericNode name arguments)
  | union {branches : List TypeId} (bound : ∀ t ∈ branches, t.index < c.types.size) :
      Composite c (c.unionNode branches)

/-! ## Steps

An `Edit` changes no name and no entry of a library. A `Reference` may add a placeholder to the
hidden library. A `Declaration` has five cases: the name is one that the library owns and reopens;
it reopens a type that is owned elsewhere; it tries to, but the library still has an entry that
another one owns; it settles a type that is known; it creates a new type. -/

/-- A member of `t` is documented. -/
def documentMember (l : LibraryId) (t : TypeId) (added : MemberId × Catalog) :
    List Event × Catalog :=
  ([.attached t added.1, .asked l (.member added.1) (added.2.artifactPath (.member added.1))],
    added.2.document l (.member added.1))

/-- A step that no look-up depends on. -/
inductive Edit (l : LibraryId) (c : Catalog) : List Event → Catalog → Prop
  | nothing : Edit l c [] c
  | parameter {p : Parameter} (bound : p.type.index < c.types.size) : Edit l c [.parameter p] c
  | compose {node : TypeNode} (composite : c.Composite node) : Edit l c [] (c.pushType node).2
  | superType {t u : TypeId} (owned : c.Owned l t) (bound : u.index < c.types.size) :
      Edit l c [.extended t u] (c.setSuperType t u)
  | literal {t : TypeId} (owned : c.Owned l t) (literal : String) :
      Edit l c [] (c.addLiteral t literal)
  | modifiers {t : TypeId} (owned : c.Owned l t) (modifiers : Modifiers) :
      Edit l c [] (c.addModifiers t modifiers)
  | mixin {t u : TypeId} (bound : t.index < c.types.size) (base_bound : u.index < c.types.size) :
      Edit l c [] (c.addImplements t u)
  | property {t : TypeId} {a : Member} (owned : c.Owned l t) (ready : a.Ready c)
      (body : a.IsProperty) :
      Edit l c (documentMember l t (c.addProperty t a)).1
        (documentMember l t (c.addProperty t a)).2
  | operation {t : TypeId} {a : Member} (owned : c.Owned l t) (ready : a.Ready c)
      (body : a.IsOperation) :
      Edit l c (documentMember l t (c.addOperation t a)).1
        (documentMember l t (c.addOperation t a)).2
  | constructor {t : TypeId} {a : Member} (owned : c.Owned l t) (ready : a.Ready c)
      (body : a.IsOperation) :
      Edit l c (documentMember l t (c.addConstructor t a)).1
        (documentMember l t (c.addConstructor t a)).2
  | merged {t : TypeId} {m : MemberId} {a : Member} (owned : c.Owned l t) (ready : a.Ready c)
      (body : a.IsOperation) (known : c.operation? t a.name = some m) :
      Edit l c [.merged t m] (c.mergeOperation m a)

/-- A name is looked up for a reference. -/
inductive Reference (l : LibraryId) (name : String) (c : Catalog) : TypeId → Catalog → Prop
  | own {t : TypeId} (entry : (c.library l).types[name]? = some t)
      (stands : c.isReopening t = false) :
      Reference l name c t c
  | tier {t : TypeId} (passed : ∀ u, (c.library l).types[name]? = some u → c.isReopening u = true)
      (found : c.resolve? name = some t) : Reference l name c t c
  | placeholder (passed : ∀ u, (c.library l).types[name]? = some u → c.isReopening u = true)
      (unknown : c.resolve? name = none) :
      Reference l name c (c.addPlaceholder name).1 (c.addPlaceholder name).2

/-- A type is entered into the library, and its documentation is asked for. -/
def introducedEvents (l : LibraryId) (name : String) (t : TypeId) (reopens : Bool) (d : Catalog) :
    List Event :=
  [.declared name t reopens, .asked l (.type t) (d.artifactPath (.type t))]

/-- A name is declared, as a type of the kind or as a part of one that is declared elsewhere. -/
inductive Declaration (l : LibraryId) (kind : Kind) (name : String) (c : Catalog) :
    Bool → Except (Failure Fault) TypeId → List Event → Catalog → Prop
  | again {t : TypeId} (known : existing? l name c = some t) (own : (c.type t).library = some l) :
      Declaration l kind name c true (.ok t) [.declared name t true] c
  | reopened {u : TypeId} {d : Catalog} (known : existing? l name c = some u)
      (other : (c.type u).library ≠ some l)
      (free : (c.library l).types[name]? = none)
      (entered : (c.newType name .reopening).2.addType l ⟨c.types.size⟩ = .ok d) :
      Declaration l kind name c true (.ok ⟨c.types.size⟩)
        (introducedEvents l name ⟨c.types.size⟩ true d)
        ((d.document l (.type ⟨c.types.size⟩)).setSuperType ⟨c.types.size⟩ u)
  | refused {u : TypeId} (known : existing? l name c = some u)
      (other : (c.type u).library ≠ some l)
      (taken : (c.library l).types[name]? = some u) :
      Declaration l kind name c true (.error (.duplicate ⟨(c.library l).name, name⟩)) []
        (c.newType name .reopening).2
  | upgraded {t : TypeId} {d : Catalog} (known : existing? l name c = some t)
      (free : (c.library l).types[name]? = none ∨ (c.library l).types[name]? = some t)
      (entered : (c.setKind t kind).addType l t = .ok d) :
      Declaration l kind name c false (.ok t) (introducedEvents l name t false d)
        (d.document l (.type t))
  | created {reopens : Bool} {d : Catalog} (unknown : existing? l name c = none)
      (entered : (c.newType name kind).2.addType l ⟨c.types.size⟩ = .ok d) :
      Declaration l kind name c reopens (.ok ⟨c.types.size⟩)
        (introducedEvents l name ⟨c.types.size⟩ reopens d)
        (d.document l (.type ⟨c.types.size⟩))

/-- What a reading for the library does in one step. -/
inductive Step (l : LibraryId) (c : Catalog) : List Event → Catalog → Prop
  | edit {es : List Event} {d : Catalog} (edit : Edit l c es d) : Step l c es d
  | reference {name : String} {t : TypeId} {d : Catalog} (plain : name ≠ globalsName)
      (reference : Reference l name c t d) :
      Step l c [.referenced name t] d
  | declaration {name : String} {kind : Kind} {reopens : Bool}
      {answer : Except (Failure Fault) TypeId} {es : List Event} {d : Catalog}
      (plain : name ≠ globalsName) (declared : kind.IsDeclared)
      (declaration : Declaration l kind name c reopens answer es d) :
      Step l c es d

/-! ## Chains of steps

The history keeps the catalog after each step, not only the last one. Results about what happens
between two events of a reading, such as a property and the operation that meets it, need the states
in between. -/

/-- The steps that a reading took, each with its events and the catalog after it. -/
abbrev History := List (List Event × Catalog)

/-- The events of a history. -/
def History.events (h : History) : List Event := h.flatMap (·.1)

@[simp] theorem History.events_nil : History.events [] = [] := rfl

@[simp] theorem History.events_append (h : History) (es : List Event) (d : Catalog) :
    History.events (h ++ [(es, d)]) = h.events ++ es := by
  simp [History.events]

/-- A chain of steps for the library. -/
inductive Reading (l : LibraryId) (c : Catalog) : History → Catalog → Prop
  | start : Reading l c [] c
  | step {h : History} {d e : Catalog} {es : List Event} (reading : Reading l c h d)
      (step : Step l d es e) : Reading l c (h ++ [(es, e)]) e

/-! ## What a step does to the registry

Each sort of step in the vocabulary of `Proofs.Catalog.Naming`: an edit is `Quiet`, a mention either
changes nothing or introduces a placeholder, a declaration changes nothing, introduces a type or is
refused. -/

variable {c d : Catalog} {t u : TypeId} {m : MemberId} {l k : LibraryId} {name : String}
  {kind : Kind} {reopens : Bool} {es : List Event} {h : History}

namespace Catalog

/-- Composites belong to the hidden library. -/
theorem Composite.library {node : TypeNode} (h : c.Composite node) :
    node.library = some hidden := by
  cases h <;> rfl

/-- No composite reopens a type. -/
theorem Composite.stands {node : TypeNode} (h : c.Composite node) : node.kind ≠ .reopening := by
  cases h with
  | wrapper wrapper => cases wrapper <;> exact nofun
  | generic | union => exact nofun

/-- Nothing changes about the type; only its kind may be settled. -/
theorem SameEntry.isReopening (same : SameEntry c d t) : d.isReopening t = c.isReopening t := by
  rw [Catalog.isReopening, Catalog.isReopening]
  exact decide_eq_decide.2 same.kind.reopening_iff

/-- A type that was introduced reopens no other unless it was declared to. -/
theorem Introduced.stands (introduced : Introduced k name t kind c d)
    (other : kind ≠ .reopening) : d.isReopening t = false :=
  decide_eq_false fun reopening => other (introduced.kind.reopening_iff.1 reopening)

theorem quiet_documentMember (l : LibraryId) (t : TypeId) {added : MemberId × Catalog}
    (h : Quiet c added.2) : Quiet c (documentMember l t added).2 :=
  h.trans (quiet_document added.2 l (.member added.1))

/-- What `existing?` gives for a name that can be written. -/
theorem existing?_eq (plain : name ≠ globalsName) :
    existing? l name c = ((c.library l).types[name]?).or (c.resolve? name) := by
  rw [existing?, Registry.get?_eq plain]

/-- What is known under a name is a type of that name. -/
theorem existing?_isEntry (registry : Registry c) (plain : name ≠ globalsName)
    (known : existing? l name c = some t) : c.IsEntry name t := by
  rw [existing?_eq plain, Option.or_eq_some_iff] at known
  rcases known with entry | ⟨-, found⟩
  · exact registry.entry entry
  · exact resolve?_isEntry registry found

/-- An unknown name is neither in the library nor in a tier. -/
theorem existing?_eq_none (plain : name ≠ globalsName) (unknown : existing? l name c = none) :
    (c.library l).types[name]? = none ∧ c.resolve? name = none := by
  rwa [existing?_eq plain, Option.or_eq_none_iff] at unknown

/-- A step of a reading for `l` that introduces a type: a declaration does so in `l`, a mention in
the hidden library. -/
structure Introduces (l k : LibraryId) (name : String) (t : TypeId) (kind : Kind) (c d : Catalog) :
    Prop where
  introduced : Introduced k name t kind c d
  plain : name ≠ globalsName
  declared : kind.isSynthesized = false
  reopens : kind = .reopening → k = l ∧ c.types.size ≤ t.index
  free : (c.library k).types[name]? = none ∨ (c.library k).types[name]? = some t
  place : k = l ∨ k = hidden ∧ c.types.size ≤ t.index

end Catalog

open Catalog

/-- No edit touches names, entries or owners. -/
theorem Edit.quiet (edit : Edit l c es d) : Quiet c d := by
  cases edit with
  | nothing => exact .refl c
  | parameter => exact .refl c
  | compose composite => exact quiet_pushType c _ (.inr composite.library)
  | superType => exact quiet_setSuperType c _ _
  | literal => exact quiet_addLiteral c _ _
  | modifiers => exact quiet_addModifiers c _ _
  | mixin => exact quiet_addImplements c _ _
  | property => exact quiet_documentMember _ _ (quiet_addProperty c _ _)
  | operation => exact quiet_documentMember _ _ (quiet_addOperation c _ _)
  | constructor => exact quiet_documentMember _ _ (quiet_addConstructor c _ _)
  | merged => exact quiet_mergeOperation c _ _

/-- A mention changes nothing or introduces a placeholder in the hidden library. -/
theorem Reference.naming (registry : Registry c) (plain : name ≠ globalsName)
    (reference : Reference l name c t d) :
    d = c ∨ Introduces l Catalog.hidden name t .noInterfaceObject c d := by
  cases reference with
  | own => exact .inl rfl
  | tier => exact .inl rfl
  | placeholder passed unknown =>
    have free := registry.hidden_free unknown
    have new : c.types.size ≤ (c.addPlaceholder name).1.index :=
      Nat.le_of_eq (congrArg (fun p => p.1.index) (addPlaceholder_of_none free)).symm
    exact .inr ⟨introduced_addPlaceholder registry.hidden_lt free, plain, rfl, nofun, .inl free,
      .inr ⟨rfl, new⟩⟩

theorem typeName_newType (c : Catalog) (name : String) (kind : Kind) :
    (c.newType name kind).2.typeName ⟨c.types.size⟩ = name := by
  rw [Catalog.typeName, newType, type_pushType, if_pos rfl]
  rfl

/-- A new type that was entered is introduced. -/
theorem introduced_newType (inside : l.index < c.libraries.size)
    (free : (c.library l).types[name]? = none)
    (ok : (c.newType name kind).2.addType l ⟨c.types.size⟩ = .ok d) :
    Introduced l name ⟨c.types.size⟩ kind c d := by
  obtain ⟨e, ok', entered⟩ := addType_ok (c := (c.newType name kind).2)
    (t := ⟨c.types.size⟩) inside (.inl ((typeName_newType c name kind).symm ▸ free))
  rw [ok] at ok'
  cases ok'
  rw [typeName_newType] at entered
  exact entered.introduced_new

/-- A declaration of an unknown name introduces its type. -/
theorem introduces_created (inside : l.index < c.libraries.size) (plain : name ≠ globalsName)
    (declared : kind.IsDeclared) (free : (c.library l).types[name]? = none)
    (ok : (c.newType name kind).2.addType l ⟨c.types.size⟩ = .ok d) :
    Introduces l l name ⟨c.types.size⟩ kind c (d.document l (.type ⟨c.types.size⟩)) :=
  ⟨(introduced_newType inside free ok).trans_quiet (quiet_document _ _ _), plain, declared.1,
    fun _ => ⟨rfl, Nat.le_refl _⟩, .inl free, .inl rfl⟩

/-- To reopen a type of another library introduces a type of its own. -/
theorem introduces_reopened (inside : l.index < c.libraries.size) (plain : name ≠ globalsName)
    (free : (c.library l).types[name]? = none)
    (ok : (c.newType name .reopening).2.addType l ⟨c.types.size⟩ = .ok d) :
    Introduces l l name ⟨c.types.size⟩ .reopening c
      ((d.document l (.type ⟨c.types.size⟩)).setSuperType ⟨c.types.size⟩ u) :=
  ⟨((introduced_newType inside free ok).trans_quiet (quiet_document _ _ _)).trans_quiet
    (quiet_setSuperType _ _ _), plain, rfl, fun _ => ⟨rfl, Nat.le_refl _⟩, .inl free, .inl rfl⟩

/-- A type that was known is introduced once more, with the kind of its declaration. -/
theorem introduces_upgraded (registry : Registry c) (inside : l.index < c.libraries.size)
    (plain : name ≠ globalsName) (declared : kind.IsDeclared)
    (known : existing? l name c = some t)
    (free : (c.library l).types[name]? = none ∨ (c.library l).types[name]? = some t)
    (ok : (c.setKind t kind).addType l t = .ok d) :
    Introduces l l name t kind c (d.document l (.type t)) := by
  have entry := existing?_isEntry registry plain known
  have same_name : (c.setKind t kind).typeName t = name := by
    rw [typeName_setKind]
    exact entry.name
  obtain ⟨e, ok', entered⟩ := addType_ok (c := c.setKind t kind) (t := t) inside
    (same_name.symm ▸ free)
  rw [ok] at ok'
  cases ok'
  rw [same_name] at entered
  have introduced := entered.introduced entry.bound entry.name entry.iterable
  exact ⟨introduced.trans_quiet (quiet_document _ _ _), plain, declared.1,
    fun eq => absurd eq declared.2, free, .inl rfl⟩

/-- What a declaration comes to for the names: nothing new, a type introduced by the library, or a
refusal because the library has the name for a type that it does not own. -/
theorem Declaration.naming {answer : Except (Failure Fault) TypeId} (registry : Registry c)
    (inside : l.index < c.libraries.size) (plain : name ≠ globalsName)
    (declared : kind.IsDeclared)
    (declaration : Declaration l kind name c reopens answer es d) :
    (∃ t, answer = .ok t ∧ d = c ∧ existing? l name c = some t ∧ (c.type t).library = some l) ∨
    (∃ t kind', answer = .ok t ∧ Introduces l l name t kind' c d) ∨
    ∃ e u, answer = .error (.duplicate e) ∧ Quiet c d ∧ (c.library l).types[name]? = some u ∧
      (c.type u).library ≠ some l := by
  cases declaration with
  | again known own => exact .inl ⟨_, rfl, rfl, known, own⟩
  | reopened _ _ free ok =>
    exact .inr (.inl ⟨_, _, rfl, introduces_reopened inside plain free ok⟩)
  | refused _ other taken =>
    exact .inr (.inr ⟨_, _, rfl, quiet_pushType c _ (.inl rfl), taken, other⟩)
  | upgraded known free ok =>
    exact .inr (.inl ⟨_, _, rfl,
      introduces_upgraded registry inside plain declared known free ok⟩)
  | created unknown ok =>
    have free := (existing?_eq_none plain unknown).1
    exact .inr (.inl ⟨_, _, rfl, introduces_created inside plain declared free ok⟩)

/-- A step either is quiet or introduces one type. -/
theorem Step.naming (registry : Registry c) (inside : l.index < c.libraries.size)
    (step : Step l c es d) : Quiet c d ∨ ∃ k name t kind, Introduces l k name t kind c d := by
  cases step with
  | edit edit => exact .inl edit.quiet
  | reference plain reference =>
    rcases reference.naming registry plain with rfl | introduces
    · exact .inl (.refl _)
    · exact .inr ⟨_, _, _, _, introduces⟩
  | declaration plain declared declaration =>
    rcases declaration.naming registry inside plain declared with
      ⟨-, -, rfl, -⟩ | ⟨_, _, -, introduces⟩ | ⟨-, -, -, quiet, -⟩
    · exact .inl (.refl _)
    · exact .inr ⟨_, _, _, _, introduces⟩
    · exact .inl quiet

/-- A reading for a library that was added, in a sound catalog. -/
structure Catalog.Readable (c : Catalog) (l : LibraryId) : Prop where
  registry : Registry c
  two_le : 2 ≤ l.index
  inside : l.index < c.libraries.size

theorem Catalog.Readable.ne_hidden (h : c.Readable l) : l ≠ Catalog.hidden := by
  rintro rfl
  exact absurd h.two_le (by decide)

theorem Catalog.Introduces.readable (h : c.Readable l) (step : Introduces l k name t kind c d) :
    d.Readable l := by
  have place : k.index < c.libraries.size := by
    rcases step.place with rfl | ⟨rfl, -⟩
    · exact h.inside
    · exact h.registry.hidden_lt
  refine ⟨h.registry.introduced step.introduced place step.plain step.declared ?_, h.two_le, ?_⟩
  · intro reopening
    obtain ⟨rfl, new⟩ := step.reopens reopening
    exact ⟨h.two_le, new⟩
  · rw [step.introduced.libraries_size]
    exact h.inside

theorem Catalog.Quiet.readable (h : c.Readable l) (quiet : Quiet c d) : d.Readable l :=
  ⟨h.registry.quiet quiet, h.two_le, by rw [quiet.libraries]; exact h.inside⟩

/-- A step leaves the catalog sound. -/
theorem Step.readable (h : c.Readable l) (step : Step l c es d) : d.Readable l := by
  rcases step.naming h.registry h.inside with quiet | ⟨_, _, _, _, introduces⟩
  · exact quiet.readable h
  · exact introduces.readable h

/-- What an added library owns stays what it has entries for, apart from its globals. -/
theorem Step.ownsOnly (h : c.Readable l) (only : c.OwnsOnly k) (other : k ≠ Catalog.hidden)
    (step : Step l c es d) : d.OwnsOnly k := by
  rcases step.naming h.registry h.inside with quiet | ⟨_, _, _, _, introduces⟩
  · exact only.quiet other quiet
  · exact only.introduced other introduces.introduced introduces.free

/-- The library of the reading goes on owning what it has entries for. -/
theorem Step.ownsEntries (h : c.Readable l) (owns : OwnsEntries c l) (step : Step l c es d) :
    OwnsEntries d l := by
  rcases step.naming h.registry h.inside with quiet | ⟨k, _, _, _, introduces⟩
  · exact owns.quiet h.registry h.ne_hidden quiet
  · rcases introduces.place with rfl | ⟨rfl, new⟩
    · exact owns.introduced h.registry h.ne_hidden introduces.introduced introduces.free
    · exact owns.introduced_other h.registry h.ne_hidden introduces.introduced h.ne_hidden.symm
        introduces.free new

/-- Types are never taken away. -/
theorem Step.types_size_le (h : c.Readable l) (step : Step l c es d) :
    c.types.size ≤ d.types.size := by
  rcases step.naming h.registry h.inside with quiet | ⟨_, _, _, _, introduces⟩
  · exact quiet.size_le
  · exact introduces.introduced.size_le

/-- What a declaration is about stays so: nobody else introduces it meanwhile. -/
theorem Step.owned (h : c.Readable l) (step : Step l c es d) (owned : c.Owned l t) :
    d.Owned l t := by
  rcases step.naming h.registry h.inside with quiet | ⟨k, _, u, _, introduces⟩
  · have same := quiet.old t owned.bound
    exact ⟨same.library.trans owned.library, same.kind.isSynthesized.trans owned.declared,
      same.iterable.trans owned.iterable⟩
  · have introduced := introduces.introduced
    by_cases here : t = u
    -- the library introduces the type again, since the hidden one introduces new types only
    · rcases introduces.place with rfl | ⟨rfl, new⟩
      · exact ⟨here ▸ introduced.library, here ▸ introduced.kind.isSynthesized.trans
          introduces.declared, here ▸ introduced.iterable⟩
      · exact absurd (here ▸ owned.bound) (Nat.not_lt.2 new)
    · have same := introduced.others t owned.bound here
      exact ⟨same.library.trans owned.library, same.kind.isSynthesized.trans owned.declared,
        same.iterable.trans owned.iterable⟩

/-- Nothing that stands on its own is made to reopen another type. -/
theorem Step.stands (h : c.Readable l) (step : Step l c es d) (bound : t.index < c.types.size)
    (stands : c.isReopening t = false) : d.isReopening t = false := by
  rcases step.naming h.registry h.inside with quiet | ⟨_, _, u, _, introduces⟩
  · exact (quiet.old t bound).isReopening.trans stands
  · by_cases here : t = u
    · subst here
      exact introduces.introduced.stands fun reopening =>
        absurd bound (Nat.not_lt.2 (introduces.reopens reopening).2)
    · exact (introduces.introduced.others t bound here).isReopening.trans stands

/-! ### Names, types and entries of the library -/

/-- Libraries keep their names. -/
theorem Step.libraryName (h : c.Readable l) (step : Step l c es d) (k : LibraryId) :
    (d.library k).name = (c.library k).name := by
  rcases step.naming h.registry h.inside with quiet | ⟨_, _, _, _, introduces⟩
  · rw [quiet.library]
  · exact introduces.introduced.libraryName k

/-- Types keep their names. -/
theorem Step.typeName (h : c.Readable l) (step : Step l c es d) (bound : t.index < c.types.size) :
    d.typeName t = c.typeName t := by
  rcases step.naming h.registry h.inside with quiet | ⟨_, name, u, _, introduces⟩
  · exact (quiet.old t bound).name
  · by_cases here : t = u
    · subst here
      exact introduces.introduced.name.trans (introduces.introduced.before bound).1.symm
    · exact (introduces.introduced.others t bound here).name

/-- Whether a type iterates is settled when it is created. -/
theorem Step.iterable (h : c.Readable l) (step : Step l c es d) (bound : t.index < c.types.size) :
    (d.type t).iterable = (c.type t).iterable := by
  rcases step.naming h.registry h.inside with quiet | ⟨_, _, u, _, introduces⟩
  · exact (quiet.old t bound).iterable
  · by_cases here : t = u
    · subst here
      exact introduces.introduced.iterable.trans (introduces.introduced.before bound).2.symm
    · exact (introduces.introduced.others t bound here).iterable

/-- An edit leaves all libraries alone. -/
theorem Edit.lookup (edit : Edit l c es d) (k : LibraryId) : d.library k = c.library k :=
  edit.quiet.library k

/-- A reference gives no library but the hidden one an entry. -/
theorem Reference.lookup (registry : Registry c) (plain : name ≠ globalsName)
    (reference : Reference l name c t d) (other : k ≠ Catalog.hidden) (n : String) :
    (d.library k).types[n]? = (c.library k).types[n]? := by
  rcases reference.naming registry plain with rfl | introduces
  · rfl
  · rw [introduces.introduced.lookup, if_neg fun both => other both.1]

/-- Where a library owns exactly what it has entries for, it has an entry for what it owns. -/
theorem Catalog.OwnsEntries.entry_of_owned (owns : OwnsEntries c l) (readable : c.Readable l)
    (plain : name ≠ globalsName) (isEntry : c.IsEntry name t)
    (own : (c.type t).library = some l) : (c.library l).types[name]? = some t := by
  rcases owns.owned _ own with rfl | entry
  · exact absurd (isEntry.name.symm.trans (readable.registry.globals readable.inside).name) plain
  · rwa [isEntry.name] at entry

/-- Where a library owns exactly what it has entries for, a declaration comes to a type, and the
library has an entry for the name from then on. -/
theorem Declaration.declares {answer : Except (Failure Fault) TypeId} (readable : c.Readable l)
    (owns : OwnsEntries c l) (plain : name ≠ globalsName) (declared : kind.IsDeclared)
    (declaration : Declaration l kind name c reopens answer es d) :
    (∃ t, answer = .ok t ∧ (d.library l).types[name]? = some t ∧ d.typeName t = name) ∧
      ∀ n, n ≠ name → (d.library l).types[n]? = (c.library l).types[n]? := by
  rcases declaration.naming readable.registry readable.inside plain declared with
    ⟨t, rfl, rfl, known, own⟩ | ⟨t, _, rfl, introduces⟩ | ⟨_, u, -, -, taken, other⟩
  · have isEntry := existing?_isEntry readable.registry plain known
    exact ⟨⟨t, rfl, owns.entry_of_owned readable plain isEntry own, isEntry.name⟩, fun _ _ => rfl⟩
  · refine ⟨⟨t, rfl, ?_, introduces.introduced.name⟩, ?_⟩
    · exact introduces.introduced.lookup_self
    · intro n different
      rw [introduces.introduced.lookup, if_neg fun both => different both.2]
  · exact absurd (owns.entry taken) other

/-! ### Members -/

/-- A reference leaves members alone. -/
theorem Reference.sameMembers (reference : Reference l name c t d) : SameMembers c d := by
  cases reference with
  | own | tier => exact .refl c
  | placeholder => exact sameMembers_addPlaceholder c name

/-- A declaration leaves members alone. -/
theorem Declaration.sameMembers {answer : Except (Failure Fault) TypeId}
    (declaration : Declaration l kind name c reopens answer es d) : SameMembers c d := by
  cases declaration with
  | again => exact .refl c
  | reopened _ _ _ entered =>
    exact (((sameMembers_newType c _ _).trans (sameMembers_addType entered)).trans
      (sameMembers_documentType _ _ _)).trans (sameMembers_setSuperType _ _ _)
  | refused => exact sameMembers_newType c _ _
  | upgraded _ _ entered =>
    exact ((sameMembers_setKind c _ _).trans (sameMembers_addType entered)).trans
      (sameMembers_documentType _ _ _)
  | created _ entered =>
    exact ((sameMembers_newType c _ _).trans (sameMembers_addType entered)).trans
      (sameMembers_documentType _ _ _)

/-! ## What holds along a reading

The facts about one step, followed along a chain by an induction on the chain. A reading starts
where it is readable; so every state in between is readable, and the facts about steps apply there.
-/

/-- A reading keeps the catalog readable. -/
theorem Reading.readable (start : c.Readable l) (reading : Reading l c h d) : d.Readable l := by
  induction reading with
  | start => exact start
  | step _ step ih => exact step.readable ih

theorem Reading.types_size_le (start : c.Readable l) (reading : Reading l c h d) :
    c.types.size ≤ d.types.size := by
  induction reading with
  | start => exact Nat.le_refl _
  | step reading step ih => exact Nat.le_trans ih (step.types_size_le (reading.readable start))

theorem Reading.typeName (start : c.Readable l) (reading : Reading l c h d)
    (bound : t.index < c.types.size) : d.typeName t = c.typeName t := by
  induction reading with
  | start => rfl
  | step reading step ih =>
    have inside := Nat.lt_of_lt_of_le bound (reading.types_size_le start)
    exact (step.typeName (reading.readable start) inside).trans ih

theorem Reading.ownsOnly (start : c.Readable l) (only : c.OwnsOnly k) (other : k ≠ Catalog.hidden)
    (reading : Reading l c h d) : d.OwnsOnly k := by
  induction reading with
  | start => exact only
  | step reading step ih => exact step.ownsOnly (reading.readable start) ih other

theorem Reading.ownsEntries (start : c.Readable l) (owns : OwnsEntries c l)
    (reading : Reading l c h d) : OwnsEntries d l := by
  induction reading with
  | start => exact owns
  | step reading step ih => exact step.ownsEntries (reading.readable start) ih

end IdlCatalog
