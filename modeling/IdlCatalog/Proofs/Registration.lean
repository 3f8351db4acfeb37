/-
# IdlCatalog.Proofs.Registration — what libraries have entries for, and what they own

In every catalog that is reached by calls and readings in any order, the entries of a library are
named as their types, so a type has one entry in a library at most. A library owns what it has an
entry for under its name; besides that it owns the type of its globals, and the hidden library owns
the composites that were created in it.

Libraries may share types, owners come and go, and types of one name may meet in the hidden library.
The invariant is kept by six changes, of which all calls are made: a type is created, a library is
added, an entry is added or taken out, and a type gets another owner or loses the one it has.

## Composites

Composites are the one case in which an owner has no entry: the hidden library owns them from the
moment at which they are created, and no library lists them. A composite cannot be told from other
types by looking at the catalog, since its kind may be overwritten. So the invariant takes a
parameter, which types count as composites, and the result is about those that a call
`newSynthesized` in the history has created.
-/
import IdlCatalog.Proofs.Catalog.Owners
import IdlCatalog.Proofs.Grammar.Calling

namespace IdlCatalog

open Catalog

/-- One of the calls created the type as a composite. -/
def Synthesizes (calls : List Call) (t : TypeId) : Prop :=
  ∃ before name kind superType after,
    calls = before ++ .newSynthesized name kind superType :: after ∧
      t = ⟨(before.foldl Call.run initial).types.size⟩

namespace Catalog

variable {c d : Catalog} {t u : TypeId} {l k : LibraryId} {name : String}
  {composite composite' : TypeId → Prop}

/-- Entries are named as their types, and libraries own what they have entries for, their globals
and, where it is the hidden one, composites. -/
structure Consistent (c : Catalog) (composite : TypeId → Prop) : Prop where
  entry : ∀ {l : LibraryId} {name : String} {t}, (c.library l).types[name]? = some t →
    c.typeName t = name
  owner : ∀ {t l}, (c.type t).library = some l →
    (c.library l).types[c.typeName t]? = some t ∨ t = (c.library l).globals ∨
      l = hidden ∧ composite t

/-! ## Numbers of types

Most calls create no type. That is said here for those that are made of several changes. -/

theorem types_size_setSuperType (c : Catalog) (t u : TypeId) :
    (c.setSuperType t u).types.size = c.types.size := by
  rw [setSuperType]
  split
  · exact (types_size_modifyType _ u _).trans (types_size_modifyType c t _)
  · exact types_size_modifyType c t _

theorem types_size_addImplements (c : Catalog) (t u : TypeId) :
    (c.addImplements t u).types.size = c.types.size :=
  (types_size_modifyType _ u _).trans (types_size_modifyType c t _)

theorem types_size_pushMember (c : Catalog) (a : Member) (t : TypeId) :
    (c.pushMember a t).2.types.size = c.types.size :=
  (onlyNotes_addReferences _ a.referencedTypes _).graph.size

theorem types_size_enter (table : Table) (c : Catalog) (t : TypeId) (a : Member) :
    (enter table c t a).2.types.size = c.types.size := by
  show (detach _ _).types.size = _
  generalize (table.of _)[a.name]? = replaced
  have entered := types_size_modifyType (c.pushMember a (c.storage t)).2 (c.storage t)
    (table.insert a.name ⟨c.members.size⟩)
  cases replaced <;> exact entered.trans (types_size_pushMember c a (c.storage t))

namespace Consistent

theorem imp (h : c.Consistent composite) (imp : ∀ t, composite t → composite' t) :
    c.Consistent composite' :=
  ⟨h.entry, fun owned => (h.owner owned).imp id (Or.imp id (And.imp id (imp _)))⟩

/-! ## Changes that keep the registry consistent

The six changes. For an entry that is added or taken out, the question is what happens to the owner
of a type that had the name before. -/

/-- Neither libraries nor names and owners change. -/
theorem same (h : c.Consistent composite) (libraries : d.libraries = c.libraries)
    (name : ∀ t, d.typeName t = c.typeName t)
    (owner : ∀ t, (d.type t).library = (c.type t).library) : d.Consistent composite where
  entry {l n t} entry := by
    rw [library_congr libraries] at entry
    rw [name]
    exact h.entry entry
  owner {t l} owned := by
    rw [owner] at owned
    rw [library_congr libraries, name]
    exact h.owner owned

theorem modifyType {f : TypeNode → TypeNode} (h : c.Consistent composite)
    (name : ∀ node, (f node).name = node.name)
    (owner : ∀ node, (f node).library = node.library) :
    (c.modifyType t f).Consistent composite :=
  h.same rfl (fun u => type_modifyType_of_eq c t u TypeNode.name name)
    fun u => type_modifyType_of_eq c t u TypeNode.library owner

/-- A type is created. If it has an owner, that is the hidden library and the type a composite. -/
theorem pushType {node : TypeNode} (h : c.Consistent composite) (closed : c.Closed)
    (owner : ∀ l, node.library = some l → l = hidden ∧ composite ⟨c.types.size⟩) :
    (c.pushType node).2.Consistent composite where
  entry {l n t} entry := by
    have bound : t.index < c.types.size := (closed.library l).entry n t entry
    rw [typeName, type_pushType, if_neg (Nat.ne_of_lt bound)]
    exact h.entry entry
  owner {t l} owned := by
    rw [type_pushType] at owned
    split at owned
    · next new =>
      obtain rfl : t = ⟨c.types.size⟩ := by rw [← new]
      exact .inr (.inr (owner l owned))
    · next old =>
      rw [typeName, type_pushType, if_neg old]
      exact h.owner owned

/-- A type gets an owner that has an entry for it. -/
theorem giveOwner (h : c.Consistent composite)
    (entered : (c.library l).types[c.typeName t]? = some t) :
    (c.modifyType t fun node => { node with library := some l }).Consistent composite := by
  have name (u) : (c.modifyType t fun node => { node with library := some l }).typeName u =
      c.typeName u := type_modifyType_of_eq c t u TypeNode.name fun _ => rfl
  refine ⟨fun entry => (name _).trans (h.entry entry), fun {u k} owned => ?_⟩
  rw [name]
  rw [type_modifyType] at owned
  split at owned
  · next here =>
    -- the type itself is owned by the library that has the entry
    cases owned
    rw [here.1]
    exact .inl entered
  · exact h.owner owned

/-- A type loses its owner. -/
theorem dropOwner (h : c.Consistent composite) (bound : t.index < c.types.size) :
    (c.modifyType t fun node => { node with library := none }).Consistent composite ∧
      ((c.modifyType t fun node => { node with library := none }).type t).library = none := by
  have name (u) : (c.modifyType t fun node => { node with library := none }).typeName u =
      c.typeName u := type_modifyType_of_eq c t u TypeNode.name fun _ => rfl
  refine ⟨⟨fun entry => (name _).trans (h.entry entry), fun {u k} owned => ?_⟩, ?_⟩
  · rw [name]
    rw [type_modifyType] at owned
    split at owned
    · cases owned
    · exact h.owner owned
  · rw [type_modifyType_self c t _ bound]

/-- A library gets an entry that is named as its type, in the place of none. -/
theorem addEntry {f : Library → Library} (h : c.Consistent composite)
    (lookup : ∀ n : String, (f (c.library l)).types[n]? =
      if n = c.typeName t then some t else (c.library l).types[n]?)
    (globals : (f (c.library l)).globals = (c.library l).globals)
    (free : (c.library l).types[c.typeName t]? = none ∨
      (c.library l).types[c.typeName t]? = some t) :
    (c.modifyLibrary l f).Consistent composite := by
  refine ⟨fun {k n u} entry => ?_, fun {u k} owned => ?_⟩
  · rw [library_modifyLibrary] at entry
    show c.typeName u = n
    split at entry
    · next here =>
      rw [here.1, lookup] at entry
      split at entry
      · next same =>
        cases entry
        exact same.symm
      · exact h.entry entry
    · exact h.entry entry
  · rw [library_modifyLibrary]
    split
    · next here =>
      obtain ⟨rfl, -⟩ := here
      rw [globals, lookup]
      -- what the library had under the name is nothing or this very type
      have entered := h.owner owned
      refine entered.imp_left fun entry => ?_
      show (if c.typeName u = c.typeName t then _ else (c.library k).types[c.typeName u]?) = _
      split
      · next same =>
        rw [same] at entry
        rcases free with none | taken
        · rw [none] at entry
          cases entry
        · exact taken.symm.trans entry
      · exact entry
    · exact h.owner owned

/-- The entry of a type goes out of a library that does not own it. -/
theorem eraseEntry (h : c.Consistent composite) (other : (c.type t).library ≠ some l) :
    (c.modifyLibrary l fun a => a.erase (c.typeName t) t).Consistent composite := by
  refine ⟨fun {k n u} entry => ?_, fun {u k} owned => ?_⟩
  · rw [library_modifyLibrary] at entry
    split at entry
    · rw [getElem?_erase] at entry
      split at entry
      · cases entry
      · exact h.entry entry
    · exact h.entry entry
  · rw [library_modifyLibrary]
    split
    · next here =>
      -- the library owns `u`, so what goes out of it is the entry of another type
      have ne : u ≠ t := by
        rintro rfl
        exact other (here.1 ▸ owned)
      rw [globals_erase, getElem?_erase]
      refine (h.owner owned).imp_left fun entry => ?_
      rw [if_neg]
      · exact entry
      · rintro ⟨same, erased⟩
        exact ne (Option.some.inj ((same ▸ entry).symm.trans erased))
    · exact h.owner owned

/-! ## Calls

Each call in terms of the six changes. Most calls are quiet: they change neither libraries nor names
nor owners. -/

theorem addLibrary (h : c.Consistent composite) (closed : c.Closed) (name : String)
    (readOnly : Bool) (docs : DocumentationProvider) :
    (c.addLibrary name readOnly docs).2.Consistent composite := by
  refine ⟨fun {l n t} entry => ?_, fun {t l} owned => ?_⟩
  · rw [library_addLibrary] at entry
    split at entry
    · simp at entry
    · have bound : t.index < c.types.size := (closed.library l).entry n t entry
      rw [typeName, type_addLibrary, if_neg (Nat.ne_of_lt bound)]
      exact h.entry entry
  · rw [type_addLibrary] at owned
    split at owned
    · next new =>
      cases owned
      rw [library_addLibrary, if_pos rfl]
      exact .inr (.inl (by rw [← new]))
    · next old =>
      have inside : l.index < c.libraries.size := (closed.type t).library l owned
      rw [library_addLibrary, if_neg (Nat.ne_of_lt inside), typeName, type_addLibrary, if_neg old]
      exact h.owner owned

/-- The new owner of a type lists it. -/
theorem passOn (h : c.Consistent composite) (entry : String × TypeId) :
    (c.passOn entry).Consistent composite := by
  rw [Catalog.passOn]
  split
  · next heir found =>
    -- an heir has an entry for the type
    have entered := (heir?_eq_some found).2
    exact h.giveOwner (by rwa [h.entry entered])
  · exact h

/-- A type that a removed library owned goes to one that lists it, if it goes to another one. -/
theorem removeLibrary (h : c.Consistent composite) (l : LibraryId) :
    (c.removeLibrary l).2.Consistent composite := by
  have fold (entries : List (String × TypeId)) : ∀ d : Catalog, d.Consistent composite →
      (entries.foldl Catalog.passOn d).Consistent composite := by
    induction entries with
    | nil => exact fun _ h => h
    | cons entry entries ih => exact fun _ h => ih _ (h.passOn entry)
  by_cases inside : l ∈ c.registered
  · rw [removeLibrary_of_mem inside]
    exact fold _ _ (h.same rfl (fun _ => rfl) fun _ => rfl)
  · rw [removeLibrary_of_not_mem inside]
    exact h

/-- A placeholder enters the hidden library under its name, and belongs to it. -/
theorem addPlaceholder (h : c.Consistent composite) (closed : c.Closed) (name : String) :
    (c.addPlaceholder name).2.Consistent composite := by
  cases free : (c.library hidden).types[name]? with
  | some t =>
    rw [Catalog.addPlaceholder, free]
    exact h
  | none =>
    let new : TypeId := ⟨c.types.size⟩
    let f : Library → Library := fun a => { a with types := a.types.insert name new }
    -- the type might as well be created without an owner, get its entry and then its owner
    let bare := (c.pushType (TypeNode.new name .noInterfaceObject)).2
    have named : bare.typeName new = name := by
      rw [typeName, type_pushType, if_pos rfl]
      rfl
    have created : bare.Consistent composite := h.pushType closed fun _ owned => by cases owned
    have entered : (bare.modifyLibrary hidden f).Consistent composite := by
      refine created.addEntry (t := new) (fun n => ?_) rfl (.inl ?_)
      · rw [named]
        exact getElem?_insert _ name n new
      · rw [named]
        exact free
    have owned := entered.giveOwner (l := hidden) (t := new) (by
      rw [library_modifyLibrary, if_pos ⟨rfl, closed.hidden_lt⟩]
      show ((bare.library hidden).types.insert name new)[bare.typeName new]? = some new
      rw [named, getElem?_insert, if_pos rfl])
    have same : (bare.modifyType new fun node => { node with library := some hidden }) =
        (c.pushType { TypeNode.new name .noInterfaceObject with library := some hidden }).2 :=
      pushType_modifyType c _ _
    rw [addPlaceholder_of_none free]
    dsimp only
    rw [← same]
    exact owned

/-- A type is registered if the library has no entry under its name, or this one. -/
theorem addType (h : c.Consistent composite) (inside : l.index < c.libraries.size)
    (ok : c.addType l t = .ok d) : d.Consistent composite := by
  obtain ⟨b, free, entered, rfl⟩ := addType_eq_ok ok
  -- the entry is there before the library becomes the owner
  have added : (c.modifyLibrary l fun _ => b).Consistent composite :=
    h.addEntry entered.lookup entered.globals free
  refine added.giveOwner ?_
  rw [library_modifyLibrary, if_pos ⟨rfl, inside⟩]
  show b.types[c.typeName t]? = some t
  rw [entered.lookup, if_pos rfl]

theorem deleteType (h : c.Consistent composite) (t : TypeId) :
    (c.deleteType t).Consistent composite := by
  rw [Catalog.deleteType]
  split
  · exact h
  · next l owned =>
    -- without an owner the type may lose its entry
    obtain ⟨dropped, ownerless⟩ := h.dropOwner (type_library_lt owned)
    have name : (c.modifyType t fun node => { node with library := none }).typeName t =
        c.typeName t := type_modifyType_of_eq c t t TypeNode.name fun _ => rfl
    have erased := dropped.eraseEntry (l := l) (t := t) (by rw [ownerless]; rintro ⟨⟩)
    rw [name] at erased
    exact erased

/-- A quiet change that creates no type. -/
theorem quiet (h : c.Consistent composite) (quiet : Quiet c d)
    (size : d.types.size = c.types.size) : d.Consistent composite := by
  have beyond {t : TypeId} (outside : ¬t.index < c.types.size) : d.type t = c.type t := by
    rw [type_of_size_le c t (Nat.not_lt.1 outside),
      type_of_size_le d t (by rw [size]; exact Nat.not_lt.1 outside)]
  refine h.same quiet.libraries (fun t => ?_) fun t => ?_
  all_goals by_cases inside : t.index < c.types.size
  · exact (quiet.old t inside).name
  · rw [typeName, typeName, beyond inside]
  · exact (quiet.old t inside).library
  · rw [beyond inside]

/-- A call keeps the registry consistent, if what it creates counts as it should. -/
theorem run (h : c.Consistent composite) (closed : c.Closed) {call : Call}
    (inRange : call.InRange c)
    (creates : ∀ name kind superType, call = .newSynthesized name kind superType →
      composite ⟨c.types.size⟩) :
    (call.run c).Consistent composite := by
  -- globals and composites alone are created with an owner and without an entry
  cases call with
  | addLibrary name readOnly docs => exact h.addLibrary closed name readOnly docs
  | removeLibrary l => exact h.removeLibrary l
  | newType name kind => exact h.pushType closed fun _ owned => by cases owned
  | newSynthesized name kind superType =>
    refine h.pushType closed fun l owned => ?_
    cases owned
    exact ⟨rfl, creates name kind superType rfl⟩
  | addPlaceholder name => exact h.addPlaceholder closed name
  | addType l t =>
    rw [Call.run]
    split
    · next ok => exact h.addType (inRange.libraries l (by simp [Call.libraries])) ok
    · exact h
  | deleteType t => exact h.deleteType t
  | setKind t _ | addModifiers t _ | addLiteral t _ | setIterable t _ | pushTypeArgument t _ =>
    refine h.modifyType ?_ ?_ <;> exact fun _ => rfl
  | setSuperType t u => exact h.quiet (quiet_setSuperType c t u) (types_size_setSuperType c t u)
  | addImplements t u => exact h.quiet (quiet_addImplements c t u) (types_size_addImplements c t u)
  | addProperty t a => exact h.quiet (quiet_addProperty c t a) (types_size_enter .properties c t a)
  | addOperation t a =>
    exact h.quiet (quiet_addOperation c t a) (types_size_enter .operations c t a)
  | addConstructor t a =>
    refine h.quiet (quiet_addConstructor c t a) ?_
    exact (types_size_modifyType _ t _).trans (types_size_pushMember c _ t)
  | mergeOperation m a =>
    exact h.quiet (quiet_mergeOperation c m a) (onlyNotes_addReferences _ _ m).graph.size
  | addReference t m =>
    exact h.quiet (quiet_addReferences c [t] m) (onlyNotes_addReferences c [t] m).graph.size
  | document l artifact =>
    refine h.quiet (quiet_document c l artifact) ?_
    cases artifact with
    | type t => exact types_size_modifyType c t _
    | library | member => rfl

end Consistent

/-- The primitive types are entries of their library, which owns them. -/
theorem consistent_initial : initial.Consistent composite where
  entry entry := (registry_initial.entry entry).name
  owner {t l} owned := by
    have first : ∀ i, i < initial.types.size →
        ∀ l ∈ ((initial.type ⟨i⟩).library).toList,
          (initial.library l).types[initial.typeName ⟨i⟩]? = some ⟨i⟩ ∨
            ⟨i⟩ = (initial.library l).globals := by
      decide +kernel
    exact (first t.index (type_library_lt owned) l (Option.mem_toList.2 owned)).imp_right .inl

end Catalog

/-- Creating a composite is noticed, and it is not forgotten. -/
theorem Synthesizes.append {calls : List Call} {t : TypeId} (h : Synthesizes calls t)
    (more : List Call) : Synthesizes (calls ++ more) t := by
  obtain ⟨before, name, kind, superType, after, rfl, new⟩ := h
  exact ⟨before, name, kind, superType, after ++ more, by simp, new⟩

/-- The invariant holds after every chain of calls. -/
theorem Made.consistent {calls : List Call} {c : Catalog} (made : Made initial calls c) :
    c.Consistent (Synthesizes calls) := by
  -- on the calls; what an earlier call has created stays a composite for the later ones
  induction made with
  | start => exact consistent_initial
  | @call calls d made call inRange ih =>
    have closed := closed_initial.made made
    refine (ih.imp fun t known => known.append [call]).run closed inRange ?_
    rintro name kind superType rfl
    exact ⟨calls, name, kind, superType, [], rfl, by rw [← made.eq_foldl]⟩

/-- Whatever was asked of a catalog comes to calls. However it does, a library has entries under the
names of the types only, one for each, and a type that it owns has an entry in it, or is the type of
its globals, or the library is the hidden one and a call created the type as a composite. -/
theorem registry_consistent {requests : List Request} {c : Catalog} (used : Used requests c) :
    (∃ calls, Unfolds requests calls c) ∧
    ∀ calls, Unfolds requests calls c → ∀ l : LibraryId,
      (∀ (name : String) t, (c.library l).types[name]? = some t → c.typeName t = name ∧
        ∀ n : String, (c.library l).types[n]? = some t → n = name) ∧
      ∀ t, (c.type t).library = some l → l.index < c.libraries.size ∧
        ((c.library l).types[c.typeName t]? = some t ∨ t = (c.library l).globals ∨
          l = Catalog.hidden ∧ Synthesizes calls t) := by
  refine ⟨used.unfolds, fun calls unfolds l => ?_⟩
  have consistent := unfolds.made.consistent
  refine ⟨fun name t entry => ⟨consistent.entry entry, fun n entry' => ?_⟩, fun t owned => ?_⟩
  · exact (consistent.entry entry').symm.trans (consistent.entry entry)
  · exact ⟨(unfolds.closed.type t).library l owned, consistent.owner owned⟩

/-- A composite gets no entry when it is created, and one when it is registered. -/
theorem registry_consistent_composites :
    let c := (Request.call (.addType Catalog.hidden ⟨20⟩)).serve
      ((Request.ingest Catalog.hidden "typedef long? T; typedef long? U;").serve initial)
    (c.library Catalog.hidden).types["long?"]? = some ⟨20⟩ ∧
      (∀ name : String, (c.library Catalog.hidden).types[name]? = some ⟨20⟩ → name = "long?") ∧
      ∃ calls, Synthesizes calls ⟨22⟩ := by
  intro c
  have used : Used _ c :=
    (Used.start.request (.ingest Catalog.hidden "typedef long? T; typedef long? U;")
      (by decide +kernel)).request (.call (.addType Catalog.hidden ⟨20⟩)) (by decide +kernel)
  have facts : (c.library Catalog.hidden).types["long?"]? = some ⟨20⟩ ∧
      (c.type ⟨22⟩).library = some Catalog.hidden ∧
      (c.library Catalog.hidden).types[c.typeName ⟨22⟩]? ≠ some ⟨22⟩ ∧
      ⟨22⟩ ≠ (c.library Catalog.hidden).globals := by
    decide +kernel
  obtain ⟨entry, owned, absent, named⟩ := facts
  obtain ⟨⟨calls, unfolds⟩, consistent⟩ := registry_consistent used
  refine ⟨entry, ((consistent calls unfolds Catalog.hidden).1 _ _ entry).2, calls, ?_⟩
  obtain ⟨-, entered | globals | ⟨-, created⟩⟩ :=
    (consistent calls unfolds Catalog.hidden).2 _ owned
  · exact absurd entered absent
  · exact absurd globals named
  · exact created

end IdlCatalog
