/-
# IdlCatalog.Proofs.Catalog.Registry — the registry of names is sound

Whatever a library has under a name is a type of that name which some declaration or mention
introduced, never a composite; only composites iterate. `Registry` says so for all libraries,
removed ones included. Quiet changes keep it, introducing a type keeps it, and so do adding and
removing libraries.

A library that is read for the first time also owns exactly what it has entries for
(`OwnsEntries`), which is what keeps two types of one name apart there.

## The shape of the proof

The invariant is about entries, so only changes that concern names have to be looked at. A quiet
change keeps it because entries and what they lead to are the same. An introduction keeps it since
the new entry is right by the hypotheses and all others are old. Adding a library creates one more
type for globals, which has no entry. Removing a library gives the types that it owned to their
heirs (`Moved`) and erases no entry.

So every catalog that can be reached from the first one by these changes has a sound registry,
whatever was read in between.
-/
import IdlCatalog.Proofs.Catalog.Naming

namespace IdlCatalog

namespace Catalog

variable {c d : Catalog} {t u : TypeId} {l k : LibraryId} {name n : String} {kind : Kind}

/-! ## The invariant

An entry leads to a type of the name under which it stands. The type is no composite, and it is not
the globals of any library, whose name contains characters that no word has. -/

/-- A type that a library may have under the name. -/
structure IsEntry (c : Catalog) (name : String) (t : TypeId) : Prop where
  bound : t.index < c.types.size
  name : c.typeName t = name
  declared : (c.type t).kind.isSynthesized = false
  iterable : (c.type t).iterable = none

/-- The registry of names is sound. -/
structure Registry (c : Catalog) : Prop where
  two_le : 2 ≤ c.libraries.size
  entry : ∀ {l name t}, (c.library l).types[name]? = some t → c.IsEntry name t
  plain : ∀ {l name t}, (c.library l).types[name]? = some t → name ≠ globalsName
  /-- Primitives and placeholders never become types that only reopen another one. -/
  standing : ∀ {l : LibraryId} {name : String} {t}, l.index < 2 →
    (c.library l).types[name]? = some t → (c.type t).kind ≠ .reopening
  globals : ∀ {l}, l.index < c.libraries.size → c.IsEntry globalsName (c.library l).globals
  globals_owner : ∀ {l}, l.index < c.libraries.size →
    (c.type (c.library l).globals).library = some l
  owner : ∀ {t l}, (c.type t).library = some l → l.index < c.libraries.size
  registered : ∀ l ∈ c.registered, 2 ≤ l.index ∧ l.index < c.libraries.size

/-- The hidden library exists. -/
theorem Registry.hidden_lt (h : Registry c) : hidden.index < c.libraries.size := h.two_le

/-- So does the library of the primitives. -/
theorem Registry.primitives_lt (h : Registry c) : primitives.index < c.libraries.size :=
  Nat.lt_of_succ_lt h.two_le

/-- The globals of a library are no entry of any library. -/
theorem Registry.entry_ne_globals (h : Registry c) (entry : (c.library l).types[name]? = some t)
    (inside : k.index < c.libraries.size) : t ≠ (c.library k).globals := by
  rintro rfl
  exact h.plain entry ((h.entry entry).name.symm.trans (h.globals inside).name)

/-- A name other than that of the globals is looked up in the map of the library. -/
theorem Registry.get?_eq (plain : name ≠ globalsName) (a : Library) :
    a.get? name = a.types[name]? := by
  rw [Library.get?, if_neg plain]

/-- An entry stays one if its type is the same. -/
theorem IsEntry.of_same (h : c.IsEntry name t) (bound : t.index < d.types.size)
    (same : SameEntry c d t) : d.IsEntry name t where
  bound := bound
  name := same.name.trans h.name
  declared := same.kind.isSynthesized.trans h.declared
  iterable := same.iterable.trans h.iterable

/-! ## Steps that keep it

Entries come from two sources, what was there and what was introduced. The owner of a type is a
library that exists, which shows that a type with an owner exists as well. -/

/-- Quiet changes leave entries what they are. -/
theorem Quiet.isEntry (quiet : Quiet c d) (h : c.IsEntry name t) : d.IsEntry name t :=
  h.of_same (Nat.lt_of_lt_of_le h.bound quiet.size_le) (quiet.old t h.bound)

/-- A type that has an owner exists. -/
theorem type_library_lt (h : (c.type t).library = some l) : t.index < c.types.size := by
  by_cases inside : t.index < c.types.size
  · exact inside
  · rw [type_of_size_le c t (Nat.not_lt.1 inside)] at h
    cases h

/-- After a quiet change, a type has its old owner, or it belongs to the hidden library. -/
theorem Quiet.owner_cases (quiet : Quiet c d) (owned : (d.type t).library = some l) :
    (t.index < c.types.size ∧ (c.type t).library = some l) ∨ l = hidden := by
  by_cases inside : t.index < c.types.size
  · exact .inl ⟨inside, (quiet.old t inside).library.symm.trans owned⟩
  · rcases quiet.new t (Nat.not_lt.1 inside) (type_library_lt owned) with none | some
    · rw [none] at owned
      cases owned
    · exact .inr (Option.some.inj (owned.symm.trans some))

/-- So does every type but the one that is introduced. -/
theorem Introduced.owner_cases (step : Introduced k name t kind c d)
    (owned : (d.type u).library = some l) :
    (u = t ∧ l = k) ∨ (u.index < c.types.size ∧ u ≠ t ∧ (c.type u).library = some l) ∨
      l = hidden := by
  by_cases same : u = t
  · rw [same, step.library] at owned
    exact .inl ⟨same, (Option.some.inj owned).symm⟩
  by_cases inside : u.index < c.types.size
  · exact .inr (.inl ⟨inside, same, (step.others u inside same).library.symm.trans owned⟩)
  · rcases step.new u (Nat.not_lt.1 inside) (type_library_lt owned) same with none | some
    · rw [none] at owned
      cases owned
    · exact .inr (.inr (Option.some.inj (owned.symm.trans some)))

/-- Quiet changes keep the registry sound. -/
theorem Registry.quiet (h : Registry c) (quiet : Quiet c d) : Registry d where
  two_le := by rw [quiet.libraries]; exact h.two_le
  entry entry := by
    rw [quiet.library] at entry
    exact quiet.isEntry (h.entry entry)
  plain entry := by
    rw [quiet.library] at entry
    exact h.plain entry
  standing first entry := by
    rw [quiet.library] at entry
    rw [Ne, (quiet.old _ (h.entry entry).bound).kind.reopening_iff]
    exact h.standing first entry
  globals inside := by
    rw [quiet.libraries] at inside
    rw [quiet.library]
    exact quiet.isEntry (h.globals inside)
  globals_owner {l} inside := by
    rw [quiet.libraries] at inside
    rw [quiet.library, (quiet.old _ (h.globals inside).bound).library]
    exact h.globals_owner inside
  owner {t l} owned := by
    rw [quiet.libraries]
    rcases quiet.owner_cases owned with ⟨-, owned⟩ | rfl
    · exact h.owner owned
    · exact h.two_le
  registered l member := by
    rw [quiet.registered] at member
    rw [quiet.libraries]
    exact h.registered l member

/-- What is introduced is a right entry for its name. -/
theorem Introduced.isEntry_self (step : Introduced l name t kind c d)
    (declared : kind.isSynthesized = false) : d.IsEntry name t :=
  ⟨step.bound, step.name, step.kind.isSynthesized.trans declared, step.iterable⟩

/-- All other entries stay right. -/
theorem Introduced.isEntry_of_ne (step : Introduced l name t kind c d) (h : c.IsEntry n u)
    (other : u ≠ t) : d.IsEntry n u :=
  h.of_same (Nat.lt_of_lt_of_le h.bound step.size_le) (step.others u h.bound other)

/-- Globals have a name of their own, so they are never introduced. -/
theorem Registry.globals_ne (h : Registry c) (step : Introduced l name t kind c d)
    (plain : name ≠ globalsName) (inside : k.index < c.libraries.size) :
    (c.library k).globals ≠ t := by
  rintro rfl
  have globals := h.globals inside
  exact plain ((step.before globals.bound).1.symm.trans globals.name)

/-- Introducing a type keeps the registry sound, if the type has a declared kind and a name of its
own. A type that reopens another one may be introduced only as a new type of an added library: no
primitive and no placeholder becomes one. -/
theorem Registry.introduced (h : Registry c) (step : Introduced l name t kind c d)
    (inside : l.index < c.libraries.size) (plain : name ≠ globalsName)
    (declared : kind.isSynthesized = false)
    (reopens : kind = .reopening → 2 ≤ l.index ∧ c.types.size ≤ t.index) : Registry d where
  two_le := by
    rw [step.libraries_size]
    exact h.two_le
  entry {k n u} entry := by
    rcases step.lookup_cases entry with ⟨-, rfl, rfl⟩ | before
    · exact step.isEntry_self declared
    have known := h.entry before
    by_cases same : u = t
    -- another entry of `t` has the same name, since entries are named as their types
    · subst same
      rw [← known.name, (step.before known.bound).1]
      exact step.isEntry_self declared
    · exact step.isEntry_of_ne known same
  plain {k n u} entry := by
    rcases step.lookup_cases entry with ⟨-, rfl, -⟩ | before
    · exact plain
    · exact h.plain before
  standing {k n u} first entry := by
    by_cases same : u = t
    · subst same
      rw [Ne, step.kind.reopening_iff]
      intro reopening
      -- only libraries that were added introduce a reopening, and only as a new type
      obtain ⟨added, new⟩ := reopens reopening
      rcases step.lookup_cases entry with ⟨rfl, -, -⟩ | before
      · exact absurd first (Nat.not_lt.2 added)
      · exact absurd (h.entry before).bound (Nat.not_lt.2 new)
    · have before := step.lookup_old same entry
      rw [Ne, (step.others u (h.entry before).bound same).kind.reopening_iff]
      exact h.standing first before
  globals {k} known := by
    rw [step.libraries_size] at known
    rw [step.globals]
    exact step.isEntry_of_ne (h.globals known) (h.globals_ne step plain known)
  globals_owner {k} known := by
    rw [step.libraries_size] at known
    have other := h.globals_ne step plain known
    rw [step.globals, (step.others _ (h.globals known).bound other).library]
    exact h.globals_owner known
  owner {u k} owned := by
    rw [step.libraries_size]
    rcases step.owner_cases owned with ⟨-, rfl⟩ | ⟨-, -, owned⟩ | rfl
    · exact inside
    · exact h.owner owned
    · exact h.two_le
  registered k member := by
    rw [step.registered] at member
    rw [step.libraries_size]
    exact h.registered k member

/-! ## Adding a library

A library comes with a type for its globals. It has no entry yet, so it is added without any effect
on what names stand for. -/

/-- A library gets the first free number. -/
theorem addLibrary_fst (c : Catalog) (name : String) (readOnly : Bool)
    (docs : DocumentationProvider) :
    (c.addLibrary name readOnly docs).1 = ⟨c.libraries.size⟩ := rfl

/-- The only new type is the globals of the library. -/
theorem type_addLibrary (c : Catalog) (name : String) (readOnly : Bool)
    (docs : DocumentationProvider) (t : TypeId) :
    (c.addLibrary name readOnly docs).2.type t =
      if t.index = c.types.size then
        { TypeNode.new globalsName .noInterfaceObject with library := some ⟨c.libraries.size⟩ }
      else c.type t :=
  type_pushType c t _

/-- The new library has no entries; the others are as before. -/
theorem library_addLibrary (c : Catalog) (name : String) (readOnly : Bool)
    (docs : DocumentationProvider) (l : LibraryId) :
    (c.addLibrary name readOnly docs).2.library l =
      if l.index = c.libraries.size then ⟨name, readOnly, ∅, ⟨c.types.size⟩, docs⟩
      else c.library l := by
  simp only [library, addLibrary, pushLibrary, pushType, Array.getD_eq_getD_getElem?,
    Array.getElem?_push]
  split <;> rfl

@[simp] theorem types_size_addLibrary (c : Catalog) (name : String) (readOnly : Bool)
    (docs : DocumentationProvider) :
    (c.addLibrary name readOnly docs).2.types.size = c.types.size + 1 :=
  types_size_pushType c _

@[simp] theorem libraries_size_addLibrary (c : Catalog) (name : String) (readOnly : Bool)
    (docs : DocumentationProvider) :
    (c.addLibrary name readOnly docs).2.libraries.size = c.libraries.size + 1 := by
  simp [addLibrary, pushLibrary]

@[simp] theorem registered_addLibrary (c : Catalog) (name : String) (readOnly : Bool)
    (docs : DocumentationProvider) :
    (c.addLibrary name readOnly docs).2.registered = c.registered ++ [⟨c.libraries.size⟩] := rfl

@[simp] theorem members_addLibrary (c : Catalog) (name : String) (readOnly : Bool)
    (docs : DocumentationProvider) :
    (c.addLibrary name readOnly docs).2.members = c.members := rfl

/-- Adding a library keeps the registry sound. -/
theorem Registry.addLibrary (h : Registry c) (name : String) (readOnly : Bool)
    (docs : DocumentationProvider) : Registry (c.addLibrary name readOnly docs).2 := by
  have size := types_size_addLibrary c name readOnly docs
  have libraries := libraries_size_addLibrary c name readOnly docs
  have registered := registered_addLibrary c name readOnly docs
  have type := type_addLibrary c name readOnly docs
  have library := library_addLibrary c name readOnly docs
  generalize (c.addLibrary name readOnly docs).2 = d at *
  have old {n t} (entry : c.IsEntry n t) : d.type t = c.type t := by
    rw [type, if_neg (Nat.ne_of_lt entry.bound)]
  have known {n t} (entry : c.IsEntry n t) : d.IsEntry n t :=
    entry.of_same (by rw [size]; exact Nat.lt_succ_of_lt entry.bound) (.of_eq (old entry))
  have entry_old {l : LibraryId} {n : String} {t : TypeId}
      (entry : (d.library l).types[n]? = some t) : (c.library l).types[n]? = some t := by
    rw [library] at entry
    split at entry
    · simp at entry
    · exact entry
  constructor
  case two_le =>
    rw [libraries]
    exact Nat.le_succ_of_le h.two_le
  case entry => exact fun entry => known (h.entry (entry_old entry))
  case plain => exact fun entry => h.plain (entry_old entry)
  case standing =>
    intro l n t first entry
    rw [old (h.entry (entry_old entry))]
    exact h.standing first (entry_old entry)
  case globals =>
    intro l inside
    rw [libraries] at inside
    rw [library]
    split
    · refine ⟨by rw [size]; exact Nat.lt_succ_self _, ?_, ?_, ?_⟩ <;>
        simp [typeName, type, TypeNode.new, Kind.isSynthesized]
    · exact known (h.globals (by omega))
  case globals_owner =>
    intro l inside
    rw [libraries] at inside
    rw [library]
    split
    · next last =>
      rw [type, if_pos rfl, ← last]
    · have inside : l.index < c.libraries.size := by omega
      rw [old (h.globals inside)]
      exact h.globals_owner inside
  case owner =>
    intro t l owned
    rw [libraries]
    rw [type] at owned
    split at owned
    · cases owned
      exact Nat.lt_succ_self _
    · exact Nat.lt_succ_of_lt (h.owner owned)
  case registered =>
    intro l member
    rw [registered, List.mem_append, List.mem_singleton] at member
    rw [libraries]
    rcases member with member | rfl
    · have := h.registered l member
      omega
    · exact ⟨h.two_le, Nat.lt_succ_self _⟩

/-! ## Removing a library

The types that a removed library owned are passed on one after the other. Each goes to the latest
registered library that has an entry for it, or else to the hidden one if that does, and keeps its
owner if neither is so. No map of names changes, so a fold over single steps (`Moved.step`) is
enough. -/

/-- Types may have got another owner; nothing else changed. -/
structure Moved (c d : Catalog) : Prop where
  libraries : d.libraries = c.libraries
  members : d.members = c.members
  registered : d.registered = c.registered
  types_size : d.types.size = c.types.size
  type : ∀ t, ∃ owner, d.type t = { c.type t with library := owner } ∧
    (owner = (c.type t).library ∨
      (∃ (l : LibraryId) (name : String), (c.library l).types[name]? = some t) ∧
        ∃ heir : LibraryId, owner = some heir ∧ heir ∈ hidden :: c.registered)

theorem Moved.refl (c : Catalog) : Moved c c :=
  ⟨rfl, rfl, rfl, rfl, fun _ => ⟨_, rfl, .inl rfl⟩⟩

/-- An heir is the hidden library or a registered one. The library of the primitives never is. -/
theorem heir?_mem {heir : LibraryId} (h : c.heir? name t = some heir) :
    heir ∈ hidden :: c.registered := by
  have member := List.mem_of_find?_eq_some h
  simp only [List.mem_append, List.mem_reverse, List.mem_singleton] at member
  simp [member.symm]

/-- One type goes to its heir. -/
theorem Moved.step {b : Catalog} {heir : LibraryId} (h : Moved b c)
    (entry : (b.library l).types[name]? = some t) (found : c.heir? name t = some heir) :
    Moved b (c.modifyType t fun node => { node with library := some heir }) := by
  refine ⟨h.libraries, h.members, h.registered, ?_, ?_⟩
  · rw [types_size_modifyType]
    exact h.types_size
  · intro u
    obtain ⟨owner, same, change⟩ := h.type u
    rw [type_modifyType]
    split
    · next here =>
      refine ⟨some heir, by rw [same], .inr ⟨?_, heir, rfl, ?_⟩⟩
      · exact ⟨l, name, here.1 ▸ entry⟩
      · rw [← h.registered]
        exact heir?_mem found
    · exact ⟨owner, same, change⟩

/-- A type goes to its heir, if it has one. -/
def passOn (c : Catalog) (entry : String × TypeId) : Catalog :=
  match c.heir? entry.1 entry.2 with
  | some heir => c.modifyType entry.2 fun node => { node with library := some heir }
  | none => c

/-- Passing types on one after the other is a chain of such steps, if they are entries of the
library. -/
theorem moved_foldl {b : Catalog} {entries : List (String × TypeId)}
    (known : ∀ entry ∈ entries, (b.library l).types[entry.1]? = some entry.2) (h : Moved b c) :
    Moved b (entries.foldl passOn c) := by
  induction entries generalizing c with
  | nil => exact h
  | cons entry entries ih =>
    refine ih (fun e inside => known e (List.mem_cons_of_mem _ inside)) ?_
    rw [passOn]
    split
    · next heir found => exact h.step (known entry List.mem_cons_self) found
    · exact h

/-- The catalog after a library was taken out of resolution, before its types are passed on. -/
def unregister (c : Catalog) (l : LibraryId) : Catalog :=
  { c with registered := c.registered.filter (· ≠ l) }

/-- A library that is not registered cannot be taken out. -/
theorem unregister_of_not_mem (h : l ∉ c.registered) : c.unregister l = c := by
  have same : c.registered.filter (· ≠ l) = c.registered :=
    List.filter_eq_self.2 fun k inside => decide_eq_true fun eq => h (eq ▸ inside)
  rw [unregister, same]

/-- The entries of a library for types that it owns. -/
def ownEntries (c : Catalog) (l : LibraryId) : List (String × TypeId) :=
  (c.library l).types.toList.filter fun entry => (c.type entry.2).library = some l

/-- The entries that removal passes on are those of types that the library owns. -/
theorem mem_ownEntries : (name, t) ∈ c.ownEntries l ↔
    (c.library l).types[name]? = some t ∧ (c.type t).library = some l := by
  rw [ownEntries, List.mem_filter, Std.TreeMap.mem_toList_iff_getElem?_eq_some, decide_eq_true_iff]

/-- Removing a registered library takes it out of resolution and passes on what it owns. -/
theorem removeLibrary_of_mem (inside : l ∈ c.registered) :
    (c.removeLibrary l).2 = (c.ownEntries l).foldl passOn (c.unregister l) := by
  simp only [removeLibrary, if_pos inside]
  rfl

/-- Removing a library that is not registered does nothing. -/
theorem removeLibrary_of_not_mem (outside : l ∉ c.registered) : (c.removeLibrary l).2 = c := by
  rw [removeLibrary, if_neg outside]

/-- What holds when a library is taken out of resolution and when a type gets another owner, and
chains, holds of removing a library. -/
theorem related_removeLibrary {r : Catalog → Catalog → Prop} (refl : ∀ c, r c c)
    (trans : ∀ {b c d}, r b c → r c d → r b d) (unregister : ∀ c, r c (c.unregister l))
    (pass : ∀ c t (heir : LibraryId), r c (c.modifyType t fun node =>
      { node with library := some heir })) (c : Catalog) : r c (c.removeLibrary l).2 := by
  by_cases inside : l ∈ c.registered
  · rw [removeLibrary_of_mem inside]
    refine trans (unregister c) (related_foldl refl trans (fun c entry => ?_) _ _)
    rw [passOn]
    split
    · exact pass c _ _
    · exact refl c
  · rw [removeLibrary_of_not_mem inside]
    exact refl c

/-- Removal takes the library out of the registered ones and passes types on. -/
theorem moved_removeLibrary (c : Catalog) (l : LibraryId) :
    Moved (c.unregister l) (c.removeLibrary l).2 := by
  by_cases inside : l ∈ c.registered
  · rw [removeLibrary_of_mem inside]
    exact moved_foldl (l := l) (fun entry own => (mem_ownEntries.1 own).1) (.refl _)
  · rw [removeLibrary_of_not_mem inside, unregister_of_not_mem inside]
    exact .refl c

/-- No entry depends on which libraries are registered. -/
theorem Registry.unregister (h : Registry c) (l : LibraryId) : Registry (c.unregister l) := by
  have isEntry {n : String} {t : TypeId} (entry : c.IsEntry n t) : (c.unregister l).IsEntry n t :=
    ⟨entry.bound, entry.name, entry.declared, entry.iterable⟩
  constructor
  case two_le => exact h.two_le
  case entry =>
    intro k n t (entry : (c.library k).types[n]? = some t)
    exact isEntry (h.entry entry)
  case plain =>
    intro k n t (entry : (c.library k).types[n]? = some t)
    exact h.plain entry
  case standing =>
    intro k n t first (entry : (c.library k).types[n]? = some t)
    exact h.standing first entry
  case globals => exact fun inside => isEntry (h.globals inside)
  case globals_owner => exact fun inside => h.globals_owner inside
  case owner => exact fun owned => h.owner owned
  case registered => exact fun k inside => h.registered k (List.mem_filter.1 inside).1

/-- Passing types on keeps the registry sound: what an heir gets is an entry there already. -/
theorem Registry.moved (h : Registry c) (moved : Moved c d) : Registry d := by
  have library (l : LibraryId) : d.library l = c.library l := library_congr moved.libraries l
  have isEntry {n : String} {t : TypeId} (entry : c.IsEntry n t) : d.IsEntry n t := by
    obtain ⟨owner, same, -⟩ := moved.type t
    exact ⟨by rw [moved.types_size]; exact entry.bound, by rw [typeName, same]; exact entry.name,
      by rw [same]; exact entry.declared, by rw [same]; exact entry.iterable⟩
  constructor
  case two_le =>
    rw [moved.libraries]
    exact h.two_le
  case entry =>
    intro l n t entry
    rw [library] at entry
    exact isEntry (h.entry entry)
  case plain =>
    intro l n t entry
    rw [library] at entry
    exact h.plain entry
  case standing =>
    intro l n t first entry
    rw [library] at entry
    obtain ⟨owner, same, -⟩ := moved.type t
    rw [same]
    exact h.standing first entry
  case globals =>
    intro l inside
    rw [moved.libraries] at inside
    rw [library]
    exact isEntry (h.globals inside)
  case globals_owner =>
    intro l inside
    rw [moved.libraries] at inside
    rw [library]
    obtain ⟨owner, same, rfl | ⟨⟨k, n, entry⟩, -⟩⟩ := moved.type (c.library l).globals
    · rw [same]
      exact h.globals_owner inside
    -- only entries move, and globals are no entries
    · exact absurd rfl (h.entry_ne_globals entry inside)
  case owner =>
    intro t l owned
    rw [moved.libraries]
    obtain ⟨owner, same, rfl | ⟨-, heir, rfl, inside⟩⟩ := moved.type t
    · rw [same] at owned
      exact h.owner owned
    · rw [same] at owned
      cases owned
      rcases List.mem_cons.1 inside with rfl | inside
      · exact h.two_le
      · exact (h.registered l inside).2
  case registered =>
    intro l inside
    rw [moved.registered] at inside
    rw [moved.libraries]
    exact h.registered l inside

/-- Removing a library keeps the registry sound. -/
theorem Registry.removeLibrary (h : Registry c) (l : LibraryId) :
    Registry (c.removeLibrary l).2 :=
  (h.unregister l).moved (moved_removeLibrary c l)

/-! ## The first catalog

The first catalog is made of the two libraries that are always there, by entering the primitives one
by one. Facts about it are shown by induction over this list rather than by evaluation. -/

/-- The catalog of the two hidden libraries, without any named type. -/
def empty : Catalog :=
  let (_, c) := (⟨#[], #[], #[], []⟩ : Catalog).pushLibrary "primitives" true .silent
  (c.pushLibrary "hidden" true .silent).2

/-- The first catalog is made by entering the primitives one by one. -/
theorem initial_eq : initial = primitiveNames.foldl addPrimitive empty := rfl

/-- Before them no library has an entry. -/
theorem entry_empty (l : LibraryId) (name : String) : (empty.library l).types[name]? = none := by
  rcases l with ⟨_ | _ | i⟩
  · exact Std.TreeMap.getElem?_emptyc
  · exact Std.TreeMap.getElem?_emptyc
  · exact Std.TreeMap.getElem?_emptyc

theorem registry_empty : Registry empty := by
  have globals : ∀ l : LibraryId, l.index < 2 →
      empty.IsEntry globalsName (empty.library l).globals ∧
        (empty.type (empty.library l).globals).library = some l := by
    rintro ⟨_ | _ | i⟩ inside
    · exact ⟨⟨by decide, rfl, rfl, rfl⟩, rfl⟩
    · exact ⟨⟨by decide, rfl, rfl, rfl⟩, rfl⟩
    · exact absurd inside (by simp)
  refine ⟨by decide, ?_, ?_, ?_, fun inside => (globals _ inside).1,
    fun inside => (globals _ inside).2, ?_, fun l member => absurd member List.not_mem_nil⟩
  · intro l name t entry
    simp [entry_empty] at entry
  · intro l name t entry
    simp [entry_empty] at entry
  · intro l name t _ entry
    simp [entry_empty] at entry
  · rintro ⟨_ | _ | i⟩ l owned
    · cases owned
      decide
    · cases owned
      decide
    · cases owned

/-- What holds without any named type and is kept with every primitive type holds at first. -/
theorem initial_induction {P : Catalog → Prop} (start : P empty)
    (step : ∀ c name, name ≠ globalsName → P c → P (c.addPrimitive name)) : P initial := by
  have fold : ∀ (names : List String) (c : Catalog), (∀ name ∈ names, name ≠ globalsName) →
      P c → P (names.foldl addPrimitive c) := by
    intro names
    induction names with
    | nil => exact fun _ _ h => h
    | cons name names ih =>
      intro c plain h
      exact ih _ (fun n inside => plain n (List.mem_cons_of_mem _ inside))
        (step c name (plain name List.mem_cons_self) h)
  rw [initial_eq]
  exact fold primitiveNames empty (by decide) start

/-- Entering a primitive keeps the registry sound. -/
theorem Registry.addPrimitive (h : Registry c) (plain : name ≠ globalsName) :
    Registry (c.addPrimitive name) :=
  h.introduced (introduced_addPrimitive h.primitives_lt name) h.primitives_lt plain rfl nofun

/-- The registry of the first catalog is sound. -/
theorem registry_initial : Registry initial :=
  initial_induction registry_empty fun _ _ plain h => h.addPrimitive plain

/-! ## Libraries that are read for the first time

What a library owns it has an entry for, apart from its globals, in every catalog of a session
(`OwnsOnly`). The converse may fail later on, since another library takes over what it declares
again. It holds of a library that was just added and through its first reading, and then the entry
of a name is the only type of this name that the library owns. -/

/-- What the library owns is the type of its globals, or it has an entry for it. -/
def OwnsOnly (c : Catalog) (l : LibraryId) : Prop :=
  ∀ t, (c.type t).library = some l →
    t = (c.library l).globals ∨ (c.library l).types[c.typeName t]? = some t

/-- Quiet changes give no added library a type. -/
theorem OwnsOnly.quiet (h : c.OwnsOnly l) (other : l ≠ hidden) (quiet : Quiet c d) :
    d.OwnsOnly l := by
  intro t owned
  obtain ⟨inside, owned⟩ := (quiet.owner_cases owned).resolve_right other
  rw [quiet.library, (quiet.old t inside).name]
  exact h t owned

/-- A library introduces a type under a name that is free or has the type already. -/
theorem OwnsOnly.introduced (h : c.OwnsOnly l) (other : l ≠ hidden)
    (step : Introduced k name t kind c d)
    (free : (c.library k).types[name]? = none ∨ (c.library k).types[name]? = some t) :
    d.OwnsOnly l := by
  intro u owned
  rcases step.owner_cases owned with ⟨rfl, rfl⟩ | ⟨inside, same, owned⟩ | placeholder
  · rw [step.name]
    exact .inr step.lookup_self
  · rw [step.globals, (step.others u inside same).name]
    exact (h u owned).imp id (step.lookup_persist free)
  · exact absurd placeholder other

/-- The library owns its globals and exactly the types it has entries for. -/
structure OwnsEntries (c : Catalog) (l : LibraryId) : Prop where
  entry : ∀ {name : String} {t}, (c.library l).types[name]? = some t →
    (c.type t).library = some l
  owned : c.OwnsOnly l

/-- Adding a library does not matter for what others own, and it owns its globals. -/
theorem ownsOnly_addLibrary (h : Registry c) (name : String) (readOnly : Bool)
    (docs : DocumentationProvider) (only : l.index < c.libraries.size → c.OwnsOnly l) :
    (c.addLibrary name readOnly docs).2.OwnsOnly l := by
  intro t owned
  rw [type_addLibrary] at owned
  split at owned
  · next last =>
    obtain rfl := Option.some.inj owned
    rw [library_addLibrary, if_pos rfl]
    exact .inl (by rw [← last])
  · next before =>
    have inside := h.owner owned
    rw [library_addLibrary, if_neg (Nat.ne_of_lt inside), Catalog.typeName, type_addLibrary,
      if_neg before]
    exact only inside t owned

/-- A library that was just added owns nothing but its globals. -/
theorem ownsEntries_addLibrary (h : Registry c) (name : String) (readOnly : Bool)
    (docs : DocumentationProvider) :
    OwnsEntries (c.addLibrary name readOnly docs).2 ⟨c.libraries.size⟩ where
  entry {n t} entry := by
    rw [library_addLibrary, if_pos rfl] at entry
    simp at entry
  owned := ownsOnly_addLibrary h name readOnly docs fun inside => absurd inside (Nat.lt_irrefl _)

/-- Quiet changes leave it like that. -/
theorem OwnsEntries.quiet (h : OwnsEntries c l) (registry : Registry c) (other : l ≠ hidden)
    (quiet : Quiet c d) : OwnsEntries d l where
  entry entry := by
    rw [quiet.library] at entry
    rw [(quiet.old _ (registry.entry entry).bound).library]
    exact h.entry entry
  owned := h.owned.quiet other quiet

/-- The library itself introduces a type under a name that is free or has the type already. -/
theorem OwnsEntries.introduced (h : OwnsEntries c l) (registry : Registry c) (other : l ≠ hidden)
    (step : Introduced l name t kind c d)
    (free : (c.library l).types[name]? = none ∨ (c.library l).types[name]? = some t) :
    OwnsEntries d l where
  entry {n u} entry := by
    by_cases same : u = t
    · rw [same]
      exact step.library
    · have before := step.lookup_old same entry
      rw [(step.others u (registry.entry before).bound same).library]
      exact h.entry before
  owned := h.owned.introduced other step free

/-- Another library introduces a type that did not exist before. -/
theorem OwnsEntries.introduced_other (h : OwnsEntries c l) (registry : Registry c)
    (other : l ≠ hidden) (step : Introduced k name t kind c d) (elsewhere : k ≠ l)
    (free : (c.library k).types[name]? = none ∨ (c.library k).types[name]? = some t)
    (new : c.types.size ≤ t.index) : OwnsEntries d l where
  entry {n u} entry := by
    rw [step.lookup, if_neg fun both => elsewhere both.1.symm] at entry
    have bound := (registry.entry entry).bound
    rw [(step.others u bound fun same => absurd (same ▸ bound) (Nat.not_lt.2 new)).library]
    exact h.entry entry
  owned := h.owned.introduced other step free

end Catalog

end IdlCatalog
