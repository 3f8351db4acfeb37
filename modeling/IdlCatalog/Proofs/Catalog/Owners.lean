/-
# IdlCatalog.Proofs.Catalog.Owners — who owns the types that libraries have entries for

Several libraries may have an entry for one type, and one of them owns it: the one that introduced
it last, as long as it takes part in resolution. When that library is removed, the type goes to an
heir, which has an entry for it too. So the owner of a type that has an entry has one itself
(`Owners`), whether or not it still takes part.

## Why there is always an owner

An heir is looked for among the registered libraries, the latest first, and the hidden one. The
owner that is removed still has its entries, which matter no longer to resolution but to this
invariant: where no heir is found, the type keeps its owner, and the owner still has the entry. So a
type with an entry never ends up without an owner by removal.

Primitives are apart. A declaration may take one over, and when its library goes, the library of the
primitives is not asked.
-/
import IdlCatalog.Proofs.Catalog.Resolution

namespace IdlCatalog

namespace Catalog

variable {c d : Catalog} {t u : TypeId} {l k : LibraryId} {name n : String} {kind : Kind}

/-! ## The first catalog

Only primitives have an entry at first, in the library that owns them. -/

/-- At first there is nothing but the primitives, and what they own. -/
theorem entry_initial (entry : (initial.library l).types[name]? = some t) :
    l = primitives ∧ (initial.type t).library = some primitives := by
  have only : Registry initial ∧ ∀ {l : LibraryId} {name : String} {t},
      (initial.library l).types[name]? = some t →
        l = primitives ∧ (initial.type t).library = some primitives := by
    refine initial_induction (P := fun c => Registry c ∧ ∀ {l : LibraryId} {name : String} {t},
      (c.library l).types[name]? = some t → l = primitives ∧ (c.type t).library = some primitives)
      ⟨registry_empty, fun entry => by simp [entry_empty] at entry⟩ ?_
    rintro c name plain ⟨registry, only⟩
    have step := introduced_addPrimitive registry.primitives_lt name
    refine ⟨registry.addPrimitive plain, fun {l m t} entry => ?_⟩
    rcases step.lookup_cases entry with ⟨rfl, -, rfl⟩ | before
    · exact ⟨rfl, step.library⟩
    · have bound := (registry.entry before).bound
      have here : t ≠ ⟨c.types.size⟩ := fun same => absurd (same ▸ bound) (Nat.lt_irrefl _)
      rw [(step.others t bound here).library]
      exact only before
  exact only.2 entry

/-! ## The invariant

Introducing a type makes the library its owner and gives it an entry at once, and takes the type out
of no library. Quiet changes touch neither owners nor entries. -/

/-- Owners have entries for what they own, as far as anybody does. -/
structure Owners (c : Catalog) : Prop where
  entry : ∀ {l : LibraryId} {name : String} {t}, (c.library l).types[name]? = some t →
    ∃ o, (c.type t).library = some o ∧ (c.library o).types[name]? = some t
  /-- What an added library declares does not belong to the primitives any more. -/
  added : ∀ {l : LibraryId} {name : String} {t}, 2 ≤ l.index →
    (c.library l).types[name]? = some t → (c.type t).library ≠ some primitives
  /-- There are no placeholders for primitive types. -/
  apart : ∀ {name : String} {t}, (c.library primitives).types[name]? = some t →
    (c.library hidden).types[name]? = none

namespace Owners

/-- The libraries keep their entries, and types that have one their owners. -/
theorem of_same (h : Owners c) (libraries : ∀ k, (d.library k).types = (c.library k).types)
    (owners : ∀ {k : LibraryId} {name : String} {t}, (c.library k).types[name]? = some t →
      (d.type t).library = (c.type t).library) : Owners d where
  entry {k n t} entry := by
    rw [libraries] at entry
    obtain ⟨o, owned, registers⟩ := h.entry entry
    exact ⟨o, (owners entry).trans owned, by rw [libraries]; exact registers⟩
  added {k n t} added entry := by
    rw [libraries] at entry
    rw [owners entry]
    exact h.added added entry
  apart {n t} entry := by
    rw [libraries] at entry ⊢
    exact h.apart entry

/-- Quiet changes leave owners and entries. -/
theorem quiet (h : Owners c) (registry : Registry c) (quiet : Quiet c d) : Owners d :=
  h.of_same (fun k => by rw [quiet.library]) fun entry =>
    (quiet.old _ (registry.entry entry).bound).library

/-- All entries of an introduced type are under the name that it was introduced with. -/
theorem name_of_introduced (registry : Registry c) (step : Introduced k name t kind c d)
    (entry : (d.library l).types[n]? = some t) : n = name := by
  rcases step.lookup_cases entry with ⟨-, rfl, -⟩ | before
  · rfl
  · have isEntry := registry.entry before
    exact isEntry.name.symm.trans (step.before isEntry.bound).1

/-- An added library introduces a type, or the hidden one under a name of no primitive type. -/
theorem introduced (h : Owners c) (registry : Registry c) (step : Introduced k name t kind c d)
    (free : (c.library k).types[name]? = none ∨ (c.library k).types[name]? = some t)
    (place : 2 ≤ k.index ∨ k = hidden ∧ (c.library primitives).types[name]? = none) :
    Owners d := by
  have not_primitives : k ≠ primitives := by
    rintro rfl
    rcases place with impossible | ⟨impossible, -⟩ <;> exact absurd impossible (by decide)
  constructor
  case entry =>
    intro o m u entry
    by_cases here : u = t
    · subst here
      exact ⟨k, step.library, name_of_introduced registry step entry ▸ step.lookup_self⟩
    · have before := step.lookup_old here entry
      obtain ⟨owner, owned, registers⟩ := h.entry before
      exact ⟨owner, (step.others u (registry.entry before).bound here).library.trans owned,
        step.lookup_persist free registers⟩
  case added =>
    intro o m u added entry
    by_cases here : u = t
    · rw [here, step.library]
      exact fun same => not_primitives (Option.some.inj same)
    · have before := step.lookup_old here entry
      rw [(step.others u (registry.entry before).bound here).library]
      exact h.added added before
  case apart =>
    intro m u entry
    rw [step.lookup, if_neg fun both => not_primitives both.1.symm] at entry
    rw [step.lookup, if_neg]
    · exact h.apart entry
    · rintro ⟨rfl, rfl⟩
      rcases place with added | ⟨-, free⟩
      · exact absurd added (by decide)
      · rw [free] at entry
        cases entry

/-- A new library has no entries, so it owns no type that has one. -/
theorem addLibrary (h : Owners c) (registry : Registry c) (name : String) (readOnly : Bool)
    (docs : DocumentationProvider) : Owners (c.addLibrary name readOnly docs).2 := by
  refine h.of_same (fun k => ?_) fun entry => ?_
  · rw [library_addLibrary]
    split
    · next new =>
      rw [library_of_size_le c k (Nat.le_of_eq new.symm)]
      rfl
    · rfl
  · rw [type_addLibrary, if_neg (Nat.ne_of_lt (registry.entry entry).bound)]

/-- The first catalog is of this sort. -/
theorem initial : Owners Catalog.initial := by
  refine ⟨fun {l n t} entry => ?_, fun {l n t} added entry => ?_, fun {n t} _ => ?_⟩
  · obtain ⟨rfl, owned⟩ := entry_initial entry
    exact ⟨_, owned, entry⟩
  · rw [(entry_initial entry).1] at added
    exact absurd added (by decide)
  · cases placeholder : (Catalog.initial.library hidden).types[n]? with
    | none => rfl
    | some u => exact absurd (entry_initial placeholder).1 (by decide)

end Owners

/-! ## Passing types on

Removal goes through the types that the library owns. What a type comes to is decided at its own
entry, since entries are not changed on the way and each name stands once in the list. -/

/-- Heirs are found by the entries of the registered libraries. -/
theorem heir?_congr (libraries : d.libraries = c.libraries)
    (registered : d.registered = c.registered) (name : String) (t : TypeId) :
    d.heir? name t = c.heir? name t := by
  simp only [heir?, registered, library_congr libraries]

/-- An heir takes part in resolution or is the hidden library, and has an entry for the type. -/
theorem heir?_eq_some {heir : LibraryId} (found : c.heir? name t = some heir) :
    (heir = hidden ∨ heir ∈ c.registered) ∧ (c.library heir).types[name]? = some t := by
  refine ⟨List.mem_cons.1 (heir?_mem found), ?_⟩
  simpa using List.find?_some found

/-- There is an heir if any library that takes part has an entry. -/
theorem heir?_ne_none (place : k = hidden ∨ k ∈ c.registered)
    (entry : (c.library k).types[name]? = some t) : ∃ heir, c.heir? name t = some heir := by
  refine Option.isSome_iff_exists.1 (List.find?_isSome.2 ⟨k, ?_, by simpa using entry⟩)
  rcases place with rfl | inside
  · simp
  · simp [inside]

/-- Passing a type on changes no entry. -/
theorem passOn_libraries (c : Catalog) (entry : String × TypeId) :
    (c.passOn entry).libraries = c.libraries := by
  rw [passOn]
  split <;> rfl

/-- Nor does it change who is registered. -/
theorem passOn_registered (c : Catalog) (entry : String × TypeId) :
    (c.passOn entry).registered = c.registered := by
  rw [passOn]
  split <;> rfl

/-- Nor does it create types. -/
theorem types_size_passOn (c : Catalog) (entry : String × TypeId) :
    (c.passOn entry).types.size = c.types.size := by
  rw [passOn]
  split
  · exact types_size_modifyType c _ _
  · rfl

/-- The one type that is passed on goes to its heir, if it has one. -/
theorem owner_passOn (bound : t.index < c.types.size) (entry : String × TypeId)
    (named : entry.2 = t → entry.1 = name) :
    ((c.passOn entry).type t).library =
      if entry = (name, t) then (c.heir? name t).or (c.type t).library
      else (c.type t).library := by
  by_cases here : entry.2 = t
  · obtain ⟨m, u⟩ := entry
    obtain rfl : u = t := here
    obtain rfl : m = name := named rfl
    rw [if_pos rfl, passOn]
    cases found : c.heir? m u with
    | none => rfl
    | some heir => rw [type_modifyType_self c u _ bound]; rfl
  · rw [if_neg fun same => here (congrArg Prod.snd same), passOn]
    split
    · rw [type_modifyType_of_ne c entry.2 t _ (Ne.symm here)]
    · rfl

/-- Types are passed on one by one, each to its own heir. -/
theorem owner_foldl_passOn {entries : List (String × TypeId)} (bound : t.index < c.types.size)
    (named : ∀ entry ∈ entries, entry.2 = t → entry.1 = name) :
    ((entries.foldl passOn c).type t).library =
      if (name, t) ∈ entries then (c.heir? name t).or (c.type t).library
      else (c.type t).library := by
  induction entries generalizing c with
  | nil => simp
  | cons entry entries ih =>
    have heir : (c.passOn entry).heir? name t = c.heir? name t :=
      heir?_congr (passOn_libraries c entry) (passOn_registered c entry) name t
    rw [List.foldl_cons, ih (by rw [types_size_passOn]; exact bound) fun e inside =>
      named e (List.mem_cons_of_mem _ inside), heir,
      owner_passOn bound entry (named entry List.mem_cons_self)]
    by_cases here : entry = (name, t)
    -- who is passed on twice goes to the same heir
    · cases c.heir? name t <;> simp [here]
    · simp [here, Ne.symm here]

/-- A library that is removed passes a type on if it owns it and has an entry for it. The type goes
to its heir, or stays where it is if there is none. -/
theorem owner_removeLibrary (registry : Registry c) (isEntry : c.IsEntry name t) :
    ((c.removeLibrary l).2.type t).library =
      if l ∈ c.registered ∧ (c.library l).types[name]? = some t ∧ (c.type t).library = some l then
        ((c.unregister l).heir? name t).or (some l)
      else (c.type t).library := by
  by_cases inside : l ∈ c.registered
  · have named : ∀ entry ∈ c.ownEntries l, entry.2 = t → entry.1 = name := by
      rintro ⟨n, u⟩ own (rfl : u = t)
      exact (registry.entry (mem_ownEntries.1 own).1).name.symm.trans isEntry.name
    rw [removeLibrary_of_mem inside, owner_foldl_passOn (c := c.unregister l) isEntry.bound named]
    simp only [mem_ownEntries, inside, true_and]
    split
    · next both =>
      show _ = ((c.unregister l).heir? name t).or (some l)
      rw [← both.2]
      rfl
    · rfl
  · rw [removeLibrary_of_not_mem inside, if_neg fun all => inside all.1]

/-- So after a removal owners still have entries for what they own. -/
theorem Owners.removeLibrary (h : Owners c) (registry : Registry c) (l : LibraryId) :
    Owners (c.removeLibrary l).2 := by
  -- who gets a type from the library is hidden or registered, and has an entry
  have heir {n t o} (found : (c.unregister l).heir? n t = some o) :
      o ≠ primitives ∧ (c.library o).types[n]? = some t := by
    obtain ⟨place, entry⟩ := heir?_eq_some found
    refine ⟨?_, entry⟩
    rintro rfl
    rcases place with impossible | inside
    · exact absurd impossible (by decide)
    · exact absurd ((registry.unregister l).registered _ inside).1 (by decide)
  refine ⟨fun {k n t} entry => ?_, fun {k n t} added entry => ?_, fun {n t} entry => ?_⟩
  · rw [library_removeLibrary] at entry
    obtain ⟨o, owned, registers⟩ := h.entry entry
    simp only [library_removeLibrary, owner_removeLibrary registry (registry.entry entry)]
    split
    · next passed =>
      cases found : (c.unregister l).heir? n t with
      | none => exact ⟨l, rfl, passed.2.1⟩
      | some o => exact ⟨o, rfl, (heir found).2⟩
    · exact ⟨o, owned, registers⟩
  · rw [library_removeLibrary] at entry
    rw [owner_removeLibrary registry (registry.entry entry)]
    split
    · next passed =>
      cases found : (c.unregister l).heir? n t with
      | none => exact passed.2.2 ▸ h.added added entry
      | some o => exact fun same => (heir found).1 (Option.some.inj same)
    · exact h.added added entry
  · rw [library_removeLibrary] at entry ⊢
    exact h.apart entry

/-- A type goes only to a library that has an entry for it. -/
theorem OwnsOnly.removeLibrary (h : c.OwnsOnly k) (registry : Registry c) (l : LibraryId) :
    (c.removeLibrary l).2.OwnsOnly k := by
  intro t owned
  obtain ⟨owner, same, moved⟩ := (moved_removeLibrary c l).type t
  have named : (c.removeLibrary l).2.typeName t = c.typeName t := by
    rw [typeName, same]
    rfl
  rw [library_removeLibrary, named]
  rcases moved with rfl | ⟨⟨o, n, entry⟩, -⟩
  · refine h t ?_
    rw [same] at owned
    exact owned
  · have isEntry := registry.entry entry
    rw [owner_removeLibrary registry isEntry] at owned
    split at owned
    · next passed =>
      rw [isEntry.name]
      refine .inr ?_
      cases found : (c.unregister l).heir? n t with
      | none =>
        rw [found] at owned
        obtain rfl := Option.some.inj owned
        exact passed.2.1
      | some heir =>
        rw [found] at owned
        obtain rfl := Option.some.inj owned
        exact (heir?_eq_some found).2
    · exact h t owned

end Catalog

end IdlCatalog
