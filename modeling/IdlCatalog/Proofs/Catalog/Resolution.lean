/-
# IdlCatalog.Proofs.Catalog.Resolution — what a name stands for beside one library

For a library under way it matters what its names stand for without it. This is what resolution
gives in the catalog from which the library is taken out, and the library comes in only after that,
because it was added last.

## Why the library is taken out

Resolution goes through the primitives, the hidden library and the registered libraries, in this
order. A batch reads its files one after the other, each for a library that was added right before;
the library is the last registered one while it is read. So what a name stands for is what it stands
for without the library, and only where that is nothing the entry of the library.

The facts are used for comparing two sessions: what the earlier libraries give is the same in both,
and what the library under way gives is related by induction over its reading.
-/
import IdlCatalog.Proofs.Catalog.Registry

namespace IdlCatalog

namespace Catalog

variable {c d : Catalog} {t u : TypeId} {l k : LibraryId} {name : String} {kind : Kind}

/-! ## Libraries that names are looked up in

The order matters: the first library that declares the name wins. Libraries are added at the end,
and removing one leaves the others in their order. -/

/-- The libraries in which a name is looked up. -/
theorem mem_tiers : l ∈ c.tiers ↔ l = primitives ∨ l = hidden ∨ l ∈ c.registered := by
  simp [tiers]

/-- They depend on what is registered only. -/
theorem tiers_congr (registered : d.registered = c.registered) : d.tiers = c.tiers := by
  rw [tiers, tiers, registered]

/-- Only the first two libraries were not added. -/
theorem eq_of_not_added (first : ¬2 ≤ l.index) : l = primitives ∨ l = hidden := by
  obtain ⟨i⟩ := l
  simp only [primitives, hidden, LibraryId.mk.injEq]
  simp only at first
  omega

/-- The library is the last one that names are looked up in. -/
def IsLatest (c : Catalog) (l : LibraryId) : Prop :=
  ∃ before, c.registered = before ++ [l] ∧ l ∉ before

/-- A library that was just added is the last one. -/
theorem isLatest_addLibrary (h : Registry c) (name : String) (readOnly : Bool)
    (docs : DocumentationProvider) :
    (c.addLibrary name readOnly docs).2.IsLatest (c.addLibrary name readOnly docs).1 := by
  refine ⟨c.registered, rfl, ?_⟩
  rw [addLibrary_fst]
  intro inside
  exact absurd (h.registered _ inside).2 (Nat.lt_irrefl _)

/-- Taking a library out leaves all libraries as they are. -/
theorem library_unregister (c : Catalog) (l k : LibraryId) :
    (c.unregister l).library k = c.library k := rfl

/-- Without the last one, the ones before it are registered. -/
theorem IsLatest.unregister {before : List LibraryId} (registered : c.registered = before ++ [l])
    (other : l ∉ before) : (c.unregister l).registered = before := by
  have kept : before.filter (· ≠ l) = before :=
    List.filter_eq_self.2 fun k inside => decide_eq_true fun eq => other (eq ▸ inside)
  have dropped : [l].filter (· ≠ l) = [] := by simp
  rw [Catalog.unregister, registered, List.filter_append, kept, dropped, List.append_nil]

/-- The latest library is asked when no other one knows the name. -/
theorem resolve?_eq_or (latest : c.IsLatest l) (name : String) :
    c.resolve? name = ((c.unregister l).resolve? name).or (c.declaredIn? l name) := by
  obtain ⟨before, registered, other⟩ := latest
  rw [resolve?, resolve?, IsLatest.unregister registered other, library_unregister, registered]
  -- primitives come first either way; the rest is a search through a list that ends with `l`
  cases (c.library primitives).types[name]? with
  | some t => rfl
  | none =>
    show (hidden :: (before ++ [l])).findSome? (c.declaredIn? · name) =
      ((hidden :: before).findSome? (c.declaredIn? · name)).or (c.declaredIn? l name)
    rw [← List.cons_append, List.findSome?_append, List.findSome?_singleton]

/-- Without an entry of the library the name means what it means elsewhere. -/
theorem resolve?_of_entry_none (latest : c.IsLatest l) (entry : (c.library l).types[name]? = none) :
    c.resolve? name = (c.unregister l).resolve? name := by
  rw [resolve?_eq_or latest, declaredIn?, entry, Option.filter_none, Option.or_none]

/-! ## What a name stands for

A type that only reopens another one never answers for its name, so it is passed over in the search.
A placeholder does answer, and it comes before every registered library. -/

/-- Where no type of the library stands for the name, and none reopens another one under it, the
library has no entry for it. -/
theorem declaredIn?_eq_none (h : c.declaredIn? l name = none)
    (stands : ∀ u, (c.library l).types[name]? = some u → (c.type u).kind ≠ .reopening) :
    (c.library l).types[name]? = none := by
  cases eq : (c.library l).types[name]? with
  | none => rfl
  | some u =>
    have kept : c.isReopening u = false := decide_eq_false (stands u eq)
    simp [declaredIn?, eq, kept] at h

/-- A name that stands for nothing is no name of a primitive type. -/
theorem primitives_free (unknown : c.resolve? name = none) :
    (c.library primitives).types[name]? = none := by
  cases primitive : (c.library primitives).types[name]? with
  | some t => simp [resolve?, primitive] at unknown
  | none => rfl

/-- Nor is it a name of a placeholder. -/
theorem Registry.hidden_free (registry : Registry c) (unknown : c.resolve? name = none) :
    (c.library hidden).types[name]? = none := by
  refine declaredIn?_eq_none ?_ fun u entry => registry.standing (by decide) entry
  simp only [resolve?, primitives_free unknown, List.findSome?_eq_none_iff] at unknown
  exact unknown hidden List.mem_cons_self

/-- What a name stands for is the entry of a library, and not one that only reopens another. -/
theorem resolve?_entry (h : Registry c) (found : c.resolve? name = some t) :
    (∃ k, (k = primitives ∨ k = hidden ∨ k ∈ c.registered) ∧
      (c.library k).types[name]? = some t) ∧ c.isReopening t = false := by
  cases primitive : (c.library primitives).types[name]? with
  | some u =>
    simp only [resolve?, primitive, Option.some.injEq] at found
    subst found
    exact ⟨⟨_, .inl rfl, primitive⟩, decide_eq_false (h.standing (by decide) primitive)⟩
  | none =>
    simp only [resolve?, primitive] at found
    obtain ⟨k, among, entry⟩ := List.exists_of_findSome?_eq_some found
    obtain ⟨entry, stands⟩ := Option.filter_eq_some_iff.1 entry
    exact ⟨⟨k, .inr (List.mem_cons.1 among), entry⟩, by simpa using stands⟩

/-- What a name stands for is the entry of some library. -/
theorem resolve?_isEntry (h : Registry c) (found : c.resolve? name = some t) :
    c.IsEntry name t := by
  obtain ⟨⟨k, -, entry⟩, -⟩ := resolve?_entry h found
  exact h.entry entry

/-- A placeholder is what its name stands for. -/
theorem resolve?_addPlaceholder (h : Registry c) (unknown : c.resolve? name = none) :
    (c.addPlaceholder name).2.resolve? name = some (c.addPlaceholder name).1 := by
  have introduced := introduced_addPlaceholder h.hidden_lt (h.hidden_free unknown)
  have primitive : ((c.addPlaceholder name).2.library primitives).types[name]? = none := by
    rw [introduced.lookup, if_neg fun both => absurd both.1 (by decide)]
    exact primitives_free unknown
  have stands : (c.addPlaceholder name).2.isReopening (c.addPlaceholder name).1 = false := by
    refine decide_eq_false fun reopening => ?_
    cases introduced.kind.reopening_iff.1 reopening
  have declared : (c.addPlaceholder name).2.declaredIn? hidden name =
      some (c.addPlaceholder name).1 := by
    rw [declaredIn?, introduced.lookup_self, Option.filter_some, stands]
    rfl
  simp only [resolve?, primitive, List.findSome?_cons, declared]

/-- Without a library that was added, other libraries are asked. -/
theorem ne_of_asked (two_le : 2 ≤ l.index)
    (place : k = primitives ∨ k = hidden ∨ k ∈ (c.unregister l).registered) : k ≠ l := by
  rintro rfl
  rcases place with rfl | rfl | inside
  · exact absurd two_le (by decide)
  · exact absurd two_le (by decide)
  · simp [Catalog.unregister] at inside

/-- Without a library, a name stands for an entry of another one. -/
theorem resolve?_unregister_entry (h : Registry c) (two_le : 2 ≤ l.index)
    (found : (c.unregister l).resolve? name = some t) :
    (∃ k, k ≠ l ∧ (c.library k).types[name]? = some t) ∧ c.isReopening t = false := by
  obtain ⟨⟨k, place, entry⟩, stands⟩ := resolve?_entry (h.unregister l) found
  exact ⟨⟨k, ne_of_asked two_le place, entry⟩, stands⟩

/-- Two searches that agree on every element find the same. -/
theorem findSome?_congr {α β : Type} {f g : α → Option β} {as : List α}
    (same : ∀ a ∈ as, f a = g a) : as.findSome? f = as.findSome? g := by
  induction as with
  | nil => rfl
  | cons a as ih =>
    rw [List.findSome?_cons, List.findSome?_cons, same a List.mem_cons_self,
      ih fun b inside => same b (List.mem_cons_of_mem a inside)]

/-- A name stands for the same in two catalogs if the libraries that are asked have the same entry
for it, and if the entry only reopens another type in both or in neither. -/
theorem resolve?_congr (registered : d.registered = c.registered)
    (entries : ∀ k, k = primitives ∨ k = hidden ∨ k ∈ c.registered →
      (d.library k).types[name]? = (c.library k).types[name]? ∧
        ∀ t, (c.library k).types[name]? = some t → d.isReopening t = c.isReopening t) :
    d.resolve? name = c.resolve? name := by
  have declared (k) (place : k = primitives ∨ k = hidden ∨ k ∈ c.registered) :
      d.declaredIn? k name = c.declaredIn? k name := by
    obtain ⟨same, reopens⟩ := entries k place
    rw [declaredIn?, declaredIn?, same]
    cases entry : (c.library k).types[name]? with
    | none => rfl
    | some t => rw [Option.filter_some, Option.filter_some, reopens t entry]
  have tiers : (hidden :: c.registered).findSome? (d.declaredIn? · name) =
      (hidden :: c.registered).findSome? (c.declaredIn? · name) := by
    exact findSome?_congr fun k inside => declared k (.inr (List.mem_cons.1 inside))
  rw [resolve?, resolve?, (entries primitives (.inl rfl)).1, registered, tiers]

/-- It does not matter whether the library is taken out before a placeholder is created or after
it. -/
theorem addPlaceholder_unregister (c : Catalog) (l : LibraryId) (name : String) :
    (c.unregister l).addPlaceholder name =
      ((c.addPlaceholder name).1, (c.addPlaceholder name).2.unregister l) := by
  rw [addPlaceholder, addPlaceholder, library_unregister]
  cases (c.library hidden).types[name]? <;> rfl

/-- A placeholder is what its name stands for without any library that was added. -/
theorem resolve?_unregister_addPlaceholder (h : Registry c)
    (unknown : (c.unregister l).resolve? name = none) :
    ((c.addPlaceholder name).2.unregister l).resolve? name = some (c.addPlaceholder name).1 := by
  have found := resolve?_addPlaceholder (h.unregister l) unknown
  rwa [addPlaceholder_unregister] at found

/-- What a name stands for without a library does not depend on the entries of the library. -/
theorem resolve?_unregister_congr (two_le : 2 ≤ l.index) (registered : d.registered = c.registered)
    (entries : ∀ k, k ≠ l → (d.library k).types[name]? = (c.library k).types[name]? ∧
      ∀ t, (c.library k).types[name]? = some t → d.isReopening t = c.isReopening t) :
    (d.unregister l).resolve? name = (c.unregister l).resolve? name := by
  refine resolve?_congr ?_ fun k place => entries k (ne_of_asked two_le place)
  rw [unregister, unregister, registered]

/-- Who owns types does not matter for what a name stands for. -/
theorem Moved.resolve? (moved : Moved c d) (name : String) : d.resolve? name = c.resolve? name := by
  refine resolve?_congr moved.registered fun k _ => ⟨?_, fun t _ => ?_⟩
  · rw [library_congr moved.libraries]
  · obtain ⟨owner, same, -⟩ := moved.type t
    rw [isReopening, isReopening, same]

/-- After a library was removed a name stands for what it stood for without the library. -/
theorem resolve?_removeLibrary (c : Catalog) (l : LibraryId) (name : String) :
    (c.removeLibrary l).2.resolve? name = (c.unregister l).resolve? name :=
  (moved_removeLibrary c l).resolve? name

/-- Libraries keep their entries when one is removed. -/
theorem library_removeLibrary (c : Catalog) (l k : LibraryId) :
    (c.removeLibrary l).2.library k = c.library k := by
  rw [library_congr (moved_removeLibrary c l).libraries, library_unregister]

/-- Without a library that was just added a name stands for what it stood for before. -/
theorem resolve?_unregister_addLibrary (h : Registry c) (library : String) (readOnly : Bool)
    (docs : DocumentationProvider) (name : String) :
    ((c.addLibrary library readOnly docs).2.unregister ⟨c.libraries.size⟩).resolve? name =
      c.resolve? name := by
  have other {k : LibraryId} (place : k = primitives ∨ k = hidden ∨ k ∈ c.registered) :
      k.index ≠ c.libraries.size := by
    rcases place with rfl | rfl | inside
    · exact Nat.ne_of_lt h.primitives_lt
    · exact Nat.ne_of_lt h.hidden_lt
    · exact Nat.ne_of_lt (h.registered k inside).2
  have registered := IsLatest.unregister (registered_addLibrary c library readOnly docs)
    fun inside => other (.inr (.inr inside)) rfl
  refine resolve?_congr registered fun k place => ⟨?_, fun t entry => ?_⟩
  · rw [library_unregister, library_addLibrary, if_neg (other place)]
  · rw [isReopening, isReopening]
    show decide (((c.addLibrary library readOnly docs).2.type t).kind = _) = _
    rw [type_addLibrary, if_neg (Nat.ne_of_lt (h.entry entry).bound)]

end Catalog

end IdlCatalog
