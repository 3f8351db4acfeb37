/-
# IdlCatalog.Proofs.Grammar.Meaning — what a step leaves of the meaning of names

For a reading for a library a name has two sides: the entry of the library itself, and what the name
stands for without the library. A quiet step leaves both alone, for every name, and a step that
introduces a type leaves both alone for the other names.

Two notions of sameness are used. `Untouched` is the stronger one: no library has another entry for
the name. `SameMeaning` speaks from the point of view of one library, and is what remains when the
library itself introduces a type of that name: its own entry may differ, but the name without the
library means the same.

That the meaning outside is computed by unregistering the library is no accident. A type that the
library owns must not be found when it is asked whether another library has the name.
-/
import IdlCatalog.Proofs.Catalog.Owners
import IdlCatalog.Proofs.Grammar.Steps

namespace IdlCatalog

open Catalog

variable {c d : Catalog} {t u : TypeId} {l k : LibraryId} {n name : String} {kind : Kind}
  {es : List Event}

/-- No library but `l` has an entry for the type. -/
def Catalog.Private (c : Catalog) (l : LibraryId) (t : TypeId) : Prop :=
  ∀ k (name : String), (c.library k).types[name]? = some t → k = l

/-- A type that only one library has an entry for stays so, if the library of the reading is that
one or introduces another type. -/
theorem Catalog.Introduces.private (introduces : Introduces l k name u kind c d)
    (bound : t.index < c.types.size) (only : c.Private l t) : d.Private l t := by
  intro k' m entry
  rcases introduces.introduced.lookup_cases entry with ⟨here, -, rfl⟩ | before
  · rcases introduces.place with rfl | ⟨-, new⟩
    · exact here
    · exact absurd bound (Nat.not_lt.2 new)
  · exact only k' m before

/-- Nothing changes about the entries that libraries have for the name. -/
structure Untouched (n : String) (c d : Catalog) : Prop where
  registered : d.registered = c.registered
  lookup : ∀ k, (d.library k).types[n]? = (c.library k).types[n]?
  reopens : ∀ k t, (c.library k).types[n]? = some t → d.isReopening t = c.isReopening t

/-- A name about which nothing changes is resolved with the same result. -/
theorem Untouched.resolve? (h : Untouched n c d) : d.resolve? n = c.resolve? n :=
  resolve?_congr h.registered fun k _ => ⟨h.lookup k, h.reopens k⟩

/-- A name about which nothing changes means the same without the library. -/
theorem Untouched.outside (h : Untouched n c d) (two_le : 2 ≤ l.index) :
    (d.unregister l).resolve? n = (c.unregister l).resolve? n :=
  resolve?_unregister_congr two_le h.registered fun k _ => ⟨h.lookup k, h.reopens k⟩

/-- A quiet change touches no name. -/
theorem Catalog.Quiet.untouched (registry : Registry c) (quiet : Quiet c d) : Untouched n c d where
  registered := quiet.registered
  lookup k := by rw [quiet.library]
  reopens k t entry := (quiet.old t (registry.entry entry).bound).isReopening

/-- Introducing a type under another name. -/
theorem Catalog.Introduced.untouched (registry : Registry c)
    (introduced : Introduced k name t kind c d) (other : name ≠ n) : Untouched n c d where
  registered := introduced.registered
  lookup k' := by rw [introduced.lookup, if_neg fun both => other both.2.symm]
  reopens k' u entry := by
    have isEntry := registry.entry entry
    refine (introduced.others u isEntry.bound ?_).isReopening
    rintro rfl
    exact other ((introduced.before isEntry.bound).1.symm.trans isEntry.name)

/-- For a reading for `l` the name means the same in both catalogs. -/
structure SameMeaning (l : LibraryId) (n : String) (c d : Catalog) : Prop where
  entry : (d.library l).types[n]? = (c.library l).types[n]?
  outside : (d.unregister l).resolve? n = (c.unregister l).resolve? n
  reopens : ∀ t, (c.library l).types[n]? = some t → d.isReopening t = c.isReopening t
  only : ∀ t, (c.library l).types[n]? = some t → c.Private l t → d.Private l t

/-- A name means what it means. -/
theorem SameMeaning.refl (l : LibraryId) (n : String) (c : Catalog) : SameMeaning l n c c :=
  ⟨rfl, rfl, fun _ _ => rfl, fun _ _ => id⟩

/-- A name about which nothing changes means the same. -/
theorem Untouched.sameMeaning (h : Untouched n c d) (two_le : 2 ≤ l.index)
    (only : ∀ t, (c.library l).types[n]? = some t → c.Private l t → d.Private l t) :
    SameMeaning l n c d :=
  ⟨h.lookup l, h.outside two_le, h.reopens l, only⟩

/-- A quiet change leaves the meaning of all names. -/
theorem Catalog.Quiet.sameMeaning (readable : c.Readable l) (quiet : Quiet c d) :
    SameMeaning l n c d := by
  have untouched : Untouched n c d := quiet.untouched readable.registry
  refine untouched.sameMeaning readable.two_le fun t _ only k m entry => ?_
  rw [quiet.library] at entry
  exact only k m entry

/-- Without the library a name goes on to mean the same when the library introduces a type that is
no other library's entry for the name, or reopens as little as before. -/
theorem Catalog.Introduces.outside (readable : c.Readable l)
    (introduces : Introduces l l name t kind c d)
    (alike : ∀ k, k ≠ l → (c.library k).types[n]? = some t →
      d.isReopening t = c.isReopening t) :
    (d.unregister l).resolve? n = (c.unregister l).resolve? n := by
  have registered := introduces.introduced.registered
  refine resolve?_unregister_congr readable.two_le registered fun k other => ?_
  refine ⟨by rw [introduces.introduced.lookup, if_neg fun both => other both.1], ?_⟩
  intro u entry
  by_cases here : u = t
  · exact here ▸ alike k other (here ▸ entry)
  · have bound := (readable.registry.entry entry).bound
    exact (introduces.introduced.others u bound here).isReopening

/-- To introduce a type under another name leaves the meaning of a name. -/
theorem Catalog.Introduces.sameMeaning (readable : c.Readable l)
    (introduces : Introduces l k name t kind c d) (other : name ≠ n) : SameMeaning l n c d := by
  have untouched : Untouched n c d := introduces.introduced.untouched readable.registry other
  refine untouched.sameMeaning readable.two_le fun u entry only => ?_
  exact introduces.private (readable.registry.entry entry).bound only

theorem Untouched.refl (n : String) (c : Catalog) : Untouched n c c :=
  ⟨rfl, fun _ => rfl, fun _ _ _ => rfl⟩

/-- A step leaves a name alone, looks it up or declares it. -/
theorem Step.about (readable : c.Readable l) (step : Step l c es d) (n : String) :
    (Untouched n c d ∧ ∀ t reopens, .declared n t reopens ∉ es) ∨
    (∃ t, Reference l n c t d ∧ es = [.referenced n t]) ∨
    ∃ kind reopens answer, n ≠ globalsName ∧ Kind.IsDeclared kind ∧
      Declaration l kind n c reopens answer es d := by
  have registry := readable.registry
  cases step with
  | edit edit =>
    refine .inl ⟨edit.quiet.untouched registry, fun t reopens => ?_⟩
    cases edit <;> simp [documentMember]
  | @reference name t _ plain reference =>
    by_cases here : name = n
    · subst here
      exact .inr (.inl ⟨t, reference, rfl⟩)
    · refine .inl ⟨?_, by simp⟩
      rcases reference.naming registry plain with rfl | introduces
      · exact .refl n _
      · exact introduces.introduced.untouched registry here
  | @declaration name kind reopens answer _ _ plain declared declaration =>
    by_cases here : name = n
    · subst here
      exact .inr (.inr ⟨kind, reopens, answer, plain, declared, declaration⟩)
    · refine .inl ⟨?_, fun t reopens inside => ?_⟩
      · rcases declaration.naming registry readable.inside plain declared with
          ⟨-, -, rfl, -⟩ | ⟨_, _, -, introduces⟩ | ⟨-, -, -, quiet, -⟩
        · exact .refl n _
        · exact introduces.introduced.untouched registry here
        · exact quiet.untouched registry
      · cases declaration <;> simp [introducedEvents, Ne.symm here] at inside

/-- An event that tells of a declared name comes from its declaration. -/
theorem Step.declaration_of_declared {reopens : Bool} (readable : c.Readable l)
    (step : Step l c es d) (inside : .declared n t reopens ∈ es) :
    n ≠ globalsName ∧ ∃ kind again, Kind.IsDeclared kind ∧
      Declaration l kind n c again (.ok t) es d := by
  rcases step.about readable n with ⟨-, silent⟩ | ⟨_, _, rfl⟩ |
    ⟨kind, again, answer, plain, declared, declaration⟩
  · exact absurd inside (silent t reopens)
  · simp at inside
  · have same : answer = .ok t := by
      cases declaration <;> simp [introducedEvents] at inside ⊢ <;> exact inside.1.symm
    exact ⟨plain, kind, again, declared, same ▸ declaration⟩

/-- Libraries keep their entries. -/
theorem Step.entry_stays (readable : c.Readable l) (step : Step l c es d)
    (entry : (c.library k).types[n]? = some t) : (d.library k).types[n]? = some t := by
  rcases step.naming readable.registry readable.inside with quiet | ⟨_, _, _, _, introduces⟩
  · rwa [quiet.library]
  · rw [introduces.introduced.lookup]
    split
    · next here =>
      -- the name was free, or its entry was this type already
      obtain ⟨rfl, rfl⟩ := here
      rcases introduces.free with free | same
      · rw [free] at entry
        cases entry
      · exact same.symm.trans entry
    · exact entry

/-- No step registers a library. -/
theorem Step.registered (readable : c.Readable l) (step : Step l c es d) :
    d.registered = c.registered := by
  rcases step.naming readable.registry readable.inside with quiet | ⟨_, _, _, _, introduces⟩
  · exact quiet.registered
  · exact introduces.introduced.registered

/-- Libraries keep their entries along a reading. -/
theorem Reading.entry_stays {h : History} (readable : c.Readable l) (reading : Reading l c h d)
    (entry : (c.library k).types[n]? = some t) : (d.library k).types[n]? = some t := by
  induction reading with
  | start => exact entry
  | step reading step ih => exact step.entry_stays (reading.readable readable) ih

/-- No reading registers a library. -/
theorem Reading.registered {h : History} (readable : c.Readable l) (reading : Reading l c h d) :
    d.registered = c.registered := by
  induction reading with
  | start => rfl
  | step reading step ih => exact (step.registered (reading.readable readable)).trans ih

/-- The latest library is the latest after a reading. -/
theorem Reading.isLatest {h : History} (readable : c.Readable l) (latest : c.IsLatest l)
    (reading : Reading l c h d) : d.IsLatest l := by
  rw [IsLatest, reading.registered readable]
  exact latest

/-! ## Owners

Who owns a type changes only where a library introduces it; the rule that owners have entries is
kept along a reading. -/

/-- A step keeps owners and entries in accord. -/
theorem Step.owners (readable : c.Readable l) (owners : Owners c) (step : Step l c es d) :
    Owners d := by
  have registry := readable.registry
  cases step with
  | edit edit => exact owners.quiet registry edit.quiet
  | reference plain reference =>
    cases reference with
    | own | tier => exact owners
    | placeholder _ unknown =>
      have free := registry.hidden_free unknown
      exact owners.introduced registry (introduced_addPlaceholder registry.hidden_lt free)
        (.inl free) (.inr ⟨rfl, primitives_free unknown⟩)
  | declaration plain declared declaration =>
    rcases declaration.naming registry readable.inside plain declared with
      ⟨-, -, rfl, -⟩ | ⟨_, _, -, introduces⟩ | ⟨-, -, -, quiet, -⟩
    · exact owners
    · exact owners.introduced registry introduces.introduced introduces.free (.inl readable.two_le)
    · exact owners.quiet registry quiet

/-- A reading keeps owners and entries in accord. -/
theorem Reading.owners (readable : c.Readable l) (owners : Owners c) {h : History}
    (reading : Reading l c h d) : Owners d := by
  induction reading with
  | start => exact owners
  | step reading step ih => exact step.owners (reading.readable readable) ih

end IdlCatalog
