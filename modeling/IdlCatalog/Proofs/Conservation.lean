/-
# IdlCatalog.Proofs.Conservation — one more description takes no name away

A description is read for a library that was just added. Whatever the reading does, and wherever it
stops, names go on to stand for the types that they stood for: the new library is asked last, and
the types it takes over keep answering for their names. A name that stood for nothing may have got a
placeholder, which stays when the library is removed again.

`Conserves` says this of two catalogs along a reading. It rests on a fact about the types with which
a library reopens others: no other library has an entry for them, so that they may become types in
their own right without changing what the other libraries answer.

## Asked last

A name is looked up among the primitive types, among the placeholders, and then in one library after
the other, in the order in which they were added. The library of the reading comes last, so what it
registers answers for a name only where the name stood for nothing. This is why the meaning of names
without the library, `resolve?` in `c.unregister l`, is what has to be followed along the reading:
what the library itself adds to it comes last.

Types may be taken over all the same. A declaration may be about a type of another library, which
gets a new kind, a new owner, and an entry in the library of the reading. It goes on to stand for
its name where it did, as long as it goes on to stand on its own.
-/
import IdlCatalog.Proofs.Grammar.Meaning
import IdlCatalog.Proofs.Session

namespace IdlCatalog

open Catalog

variable {b c d : Catalog} {t u : TypeId} {l k : LibraryId} {n name : String} {kind : Kind}
  {es : List Event} {h : History}

/-! ## Types that only reopen others

Such a type may be turned into one that stands on its own, by a later declaration in the same
library. If another library had an entry for it, the name would begin to stand for something there.
-/

/-- No other library has an entry for a type with which the library reopens another one. -/
def Catalog.ReopensPrivately (c : Catalog) (l : LibraryId) : Prop :=
  ∀ {n : String} {t}, (c.library l).types[n]? = some t → c.isReopening t = true → c.Private l t

namespace Catalog.ReopensPrivately

theorem quiet (h : c.ReopensPrivately l) (readable : c.Readable l) (quiet : Quiet c d) :
    d.ReopensPrivately l := by
  intro n t entry reopens k m elsewhere
  rw [quiet.library] at entry elsewhere
  rw [(quiet.old t (readable.registry.entry entry).bound).isReopening] at reopens
  exact h entry reopens k m elsewhere

/-- A type that is introduced to reopen another one is new, so that no library knows it yet. -/
theorem introduces (h : c.ReopensPrivately l) (readable : c.Readable l)
    (introduces : Introduces l k name t kind c d) : d.ReopensPrivately l := by
  have introduced := introduces.introduced
  have new (reopens : d.isReopening t = true) : k = l ∧ c.types.size ≤ t.index := by
    refine introduces.reopens (introduced.kind.reopening_iff.1 ?_)
    simpa [Catalog.isReopening] using reopens
  intro n u entry reopens
  by_cases here : u = t
  · subst here
    obtain ⟨rfl, created⟩ := new reopens
    intro k' m elsewhere
    rcases introduced.lookup_cases elsewhere with ⟨here, -, -⟩ | before
    · exact here
    · exact absurd (readable.registry.entry before).bound (Nat.not_lt.2 created)
  · have before := introduced.lookup_old here entry
    have bound := (readable.registry.entry before).bound
    rw [(introduced.others u bound here).isReopening] at reopens
    exact introduces.private bound (h before reopens)

theorem step (h : c.ReopensPrivately l) (readable : c.Readable l) (step : Step l c es d) :
    d.ReopensPrivately l := by
  rcases step.naming readable.registry readable.inside with quiet | ⟨_, _, _, _, introduces⟩
  · exact h.quiet readable quiet
  · exact h.introduces readable introduces

end Catalog.ReopensPrivately

/-! ## What is conserved

Of the entries of other libraries nothing changes but that the hidden one may gain placeholders, and
it does so for names that stand for nothing. -/

/-- What a reading for the library leaves of the entries of the other libraries, and of what names
stand for without it. -/
structure Conserves (l : LibraryId) (c d : Catalog) : Prop where
  maps : ∀ k (n : String), k ≠ l → k ≠ Catalog.hidden →
    (d.library k).types[n]? = (c.library k).types[n]?
  placeholders : ∀ (n : String) t, (c.library Catalog.hidden).types[n]? = some t →
    (d.library Catalog.hidden).types[n]? = some t
  gained : ∀ (n : String) t, (d.library Catalog.hidden).types[n]? = some t →
    (c.library Catalog.hidden).types[n]? = some t ∨ (c.unregister l).resolve? n = none
  known : ∀ n t, (c.unregister l).resolve? n = some t → (d.unregister l).resolve? n = some t
  unknown : ∀ n, (c.unregister l).resolve? n = none →
    (d.unregister l).resolve? n = (d.library Catalog.hidden).types[n]?

namespace Conserves

/-- Nothing is lost where the other libraries keep their entries and all names their meaning. -/
theorem of_same (registry : Registry c) (other : l ≠ Catalog.hidden)
    (maps : ∀ k (n : String), k ≠ l → (d.library k).types[n]? = (c.library k).types[n]?)
    (outside : ∀ n, (d.unregister l).resolve? n = (c.unregister l).resolve? n) :
    Conserves l c d where
  maps k n elsewhere _ := maps k n elsewhere
  placeholders n t entry := by rwa [maps Catalog.hidden n other.symm]
  gained n t entry := by
    rw [maps Catalog.hidden n other.symm] at entry
    exact .inl entry
  known n t found := by rwa [outside]
  unknown n nothing := by
    rw [outside, nothing, maps Catalog.hidden n other.symm]
    exact ((registry.unregister l).hidden_free nothing).symm

theorem refl (registry : Registry c) (other : l ≠ Catalog.hidden) : Conserves l c c :=
  of_same registry other (fun _ _ _ => rfl) fun _ => rfl

theorem trans (h : Conserves l b c) (h' : Conserves l c d) : Conserves l b d where
  maps k n elsewhere other := (h'.maps k n elsewhere other).trans (h.maps k n elsewhere other)
  placeholders n t entry := h'.placeholders n t (h.placeholders n t entry)
  gained n t entry := by
    rcases h'.gained n t entry with before | nothing
    · exact h.gained n t before
    -- what stands for nothing later did so before
    · refine .inr (Option.eq_none_iff_forall_ne_some.2 fun u found => ?_)
      rw [h.known n u found] at nothing
      cases nothing
  known n t found := h'.known n t (h.known n t found)
  unknown n nothing := by
    cases between : (c.unregister l).resolve? n with
    | none => exact h'.unknown n between
    | some t =>
      -- the placeholder that came in between stays
      rw [h'.known n t between]
      exact (h'.placeholders n t ((h.unknown n nothing).symm.trans between)).symm

end Conserves

theorem Catalog.Quiet.conserves (readable : c.Readable l) (quiet : Quiet c d) : Conserves l c d :=
  .of_same readable.registry readable.ne_hidden (fun k n _ => by rw [quiet.library])
    fun _ => (quiet.sameMeaning readable).outside

/-- The library introduces a type that reopens as much as before, as far as other libraries have an
entry for it. -/
theorem Catalog.Introduces.conserves (readable : c.Readable l)
    (introduces : Introduces l l name t kind c d)
    (alike : ∀ k (n : String), k ≠ l → (c.library k).types[n]? = some t →
      d.isReopening t = c.isReopening t) : Conserves l c d := by
  refine .of_same readable.registry readable.ne_hidden (fun k n elsewhere => ?_) fun n => ?_
  · rw [introduces.introduced.lookup, if_neg fun both => elsewhere both.1]
  · exact introduces.outside readable fun k elsewhere => alike k n elsewhere

/-- A placeholder is created for a name that stands for nothing. -/
theorem conserves_addPlaceholder (readable : c.Readable l)
    (unknown : (c.unregister l).resolve? name = none) :
    Conserves l c (c.addPlaceholder name).2 := by
  have free := (readable.registry.unregister l).hidden_free unknown
  have introduced := introduced_addPlaceholder readable.registry.hidden_lt free
  have other {n : String} (ne : n ≠ name) : Untouched n c (c.addPlaceholder name).2 :=
    introduced.untouched readable.registry ne.symm
  have here : ((c.addPlaceholder name).2.library Catalog.hidden).types[name]? =
      some (c.addPlaceholder name).1 := by
    exact introduced.lookup_self
  have found := resolve?_unregister_addPlaceholder readable.registry unknown
  refine ⟨fun k n _ elsewhere => ?_, fun n t entry => ?_, fun n t entry => ?_, fun n t known => ?_,
    fun n nothing => ?_⟩
  · rw [introduced.lookup, if_neg fun both => elsewhere both.1]
  · rw [(other ?_).lookup]
    · exact entry
    · rintro rfl
      rw [library_unregister, entry] at free
      cases free
  · -- the placeholder is gained for its own name
    by_cases same : n = name
    · exact .inr (same ▸ unknown)
    · exact .inl ((other same).lookup _ ▸ entry)
  · rw [(other ?_).outside readable.two_le]
    · exact known
    · rintro rfl
      rw [known] at unknown
      cases unknown
  · by_cases same : n = name
    · subst same
      rw [found, here]
    · rw [(other same).lookup, (other same).outside readable.two_le, nothing]
      exact ((readable.registry.unregister l).hidden_free nothing).symm

/-! ## Along a reading

What one step conserves, and then the reading. The two invariants are carried along together. -/

/-- So does a declaration: it creates a type, or turns one into what it was for all others
already. -/
theorem Declaration.conserves {reopens : Bool} {answer : Except (Failure Fault) TypeId}
    (readable : c.Readable l) (privately : c.ReopensPrivately l) (plain : name ≠ globalsName)
    (declared : kind.IsDeclared) (declaration : Declaration l kind name c reopens answer es d) :
    Conserves l c d := by
  have registry := readable.registry
  have new {k : LibraryId} {n : String}
      (entry : (c.library k).types[n]? = some (⟨c.types.size⟩ : TypeId)) : False :=
    absurd (registry.entry entry).bound (Nat.lt_irrefl _)
  cases declaration with
  | again => exact .refl registry readable.ne_hidden
  | @reopened u _ _ _ free entered =>
    exact (introduces_reopened (u := u) readable.inside plain free entered).conserves readable
      fun _ _ _ entry => (new entry).elim
  | refused => exact (quiet_pushType c _ (.inl rfl)).conserves readable
  | @upgraded t _ known free entered =>
    have introduces := introduces_upgraded registry readable.inside plain declared known free
      entered
    refine introduces.conserves readable fun k n elsewhere entry => ?_
    rw [introduces.introduced.stands declared.2]
    rw [existing?_eq plain, Option.or_eq_some_iff] at known
    rcases known with own | ⟨-, found⟩
    -- the library's own entry is known to others only if it stands for itself
    · by_contra reopened
      exact elsewhere (privately own (by simpa using Ne.symm reopened) k n entry)
    · exact (resolve?_entry registry found).2.symm
  | created unknown entered =>
    have free := (existing?_eq_none plain unknown).1
    exact (introduces_created readable.inside plain declared free entered).conserves readable
      fun _ _ _ entry => (new entry).elim

/-- A step of the reading conserves what there was. -/
theorem Step.conserves (readable : c.Readable l) (latest : c.IsLatest l)
    (privately : c.ReopensPrivately l) (step : Step l c es d) : Conserves l c d := by
  cases step with
  | edit edit => exact edit.quiet.conserves readable
  | reference plain reference =>
    cases reference with
    | own => exact .refl readable.registry readable.ne_hidden
    | tier => exact .refl readable.registry readable.ne_hidden
    | placeholder passed unknown =>
      rw [resolve?_eq_or latest, Option.or_eq_none_iff] at unknown
      exact conserves_addPlaceholder readable unknown.1
  | declaration plain declared declaration =>
    exact declaration.conserves readable privately plain declared

/-- A reading for the library that was added last conserves what there was. -/
theorem Reading.conserves (readable : c.Readable l) (latest : c.IsLatest l)
    (privately : c.ReopensPrivately l) (reading : Reading l c h d) :
    Conserves l c d ∧ d.ReopensPrivately l := by
  -- on the steps
  induction reading with
  | start => exact ⟨.refl readable.registry readable.ne_hidden, privately⟩
  | step reading step ih =>
    obtain ⟨conserves, privately⟩ := ih
    have now := reading.readable readable
    have latest := reading.isLatest readable latest
    exact ⟨conserves.trans (step.conserves now latest privately), privately.step now step⟩

/-- A library that was just added reopens nothing. -/
theorem reopensPrivately_addLibrary (c : Catalog) (name : String) (readOnly : Bool)
    (docs : DocumentationProvider) :
    (c.addLibrary name readOnly docs).2.ReopensPrivately (c.addLibrary name readOnly docs).1 := by
  intro n t entry
  rw [library_addLibrary, addLibrary_fst, if_pos rfl] at entry
  simp at entry

/-! ## After any session

Adding the library changes nothing without it, and removing it again leaves what it was without it.
-/

/-- What a catalog with one more library, or without it again, has in common with the catalog from
before: names stand for the types that they stood for, the libraries other than the new one have the
entries that they had, and the hidden one has gained entries only for names that stood for
nothing. -/
structure NamesLast (l : LibraryId) (before d : Catalog) : Prop where
  known : ∀ n t, before.resolve? n = some t → d.resolve? n = some t
  maps : ∀ k (n : String), k ≠ l → k ≠ Catalog.hidden →
    (d.library k).types[n]? = (before.library k).types[n]?
  placeholders : ∀ (n : String) t, (before.library Catalog.hidden).types[n]? = some t →
    (d.library Catalog.hidden).types[n]? = some t
  gained : ∀ (n : String) t, (d.library Catalog.hidden).types[n]? = some t →
    (before.library Catalog.hidden).types[n]? = some t ∨ before.resolve? n = none

/-- The library that was just added, and everything else as it was before. -/
theorem conserves_namesLast (outside : ∀ n, (c.unregister l).resolve? n = b.resolve? n)
    (old : ∀ k, k ≠ l → c.library k = b.library k) (other : l ≠ Catalog.hidden)
    (conserves : Conserves l c d) {e : Catalog} (libraries : ∀ k, e.library k = d.library k)
    (known : ∀ n t, (d.unregister l).resolve? n = some t → e.resolve? n = some t) :
    NamesLast l b e where
  known n t found := known n t (conserves.known n t ((outside n).trans found))
  maps k n elsewhere hidden := by
    rw [libraries, ← old k elsewhere]
    exact conserves.maps k n elsewhere hidden
  placeholders n t entry := by
    rw [libraries]
    exact conserves.placeholders n t (by rwa [old _ other.symm])
  gained n t entry := by
    rw [libraries] at entry
    rw [← outside, ← old _ other.symm]
    exact conserves.gained n t entry

/-- After any session let a library be added, a description be read for it, with whatever outcome,
and the library be removed. The names last both times, and what stood for nothing does so after the
removal or stands for a placeholder. -/
theorem names_conserved (commands : List Command) (library : String) (readOnly : Bool)
    (docs : DocumentationProvider) (source : String) :
    let before := after commands
    let added := before.addLibrary library readOnly docs
    let read := (added.2.ingest added.1 source).catalog
    let removed := (read.removeLibrary added.1).2
    NamesLast added.1 before read ∧ NamesLast added.1 before removed ∧
      ∀ n, before.resolve? n = none → removed.resolve? n = none ∨
        ∃ t, removed.resolve? n = some t ∧
          (removed.library Catalog.hidden).types[n]? = some t := by
  intro before added read removed
  have registry := registry_after commands
  have readable := readable_addLibrary registry library readOnly docs
  obtain ⟨h, reading, -⟩ := ingest_reading readable source
  have start := isLatest_addLibrary registry library readOnly docs
  have latest := reading.isLatest readable start
  obtain ⟨conserves, -⟩ := reading.conserves readable start
    (reopensPrivately_addLibrary before library readOnly docs)
  have outside (n) : (added.2.unregister added.1).resolve? n = before.resolve? n :=
    resolve?_unregister_addLibrary registry library readOnly docs n
  have old (k) (other : k ≠ added.1) : added.2.library k = before.library k := by
    rw [library_addLibrary, if_neg]
    exact fun same => other (congrArg LibraryId.mk same)
  have kept (k) : removed.library k = read.library k := library_removeLibrary read added.1 k
  -- passing on types changes owners, and no owner is asked for when a name is resolved
  have removal (n) : removed.resolve? n = (read.unregister added.1).resolve? n :=
    resolve?_removeLibrary read added.1 n
  refine ⟨?_, ?_, fun n unknown => ?_⟩
  · refine conserves_namesLast outside old readable.ne_hidden conserves (fun _ => rfl) ?_
    -- the new library is asked only where no other one answers
    intro n t found
    rw [resolve?_eq_or latest, found, Option.some_or]
  · refine conserves_namesLast outside old readable.ne_hidden conserves kept ?_
    intro n t found
    rw [removal, found]
  · rw [removal, kept, conserves.unknown n ((outside n).trans unknown)]
    cases entry : (read.library Catalog.hidden).types[n]? with
    | none => exact .inl rfl
    | some t => exact .inr ⟨t, rfl, rfl⟩

/-- A description that fails after it declared a name that was referred to before. -/
theorem names_conserved_failing :
    let before := after [.addLibrary "a" false .silent,
      .ingest ⟨2⟩ "interface A { attribute B b; };"]
    let added := before.addLibrary "b" false .silent
    let read := added.2.ingest added.1 "interface B { attribute C c; }; interface"
    read.outcome ≠ .ok () ∧ before.resolve? "B" = some ⟨22⟩ ∧
      (read.catalog.removeLibrary added.1).2.resolve? "B" = some ⟨22⟩ := by
  intro before added read
  have facts : read.outcome ≠ .ok () ∧ before.resolve? "B" = some ⟨22⟩ := by decide +kernel
  have conserved := names_conserved [.addLibrary "a" false .silent,
    .ingest ⟨2⟩ "interface A { attribute B b; };"] "b" false .silent
      "interface B { attribute C c; }; interface"
  exact ⟨facts.1, facts.2, conserved.2.1.known "B" _ facts.2⟩

end IdlCatalog
