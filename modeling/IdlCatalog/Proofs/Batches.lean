/-
# IdlCatalog.Proofs.Batches — what a batch of files declares

Files are ingested one after the other into one catalog, each into a library of its own, and the
library of a file that fails is removed at once. So the libraries that take part in resolution are
those of the accepted files, and what they have entries for belongs to one of them (`Kept`).

A batch declares a name if the name stands for a type that an accepted library has an entry for.
Each file adds the names that it settles: those that it registers, unless it reopens them first. A
file that reopens a placeholder registers the name and leaves the placeholder undeclared.

## Two ways to look at a file

Whether a file registers a name can be found out by reading it alone, since the verdict on a
description and the names it registers do not depend on what was read before. Whether it thereby
declares the name does depend on the batch: a name that stands for a placeholder when the file
reopens it goes on to stand for the placeholder. So what a batch declares is said with the files
before each one, and the names that it lists without them.

A batch is followed file by file. `Sound` is what a batch has between two files, `Continues` what it
has in common with the reading of the next file, before it is known whether the file is accepted.
-/
import IdlCatalog.CommandLine.Batch
import IdlCatalog.Proofs.Conservation
import IdlCatalog.Proofs.Identity
import IdlCatalog.Proofs.Verdict

namespace IdlCatalog

open Catalog

variable {c d : Catalog} {t : TypeId} {l k : LibraryId} {n name : String} {es : List Event}
  {h : History} {b : Batch} {s : Source} {text : String}

/-! ## Owners that take part

The libraries of a batch are registered one after the other, and that of a file that fails is taken
out again at once. The invariant is that what the registered libraries list belongs to one of them.
-/

namespace Catalog

/-- What a registered library has an entry for belongs to a registered library, and what the hidden
one has an entry for belongs to that one or to a registered library. -/
def Kept (c : Catalog) : Prop :=
  ∀ k ∈ hidden :: c.registered, ∀ (n : String) t, (c.library k).types[n]? = some t →
    ∃ o ∈ k :: c.registered, (c.type t).library = some o

/-- The heir of a type that a registered library has an entry for is registered. -/
theorem heir?_of_entry {heir : LibraryId} (place : k ∈ hidden :: c.registered)
    (entry : (c.library k).types[n]? = some t) (found : c.heir? n t = some heir) :
    heir ∈ k :: c.registered := by
  rcases List.mem_cons.1 place with rfl | registered
  · exact heir?_mem found
  · rw [heir?, List.find?_append] at found
    have some : (c.registered.reverse.find? fun l => (c.library l).types[n]? = some t).isSome :=
      List.find?_isSome.2 ⟨k, List.mem_reverse.2 registered, decide_eq_true entry⟩
    obtain ⟨o, first⟩ := Option.isSome_iff_exists.1 some
    rw [first, Option.some_or] at found
    obtain rfl := Option.some.inj found
    exact List.mem_cons_of_mem _ (List.mem_reverse.1 (List.mem_of_find?_eq_some first))

namespace Kept

theorem initial : Catalog.initial.Kept := by
  intro k inside n t entry
  have place : k = primitives := (entry_initial entry).1
  rw [place] at inside
  exact absurd inside (by decide)

theorem addLibrary (h : c.Kept) (registry : Registry c) (name : String) (readOnly : Bool)
    (docs : DocumentationProvider) : (c.addLibrary name readOnly docs).2.Kept := by
  intro k inside n t entry
  rw [library_addLibrary] at entry
  split at entry
  · simp at entry
  · next other =>
    have inside : k ∈ hidden :: c.registered := by
      rw [registered_addLibrary, ← List.cons_append, List.mem_append, List.mem_singleton] at inside
      refine inside.resolve_right ?_
      rintro rfl
      exact other rfl
    obtain ⟨o, place, owned⟩ := h k inside n t entry
    refine ⟨o, ?_, ?_⟩
    · rw [registered_addLibrary, ← List.cons_append]
      exact List.mem_append_left _ place
    · rwa [type_addLibrary, if_neg (Nat.ne_of_lt (registry.entry entry).bound)]

/-- A reading for a registered library passes types on to that library alone. -/
theorem step (h : c.Kept) (readable : c.Readable l) (registered : l ∈ c.registered)
    (step : Step l c es d) : d.Kept := by
  have registry := readable.registry
  rw [Kept, step.registered readable]
  intro k inside n t entry
  rcases step.naming registry readable.inside with quiet | ⟨k', name, u, kind, introduces⟩
  · rw [quiet.library] at entry
    obtain ⟨o, place, owned⟩ := h k inside n t entry
    exact ⟨o, place, (quiet.old t (registry.entry entry).bound).library.trans owned⟩
  · have introduced := introduces.introduced
    -- before | the entry is the one that was just introduced, or it was there before
    rcases introduced.lookup_cases entry with ⟨rfl, -, rfl⟩ | before
    · exact ⟨k, List.mem_cons_self, introduced.library⟩
    · have bound := (registry.entry before).bound
      by_cases same : t = u
      · subst same
        -- an old type is introduced by the library that is read for
        rcases introduces.place with rfl | ⟨rfl, new⟩
        · exact ⟨k', List.mem_cons_of_mem _ registered, introduced.library⟩
        · exact absurd bound (Nat.not_lt.2 new)
      · obtain ⟨o, place, owned⟩ := h k inside n t before
        exact ⟨o, place, (introduced.others t bound same).library.trans owned⟩

theorem reading (h : c.Kept) (readable : c.Readable l) (registered : l ∈ c.registered)
    {hs : History} (reading : Reading l c hs d) : d.Kept := by
  induction reading with
  | start => exact h
  | step reading step ih =>
    refine ih.step (reading.readable readable) ?_ step
    rwa [reading.registered readable]

/-- A library that is removed passes its types on to registered libraries. -/
theorem removeLibrary (h : c.Kept) (registry : Registry c) (owners : Owners c)
    (registered : l ∈ c.registered) : (c.removeLibrary l).2.Kept := by
  have rest : (c.removeLibrary l).2.registered = (c.unregister l).registered :=
    (moved_removeLibrary c l).registered
  rw [Kept, rest]
  intro k inside n t entry
  rw [library_removeLibrary] at entry
  have still : k ∈ hidden :: c.registered := by
    refine (List.mem_cons.1 inside).elim (fun first => first ▸ List.mem_cons_self) fun other => ?_
    exact List.mem_cons_of_mem _ (List.mem_of_mem_filter other)
  obtain ⟨o, place, owned⟩ := h k still n t entry
  rw [owner_removeLibrary registry (registry.entry entry), owned]
  split
  · -- a library that is left has the entry, so that there is an heir
    obtain ⟨heir, found⟩ : ∃ heir, (c.unregister l).heir? n t = some heir :=
      heir?_ne_none (List.mem_cons.1 inside) entry
    rw [found]
    exact ⟨heir, heir?_of_entry inside entry found, rfl⟩
  · next kept =>
    refine ⟨o, ?_, rfl⟩
    rcases List.mem_cons.1 place with rfl | place
    · exact List.mem_cons_self
    · refine List.mem_cons_of_mem _ (List.mem_filter.2 ⟨place, decide_eq_true ?_⟩)
      rintro rfl
      -- an owner has an entry, so it would have passed the type on
      obtain ⟨o', owned', registers⟩ := owners.entry entry
      obtain rfl := Option.some.inj (owned.symm.trans owned')
      exact kept ⟨registered, registers, rfl⟩

end Kept

/-! ## Declared names

A name stands for the type that the first tier has which lists it. It is declared if that type is
not a placeholder, which the owner tells. -/

/-- The name stands for a type that does not belong to the hidden library. -/
def Declares (c : Catalog) (n : String) : Prop :=
  ∃ t, c.resolve? n = some t ∧ (c.type t).library ≠ some hidden

/-- Primitive types are declared, whoever owns them. -/
theorem declares_primitive (owners : Owners c)
    (primitive : (c.library primitives).types[n]? = some t) : c.Declares n := by
  refine ⟨t, by rw [resolve?, primitive], fun owned => ?_⟩
  obtain ⟨o, owned', registers⟩ := owners.entry primitive
  obtain rfl := Option.some.inj (owned.symm.trans owned')
  rw [owners.apart primitive] at registers
  cases registers

/-- A name of no primitive type is declared if it stands for the entry of a registered library. -/
theorem Kept.declares_iff (kept : c.Kept) (registry : Registry c) (owners : Owners c)
    (other : (c.library primitives).types[n]? = none) :
    c.Declares n ↔ ∃ t, c.resolve? n = some t ∧
      ∃ k ∈ c.registered, (c.library k).types[n]? = some t := by
  refine exists_congr fun t => and_congr_right fun found => ?_
  obtain ⟨⟨k, place, entry⟩, -⟩ := resolve?_entry registry found
  constructor
  · intro foreign
    have inside : k ∈ hidden :: c.registered := by
      refine List.mem_cons.2 (place.resolve_left ?_)
      rintro rfl
      rw [other] at entry
      cases entry
    obtain ⟨o, place, owned⟩ := kept k inside n t entry
    obtain ⟨o', owned', registers⟩ := owners.entry entry
    obtain rfl := Option.some.inj (owned.symm.trans owned')
    -- the owner has an entry, and it is not the hidden library
    rcases List.mem_cons.1 place with rfl | registered
    · rcases List.mem_cons.1 inside with rfl | registered
      · exact absurd owned foreign
      · exact ⟨_, registered, registers⟩
    · exact ⟨o, registered, registers⟩
  · rintro ⟨k, registered, entry⟩ owned
    obtain ⟨o, place, owned'⟩ := kept k (List.mem_cons_of_mem _ registered) n t entry
    obtain rfl := Option.some.inj (owned.symm.trans owned')
    have inside : hidden ∈ c.registered := by
      rcases List.mem_cons.1 place with rfl | inside
      · exact registered
      · exact inside
    exact absurd (registry.registered _ inside).1 (by decide)

end Catalog

/-- Of the first catalog only the meaning of the name counts. -/
theorem Standing.congr {c₀ c₁ : Catalog} (h : Standing l n c₁ d es)
    (same : c₁.resolve? n = c₀.resolve? n) : Standing l n c₀ d es := by
  have first : ReopensFirst c₁ n es ↔ ReopensFirst c₀ n es := by
    rw [ReopensFirst, ReopensFirst, same]
  cases h with
  | undeclared entry references none known =>
    exact .undeclared entry references none (same ▸ known)
  | agreed entry stands outside references some other =>
    exact .agreed entry stands outside references some (mt first.2 other)
  | split entry only outside reopened => exact .split entry only outside (first.1 reopened)

/-! ## Batches

What a batch is between two files, and what it shares with the reading of a further file. -/

namespace Batch

/-- The files were ingested one after the other. -/
structure Sound (b : Batch) : Prop where
  reached : ∃ commands, b.catalog = after commands
  registered : b.catalog.registered = b.libraries
  kept : b.catalog.Kept
  /-- Names that registered libraries have entries for are known. -/
  known : ∀ k ∈ b.libraries, ∀ (n : String) t, (b.catalog.library k).types[n]? = some t →
    b.catalog.resolve? n ≠ none
  primitive : ∀ n : String, (b.catalog.library primitives).types[n]? =
    (initial.library primitives).types[n]?

theorem Sound.registry (h : b.Sound) : Registry b.catalog := by
  obtain ⟨commands, reached⟩ := h.reached
  rw [reached]
  exact registry_after commands

theorem Sound.owners (h : b.Sound) : Owners b.catalog := by
  obtain ⟨commands, reached⟩ := h.reached
  rw [reached]
  exact owners_after commands

/-- The library for a further file, and the catalog with it. -/
def opened (b : Batch) (s : Source) : LibraryId × Catalog :=
  b.catalog.addLibrary (libraryNameFor s.path) true .silent

/-- The reading of a further file with this text. -/
def reading (b : Batch) (s : Source) (text : String) : Report Unit :=
  (b.opened s).2.ingest (b.opened s).1 text

/-- What a batch and the reading of one more file for the library `l` have in common. -/
structure Continues (b : Batch) (l : LibraryId) (d : Catalog) (es : List Event) : Prop where
  readable : d.Readable l
  latest : d.IsLatest l
  registered : d.registered = b.libraries ++ [l]
  owners : Owners d
  kept : d.Kept
  standing : ∀ n, Standing l n b.catalog d es
  /-- Other libraries keep their entries. -/
  entries : ∀ k (n : String), k ≠ l → k ≠ Catalog.hidden →
    (d.library k).types[n]? = (b.catalog.library k).types[n]?
  /-- Names go on to stand for what they stood for. -/
  known : ∀ n t, b.catalog.resolve? n = some t → (d.unregister l).resolve? n = some t

theorem Sound.continues (h : b.Sound) (s : Source) (text : String) :
    b.Continues (b.opened s).1 (b.reading s text).catalog (b.reading s text).events := by
  have registry := h.registry
  have readable : (b.opened s).2.Readable (b.opened s).1 := readable_addLibrary registry _ _ _
  have owns : OwnsEntries (b.opened s).2 (b.opened s).1 := ownsEntries_addLibrary registry _ _ _
  have latest : (b.opened s).2.IsLatest (b.opened s).1 := isLatest_addLibrary registry _ _ _
  have old (k) (other : k ≠ (b.opened s).1) : (b.opened s).2.library k = b.catalog.library k := by
    rw [opened, library_addLibrary, if_neg]
    exact fun same => other (congrArg LibraryId.mk same)
  have fresh (n : String) : ((b.opened s).2.library (b.opened s).1).types[n]? = none := by
    rw [opened, library_addLibrary, addLibrary_fst, if_pos rfl]
    exact Std.TreeMap.getElem?_emptyc
  have outside (n) : ((b.opened s).2.unregister (b.opened s).1).resolve? n =
      b.catalog.resolve? n :=
    resolve?_unregister_addLibrary registry _ _ _ n
  have registered : (b.opened s).2.registered = b.libraries ++ [(b.opened s).1] := by
    rw [← h.registered]
    rfl
  obtain ⟨hs, reading, events⟩ := ingest_reading readable text
  have conserves := (reading.conserves readable latest
    (reopensPrivately_addLibrary b.catalog _ _ _)).1
  change Reading _ _ hs (b.reading s text).catalog at reading
  change hs.events = (b.reading s text).events at events
  have kept : (b.opened s).2.Kept := h.kept.addLibrary registry _ _ _
  have member : (b.opened s).1 ∈ (b.opened s).2.registered := by
    rw [registered]
    exact List.mem_append_right _ List.mem_cons_self
  refine ⟨reading.readable readable, reading.isLatest readable latest, ?_,
    reading.owners readable (h.owners.addLibrary registry _ _ _),
    kept.reading readable member reading, fun n => ?_, fun k n other visible => ?_,
    fun n t found => ?_⟩
  · rw [reading.registered readable, registered]
  · have standing := (reading.standing readable owns latest (fresh n)).1
    rw [events] at standing
    refine standing.congr ?_
    rw [resolve?_of_entry_none latest (fresh n), outside]
  · rw [← old k other]
    exact conserves.maps k n other visible
  · exact conserves.known n t ((outside n).trans found)

namespace Continues

theorem ne (h : b.Continues l d es) (inside : k ∈ b.libraries) : k ≠ l := by
  rintro rfl
  obtain ⟨before, registered, other⟩ := h.latest
  rw [h.registered] at registered
  exact other ((List.append_inj' registered rfl).1 ▸ inside)

theorem entry (h : b.Continues l d es) (sound : b.Sound) (inside : k ∈ b.libraries) (n : String) :
    (d.library k).types[n]? = (b.catalog.library k).types[n]? := by
  refine h.entries k n (h.ne inside) ?_
  rintro rfl
  rw [← sound.registered] at inside
  exact absurd (sound.registry.registered _ inside).1 (by decide)

theorem primitive (h : b.Continues l d es) (n : String) :
    (d.library primitives).types[n]? = (b.catalog.library primitives).types[n]? := by
  refine h.entries primitives n ?_ (by decide)
  rintro rfl
  exact absurd h.readable.two_le (by decide)

/-- Without the library the accepted ones are left. -/
theorem removed (h : b.Continues l d es) : (d.removeLibrary l).2.registered = b.libraries :=
  (moved_removeLibrary d l).registered.trans
    (IsLatest.unregister h.registered fun inside => h.ne inside rfl)

theorem mem_registered (h : b.Continues l d es) : l ∈ d.registered := by
  rw [h.registered]
  exact List.mem_append_right _ List.mem_cons_self

/-- What stood for something without the library does so with it. -/
theorem resolve? (h : b.Continues l d es) (found : (d.unregister l).resolve? n = some t) :
    d.resolve? n = some t := by
  rw [resolve?_eq_or h.latest, found, Option.some_or]

/-- An earlier library has an entry for what the name stands for without the new one just if the
batch declared the name before. -/
theorem declares_before (h : b.Continues l d es) (sound : b.Sound)
    (other : (b.catalog.library primitives).types[n]? = none) :
    (∃ t, (d.unregister l).resolve? n = some t ∧
      ∃ k ∈ b.libraries, (d.library k).types[n]? = some t) ↔ b.catalog.Declares n := by
  rw [sound.kept.declares_iff sound.registry sound.owners other, sound.registered]
  constructor
  · rintro ⟨t, found, k, inside, entry⟩
    rw [h.entry sound inside] at entry
    -- a name that an accepted library has an entry for was known before
    obtain ⟨u, before⟩ := Option.ne_none_iff_exists'.1 (sound.known k inside n t entry)
    obtain rfl := Option.some.inj ((h.known n u before).symm.trans found)
    exact ⟨u, before, k, inside, entry⟩
  · rintro ⟨t, found, k, inside, entry⟩
    exact ⟨t, h.known n t found, k, inside, (h.entry sound inside n).trans entry⟩

/-- A file that is accepted settles a name if it registers the name and does not reopen it first. -/
theorem declares_accepted (h : b.Continues l d es) (sound : b.Sound)
    (other : (b.catalog.library primitives).types[n]? = none) :
    d.Declares n ↔ b.catalog.Declares n ∨
      (∃ t, (d.library l).types[n]? = some t) ∧ ¬ReopensFirst b.catalog n es := by
  have registry := h.readable.registry
  rw [h.kept.declares_iff registry h.owners ((h.primitive n).trans other),
    ← h.declares_before sound other, h.registered]
  have earlier (found : ∃ t, (d.unregister l).resolve? n = some t ∧
      ∃ k ∈ b.libraries, (d.library k).types[n]? = some t) :
      ∃ t, d.resolve? n = some t ∧ ∃ k ∈ b.libraries ++ [l], (d.library k).types[n]? = some t := by
    obtain ⟨t, found, k, inside, entry⟩ := found
    exact ⟨t, h.resolve? found, k, List.mem_append_left _ inside, entry⟩
  cases h.standing n with
  | undeclared entry =>
    refine ⟨?_, ?_⟩
    · rintro ⟨t, found, k, inside, entry'⟩
      rw [resolve?_of_entry_none h.latest entry] at found
      rcases List.mem_append.1 inside with inside | last
      · exact .inl ⟨t, found, k, inside, entry'⟩
      · rw [List.mem_singleton.1 last, entry] at entry'
        cases entry'
    · rintro (before | ⟨⟨t, entry'⟩, -⟩)
      · exact earlier before
      · rw [entry] at entry'
        cases entry'
  | @agreed t entry stands outside _ _ first =>
    refine iff_of_true ⟨t, ?_, l, List.mem_append_right _ List.mem_cons_self, entry⟩
      (.inr ⟨⟨t, entry⟩, first⟩)
    have declared : d.declaredIn? l n = some t := by
      rw [declaredIn?, entry, Option.filter_some, stands]
      rfl
    rcases outside with outside | outside <;>
      simp [resolve?_eq_or h.latest, outside, declared]
  | @split s t entry only outside first =>
    refine ⟨?_, ?_⟩
    · rintro ⟨u, found, k, inside, entry'⟩
      obtain rfl := Option.some.inj ((h.resolve? outside).symm.trans found)
      rcases List.mem_append.1 inside with inside | last
      · exact .inl ⟨t, outside, k, inside, entry'⟩
      -- the entry of the library is its own, and the name stands for one of another library
      · rw [List.mem_singleton.1 last, entry] at entry'
        obtain rfl := Option.some.inj entry'
        obtain ⟨⟨o, foreign, elsewhere⟩, -⟩ :=
          resolve?_unregister_entry registry h.readable.two_le outside
        exact absurd (only o n elsewhere) foreign
    · rintro (before | ⟨-, other⟩)
      · exact earlier before
      · exact absurd first other

/-- A file that fails settles nothing. -/
theorem declares_failed (h : b.Continues l d es) (sound : b.Sound)
    (other : (b.catalog.library primitives).types[n]? = none) :
    (d.removeLibrary l).2.Declares n ↔ b.catalog.Declares n := by
  have registry := h.readable.registry
  have free : ((d.removeLibrary l).2.library primitives).types[n]? = none := by
    rw [library_removeLibrary, h.primitive, other]
  rw [(h.kept.removeLibrary registry h.owners h.mem_registered).declares_iff
    (registry.removeLibrary l) (h.owners.removeLibrary registry l) free,
    ← h.declares_before sound other, h.removed]
  simp only [resolve?_removeLibrary, library_removeLibrary]

/-! ### Soundness -/

/-- Names that libraries have entries for are known. -/
theorem known_entry (h : b.Continues l d es) (entry : (d.library l).types[n]? = some t) :
    d.resolve? n ≠ none := by
  cases h.standing n with
  | undeclared free =>
    rw [free] at entry
    cases entry
  | @agreed u entry' stands =>
    rw [resolve?_eq_or h.latest, declaredIn?, entry', Option.filter_some, stands]
    simp
  | split _ _ outside =>
    rw [h.resolve? outside]
    exact Option.some_ne_none _

theorem sound_accepted (h : b.Continues l d es) (sound : b.Sound)
    (reached : ∃ commands, d = after commands) (failures : List FileFailure) :
    Sound ⟨d, b.libraries ++ [l], failures⟩ := by
  refine ⟨reached, h.registered, h.kept, fun k inside n t entry => ?_,
    fun n => (h.primitive n).trans (sound.primitive n)⟩
  rcases List.mem_append.1 inside with inside | last
  · rw [h.entry sound inside] at entry
    obtain ⟨u, before⟩ := Option.ne_none_iff_exists'.1 (sound.known k inside n t entry)
    rw [h.resolve? (h.known n u before)]
    exact Option.some_ne_none u
  · rw [List.mem_singleton.1 last] at entry
    exact h.known_entry entry

theorem sound_failed (h : b.Continues l d es) (sound : b.Sound)
    (reached : ∃ commands, d = after commands) (failures : List FileFailure) :
    Sound ⟨(d.removeLibrary l).2, b.libraries, failures⟩ := by
  have registry := h.readable.registry
  refine ⟨?_, h.removed, h.kept.removeLibrary registry h.owners h.mem_registered,
    fun k inside n t entry => ?_, fun n => ?_⟩
  · obtain ⟨commands, rfl⟩ := reached
    refine ⟨commands ++ [.removeLibrary l], ?_⟩
    rw [after_concat]
    rfl
  · rw [library_removeLibrary, h.entry sound inside] at entry
    obtain ⟨u, before⟩ := Option.ne_none_iff_exists'.1 (sound.known k inside n t entry)
    rw [resolve?_removeLibrary, h.known n u before]
    exact Option.some_ne_none u
  · rw [library_removeLibrary, h.primitive, sound.primitive]

end Continues

/-! ## One more file

A file has no text that can be read, or it is accepted, or it fails and its library goes again. -/

theorem Sound.reached_reading (h : b.Sound) (s : Source) (text : String) :
    ∃ commands, (b.reading s text).catalog = after commands := by
  obtain ⟨commands, reached⟩ := h.reached
  have added : (b.opened s).2.WasAdded (b.opened s).1 :=
    ⟨(h.continues s text).readable.two_le, by
      rw [opened, libraries_size_addLibrary]
      exact Nat.lt_succ_self _⟩
  refine ⟨commands ++ [.addLibrary (libraryNameFor s.path) true .silent] ++
    [.ingest (b.opened s).1 text], ?_⟩
  rw [after_concat, after_concat, ← reached]
  exact (if_pos added).symm

/-- The catalog after the library of a file that failed is removed. -/
def withdrawn (b : Batch) (s : Source) (text : String) : Catalog :=
  ((b.reading s text).catalog.removeLibrary (b.opened s).1).2

/-- What a batch comes to with one more file. -/
inductive Adds (b : Batch) (s : Source) : Batch → Prop
  | unread {fault : ReadFault} (text : s.text = .error fault) :
      Adds b s (b.fail s.path fault.message)
  | accepted {text : String} (read : s.text = .ok text)
      (accepted : (b.reading s text).outcome = .ok ()) :
      Adds b s ⟨(b.reading s text).catalog, b.libraries ++ [(b.opened s).1], b.failures⟩
  | failed {text : String} {failure : Failure SyntaxError} (read : s.text = .ok text)
      (failed : (b.reading s text).outcome = .error failure) :
      Adds b s ⟨b.withdrawn s text, b.libraries, b.failures ++ [⟨s.path, failure.message⟩]⟩

theorem addOwn_adds (b : Batch) (s : Source) : b.Adds s (b.addOwn s) := by
  cases read : s.text with
  | error fault =>
    rw [addOwn, read]
    exact .unread read
  | ok text =>
    cases outcome : (b.reading s text).outcome with
    | ok answer =>
      have added : b.addOwn s =
          ⟨(b.reading s text).catalog, b.libraries ++ [(b.opened s).1], b.failures⟩ := by
        rw [reading, opened] at outcome
        simp only [addOwn, read, outcome, reading, opened]
      rw [added]
      exact .accepted read outcome
    | error failure =>
      have added : b.addOwn s =
          ⟨b.withdrawn s text, b.libraries, b.failures ++ [⟨s.path, failure.message⟩]⟩ := by
        rw [reading, opened] at outcome
        simp only [addOwn, read, outcome, fail, withdrawn, reading, opened]
      rw [added]
      exact .failed read outcome

theorem Adds.sound {b' : Batch} (adds : b.Adds s b') (h : b.Sound) : b'.Sound := by
  cases adds with
  | unread => exact ⟨h.reached, h.registered, h.kept, h.known, h.primitive⟩
  | @accepted text =>
    exact (h.continues s text).sound_accepted h (h.reached_reading s text) b.failures
  | @failed text => exact (h.continues s text).sound_failed h (h.reached_reading s text) _

theorem mem_names : n ∈ b.names ↔
    ∃ k ∈ b.libraries, ∃ t, (b.catalog.library k).types[n]? = some t := by
  rw [names, List.mem_flatMap]
  refine exists_congr fun k => and_congr_right fun _ => ?_
  rw [Std.TreeMap.mem_keys, Std.TreeMap.mem_iff_isSome_getElem?, Option.isSome_iff_exists]

end Batch

/-! ## What a file does by itself

Two batches read a file alike, so one may as well ask what the empty batch makes of it. -/

/-- The file is accepted and gives its library an entry for the name. It does so whatever was read
before it. -/
def Source.Registers (s : Source) (n : String) : Prop :=
  ∃ text, s.text = .ok text ∧ ((Batch.ofSources []).reading s text).outcome = .ok () ∧
    ∃ t, (((Batch.ofSources []).reading s text).catalog.library
      ((Batch.ofSources []).opened s).1).types[n]? = some t

namespace Batch

theorem sound_ofSources_nil : (ofSources []).Sound where
  reached := ⟨[], rfl⟩
  registered := rfl
  kept := .initial
  known _ inside := by cases inside
  primitive _ := rfl

/-- What the reading of a file comes to does not depend on the batch. -/
theorem Sound.alike {b' : Batch} (h : b.Sound) (h' : b'.Sound) (s : Source) (text : String) :
    (b'.reading s text).outcome = (b.reading s text).outcome ∧ ∀ n : String,
      (∃ t, ((b'.reading s text).catalog.library (b'.opened s).1).types[n]? = some t) ↔
        ∃ t, ((b.reading s text).catalog.library (b.opened s).1).types[n]? = some t := by
  -- both libraries were just added under the same name
  obtain ⟨outcomes, -, same⟩ := ingest_parallel
    (fresh_addLibrary h'.registry (libraryNameFor s.path) true .silent)
    (fresh_addLibrary h.registry (libraryNameFor s.path) true .silent)
    (sameRegistry_addLibrary _ _ _ true true .silent .silent) text
  refine ⟨outcomes, fun n => ?_⟩
  rw [← Option.isSome_iff_exists, ← Option.isSome_iff_exists, ← Bool.eq_iff_iff]
  exact same.entries n

theorem Sound.registers_iff (h : b.Sound) : s.Registers n ↔ ∃ text, s.text = .ok text ∧
    (b.reading s text).outcome = .ok () ∧
      ∃ t, ((b.reading s text).catalog.library (b.opened s).1).types[n]? = some t := by
  rw [Source.Registers]
  refine exists_congr fun text => and_congr_right fun _ => ?_
  obtain ⟨outcomes, entries⟩ := h.alike sound_ofSources_nil s text
  rw [outcomes, entries n]

theorem Sound.registers_accepted (h : b.Sound) (read : s.text = .ok text)
    (accepted : (b.reading s text).outcome = .ok ()) :
    s.Registers n ↔
      ∃ t, ((b.reading s text).catalog.library (b.opened s).1).types[n]? = some t := by
  rw [h.registers_iff]
  refine ⟨?_, fun entry => ⟨text, read, accepted, entry⟩⟩
  rintro ⟨_, read', -, entry⟩
  cases read.symm.trans read'
  exact entry

theorem Sound.not_registers_failed {failure : Failure SyntaxError} (h : b.Sound)
    (read : s.text = .ok text) (failed : (b.reading s text).outcome = .error failure) :
    ¬s.Registers n := by
  rw [h.registers_iff]
  rintro ⟨_, read', accepted, -⟩
  cases read.symm.trans read'
  rw [failed] at accepted
  cases accepted

theorem not_registers_unread {fault : ReadFault} (unread : s.text = .error fault) :
    ¬s.Registers n := by
  rintro ⟨_, read, -⟩
  rw [unread] at read
  cases read

/-- After the batch the file reopens the name before it declares it as a whole, if it ever does. -/
def Reopens (b : Batch) (s : Source) (n : String) : Prop :=
  ∃ text, s.text = .ok text ∧ ReopensFirst b.catalog n (b.reading s text).events

theorem reopens_iff (b : Batch) (read : s.text = .ok text) :
    b.Reopens s n ↔ ReopensFirst b.catalog n (b.reading s text).events := by
  refine ⟨?_, fun first => ⟨text, read, first⟩⟩
  rintro ⟨_, read', first⟩
  cases read.symm.trans read'
  exact first

/-- The file registers the name, and not by reopening a type that the name stood for. -/
def Settles (b : Batch) (s : Source) (n : String) : Prop :=
  s.Registers n ∧ ¬b.Reopens s n

theorem Adds.names {b' : Batch} (adds : b.Adds s b') (h : b.Sound) :
    n ∈ b'.names ↔ n ∈ b.names ∨ s.Registers n := by
  rw [mem_names, mem_names]
  cases adds with
  | unread text => exact (or_iff_left (not_registers_unread text)).symm
  | @accepted text read accepted =>
    have continued := h.continues s text
    rw [h.registers_accepted read accepted]
    dsimp only
    constructor
    · rintro ⟨k, inside, t, entry⟩
      rcases List.mem_append.1 inside with inside | last
      · exact .inl ⟨k, inside, t, (continued.entry h inside n).symm.trans entry⟩
      · exact .inr ⟨t, List.mem_singleton.1 last ▸ entry⟩
    · rintro (⟨k, inside, t, entry⟩ | ⟨t, entry⟩)
      · exact ⟨k, List.mem_append_left _ inside, t, (continued.entry h inside n).trans entry⟩
      · exact ⟨(b.opened s).1, List.mem_append_right _ List.mem_cons_self, t, entry⟩
  | @failed text failure read failed =>
    have continued := h.continues s text
    rw [or_iff_left (h.not_registers_failed read failed)]
    refine exists_congr fun k => and_congr_right fun inside => exists_congr fun t => ?_
    rw [withdrawn, library_removeLibrary, continued.entry h inside]

/-- One more file declares what it settles. -/
theorem Adds.declares {b' : Batch} (adds : b.Adds s b') (h : b.Sound)
    (other : (initial.library primitives).types[n]? = none) :
    b'.catalog.Declares n ↔ b.catalog.Declares n ∨ b.Settles s n := by
  have other := (h.primitive n).trans other
  cases adds with
  | unread text =>
    exact (or_iff_left fun settles => not_registers_unread text settles.1).symm
  | @accepted text read accepted =>
    rw [(h.continues s text).declares_accepted h other, Settles,
      h.registers_accepted read accepted, b.reopens_iff read]
  | @failed text failure read failed =>
    rw [withdrawn, (h.continues s text).declares_failed h other]
    exact (or_iff_left fun settles => h.not_registers_failed read failed settles.1).symm

/-! ## All files

By induction on the files, from the last one: each adds what it settles after those before it. -/

theorem ofSources_concat (sources : List Source) (s : Source) :
    ofSources (sources ++ [s]) = (ofSources sources).addOwn s := by
  simp [ofSources]

theorem sound_ofSources (sources : List Source) : (ofSources sources).Sound := by
  induction sources using List.reverseRecOn with
  | nil => exact sound_ofSources_nil
  | append_singleton sources s ih =>
    rw [ofSources_concat]
    exact (addOwn_adds _ s).sound ih

/-- The accepted libraries have entries for the names that some file registers. -/
theorem mem_names_ofSources (sources : List Source) :
    n ∈ (ofSources sources).names ↔ ∃ s ∈ sources, s.Registers n := by
  induction sources using List.reverseRecOn with
  | nil => simp [ofSources, names]
  | append_singleton sources s ih =>
    rw [ofSources_concat, (addOwn_adds _ s).names (sound_ofSources sources), ih]
    simp [or_and_right, exists_or]

/-- Some file of the list settles the name, after those before it. -/
def Settled (sources : List Source) (n : String) : Prop :=
  ∃ before s later, sources = before ++ s :: later ∧ (ofSources before).Settles s n

theorem settled_concat (sources : List Source) (s : Source) :
    Settled (sources ++ [s]) n ↔ Settled sources n ∨ (ofSources sources).Settles s n := by
  constructor
  · rintro ⟨before, s', later, split, settles⟩
    -- ⟨init, last, rfl⟩ | the settling file is the last one or stands before it
    rcases List.eq_nil_or_concat later with rfl | ⟨init, last, rfl⟩
    · obtain ⟨rfl, same⟩ := List.append_inj' split rfl
      cases same
      exact .inr settles
    · rw [List.concat_eq_append, ← List.cons_append, ← List.append_assoc] at split
      exact .inl ⟨before, s', init, (List.append_inj' split rfl).1, settles⟩
  · rintro (⟨before, s', later, rfl, settles⟩ | settles)
    · exact ⟨before, s', later ++ [s], by simp, settles⟩
    · exact ⟨sources, s, [], rfl, settles⟩

/-- A name of no primitive type is declared if some file settles it. -/
theorem declares_ofSources (other : (initial.library primitives).types[n]? = none)
    (sources : List Source) : (ofSources sources).catalog.Declares n ↔ Settled sources n := by
  induction sources using List.reverseRecOn with
  | nil =>
    refine iff_of_false ?_ ?_
    · rintro ⟨t, found, -⟩
      obtain ⟨⟨k, -, entry⟩, -⟩ := resolve?_entry registry_initial found
      -- without files only the primitive types have entries
      have primitive := (entry_initial entry).1
      rw [primitive, other] at entry
      cases entry
    · rintro ⟨before, s, later, split, -⟩
      simp at split
  | append_singleton sources s ih =>
    rw [ofSources_concat, (addOwn_adds _ s).declares (sound_ofSources sources) other, ih,
      settled_concat]

end Batch

end IdlCatalog
