/-
# IdlCatalog.Proofs.Placeholders — placeholders are for good

A name that nobody declared so far gets a placeholder at its first mention. Declarations that come
later may give the placeholder a kind, members, a super type and another owner, and libraries may
come and go. But the hidden library never gives up an entry, the entry never becomes a type that
only reopens another one, and no primitive type comes to answer for the name. So the name stands
for its placeholder for good, and mentioning it again changes nothing.

This holds in the middle of a reading as well, whether or not the reading succeeds: a `Trail` lists
every catalog through which a session goes.
-/
import IdlCatalog.Proofs.Session

namespace IdlCatalog

open Catalog

variable {b c d e : Catalog} {l : LibraryId} {name : String} {p : TypeId} {es : List Event}
  {h : History} {commands more : List Command} {states others : List Catalog}

/-! ## The catalogs of a session

A reading goes through a catalog for each of its steps. All of them are listed, so that a result
about the list is one about every moment. -/

/-- All the catalogs through which a session goes, in order: the first one, those that the steps of
the readings leave, and the one after each command. -/
inductive Trail : List Command → List Catalog → Prop
  | start : Trail [] [initial]
  | command {commands : List Command} {states : List Catalog} {h : History}
      (trail : Trail commands states) (command : Command)
      (takes : command.Takes (after commands) h) :
      Trail (commands ++ [command])
        (states ++ h.map Prod.snd ++ [after (commands ++ [command])])

/-- Every session has a trail. -/
theorem exists_trail (commands : List Command) : ∃ states, Trail commands states := by
  induction commands using List.reverseRecOn with
  | nil => exact ⟨[initial], .start⟩
  | append_singleton commands command ih =>
    obtain ⟨states, trail⟩ := ih
    obtain ⟨h, takes⟩ := command.takes (registry_after commands)
    exact ⟨_, trail.command command takes⟩

namespace Catalog

/-! ## Libraries keep their entries

An entry is made once and never changed. What is behind it may change, and the library may be
removed; its list of names stays. -/

/-- Every library keeps its entries. -/
def KeepsEntries (c d : Catalog) : Prop :=
  ∀ (l : LibraryId) (name : String) t, (c.library l).types[name]? = some t →
    (d.library l).types[name]? = some t

namespace KeepsEntries

theorem refl (c : Catalog) : c.KeepsEntries c := fun _ _ _ entry => entry

theorem trans (first : b.KeepsEntries c) (second : c.KeepsEntries d) : b.KeepsEntries d :=
  fun l name t entry => second l name t (first l name t entry)

theorem step (readable : c.Readable l) (step : Step l c es d) : c.KeepsEntries d :=
  fun _ _ _ entry => step.entry_stays readable entry

theorem addLibrary (c : Catalog) (name : String) (readOnly : Bool) (docs : DocumentationProvider) :
    c.KeepsEntries (c.addLibrary name readOnly docs).2 := by
  intro l n t entry
  have old : l.index ≠ c.libraries.size := by
    intro new
    rw [entry_of_size_le c l (Nat.le_of_eq new.symm)] at entry
    cases entry
  rwa [library_addLibrary, if_neg old]

theorem removeLibrary (c : Catalog) (l : LibraryId) : c.KeepsEntries (c.removeLibrary l).2 := by
  intro k n t entry
  rwa [library_removeLibrary]

end KeepsEntries

/-! ## Chains of catalogs that keep their entries

A chain lasts if each of its catalogs keeps what the one before it had. Chains are put together at a
common end. -/

/-- From one catalog to another, through sound catalogs each of which keeps the entries of all
catalogs before it. -/
structure Lasting (c : Catalog) (states : List Catalog) (d : Catalog) : Prop where
  ends : c.KeepsEntries d
  ordered : states.Pairwise KeepsEntries
  since : ∀ e ∈ states, c.KeepsEntries e
  onward : ∀ e ∈ states, e.KeepsEntries d
  sound : ∀ e ∈ states, Registry e ∧ Owners e

namespace Lasting

theorem nil (ends : c.KeepsEntries d) : Lasting c [] d := ⟨ends, .nil, nofun, nofun, nofun⟩

theorem singleton (keeps : c.KeepsEntries d) (registry : Registry d) (owners : Owners d) :
    Lasting c [d] d where
  ends := keeps
  ordered := List.pairwise_singleton _ d
  since := List.forall_mem_singleton.2 keeps
  onward := List.forall_mem_singleton.2 (.refl d)
  sound := List.forall_mem_singleton.2 ⟨registry, owners⟩

theorem append (first : Lasting b states c) (second : Lasting c others d) :
    Lasting b (states ++ others) d where
  ends := first.ends.trans second.ends
  -- what comes before `c` keeps its entries up to `c`, and `c` does so from there on
  ordered := List.pairwise_append.2 ⟨first.ordered, second.ordered, fun x before y later =>
    (first.onward x before).trans (second.since y later)⟩
  since := List.forall_mem_append.2
    ⟨first.since, fun e later => first.ends.trans (second.since e later)⟩
  onward := List.forall_mem_append.2
    ⟨fun e before => (first.onward e before).trans second.ends, second.onward⟩
  sound := List.forall_mem_append.2 ⟨first.sound, second.sound⟩

/-- What is kept between two places of the list, which may be the same one. -/
theorem keeps {i j : Nat} (lasting : Lasting b states e) (le : i ≤ j)
    (before : states[i]? = some c) (later : states[j]? = some d) : c.KeepsEntries d := by
  obtain ⟨first, rfl⟩ := List.getElem?_eq_some_iff.1 before
  obtain ⟨second, rfl⟩ := List.getElem?_eq_some_iff.1 later
  rcases Nat.eq_or_lt_of_le le with rfl | lt
  · exact .refl _
  · exact List.pairwise_iff_getElem.1 lasting.ordered i j first second lt

end Lasting

end Catalog

theorem Reading.lasting (readable : c.Readable l) (owners : Owners c) (reading : Reading l c h d) :
    Lasting c (h.map Prod.snd) d := by
  induction reading with
  | start => exact .nil (.refl c)
  | step reading step ih =>
    have before := reading.readable readable
    have owners := step.owners before (reading.owners readable owners)
    rw [List.map_append]
    exact ih.append (.singleton (.step before step) (step.readable before).registry owners)

/-- From a sound catalog a command leads to another one that keeps the entries. -/
theorem Command.Takes.lasting {command : Command} (takes : command.Takes c h)
    (registry : Registry c) (owners : Owners c) :
    Lasting c (h.map Prod.snd ++ [c.perform command]) (c.perform command) := by
  refine Lasting.append (c := c.perform command) ?_
    (.singleton (.refl _) (registry.perform command) (owners.perform registry command))
  -- a reading has catalogs in between; the other commands have none
  cases command with
  | addLibrary name readOnly docs =>
    obtain rfl := takes
    exact .nil (.addLibrary c name readOnly docs)
  | removeLibrary l =>
    obtain rfl := takes
    exact .nil (.removeLibrary c l)
  | ingest l source =>
    rw [Command.Takes] at takes
    rw [perform]
    split at takes
    · next added =>
      rw [if_pos added]
      exact takes.1.lasting (registry.readable added) owners
    · next skipped =>
      obtain rfl := takes
      rw [if_neg skipped]
      exact .nil (.refl c)

/-- Along a trail no library loses an entry. -/
theorem Trail.lasting (trail : Trail commands states) :
    Lasting initial states (after commands) := by
  induction trail with
  | start => exact .singleton (.refl _) registry_initial .initial
  | @command commands states h _ command takes ih =>
    rw [List.append_assoc, after_concat]
    exact ih.append (takes.lasting (registry_after commands) (owners_after commands))

theorem keepsEntries_after (commands more : List Command) :
    (after commands).KeepsEntries (after (commands ++ more)) := by
  induction more using List.reverseRecOn with
  | nil => exact (List.append_nil commands).symm ▸ .refl _
  | append_singleton more command ih =>
    have registry := registry_after (commands ++ more)
    obtain ⟨h, takes⟩ := command.takes registry
    rw [← List.append_assoc, after_concat]
    exact ih.trans (takes.lasting registry (owners_after _)).ends

/-! ## What a placeholder comes to

The hidden library comes before the registered ones in resolution, and it lists the placeholder. So
no entry that is made later can answer for the name instead. -/

/-- The hidden library has the type as the placeholder for the name, and that settles what the name
stands for and what a further mention comes to. -/
structure Catalog.HasPlaceholder (c : Catalog) (name : String) (p : TypeId) : Prop where
  entry : (c.library Catalog.hidden).types[name]? = some p
  stands : (c.type p).kind ≠ .reopening
  resolved : c.resolve? name = some p
  again : c.addPlaceholder name = (p, c)

/-- An entry of the hidden library is all that it takes. -/
theorem hasPlaceholder (registry : Registry c) (owners : Owners c)
    (entry : (c.library Catalog.hidden).types[name]? = some p) : c.HasPlaceholder name p := by
  have stands : (c.type p).kind ≠ .reopening := registry.standing (by decide) entry
  have unnamed : (c.library primitives).types[name]? = none := by
    cases primitive : (c.library primitives).types[name]? with
    | none => rfl
    | some t => exact absurd (owners.apart primitive) (by rw [entry]; exact Option.some_ne_none p)
  have declared : c.declaredIn? Catalog.hidden name = some p := by
    rw [declaredIn?, entry, Option.filter_some, isReopening, decide_eq_false stands]
    rfl
  refine ⟨entry, stands, ?_, ?_⟩
  · simp only [resolve?, unnamed, List.findSome?_cons, declared]
  · rw [addPlaceholder, entry]

/-- Once the hidden library has a placeholder for a name, this is the placeholder in all catalogs
that come later in the session, those in the middle of readings included, and after every session
that goes on from there: the entry stays, it does not reopen another type, the name stands for it,
and mentioning the name gives it again without changing anything. -/
theorem placeholders_last (commands : List Command) :
    (∃ states, Trail commands states) ∧
    (∀ states, Trail commands states → ∀ (i j : Nat) (c d : Catalog), i ≤ j →
      states[i]? = some c → states[j]? = some d → ∀ (name : String) p,
        (c.library Catalog.hidden).types[name]? = some p → d.HasPlaceholder name p) ∧
    ∀ more (name : String) p, ((after commands).library Catalog.hidden).types[name]? = some p →
      (after (commands ++ more)).HasPlaceholder name p := by
  refine ⟨exists_trail commands, ?_, ?_⟩
  · intro states trail i j c d le before later name p entry
    have lasting := trail.lasting
    obtain ⟨registry, owners⟩ := lasting.sound d (List.mem_of_getElem? later)
    exact hasPlaceholder registry owners (lasting.keeps le before later Catalog.hidden name p entry)
  · intro more name p entry
    exact hasPlaceholder (registry_after _) (owners_after _)
      (keepsEntries_after commands more Catalog.hidden name p entry)

/-- The reading that mentions the name fails, the name becomes a typedef in another library, and
both libraries go. -/
theorem placeholders_last_declared :
    let commands := [.addLibrary "a" false .silent,
      .ingest ⟨2⟩ "interface A { attribute X x; }; interface"]
    let more := [.addLibrary "b" false .silent, .removeLibrary ⟨2⟩,
      .ingest ⟨3⟩ "typedef long X;", .removeLibrary ⟨3⟩]
    ((after commands).library Catalog.hidden).types["X"]? = some ⟨22⟩ ∧
      (after (commands ++ more)).HasPlaceholder "X" ⟨22⟩ := by
  intro commands more
  have entry : ((after commands).library Catalog.hidden).types["X"]? = some ⟨22⟩ := by
    decide +kernel
  exact ⟨entry, (placeholders_last commands).2.2 more "X" ⟨22⟩ entry⟩

end IdlCatalog
