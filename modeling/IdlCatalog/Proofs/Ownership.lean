/-
# IdlCatalog.Proofs.Ownership — when owners still take part in resolution

When a library is removed, the types that it owns go to other libraries that have entries for them.
The primitives are not among the heirs: a primitive type that a library declared again keeps the
removed library as its owner, unless another registered library declared it too. Apart from that,
and from declarations that are read for a library after its removal, whatever a tier has an entry
for belongs to a tier that has one.

## What can go wrong

There are two ways for a tier to have an entry for a type whose owner takes no part in resolution. A
description may be read for a library that was removed before; it goes on to take types over, though
nobody asks it any more. And when a library is removed that had declared a primitive again, nobody
inherits the primitive: it is the tier of the primitives that still has an entry for it, and this
tier is not among the heirs. There is no third way.
-/
import IdlCatalog.Proofs.Session

namespace IdlCatalog

open Catalog

variable {b c d : Catalog} {t u : TypeId} {l k : LibraryId} {n name : String} {kind : Kind}
  {es fs : List Event} {h : History} {commands : List Command} {command : Command}

/-! ## Owners along a reading

A reading takes over what it declares and places what it does not find. `Claims` gives the owner of
every type after the events: the library of the reading if it was declared, the hidden library if it
is a placeholder, and the owner it had before otherwise. -/

/-- A declaration of the type. -/
def Event.Declares (t : TypeId) : Event → Prop
  | .declared _ u _ => u = t
  | _ => False

/-- What a reading for the library does to owners: declared types get it, all others keep theirs,
and only placeholders get an entry without a declaration. -/
structure Claims (l : LibraryId) (c : Catalog) (es : List Event) (d : Catalog) : Prop where
  size_le : c.types.size ≤ d.types.size
  declared : ∀ {t}, (∃ e ∈ es, e.Declares t) → (d.type t).library = some l
  silent : ∀ {t}, (¬∃ e ∈ es, e.Declares t) → t.index < c.types.size →
    (d.type t).library = (c.type t).library
  entry : ∀ {t k} {n : String}, (¬∃ e ∈ es, e.Declares t) → (d.library k).types[n]? = some t →
    (c.library k).types[n]? = some t ∨ (d.type t).library = some Catalog.hidden

namespace Claims

theorem exists_append : (∃ e ∈ es ++ fs, e.Declares t) ↔
    (∃ e ∈ es, e.Declares t) ∨ ∃ e ∈ fs, e.Declares t := by
  simp only [List.mem_append, or_and_right, exists_or]

theorem quiet (quiet : Quiet c d) (none : ∀ t, ¬∃ e ∈ es, e.Declares t) : Claims l c es d where
  size_le := quiet.size_le
  declared some := absurd some (none _)
  silent _ bound := (quiet.old _ bound).library
  entry _ entry := by
    rw [quiet.library] at entry
    exact .inl entry

theorem refl (l : LibraryId) (c : Catalog) : Claims l c [] c :=
  .quiet (.refl c) (by simp)

/-- The library introduces the type that is declared. -/
theorem introduces (introduces : Introduces l l name t kind c d)
    (only : ∀ u, (∃ e ∈ es, e.Declares u) ↔ u = t) : Claims l c es d where
  size_le := introduces.introduced.size_le
  declared some := (only _).1 some ▸ introduces.introduced.library
  silent none bound :=
    (introduces.introduced.others _ bound fun same => none ((only _).2 same)).library
  entry {u k n} none entry := by
    exact .inl (introduces.introduced.lookup_old (fun same => none ((only u).2 same)) entry)

theorem trans (h : Claims l b es c) (h' : Claims l c fs d) : Claims l b (es ++ fs) d where
  size_le := Nat.le_trans h.size_le h'.size_le
  declared {t} some := by
    -- the last declaration of a type decides who owns it
    by_cases later : ∃ e ∈ fs, e.Declares t
    · exact h'.declared later
    · have owned := h.declared ((exists_append.1 some).resolve_right later)
      rw [h'.silent later (type_library_lt owned), owned]
  silent none bound := by
    rw [exists_append, not_or] at none
    rw [h'.silent none.2 (Nat.lt_of_lt_of_le bound h.size_le), h.silent none.1 bound]
  entry none entry := by
    rw [exists_append, not_or] at none
    rcases h'.entry none.2 entry with between | placeholder
    · refine (h.entry none.1 between).imp id fun placeholder => ?_
      rw [h'.silent none.2 (type_library_lt placeholder), placeholder]
    · exact .inr placeholder

end Claims

theorem Declaration.claims {reopens : Bool} {answer : Except (Failure Fault) TypeId}
    (readable : c.Readable l) (plain : name ≠ globalsName) (isDeclared : kind.IsDeclared)
    (declaration : Declaration l kind name c reopens answer es d) : Claims l c es d := by
  cases declaration with
  | again _ own =>
    refine ⟨Nat.le_refl _, fun some => ?_, fun _ _ => rfl, fun _ => .inl⟩
    simp only [List.mem_singleton, exists_eq_left, Event.Declares] at some
    exact some ▸ own
  | @reopened u _ _ _ free entered =>
    exact .introduces (introduces_reopened (u := u) readable.inside plain free entered)
      (by simp [introducedEvents, Event.Declares, eq_comm])
  | refused => exact .quiet (quiet_pushType c _ (.inl rfl)) (by simp)
  | upgraded known free entered =>
    exact .introduces
      (introduces_upgraded readable.registry readable.inside plain isDeclared known free entered)
      (by simp [introducedEvents, Event.Declares, eq_comm])
  | created unknown entered =>
    have free := (existing?_eq_none plain unknown).1
    exact .introduces (introduces_created readable.inside plain isDeclared free entered)
      (by simp [introducedEvents, Event.Declares, eq_comm])

theorem Step.claims (readable : c.Readable l) (step : Step l c es d) : Claims l c es d := by
  cases step with
  | edit edit =>
    refine .quiet edit.quiet fun t => ?_
    cases edit <;> simp [documentMember, Event.Declares]
  | @reference name t _ plain reference =>
    have none (u) : ¬∃ e ∈ [Event.referenced name t], e.Declares u := by simp [Event.Declares]
    rcases reference.naming readable.registry plain with rfl | introduces
    · exact .quiet (.refl _) none
    · have introduced := introduces.introduced
      -- a mention makes no entry in the library itself, so what it introduces is a new placeholder
      have new := (introduces.place.resolve_left readable.ne_hidden.symm).2
      refine ⟨introduced.size_le, fun some => absurd some (none _), fun {u} _ bound => ?_,
        fun {u k n} _ entry => ?_⟩
      · refine (introduced.others u bound ?_).library
        rintro rfl
        exact absurd bound (Nat.not_lt.2 new)
      · rcases introduced.lookup_cases entry with ⟨rfl, -, rfl⟩ | before
        · exact .inr introduced.library
        · exact .inl before
  | declaration plain isDeclared declaration => exact declaration.claims readable plain isDeclared

theorem Reading.claims (readable : c.Readable l) (reading : Reading l c h d) :
    Claims l c h.events d := by
  induction reading with
  | start => exact .refl l c
  | step reading step ih =>
    rw [History.events_append]
    exact ih.trans (step.claims (reading.readable readable))

/-! ## Owners after a session

The same along the commands of a session. What was declared late, for a library that had been
removed, is singled out by looking at the commands before. -/

/-- The command reads a description that declares the type. -/
def Command.Declares (c : Catalog) (t : TypeId) : Command → Prop
  | .ingest l source => c.WasAdded l ∧ ∃ e ∈ (c.ingest l source).events, e.Declares t
  | _ => False

/-- The last declaration of the type was read for a library that took no part in resolution. -/
inductive DeclaredLate (t : TypeId) : List Command → Prop
  | now {commands : List Command} {l : LibraryId} {source : String}
      (declares : (Command.ingest l source).Declares (after commands) t)
      (late : l ∉ (after commands).registered) : DeclaredLate t (commands ++ [.ingest l source])
  | still {commands : List Command} {command : Command} (late : DeclaredLate t commands)
      (silent : ¬command.Declares (after commands) t) : DeclaredLate t (commands ++ [command])

theorem not_declaredLate_nil (t : TypeId) : ¬DeclaredLate t [] := by
  intro late
  generalize shape : ([] : List Command) = commands at late
  cases late <;> simp at shape

theorem declaredLate_concat : DeclaredLate t (commands ++ [command]) ↔
    (∃ l source, command = .ingest l source ∧ command.Declares (after commands) t ∧
      l ∉ (after commands).registered) ∨
    (DeclaredLate t commands ∧ ¬command.Declares (after commands) t) := by
  constructor
  · intro late
    -- the last command of the list is this one
    generalize shape : commands ++ [command] = all at late
    cases late with
    | now declares late =>
      obtain ⟨rfl, last⟩ := List.append_inj' shape rfl
      obtain rfl := List.singleton_inj.1 last
      exact .inl ⟨_, _, rfl, declares, late⟩
    | still late silent =>
      obtain ⟨rfl, last⟩ := List.append_inj' shape rfl
      obtain rfl := List.singleton_inj.1 last
      exact .inr ⟨late, silent⟩
  · rintro (⟨l, source, rfl, declares, late⟩ | ⟨late, silent⟩)
    · exact .now declares late
    · exact .still late silent

/-- What a session keeps true of owners: a type that a placeholder or a registered library accounts
for belongs to a tier, and a type that was declared late to none. -/
structure Accounts (commands : List Command) (c : Catalog) : Prop where
  owner : ∀ {k : LibraryId} {n : String} {t}, k = Catalog.hidden ∨ k ∈ c.registered →
    (c.library k).types[n]? = some t →
      (∃ o ∈ c.tiers, (c.type t).library = some o) ∨ DeclaredLate t commands
  late : ∀ {t}, DeclaredLate t commands → ∃ o, o ∉ c.tiers ∧ (c.type t).library = some o

namespace Accounts

theorem initial : Accounts [] Catalog.initial where
  owner {k n t} place entry := by
    obtain rfl := (entry_initial entry).1
    exact absurd place (by decide)
  late late := absurd late (not_declaredLate_nil _)

/-- A command that reads nothing leaves it to owners and tiers who is late. -/
theorem of_silent {d : Catalog} (h : Accounts commands c)
    (silent : ∀ t, ¬command.Declares (after commands) t)
    (tiers : ∀ {o}, o ∈ d.tiers → o ∈ c.tiers ∨ c.libraries.size ≤ o.index)
    (registry : Registry c)
    (owner : ∀ {k : LibraryId} {n : String} {t}, k = Catalog.hidden ∨ k ∈ d.registered →
      (d.library k).types[n]? = some t → ¬DeclaredLate t commands →
        ∃ o ∈ d.tiers, (d.type t).library = some o)
    (late : ∀ {t o}, (c.type t).library = some o → o ∉ c.tiers → (d.type t).library = some o) :
    Accounts (commands ++ [command]) d where
  owner {k n t} place entry := by
    by_cases before : DeclaredLate t commands
    · exact .inr (.still before (silent t))
    · exact .inl (owner place entry before)
  late {t} now := by
    rcases declaredLate_concat.1 now with ⟨-, -, -, declares, -⟩ | ⟨before, -⟩
    · exact absurd declares (silent t)
    · obtain ⟨o, other, owned⟩ := h.late before
      refine ⟨o, fun inside => ?_, late owned other⟩
      rcases tiers inside with inside | new
      · exact other inside
      · exact absurd (registry.owner owned) (Nat.not_lt.2 new)

theorem addLibrary (h : Accounts commands c) (registry : Registry c) (name : String)
    (readOnly : Bool) (docs : DocumentationProvider) :
    Accounts (commands ++ [.addLibrary name readOnly docs])
      (c.addLibrary name readOnly docs).2 := by
  have old {t} (bound : t.index < c.types.size) :
      (c.addLibrary name readOnly docs).2.type t = c.type t := by
    rw [type_addLibrary, if_neg (Nat.ne_of_lt bound)]
  refine h.of_silent (fun t => id) (fun {o} inside => ?_) registry
    (fun {k n t} place entry fresh => ?_) fun owned _ => ?_
  · rw [mem_tiers, registered_addLibrary, List.mem_append, List.mem_singleton] at inside
    rw [mem_tiers]
    -- the tiers are those before, and the new library, which owns nothing yet
    rcases inside with first | second | before | rfl
    · exact .inl (.inl first)
    · exact .inl (.inr (.inl second))
    · exact .inl (.inr (.inr before))
    · exact .inr (Nat.le_refl _)
  · rw [library_addLibrary] at entry
    split at entry
    · simp at entry
    · next other =>
      rw [registered_addLibrary, List.mem_append, List.mem_singleton] at place
      have place : k = Catalog.hidden ∨ k ∈ c.registered :=
        place.imp_right fun inside => inside.resolve_right fun same => other (by rw [same])
      obtain ⟨o, inside, owned⟩ := (h.owner place entry).resolve_right fresh
      refine ⟨o, ?_, by rw [old (type_library_lt owned)]; exact owned⟩
      rw [mem_tiers] at inside ⊢
      exact inside.imp_right (Or.imp_right (List.mem_append_left _))
  · rw [old (type_library_lt owned)]
    exact owned

theorem ingest (h : Accounts commands (after commands)) (readable : (after commands).Readable l)
    (source : String) :
    Accounts (commands ++ [.ingest l source]) ((after commands).ingest l source).catalog := by
  obtain ⟨steps, reading, events⟩ := ingest_reading readable source
  have claims := reading.claims readable
  rw [events] at claims
  have added : (after commands).WasAdded l := ⟨readable.two_le, readable.inside⟩
  have registered := reading.registered readable
  generalize eq : ((after commands).ingest l source) = report at *
  have declares (t) : (Command.ingest l source).Declares (after commands) t ↔
      ∃ e ∈ report.events, e.Declares t := by
    rw [Command.Declares, eq, and_iff_right added]
  have tiers : report.catalog.tiers = (after commands).tiers := tiers_congr registered
  refine ⟨fun {k n t} place entry => ?_, fun {t} late => ?_⟩
  · rw [tiers]
    -- what the reading declares belongs to its library, which is a tier or was removed before
    by_cases now : ∃ e ∈ report.events, e.Declares t
    · by_cases inside : l ∈ (after commands).registered
      · exact .inl ⟨l, mem_tiers.2 (.inr (.inr inside)), claims.declared now⟩
      · exact .inr (.now ((declares t).2 now) inside)
    · rcases claims.entry now entry with before | placeholder
      · rw [registered] at place
        refine (h.owner place before).imp ?_ fun late => .still late (mt (declares t).1 now)
        rintro ⟨o, inside, owned⟩
        exact ⟨o, inside, (claims.silent now (type_library_lt owned)).trans owned⟩
      · exact .inl ⟨_, mem_tiers.2 (.inr (.inl rfl)), placeholder⟩
  · rw [tiers]
    -- a type declared late belongs to the removed library until another reading declares it
    rcases declaredLate_concat.1 late with ⟨l', source', same, now, other⟩ | ⟨before, silent⟩
    · cases same
      refine ⟨l, fun inside => ?_, claims.declared ((declares t).1 now)⟩
      rcases mem_tiers.1 inside with rfl | rfl | inside
      · exact absurd readable.two_le (by decide)
      · exact absurd readable.two_le (by decide)
      · exact other inside
    · obtain ⟨o, other, owned⟩ := h.late before
      have same := claims.silent (mt (declares t).2 silent) (type_library_lt owned)
      exact ⟨o, other, same.trans owned⟩

theorem removeLibrary (h : Accounts commands c) (registry : Registry c) (owners : Owners c)
    (l : LibraryId) : Accounts (commands ++ [.removeLibrary l]) (c.removeLibrary l).2 := by
  have moved := moved_removeLibrary c l
  have mem {k} : k ∈ (c.removeLibrary l).2.registered ↔ k ∈ c.registered ∧ k ≠ l := by
    rw [moved.registered, Catalog.unregister, List.mem_filter, decide_eq_true_iff]
  have kept {o} (inside : o ∈ c.tiers) (other : o ≠ l ∨ l ∉ c.registered) :
      o ∈ (c.removeLibrary l).2.tiers := by
    rw [mem_tiers] at inside ⊢
    refine inside.imp_right (Or.imp_right fun inside => mem.2 ⟨inside, ?_⟩)
    exact other.elim id fun absent same => absent (same ▸ inside)
  refine h.of_silent (fun t => id) (fun {o} inside => ?_) registry
    (fun {k n t} place entry fresh => ?_) fun {t o} owned other => ?_
  · rw [mem_tiers] at inside
    exact .inl (mem_tiers.2 (inside.imp_right (Or.imp_right fun inside => (mem.1 inside).1)))
  · rw [library_removeLibrary] at entry
    have before : k = Catalog.hidden ∨ k ∈ c.registered :=
      place.imp_right fun inside => (mem.1 inside).1
    obtain ⟨o, inside, owned⟩ := (h.owner before entry).resolve_right fresh
    rw [owner_removeLibrary registry (registry.entry entry)]
    split
    -- whoever accounts for the type could be the heir
    · have after : k = Catalog.hidden ∨ k ∈ (c.unregister l).registered := by
        rwa [moved.registered] at place
      obtain ⟨heir, found⟩ := heir?_ne_none after entry
      rw [found]
      refine ⟨heir, mem_tiers.2 (.inr ?_), rfl⟩
      rw [moved.registered]
      exact (heir?_eq_some found).1
    · next stays =>
      refine ⟨o, kept inside ?_, owned⟩
      by_contra both
      rw [not_or, not_not, not_not] at both
      obtain ⟨rfl, registered⟩ := both
      obtain ⟨owner, owned', registers⟩ := owners.entry entry
      obtain rfl := Option.some.inj (owned.symm.trans owned')
      exact stays ⟨registered, registers, owned⟩
  -- what belongs to no tier is not passed on
  · obtain ⟨owner, same, rfl | ⟨⟨k, n, entry⟩, -⟩⟩ := moved.type t
    · rw [same]
      exact owned
    · rw [owner_removeLibrary registry (registry.entry entry), if_neg]
      · exact owned
      · rintro ⟨registered, -, owned'⟩
        obtain rfl := Option.some.inj (owned.symm.trans owned')
        exact other (mem_tiers.2 (.inr (.inr registered)))

end Accounts

theorem accounts_after (commands : List Command) : Accounts commands (after commands) := by
  induction commands using List.reverseRecOn with
  | nil => exact .initial
  | append_singleton commands command ih =>
    have registry := registry_after commands
    rw [after_concat]
    cases command with
    | addLibrary name readOnly docs => exact ih.addLibrary registry name readOnly docs
    | removeLibrary l => exact ih.removeLibrary registry (owners_after commands) l
    | ingest l source =>
      -- a library that was never added is not read for
      by_cases added : (after commands).WasAdded l
      · rw [perform, if_pos added]
        exact ih.ingest (registry.readable added) source
      · rw [perform, if_neg added]
        exact ih.of_silent (fun t declares => added declares.1) .inl registry
          (fun place entry fresh => (ih.owner place entry).resolve_right fresh) fun owned _ => owned

/-! ## When owners remain

The condition on the session is read off the accounts of its owners. It is necessary as well as
sufficient. -/

/-- Whatever a tier has an entry for belongs to a tier that has an entry for it. -/
def Catalog.OwnersRemain (c : Catalog) : Prop :=
  ∀ k ∈ c.tiers, ∀ (name : String) t, (c.library k).types[name]? = some t →
    ∃ o ∈ c.tiers, (c.type t).library = some o ∧ (c.library o).types[name]? = some t

/-- Every primitive type that some library declared again is an entry of a registered library. -/
def Catalog.PrimitivesClaimed (c : Catalog) : Prop :=
  ∀ (name : String) t, (c.library primitives).types[name]? = some t →
    (∃ l : LibraryId, 2 ≤ l.index ∧ (c.library l).types[name]? = some t) →
      ∃ l ∈ c.registered, (c.library l).types[name]? = some t

/-- After every session the owner of a type that has an entry has an entry for it as well. It is one
of the tiers, for all types that tiers have entries for, if and only if none of these types was last
declared for a library that took no part in resolution, and every primitive type that some library
declared again is an entry of a registered library: primitive types are not handed back to the
primitives. -/
theorem ownersRemain_iff (commands : List Command) :
    (∀ (l : LibraryId) (name : String) t, ((after commands).library l).types[name]? = some t →
      ∃ o, ((after commands).type t).library = some o ∧
        ((after commands).library o).types[name]? = some t) ∧
    ((after commands).OwnersRemain ↔
      (∀ k ∈ (after commands).tiers, ∀ (name : String) t,
        ((after commands).library k).types[name]? = some t → ¬DeclaredLate t commands) ∧
      (after commands).PrimitivesClaimed) := by
  have owners := owners_after commands
  have accounts := accounts_after commands
  generalize after commands = c at owners accounts
  refine ⟨fun l name t entry => owners.entry entry, fun remain => ⟨?_, ?_⟩, ?_⟩
  · intro k inside name t entry late
    obtain ⟨o, other, owned⟩ := accounts.late late
    obtain ⟨o', among, owned', -⟩ := remain k inside name t entry
    obtain rfl := Option.some.inj (owned.symm.trans owned')
    exact other among
  · rintro name t primitive ⟨l, added, entry⟩
    obtain ⟨o, among, owned, registers⟩ :=
      remain _ (mem_tiers.2 (.inl rfl)) name t primitive
    rcases mem_tiers.1 among with rfl | rfl | registered
    · exact absurd owned (owners.added added entry)
    · rw [owners.apart primitive] at registers
      cases registers
    · exact ⟨o, registered, registers⟩
  · rintro ⟨fresh, claimed⟩ k inside name t entry
    have remains {k : LibraryId} (place : k = Catalog.hidden ∨ k ∈ c.registered)
        (entry : (c.library k).types[name]? = some t) :
        ∃ o ∈ c.tiers, (c.type t).library = some o ∧ (c.library o).types[name]? = some t := by
      obtain ⟨o, among, owned⟩ := (accounts.owner place entry).resolve_right
        (fresh k (mem_tiers.2 (.inr place)) name t entry)
      obtain ⟨o', owned', registers⟩ := owners.entry entry
      obtain rfl := Option.some.inj (owned.symm.trans owned')
      exact ⟨o, among, owned, registers⟩
    rcases mem_tiers.1 inside with rfl | place
    -- a primitive type that does not belong to the primitives was declared again
    · obtain ⟨o, owned, registers⟩ := owners.entry entry
      by_cases added : 2 ≤ o.index
      · obtain ⟨l, registered, again⟩ := claimed name t entry ⟨o, added, registers⟩
        exact remains (.inr registered) again
      · exact ⟨o, mem_tiers.2 ((eq_of_not_added added).imp_right .inl), owned, registers⟩
    · exact remains place entry

/-- A library declares a primitive type and is removed. The type goes on to belong to it. -/
theorem primitive_orphaned :
    ¬(after [.addLibrary "x" false .silent, .ingest ⟨2⟩ "interface long { };",
      .removeLibrary ⟨2⟩]).OwnersRemain := by
  intro remain
  have facts : let c := after [.addLibrary "x" false .silent, .ingest ⟨2⟩ "interface long { };",
        .removeLibrary ⟨2⟩]
      (c.library primitives).types["long"]? = some ⟨12⟩ ∧ (c.type ⟨12⟩).library = some ⟨2⟩ ∧
        ⟨2⟩ ∉ c.tiers := by
    decide +kernel
  generalize after _ = c at remain facts
  obtain ⟨entry, owned, other⟩ := facts
  obtain ⟨o, among, owned', -⟩ := remain _ (mem_tiers.2 (.inl rfl)) "long" _ entry
  obtain rfl := Option.some.inj (owned.symm.trans owned')
  exact other among

end IdlCatalog
