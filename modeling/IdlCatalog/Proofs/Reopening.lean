/-
# IdlCatalog.Proofs.Reopening — a declaration and its reopenings meet

One description declares a name, another one for another library reopens it, and both may refer to
it. In whatever order they are read, there is one type for the name at the end, which the declaring
library registers, and all members from the bodies of both are found there.

A catalog stays gathered for the name along both readings, and what was attached to a type of the
name so far is in the tables of the type for the name.

## Names and events

That a description declares or reopens a name is said by its events, so the statement covers
declarations of every form and any number of them. Two conditions are needed: the declaring one
declares the name only as a whole and the other one only in part, and the latter gives its parts no
super type of their own, since that is where their members would go.

The two libraries are any that take part in resolution, and only one thing is asked of the catalog
before: no added library has an entry for the name. Placeholders for it may be there.
-/
import IdlCatalog.Proofs.Grammar.Gathering
import IdlCatalog.Proofs.Session

namespace IdlCatalog

open Grammar Catalog

variable {c d : Catalog} {s t u : TypeId} {m : MemberId} {l l₁ l₂ : LibraryId} {n name : String}
  {es before : List Event} {h : History} {reopens : Bool} {table : Table}

/-! ## Declared types

The declarations of a name and the super types that they were given, as lists that can be computed
from the events. -/

/-- The declarations of a name among the events: of each, whether it is a partial one. -/
def Event.declarations (n : String) (es : List Event) : List Bool :=
  es.filterMap fun
    | .declared name _ reopens => if name = n then some reopens else none
    | _ => none

/-- The super types that declarations of a name give among the events. -/
def Event.superTypes (n : String) (es : List Event) : List TypeId :=
  es.filterMap fun
    | .extended s superType =>
      if .declared n s true ∈ es ∨ .declared n s false ∈ es then some superType else none
    | _ => none

theorem Event.Bare.of_append {more : List Event} (bare : Event.Bare n (es ++ more)) :
    Event.Bare n es := fun s reopens u declared extended =>
  bare s reopens u (List.mem_append_left _ declared) (List.mem_append_left _ extended)

/-- What a declaration is about has the name, and a declaration as a whole makes it the entry of the
library. -/
theorem Step.of_declared (readable : c.Readable l) (step : Step l c es d)
    (inside : .declared n t reopens ∈ es) :
    n ≠ globalsName ∧ d.IsEntry n t ∧
      (reopens = false → (d.library l).types[n]? = some t) := by
  obtain ⟨plain, kind, again, declared, declaration⟩ := step.declaration_of_declared readable inside
  refine ⟨plain, ?_⟩
  have registry := (step.readable readable).registry
  have entered {kind} (introduced : Introduced l n t kind c d) :
      d.IsEntry n t ∧ (reopens = false → (d.library l).types[n]? = some t) :=
    ⟨registry.entry introduced.lookup_self, fun _ => introduced.lookup_self⟩
  cases declaration with
  | again known =>
    obtain ⟨-, rfl⟩ : t = t ∧ reopens = true := by simpa using inside
    exact ⟨existing?_isEntry registry plain known, nofun⟩
  | @reopened u _ _ _ free entry =>
    exact entered (introduces_reopened (u := u) readable.inside plain free entry).introduced
  | upgraded known free entry =>
    exact entered (introduces_upgraded readable.registry readable.inside plain declared known free
      entry).introduced
  | created unknown entry =>
    have free := (existing?_eq_none plain unknown).1
    exact entered (introduces_created readable.inside plain declared free entry).introduced

theorem Reading.of_declared (readable : c.Readable l) (reading : Reading l c h d)
    (inside : .declared n t reopens ∈ h.events) :
    n ≠ globalsName ∧ t.index < d.types.size ∧ d.typeName t = n ∧
      (reopens = false → (d.library l).types[n]? = some t) := by
  induction reading with
  | start => cases inside
  | step reading step ih =>
    have readable := reading.readable readable
    rw [History.events_append, List.mem_append] at inside
    rcases inside with earlier | now
    · obtain ⟨plain, bound, named, entry⟩ := ih earlier
      refine ⟨plain, Nat.lt_of_lt_of_le bound (step.types_size_le readable), ?_, fun whole => ?_⟩
      · exact (step.typeName readable bound).trans named
      · exact step.entry_stays readable (entry whole)
    · obtain ⟨plain, isEntry, entry⟩ := step.of_declared readable now
      exact ⟨plain, isEntry.bound, isEntry.name, entry⟩

/-! ## Members of the bodies

A member whose type has the name is found in the table of the one type of the name. It need not be
the member itself: a property may have been replaced by a later one, and an operation may have been
folded into an earlier one. Its name is there in any case. -/

/-- The type for the name has something under the name of a member in the table. -/
def Catalog.Finds (c : Catalog) (n : String) (l₂ : LibraryId) (table : Table) (name : String) :
    Prop :=
  ∃ t, c.Meets n l₂ t ∧ name ∈ table.of (c.type t)

/-- What was attached to types of the name is found in the type for the name, unless it is a
constructor, and so is what overloads were folded into. -/
structure Bodies (n : String) (l₂ : LibraryId) (es : List Event) (c : Catalog) : Prop where
  attached : ∀ {s m}, .attached s m ∈ es → s.index < c.types.size ∧ m.index < c.members.size ∧
    (c.typeName s = n → ∀ table : Table, table.Holds (c.member m) →
      (table = .operations → m ∉ (c.type s).constructors) → c.Finds n l₂ table (c.member m).name)
  merged : ∀ {s m}, .merged s m ∈ es → s.index < c.types.size ∧ m.index < c.members.size ∧
    (c.typeName s = n → c.Finds n l₂ .operations (c.member m).name)

theorem Bodies.nil (n : String) (l₂ : LibraryId) (c : Catalog) : Bodies n l₂ [] c :=
  ⟨nofun, nofun⟩

theorem Bodies.subset {fs : List Event} (bodies : Bodies n l₂ es c) (sub : fs ⊆ es) :
    Bodies n l₂ fs c :=
  ⟨fun inside => bodies.attached (sub inside), fun inside => bodies.merged (sub inside)⟩

theorem Bodies.append {fs : List Event} (bodies : Bodies n l₂ es c) (more : Bodies n l₂ fs c) :
    Bodies n l₂ (es ++ fs) c :=
  ⟨fun inside => (List.mem_append.1 inside).elim bodies.attached more.attached,
    fun inside => (List.mem_append.1 inside).elim bodies.merged more.merged⟩

theorem Bodies.kept (bodies : Bodies n l₂ before c) (readable : c.Readable l)
    (step : Step l c es d) (keeps : Keeps n l₂ c d) : Bodies n l₂ before d := by
  have grows := (step.files readable).grows
  have finds {table name} (found : c.Finds n l₂ table name) : d.Finds n l₂ table name := by
    obtain ⟨t, meets, inside⟩ := found
    exact ⟨t, keeps.meets t meets, grows.entry table t name inside⟩
  -- attached members, and then merged ones; constructors are exempt, and stay so
  refine ⟨fun {s m} inside => ?_, fun {s m} inside => ?_⟩
  · obtain ⟨bound, known, found⟩ := bodies.attached inside
    have alike := grows.member m known
    refine ⟨Nat.lt_of_lt_of_le bound (step.types_size_le readable),
      Nat.lt_of_lt_of_le known grows.size_le, fun named table holds unlisted => ?_⟩
    rw [step.typeName readable bound] at named
    rw [alike.name]
    exact finds (found named table ((alike.holds table).1 holds) fun operations listed =>
      unlisted operations (grows.constructors s m listed))
  · obtain ⟨bound, known, found⟩ := bodies.merged inside
    refine ⟨Nat.lt_of_lt_of_le bound (step.types_size_le readable),
      Nat.lt_of_lt_of_le known grows.size_le, fun named => ?_⟩
    rw [step.typeName readable bound] at named
    rw [(grows.member m known).name]
    exact finds (found named)

/-! ## The two readings

What both readings need of the catalog, and what each of them keeps. The members of a step are found
after it because their type stores its members in the type of the name. -/

/-- Where a reading for the library may start. -/
structure Catalog.Prepared (c : Catalog) (n : String) (l₂ l : LibraryId) : Prop where
  readable : c.Readable l
  among : l ∈ c.tiers
  only : c.OwnsOnly l
  tables : c.Tables
  gathered : c.Gathered n l₂

theorem Catalog.Prepared.step (h : c.Prepared n l₂ l) (step : Step l c es d)
    (keeps : Keeps n l₂ c d) : d.Prepared n l₂ l where
  readable := step.readable h.readable
  among := by
    rw [tiers_congr (step.registered h.readable)]
    exact h.among
  only := step.ownsOnly h.readable h.only h.readable.ne_hidden
  tables := (step.files h.readable).grows.tables h.tables
  gathered := keeps.gathered

/-- What a step attaches is found, if members of the entry for the name go to the type. -/
theorem Bodies.of_step (prepared : c.Prepared n l₂ l) (plain : n ≠ globalsName)
    (step : Step l c es d) (keeps : Keeps n l₂ c d)
    (aimed : ∀ {s t}, (c.library l).types[n]? = some s → c.Meets n l₂ t → c.storage s = t) :
    Bodies n l₂ es d := by
  have readable := prepared.readable
  have registry := readable.registry
  -- a type of the name that the library owns is its entry
  have place {s} (owned : c.Owned l s) (named : d.typeName s = n) :
      ∃ t, c.Meets n l₂ t ∧ c.storage s = t := by
    rw [step.typeName readable owned.bound] at named
    have entry : (c.library l).types[n]? = some s := by
      rcases prepared.only s owned.library with rfl | entry
      · exact absurd (named.symm.trans (registry.globals readable.inside).name) plain
      · rwa [named] at entry
    obtain ⟨t, meets⟩ := prepared.gathered.resolve_left fun unheard => by
      rw [unheard] at entry
      cases entry
    exact ⟨t, meets, aimed entry meets⟩
  refine ⟨fun {s m} inside => ?_, fun {s m} inside => ?_⟩
  · obtain ⟨owned, known, found⟩ := step.attached inside
    refine ⟨Nat.lt_of_lt_of_le owned.bound (step.types_size_le readable), known,
      fun named table holds unlisted => ?_⟩
    obtain ⟨t, meets, rfl⟩ := place owned named
    obtain ⟨k, -, entry⟩ := meets.place
    exact ⟨_, keeps.meets _ meets, found (registry.entry entry).bound table holds unlisted⟩
  · obtain ⟨owned, known, found⟩ := step.merged prepared.tables inside
    refine ⟨Nat.lt_of_lt_of_le owned.bound (step.types_size_le readable), known, fun named => ?_⟩
    obtain ⟨t, meets, rfl⟩ := place owned named
    exact ⟨_, keeps.meets _ meets, found⟩

/-- A reading for another library, which declares the name as a whole. -/
theorem Reading.declaring (prepared : c.Prepared n l₂ l) (other : l ≠ l₂) (added : 2 ≤ l₂.index)
    (plain : n ≠ globalsName) (bodies : Bodies n l₂ before c) (reading : Reading l c h d)
    (whole : ∀ t, .declared n t true ∉ h.events) :
    d.Prepared n l₂ l ∧ (d.library l₂).types[n]? = (c.library l₂).types[n]? ∧
      Bodies n l₂ (before ++ h.events) d := by
  induction reading with
  | start => exact ⟨prepared, rfl, by simpa using bodies⟩
  | step reading step ih =>
    simp only [History.events_append, List.mem_append, not_or] at whole
    obtain ⟨prepared, same, bodies⟩ := ih fun t => (whole t).1
    have readable := prepared.readable
    -- the other library has no entry that this reading could have made
    obtain ⟨keeps, lookup⟩ := step.keeps_declaring readable prepared.among other added
      prepared.gathered fun t => (whole t).2
    refine ⟨prepared.step step keeps, lookup.trans same, ?_⟩
    rw [History.events_append, ← List.append_assoc]
    refine (bodies.kept readable step keeps).append (.of_step prepared plain step keeps ?_)
    intro s t entry meets
    obtain rfl := (meets.only entry).resolve_right fun both => other both.1
    exact followReopenings_of_stands _ meets.stands

/-- A reading for the library that reopens the type. -/
theorem Reading.reopening (prepared : c.Prepared n l l) (free : (c.library l).types[n]? = none)
    (plain : n ≠ globalsName) (bodies : Bodies n l before c) (reading : Reading l c h d)
    (part : ∀ t, .declared n t false ∉ h.events) (bare : Event.Bare n h.events) :
    d.Prepared n l l ∧ d.Links n l h.events ∧ Bodies n l (before ++ h.events) d := by
  induction reading with
  | start =>
    refine ⟨prepared, fun s entry => ?_, by simpa using bodies⟩
    rw [free] at entry
    cases entry
  | step reading step ih =>
    simp only [History.events_append, List.mem_append, not_or] at part bare ⊢
    obtain ⟨prepared, links, bodies⟩ := ih (fun t => (part t).1) bare.of_append
    have readable := prepared.readable
    -- the entry of this library reopens the type, and its super type leads there
    have keeps := step.keeps_reopening readable prepared.among prepared.gathered fun t => (part t).2
    refine ⟨prepared.step step keeps,
      step.links readable prepared.gathered keeps links bare, ?_⟩
    rw [← List.append_assoc]
    refine (bodies.kept readable step keeps).append (.of_step prepared plain step keeps ?_)
    exact fun entry meets => meets.storage readable.registry links entry

/-! ## Either order

In the one order the declaration comes first and the reopening finds it; in the other one the
reopening creates what the declaration takes over. Both end with the same picture, from which the
rest follows. -/

/-- Two descriptions are read, each for its library, in one order or the other. -/
inductive ReadBoth (c : Catalog) (l₁ : LibraryId) (source₁ : String) (l₂ : LibraryId)
    (source₂ : String) : Report Unit → Report Unit → Catalog → Prop
  | forward : ReadBoth c l₁ source₁ l₂ source₂ (c.ingest l₁ source₁)
      ((c.ingest l₁ source₁).catalog.ingest l₂ source₂)
      ((c.ingest l₁ source₁).catalog.ingest l₂ source₂).catalog
  | backward : ReadBoth c l₁ source₁ l₂ source₂
      ((c.ingest l₂ source₂).catalog.ingest l₁ source₁) (c.ingest l₂ source₂)
      ((c.ingest l₂ source₂).catalog.ingest l₁ source₁).catalog

/-- The members from bodies of declarations of the name are found in the type, which owns what is
found. An overload is found as what it was folded into. -/
structure BodiesFound (d : Catalog) (n : String) (t : TypeId) (es : List Event) : Prop where
  property : ∀ {s reopens m}, .declared n s reopens ∈ es → .attached s m ∈ es →
    (d.member m).IsProperty →
      ∃ k, d.property? t (d.member m).name = some k ∧ (d.member k).owner = some t
  operation : ∀ {s reopens m}, .declared n s reopens ∈ es → .attached s m ∈ es →
    (d.member m).IsOperation → m ∉ (d.type s).constructors →
      ∃ k, d.operation? t (d.member m).name = some k ∧ (d.member k).owner = some t
  overload : ∀ {s reopens m}, .declared n s reopens ∈ es → .merged s m ∈ es →
    ∃ k, d.operation? t (d.member m).name = some k ∧ (d.member k).owner = some t

theorem Bodies.found (bodies : Bodies n l₂ es d) (registry : Registry d) (tables : d.Tables)
    (meets : d.Meets n l₂ t)
    (named : ∀ {s reopens}, .declared n s reopens ∈ es → d.typeName s = n) :
    BodiesFound d n t es := by
  have storage : d.storage t = t := followReopenings_of_stands _ meets.stands
  have lookup {table name} (found : d.Finds n l₂ table name) :
      ∃ k, (table.of (d.type (d.storage t)))[name]? = some k ∧ (d.member k).owner = some t := by
    obtain ⟨u, same, inside⟩ := found
    obtain rfl := meets.unique registry same
    rw [Std.TreeMap.mem_iff_isSome_getElem?, Option.isSome_iff_exists] at inside
    obtain ⟨k, entry⟩ := inside
    exact ⟨k, by rw [storage]; exact entry, (tables table _ name k entry).2.1⟩
  refine ⟨fun declared inside body => ?_, fun declared inside body unlisted => ?_,
    fun declared inside => ?_⟩
  · exact lookup ((bodies.attached inside).2.2 (named declared) .properties body nofun)
  · exact lookup ((bodies.attached inside).2.2 (named declared) .operations body fun _ => unlisted)
  · exact lookup ((bodies.merged inside).2.2 (named declared))

/-- A name that no added library has an entry for is gathered. -/
theorem Catalog.Owners.gathered (owners : Owners c) (registry : Registry c)
    (fresh : ∀ k : LibraryId, 2 ≤ k.index → (c.library k).types[n]? = none) :
    c.Gathered n l₂ := by
  have place {k : LibraryId} {t} (entry : (c.library k).types[n]? = some t) :
      k = primitives ∨ k = Catalog.hidden := by
    refine eq_of_not_added fun added => ?_
    rw [fresh k added] at entry
    cases entry
  refine or_iff_not_imp_left.2 fun heard => ?_
  simp only [Unheard, not_forall, ← ne_eq, Option.ne_none_iff_exists'] at heard
  obtain ⟨k, t, entry⟩ := heard
  -- the primitives and the hidden library do not share names
  have only {k' : LibraryId} {s} (entry' : (c.library k').types[n]? = some s) : s = t := by
    have apart {u v} (primitive : (c.library primitives).types[n]? = some u)
        (placeholder : (c.library Catalog.hidden).types[n]? = some v) : False := by
      rw [owners.apart primitive] at placeholder
      cases placeholder
    rcases place entry with rfl | rfl <;> rcases place entry' with rfl | rfl
    · exact Option.some.inj (entry'.symm.trans entry)
    · exact (apart entry entry').elim
    · exact (apart entry' entry).elim
    · exact Option.some.inj (entry'.symm.trans entry)
  refine ⟨t, ?_, ⟨k, ?_, entry⟩, fun entry' => .inl (only entry')⟩
  · refine decide_eq_false (registry.standing ?_ entry)
    rcases place entry with rfl | rfl <;> decide
  · exact mem_tiers.2 ((place entry).imp_right .inl)

theorem readable_after {commands : List Command} (registered : l ∈ (after commands).registered) :
    (after commands).Readable l := by
  have registry := registry_after commands
  exact registry.readable (registry.registered l registered)

theorem prepared_after {commands : List Command} (registered : l ∈ (after commands).registered)
    (gathered : (after commands).Gathered n l₂) : (after commands).Prepared n l₂ l := by
  have readable := readable_after registered
  exact ⟨readable, mem_tiers.2 (.inr (.inr registered)), ownsOnly_after commands readable.two_le,
    tables_after commands, gathered⟩

/-- A reading for a registered library is a command of the session. -/
theorem ingest_after {commands : List Command} (registered : l ∈ (after commands).registered)
    (source : String) :
    ((after commands).ingest l source).catalog = after (commands ++ [.ingest l source]) := by
  have readable := readable_after registered
  rw [after_concat, perform, if_pos ⟨readable.two_le, readable.inside⟩]

/-- A reading leaves the libraries registered. -/
theorem registered_ingest {commands : List Command} {k : LibraryId}
    (registered : l ∈ (after commands).registered) (other : k ∈ (after commands).registered)
    (source : String) : k ∈ (after (commands ++ [.ingest l source])).registered := by
  have readable := readable_after registered
  obtain ⟨h, reading, -⟩ := ingest_reading readable source
  rw [← ingest_after registered, reading.registered readable]
  exact other

section Readings

variable {commands : List Command} {k : LibraryId}
  (registered : l ∈ (after commands).registered) (other : k ∈ (after commands).registered)
  (source : String)

include registered other

/-- After a first reading another one may follow. -/
theorem readable_ingest : ((after commands).ingest l source).catalog.Readable k := by
  rw [ingest_after registered]
  exact readable_after (registered_ingest registered other source)

theorem prepared_ingest
    (gathered : ((after commands).ingest l source).catalog.Gathered n l₂) :
    ((after commands).ingest l source).catalog.Prepared n l₂ k := by
  rw [ingest_after registered] at gathered ⊢
  exact prepared_after (registered_ingest registered other source) gathered

end Readings

/-- What two readings came to, one that declares the name and one that reopens it. -/
structure Met (d : Catalog) (n : String) (l₁ l₂ : LibraryId) (t : TypeId) (es : List Event) :
    Prop where
  entry : (d.library l₁).types[n]? = some t
  registry : Registry d
  tables : d.Tables
  gathered : d.Gathered n l₂
  bodies : Bodies n l₂ es d
  named : ∀ {s reopens}, .declared n s reopens ∈ es → d.typeName s = n

theorem Met.found (met : Met d n l₁ l₂ t es) (different : l₁ ≠ l₂) :
    d.resolve? n = some t ∧ ∀ fs ⊆ es, BodiesFound d n t fs := by
  obtain ⟨u, meets⟩ := met.gathered.resolve_left fun unheard => by
    have entry := met.entry
    rw [unheard] at entry
    cases entry
  obtain rfl := (meets.only met.entry).resolve_right fun same => different same.1
  exact ⟨meets.resolve? met.registry, fun fs sub => (met.bodies.subset sub).found met.registry
    met.tables meets fun inside => met.named (sub inside)⟩

section Orders

variable {c e d : Catalog} {h₁ h₂ : History} (different : l₁ ≠ l₂) (added : 2 ≤ l₂.index)
  (free : (c.library l₂).types[n]? = none) (declares : .declared n t false ∈ h₁.events)
  (whole : ∀ t, .declared n t true ∉ h₁.events) (part : ∀ t, .declared n t false ∉ h₂.events)
  (bare : Event.Bare n h₂.events)

include different added free declares whole part bare

/-- The name is declared first. -/
theorem met_forward (first : c.Prepared n l₂ l₁) (reading₁ : Reading l₁ c h₁ e)
    (next : e.Gathered n l₂ → e.Prepared n l₂ l₂) (reading₂ : Reading l₂ e h₂ d) :
    Met d n l₁ l₂ t (h₁.events ++ h₂.events) := by
  obtain ⟨plain, -, -, entry⟩ := reading₁.of_declared first.readable declares
  obtain ⟨after₁, same, bodies⟩ :=
    reading₁.declaring first different added plain (.nil n l₂ _) whole
  have second := next after₁.gathered
  obtain ⟨last, -, bodies⟩ :=
    reading₂.reopening second (same.trans free) plain bodies part bare
  refine ⟨reading₂.entry_stays second.readable (entry rfl), last.readable.registry, last.tables,
    last.gathered, bodies, fun inside => ?_⟩
  rcases List.mem_append.1 inside with earlier | later
  · obtain ⟨-, bound, named, -⟩ := reading₁.of_declared first.readable earlier
    exact (reading₂.typeName second.readable bound).trans named
  · exact (reading₂.of_declared second.readable later).2.2.1

/-- The name is reopened first. -/
theorem met_backward (first : c.Prepared n l₂ l₂) (reading₂ : Reading l₂ c h₂ e)
    (readable : e.Readable l₁) (next : e.Gathered n l₂ → e.Prepared n l₂ l₁)
    (reading₁ : Reading l₁ e h₁ d) : Met d n l₁ l₂ t (h₂.events ++ h₁.events) := by
  obtain ⟨plain, -, -, entry⟩ := reading₁.of_declared readable declares
  obtain ⟨after₂, -, bodies⟩ := reading₂.reopening first free plain (.nil n l₂ _) part bare
  have second := next after₂.gathered
  obtain ⟨last, -, bodies⟩ := reading₁.declaring second different added plain bodies whole
  refine ⟨entry rfl, last.readable.registry, last.tables, last.gathered, bodies,
    fun inside => ?_⟩
  rcases List.mem_append.1 inside with earlier | later
  · obtain ⟨-, bound, named, -⟩ := reading₂.of_declared first.readable earlier
    exact (reading₁.typeName readable bound).trans named
  · exact (reading₁.of_declared readable later).2.2.1

end Orders

/-- Whichever of the two descriptions is read first, both together come to one type. -/
theorem ReadBoth.met {commands : List Command} {source₁ source₂ : String} {r₁ r₂ : Report Unit}
    (both : ReadBoth (after commands) l₁ source₁ l₂ source₂ r₁ r₂ d)
    (registered₁ : l₁ ∈ (after commands).registered)
    (registered₂ : l₂ ∈ (after commands).registered) (different : l₁ ≠ l₂)
    (fresh : ∀ k : LibraryId, 2 ≤ k.index → ((after commands).library k).types[n]? = none)
    (declares : .declared n t false ∈ r₁.events) (whole : ∀ t, .declared n t true ∉ r₁.events)
    (part : ∀ t, .declared n t false ∉ r₂.events) (bare : Event.Bare n r₂.events) :
    ∃ es, Met d n l₁ l₂ t es ∧ r₁.events ⊆ es ∧ r₂.events ⊆ es := by
  have start : (after commands).Gathered n l₂ :=
    (owners_after commands).gathered (registry_after commands) fresh
  have two_le := ((registry_after commands).registered l₂ registered₂).1
  -- the two orders, with the roles of the readings exchanged
  cases both with
  | forward =>
    have first := prepared_after registered₁ start
    have readable := readable_ingest registered₁ registered₂ source₁
    have next (gathered : ((after commands).ingest l₁ source₁).catalog.Gathered n l₂) :=
      prepared_ingest registered₁ registered₂ source₁ gathered
    obtain ⟨h₁, reading₁, events₁⟩ := ingest_reading first.readable source₁
    obtain ⟨h₂, reading₂, events₂⟩ := ingest_reading readable source₂
    rw [← events₁] at declares whole ⊢
    rw [← events₂] at part bare ⊢
    exact ⟨_, met_forward different two_le (fresh l₂ two_le) declares whole part bare first
      reading₁ next reading₂, List.subset_append_left _ _, List.subset_append_right _ _⟩
  | backward =>
    have first := prepared_after registered₂ start
    have readable := readable_ingest registered₂ registered₁ source₂
    have next (gathered : ((after commands).ingest l₂ source₂).catalog.Gathered n l₂) :=
      prepared_ingest registered₂ registered₁ source₂ gathered
    obtain ⟨h₂, reading₂, events₂⟩ := ingest_reading first.readable source₂
    obtain ⟨h₁, reading₁, events₁⟩ := ingest_reading readable source₁
    rw [← events₁] at declares whole ⊢
    rw [← events₂] at part bare ⊢
    exact ⟨_, met_backward different two_le (fresh l₂ two_le) declares whole part bare first
      reading₂ readable next reading₁, List.subset_append_right _ _, List.subset_append_left _ _⟩

end IdlCatalog
