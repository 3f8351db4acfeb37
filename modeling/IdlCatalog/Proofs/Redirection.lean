/-
# IdlCatalog.Proofs.Redirection — where the members of a reopened type go

A partial declaration of a type that another library declares gives the library a type of its own
for the name. Its super type is the type that it reopens, and its members go to the super type. But
a clause before the body sets the super type as well, and a declaration of the same name within the
body makes the type one that stands on its own. The members that are read after that go elsewhere.

The events say where: `Event.target` is computed from those before the member, and the member ends
up there, whatever else the description says. So it ends up on the reopened type if and only if that
is what its target still is.

## From one step to a reading

Each of the facts is first shown of one step, in the order in which they depend on each other: which
types the events of a step are about, which super types it gives, what becomes of the entry that
reopens the type, and where it stores a member. `Redirection` puts them into one invariant with
three cases, by what the first declaration of the name was. It is carried along the chain of steps,
and the end of the chain is the claim about the whole reading.
-/
import IdlCatalog.Proofs.Grammar.Gathering
import IdlCatalog.Proofs.Session

namespace IdlCatalog

open Grammar Catalog

variable {c d : Catalog} {s t u o : TypeId} {m : MemberId} {l : LibraryId} {n : String}
  {es more : List Event} {h : History} {reopens : Bool} {table : Table}

/-! ## What the events say

The target is a function of events alone. As long as the name has not been declared as a whole by
the library, it is the last super type that the type was given, and at first the one that it
reopens; from a declaration as a whole on it is the type itself. -/

namespace Event

/-- The first declaration of the name: the type that it is about, and whether it is a partial
one. -/
def firstDeclaration? (n : String) (es : List Event) : Option (TypeId × Bool) :=
  es.findSome? fun
    | .declared name t reopens => if name = n then some (t, reopens) else none
    | _ => none

/-- The super types that are given to the type by clauses, in order. -/
def superTypesOf (s : TypeId) (es : List Event) : List TypeId :=
  es.filterMap fun
    | .extended t superType => if t = s then some superType else none
    | _ => none

/-- Where members go that are read after these events for a type `s` which was declared to reopen
`o`: to the super type that it was given last, and to `s` itself once it was declared as a whole. -/
def target (n : String) (s o : TypeId) (es : List Event) : TypeId :=
  if .declared n s false ∈ es then s else (superTypesOf s es).getLast?.getD o

theorem firstDeclaration?_append (n : String) (es more : List Event) :
    firstDeclaration? n (es ++ more) = (firstDeclaration? n es).or (firstDeclaration? n more) :=
  List.findSome?_append

theorem firstDeclaration?_eq_none :
    firstDeclaration? n es = none ↔ ∀ t reopens, .declared n t reopens ∉ es := by
  rw [firstDeclaration?, List.findSome?_eq_none_iff]
  refine ⟨fun none t reopens inside => ?_, fun none e inside => ?_⟩
  · simpa using none _ inside
  · split
    · next t reopens =>
      refine if_neg ?_
      rintro rfl
      exact none t reopens inside
    · rfl

theorem mem_superTypesOf : u ∈ superTypesOf s es ↔ .extended s u ∈ es := by
  rw [superTypesOf, List.mem_filterMap]
  refine ⟨?_, fun inside => ⟨_, inside, if_pos rfl⟩⟩
  rintro ⟨e, inside, shape⟩
  split at shape
  · split at shape
    · next same =>
      cases shape
      exact same ▸ inside
    · cases shape
  · cases shape

theorem superTypesOf_append (s : TypeId) (es more : List Event) :
    superTypesOf s (es ++ more) = superTypesOf s es ++ superTypesOf s more :=
  List.filterMap_append

theorem superTypesOf_eq_nil (none : ∀ u, .extended s u ∉ es) : superTypesOf s es = [] :=
  List.eq_nil_iff_forall_not_mem.2 fun u inside => none u (mem_superTypesOf.1 inside)

/-- The type that a clause or a member belongs to. -/
def subject? : Event → Option TypeId
  | .extended t _ | .attached t _ | .merged t _ => some t
  | _ => none

end Event

/-! ## Super types along a reading

A super type is only ever set with an event, and only to a type that exists and reopens no other; so
following the reopening ends after one step. -/

theorem Step.subject {e : Event} (step : Step l c es d) (inside : e ∈ es)
    (subject : e.subject? = some t) : c.Owned l t := by
  -- only edits are about a type; the other events name the types that they introduce or find
  cases step with
  | edit edit =>
    cases edit with
    | superType owned | merged owned =>
      cases List.mem_singleton.1 inside
      cases subject
      exact owned
    | property owned | operation owned | constructor owned =>
      simp only [documentMember, List.mem_cons, List.not_mem_nil, or_false] at inside
      rcases inside with rfl | rfl
      · cases subject
        exact owned
      · cases subject
    | parameter =>
      cases List.mem_singleton.1 inside
      cases subject
    | _ => cases inside
  | reference =>
    cases List.mem_singleton.1 inside
    cases subject
  | declaration _ _ declaration =>
    cases declaration with
    | again =>
      cases List.mem_singleton.1 inside
      cases subject
    | refused => cases inside
    | reopened | upgraded | created =>
      simp only [introducedEvents, List.mem_cons, List.not_mem_nil, or_false] at inside
      rcases inside with rfl | rfl <;> cases subject

/-- Clauses and members belong to types that exist. -/
theorem Reading.subject {e : Event} (readable : c.Readable l) (reading : Reading l c h d)
    (inside : e ∈ h.events) (subject : e.subject? = some t) : t.index < d.types.size := by
  induction reading with
  | start => cases inside
  | step reading step ih =>
    have bound := step.types_size_le (reading.readable readable)
    rw [History.events_append, List.mem_append] at inside
    rcases inside with earlier | now
    · exact Nat.lt_of_lt_of_le (ih earlier) bound
    · exact Nat.lt_of_lt_of_le (step.subject now subject).bound bound

/-- A clause is a step of its own. -/
theorem Step.extended (step : Step l c es d) (inside : .extended s u ∈ es) :
    es = [.extended s u] ∧ d = c.setSuperType s u ∧ u.index < c.types.size := by
  cases step with
  | edit edit =>
    cases edit with
    | superType _ bound =>
      cases List.mem_singleton.1 inside
      exact ⟨rfl, rfl, bound⟩
    | property | operation | constructor => simp [documentMember] at inside
    | _ => simp at inside
  | reference => simp at inside
  | declaration _ _ declaration => cases declaration <;> simp [introducedEvents] at inside

/-- A type that was there before has the super type that the step gave it, or else the same. -/
theorem Step.superType (readable : c.Readable l) (step : Step l c es d)
    (bound : s.index < c.types.size) :
    (d.type s).superType = (Event.superTypesOf s es).getLast?.or (c.type s).superType := by
  by_cases given : ∃ u, .extended s u ∈ es
  · obtain ⟨u, given⟩ := given
    obtain ⟨rfl, rfl, -⟩ := step.extended given
    rw [(extends_setSuperType c s u).2.1 bound]
    simp [Event.superTypesOf]
  · rw [Event.superTypesOf_eq_nil fun u inside => given ⟨u, inside⟩]
    exact ((step.files readable).superType s bound).resolve_right given

/-- What clauses give as super types are types that do not reopen others. -/
theorem Reading.extended (readable : c.Readable l) (stands : h.Stands) (reading : Reading l c h d)
    (inside : .extended s u ∈ h.events) : u.index < d.types.size ∧ d.isReopening u = false := by
  induction reading with
  | start => cases inside
  | @step h e d es reading step ih =>
    have readable := reading.readable readable
    rw [History.events_append, List.mem_append] at inside
    -- a super type given earlier still stands; one given now does so by the assumption on the
    -- step
    rcases inside with earlier | now
    · have before : History.Stands h := fun es d inside =>
        stands es d (List.mem_append_left _ inside)
      obtain ⟨bound, stands⟩ := ih before earlier
      exact ⟨Nat.lt_of_lt_of_le bound (step.types_size_le readable),
        step.stands readable bound stands⟩
    · obtain ⟨-, -, bound⟩ := step.extended now
      exact ⟨Nat.lt_of_lt_of_le bound (step.types_size_le readable),
        stands es d (List.mem_append_right _ List.mem_cons_self) s u now⟩

/-! ## The type that reopens another one

Once it is there, the library has it under the name for good. What may still change is its kind and
its super type, and both changes are events. -/

/-- The library has the type for the name, which was declared to reopen `o`. -/
structure Catalog.Redirects (c : Catalog) (l : LibraryId) (n : String) (s o : TypeId)
    (es : List Event) : Prop where
  entry : (c.library l).types[n]? = some s
  origin : o.index < c.types.size ∧ c.isReopening o = false
  whole : .declared n s false ∈ es → c.isReopening s = false
  part : .declared n s false ∉ es → c.isReopening s = true ∧
    (c.type s).superType = some ((Event.superTypesOf s es).getLast?.getD o)

/-- Members of the type go to its target, if clauses give no super types that reopen others. -/
theorem Catalog.Redirects.storage (redirects : c.Redirects l n s o es) (registry : Registry c)
    (given : ∀ u, .extended s u ∈ es → u.index < c.types.size ∧ c.isReopening u = false) :
    c.storage s = Event.target n s o es ∧ (Event.target n s o es).index < c.types.size := by
  rw [Event.target]
  split
  · next whole =>
    exact ⟨followReopenings_of_stands _ (redirects.whole whole),
      (registry.entry redirects.entry).bound⟩
  · next part =>
    obtain ⟨reopening, superType⟩ := redirects.part part
    have last : ((Event.superTypesOf s es).getLast?.getD o).index < c.types.size ∧
        c.isReopening ((Event.superTypesOf s es).getLast?.getD o) = false := by
      cases last : (Event.superTypesOf s es).getLast? with
      | none => exact redirects.origin
      | some u => exact given u (Event.mem_superTypesOf.1 (List.mem_of_getLast? last))
    exact ⟨storage_of_reopening reopening superType last.2, last.1⟩

/-- A declaration as a whole ends the reopening, and nothing else does. -/
theorem Step.isReopening_entry (readable : c.Readable l) (step : Step l c es d)
    (entry : (c.library l).types[n]? = some s) :
    (.declared n s false ∈ es → d.isReopening s = false) ∧
      (.declared n s false ∉ es → d.isReopening s = c.isReopening s) := by
  have registry := readable.registry
  have bound := (registry.entry entry).bound
  rcases step.about readable n with ⟨untouched, silent⟩ | ⟨t, reference, rfl⟩ |
    ⟨kind, reopens, answer, plain, declared, declaration⟩
  · exact ⟨fun inside => absurd inside (silent s false), fun _ => untouched.reopens l s entry⟩
  · refine ⟨by simp, fun _ => ?_⟩
    cases reference with
    | own | tier => rfl
    | placeholder _ unknown =>
      have introduced := introduced_addPlaceholder registry.hidden_lt (registry.hidden_free unknown)
      refine (introduced.others s bound ?_).isReopening
      rintro rfl
      have new := addPlaceholder_of_none (registry.hidden_free unknown)
      exact absurd bound (by rw [new]; exact Nat.lt_irrefl _)
  · -- the library has an entry for the name, so a declaration finds it there
    have same {v} (known : existing? l n c = some v) : v = s := by
      rw [existing?_eq plain, entry] at known
      exact (Option.some.inj known).symm
    cases declaration with
    | again => exact ⟨by simp, fun _ => rfl⟩
    | reopened _ _ free => simp [free] at entry
    | refused =>
      exact ⟨by simp, fun _ =>
        ((quiet_pushType c _ (.inl rfl) : Quiet c _).old s bound).isReopening⟩
    | upgraded known free entered =>
      obtain rfl := same known
      have introduced := introduces_upgraded registry readable.inside plain declared known free
        entered
      exact ⟨fun _ => introduced.introduced.stands declared.2,
        fun none => absurd List.mem_cons_self none⟩
    | created unknown => simp [(existing?_eq_none plain unknown).1] at entry

theorem Catalog.Redirects.step (redirects : c.Redirects l n s o es) (readable : c.Readable l)
    (step : Step l c more d) : d.Redirects l n s o (es ++ more) := by
  obtain ⟨known, stands⟩ := redirects.origin
  have bound := (readable.registry.entry redirects.entry).bound
  obtain ⟨ends, stays⟩ := step.isReopening_entry readable redirects.entry
  refine ⟨step.entry_stays readable redirects.entry,
    ⟨Nat.lt_of_lt_of_le known (step.types_size_le readable), step.stands readable known stands⟩,
    fun whole => ?_, fun part => ?_⟩
  · rcases List.mem_append.1 whole with earlier | now
    · exact step.stands readable bound (redirects.whole earlier)
    · exact ends now
  · rw [List.mem_append, not_or] at part
    obtain ⟨reopening, superType⟩ := redirects.part part.1
    refine ⟨(stays part.2).trans reopening, ?_⟩
    -- the last super type that was given wins
    rw [step.superType readable bound, superType, Event.superTypesOf_append, List.getLast?_append]
    cases (Event.superTypesOf s more).getLast? <;> rfl

/-! ## The first declaration

Until the library declares the name, nothing is redirected. The first declaration decides: as a
whole or in part. -/

/-- What a step may do about a name that stands for `o` and that the library has no entry for. -/
inductive Catalog.First (l : LibraryId) (n : String) (o : TypeId) (c : Catalog) :
    List Event → Catalog → Prop
  | silent {es : List Event} {d : Catalog} (untouched : Untouched n c d)
      (none : Event.firstDeclaration? n es = none) : First l n o c es d
  | reopened {d : Catalog} (plain : n ≠ globalsName)
      (entered : (c.newType n .reopening).2.addType l ⟨c.types.size⟩ = .ok d) :
      First l n o c (introducedEvents l n ⟨c.types.size⟩ true d)
        ((d.document l (.type ⟨c.types.size⟩)).setSuperType ⟨c.types.size⟩ o)
  | declared {es : List Event} {d : Catalog} {t : TypeId}
      (first : Event.firstDeclaration? n es = some (t, false)) : First l n o c es d

theorem Step.first (readable : c.Readable l) (owns : OwnsEntries c l) (step : Step l c es d)
    (entry : (c.library l).types[n]? = none) (resolved : c.resolve? n = some o) :
    First l n o c es d := by
  have registry := readable.registry
  rcases step.about readable n with ⟨untouched, none⟩ | ⟨t, reference, rfl⟩ |
    ⟨kind, reopens, answer, plain, declared, declaration⟩
  · exact .silent untouched (Event.firstDeclaration?_eq_none.2 none)
  · cases reference with
    | own | tier => exact .silent (.refl n _) rfl
    | placeholder _ unknown =>
      rw [unknown] at resolved
      cases resolved
  · -- the library has no entry for the name yet, and what it resolves to is the type of another
    cases declaration with
    | again known own =>
      have inside := owns.entry_of_owned readable plain (existing?_isEntry registry plain known) own
      rw [entry] at inside
      cases inside
    | @reopened u e known _ free entered =>
      rw [existing?_eq plain, entry, Option.none_or, resolved] at known
      obtain rfl := Option.some.inj known
      exact .reopened plain entered
    | refused _ _ taken =>
      rw [entry] at taken
      cases taken
    | @upgraded t =>
      exact .declared (t := t) (by simp [introducedEvents, Event.firstDeclaration?])
    | created unknown =>
      have nothing := (existing?_eq_none plain unknown).2
      rw [resolved] at nothing
      cases nothing

/-- The first declaration, if it is a partial one, gives the library a type that reopens `o`. -/
theorem Catalog.redirects_reopened (readable : c.Readable l) (plain : n ≠ globalsName)
    (resolved : c.resolve? n = some o) (free : (c.library l).types[n]? = none)
    (entered : (c.newType n .reopening).2.addType l ⟨c.types.size⟩ = .ok d)
    (none : ∀ t reopens, .declared n t reopens ∉ es)
    (old : ∀ e t, e ∈ es → e.subject? = some t → t.index < c.types.size) :
    ((d.document l (.type ⟨c.types.size⟩)).setSuperType ⟨c.types.size⟩ o).Redirects l n
      ⟨c.types.size⟩ o (es ++ introducedEvents l n ⟨c.types.size⟩ true d) := by
  have introduced := (introduces_reopened (u := o) readable.inside plain free entered).introduced
  have known := (resolve?_isEntry readable.registry resolved).bound
  -- the reopening is new, so it is not the type that it reopens, and no event is about it
  have other : o ≠ ⟨c.types.size⟩ := fun same => absurd (same ▸ known) (Nat.lt_irrefl _)
  refine ⟨introduced.lookup_self, ⟨?_, ?_⟩, fun whole => ?_, fun _ => ⟨?_, ?_⟩⟩
  · exact Nat.lt_of_lt_of_le known introduced.size_le
  · exact (introduced.others o known other).isReopening.trans
      (resolve?_entry readable.registry resolved).2
  · rcases List.mem_append.1 whole with earlier | now
    · exact absurd earlier (none _ _)
    · simp [introducedEvents] at now
  · exact decide_eq_true (introduced.kind.reopening_iff.2 rfl)
  · have bare : Event.superTypesOf ⟨c.types.size⟩
        (es ++ introducedEvents l n ⟨c.types.size⟩ true d) = [] := by
      refine Event.superTypesOf_eq_nil fun u inside => ?_
      rcases List.mem_append.1 inside with earlier | now
      · exact absurd (old _ _ earlier rfl) (Nat.lt_irrefl _)
      · simp [introducedEvents] at now
    rw [(files_reopened readable.inside free entered).2, bare]
    rfl

/-! ## Members

A member is on a type if it belongs to the type, or to none since a later one of its name has taken
its place there; and the table of the type has an entry under its name. -/

/-- The member belongs to the type, or gave way to another one, and the type owns what it has under
the name of the member. -/
structure Catalog.StoredOn (c : Catalog) (t : TypeId) (m : MemberId) : Prop where
  owner : (c.member m).owner = some t ∨ (c.member m).owner = none
  found : ∀ table : Table, table.Holds (c.member m) →
    ∃ k, (table.of (c.type t))[(c.member m).name]? = some k ∧ (c.member k).owner = some t

theorem Catalog.Tables.found {name : String} (tables : c.Tables)
    (inside : name ∈ table.of (c.type t)) :
    ∃ k, (table.of (c.type t))[name]? = some k ∧ (c.member k).owner = some t := by
  rw [Std.TreeMap.mem_iff_isSome_getElem?, Option.isSome_iff_exists] at inside
  obtain ⟨k, entry⟩ := inside
  exact ⟨k, entry, (tables table t name k entry).2.1⟩

theorem Catalog.StoredOn.kept (stored : c.StoredOn t m) (known : m.index < c.members.size)
    (files : Files c es d) (tables : c.Tables) : d.StoredOn t m where
  owner := by
    rcases files.owner m known with same | gone
    · rw [same]
      exact stored.owner
    · exact .inr gone
  found table holds := by
    have alike := files.grows.member m known
    obtain ⟨k, entry, -⟩ := stored.found table ((alike.holds table).1 holds)
    rw [alike.name]
    refine (files.grows.tables tables).found (files.grows.entry table t _ ?_)
    rw [Std.TreeMap.mem_iff_isSome_getElem?, entry]
    rfl

/-- The event is about a member that was read for the type, other than a constructor. -/
def Event.IsMember (c : Catalog) (s : TypeId) (m : MemberId) (e : Event) : Prop :=
  e = .attached s m ∧ m ∉ (c.type s).constructors ∨ e = .merged s m

theorem Event.IsMember.subject {e : Event} (isMember : e.IsMember c s m) :
    e.subject? = some s := by
  rcases isMember with ⟨rfl, -⟩ | rfl <;> rfl

/-- A step about a member does nothing before that. -/
theorem Step.first_of_isMember {e : Event} {i : Nat} {c₀ : Catalog} (step : Step l c es d)
    (at_ : es[i]? = some e) (isMember : e.IsMember c₀ s m) : i = 0 := by
  have other {e' : Event} {i : Nat} (subject : e'.subject? = none)
      (at_ : [e'][i]? = some e) : False := by
    have inside := List.mem_of_getElem? at_
    rw [List.mem_singleton] at inside
    rw [← inside, isMember.subject] at subject
    cases subject
  -- where a step attaches a member, the event about it is the first
  cases i with
  | zero => rfl
  | succ i =>
    cases step with
    | edit edit =>
      cases edit with
      | property | operation | constructor => exact (other rfl at_).elim
      | _ => simp at at_
    | reference => simp at at_
    | declaration _ _ declaration =>
      cases declaration with
      | again => simp at at_
      | refused => simp at at_
      | reopened | upgraded | created => exact (other rfl at_).elim

/-- What a step reads for a type is stored on the type that its members go to. -/
theorem Step.stores {e : Event} (readable : c.Readable l) (tables : c.Tables)
    (step : Step l c es d) (inside : e ∈ es) (isMember : e.IsMember d s m)
    (bound : (c.storage s).index < c.types.size) :
    m.index < d.members.size ∧ d.StoredOn (c.storage s) m := by
  have tables' := (step.files readable).grows.tables tables
  rcases isMember with ⟨rfl, unlisted⟩ | rfl
  · obtain ⟨-, known, found⟩ := step.attached inside
    refine ⟨known, .inl ?_, fun table holds => tables'.found ?_⟩
    · exact (step.attached_owner tables inside).resolve_left unlisted
    · exact found bound table holds fun _ => unlisted
  · obtain ⟨-, known, found⟩ := step.merged tables inside
    obtain ⟨owner, body⟩ := step.merged_owner tables inside
    refine ⟨known, .inl owner, fun table holds => ?_⟩
    obtain rfl := Table.eq_of_holds table .operations holds body
    exact tables'.found found

/-! ## Where the members end up

The claim is about a place in the list of events. Members of earlier places stay where they are, and
the member of a step is stored where the target is at the time. -/

/-- Every member that was read for the type, other than a constructor, is stored on the target that
the type had then. -/
def Catalog.StoredByTarget (c : Catalog) (n : String) (s o : TypeId) (es : List Event) : Prop :=
  ∀ i m e, es[i]? = some e → e.IsMember c s m →
    m.index < c.members.size ∧ c.StoredOn (Event.target n s o (es.take i)) m

/-- A constructor stays one. -/
theorem Event.IsMember.before {e : Event} (isMember : e.IsMember d s m) (files : Files c es d) :
    e.IsMember c s m := by
  refine isMember.imp_left fun both => ⟨both.1, fun listed => ?_⟩
  exact both.2 (files.grows.constructors s m listed)

theorem Catalog.StoredByTarget.step (stored : c.StoredByTarget n s o es)
    (redirects : c.Redirects l n s o es)
    (given : ∀ u, .extended s u ∈ es → u.index < c.types.size ∧ c.isReopening u = false)
    (readable : c.Readable l) (tables : c.Tables) (step : Step l c more d) :
    d.StoredByTarget n s o (es ++ more) := by
  have files := step.files readable
  obtain ⟨storage, bound⟩ := redirects.storage readable.registry given
  intro i m e here isMember
  -- members of earlier steps, and then the one of this step
  by_cases earlier : i < es.length
  · rw [List.getElem?_append_left earlier] at here
    obtain ⟨known, stored⟩ := stored i m e here (isMember.before files)
    rw [List.take_append_of_le_length (Nat.le_of_lt earlier)]
    exact ⟨Nat.lt_of_lt_of_le known files.grows.size_le, stored.kept known files tables⟩
  · have after : es.length ≤ i := Nat.le_of_not_lt earlier
    rw [List.getElem?_append_right after] at here
    have first := step.first_of_isMember here isMember
    obtain rfl : i = es.length := Nat.le_antisymm (Nat.le_of_sub_eq_zero first) after
    rw [List.take_left, ← storage]
    exact step.stores readable tables (List.mem_of_getElem? here) isMember (storage ▸ bound)

/-- Where a reading stands with a name that stood for `o` before it. -/
inductive Catalog.Redirection (c : Catalog) (l : LibraryId) (n : String) (o : TypeId)
    (es : List Event) : Prop
  | undeclared (none : Event.firstDeclaration? n es = none)
      (entry : (c.library l).types[n]? = Option.none) (resolved : c.resolve? n = some o)
  | reopened {s : TypeId} (first : Event.firstDeclaration? n es = some (s, true))
      (redirects : c.Redirects l n s o es) (stored : c.StoredByTarget n s o es)
  | declared {t : TypeId} (first : Event.firstDeclaration? n es = some (t, false))

theorem Reading.redirection (readable : c.Readable l) (owns : OwnsEntries c l) (tables : c.Tables)
    (entry : (c.library l).types[n]? = none) (resolved : c.resolve? n = some o)
    (stands : h.Stands) (reading : Reading l c h d) : d.Redirection l n o h.events := by
  induction reading with
  | start => exact .undeclared rfl entry resolved
  | @step h d e more reading step ih =>
    have before : History.Stands h := fun es d inside =>
      stands es d (List.mem_append_left _ inside)
    have given {s u} (inside : .extended s u ∈ History.events h) :=
      reading.extended readable before inside
    have old {e : Event} {t} (inside : e ∈ History.events h) :=
      reading.subject (t := t) readable inside
    -- the facts about the start, moved to the catalog before the last step
    replace tables := (reading.grows readable).tables tables
    replace owns := reading.ownsEntries readable owns
    replace readable := reading.readable readable
    rw [History.events_append]
    cases ih before with
    | reopened first redirects stored =>
      refine .reopened ?_ (redirects.step readable step)
        (stored.step redirects (fun _ => given) readable tables step)
      rw [Event.firstDeclaration?_append, first, Option.some_or]
    | @declared t first =>
      refine .declared (t := t) ?_
      rw [Event.firstDeclaration?_append, first, Option.some_or]
    | undeclared none entry resolved =>
      have append : Event.firstDeclaration? n (History.events h ++ more) =
          Event.firstDeclaration? n more := by
        rw [Event.firstDeclaration?_append, none, Option.none_or]
      cases step.first readable owns entry resolved with
      | silent untouched none' =>
        exact .undeclared (append.trans none') ((untouched.lookup l).trans entry)
          (untouched.resolve?.trans resolved)
      | @declared _ _ t first => exact .declared (t := t) (append.trans first)
      | reopened plain entered =>
        refine .reopened ?_ (redirects_reopened readable plain resolved entry entered
          (Event.firstDeclaration?_eq_none.1 none) fun e t => old) ?_
        · rw [append]
          simp [introducedEvents, Event.firstDeclaration?]
        · -- the type is new, so nothing was read for it so far
          intro i m e here isMember
          rcases List.mem_append.1 (List.mem_of_getElem? here) with earlier | now
          · exact absurd (old earlier isMember.subject) (Nat.lt_irrefl _)
          · exact absurd (step.subject now isMember.subject).bound (Nat.lt_irrefl _)

/-- Let a library be added after any session, let a name stand for a type `o` then, and let a
description be read for the library whose first declaration of the name is a partial one. What it
declares then is about a type `s`, and every property and operation that it reads for `s` is stored
on the target that the events before it give. So a member that was not replaced since is stored on
`o` if and only if `o` is still the target: if no other super type was given last and no declaration
of the name as a whole came before. -/
theorem reopened_members_stored (commands : List Command) (library : String) (readOnly : Bool)
    (docs : DocumentationProvider) (source n : String) {o s : TypeId} :
    let added := (after commands).addLibrary library readOnly docs
    let report := added.2.ingest added.1 source
    added.2.resolve? n = some o → Event.firstDeclaration? n report.events = some (s, true) →
      ∀ i m e, report.events[i]? = some e → e.IsMember report.catalog s m →
        let target := Event.target n s o (report.events.take i)
        report.catalog.StoredOn target m ∧
          ((report.catalog.member m).owner ≠ none →
            (report.catalog.StoredOn o m ↔ target = o)) := by
  intro added report resolved first i m e here isMember target
  have registry := registry_after commands
  have readable := readable_addLibrary registry library readOnly docs
  have owns := ownsEntries_addLibrary registry library readOnly docs
  have tables : added.2.Tables :=
    (sameContents_addLibrary _ library readOnly docs).tables (tables_after commands)
  have fresh : (added.2.library added.1).types[n]? = none := by
    rw [library_addLibrary, addLibrary_fst, if_pos rfl]
    simp
  -- a library that was just added owns nothing and has no entry, so the chain starts undeclared
  obtain ⟨h, reading, events, stands⟩ := ingest_history readable source
  have stored : report.catalog.StoredOn target m := by
    cases events ▸ reading.redirection readable owns tables fresh resolved stands with
    | undeclared none =>
      rw [first] at none
      cases none
    | declared whole =>
      rw [first] at whole
      cases whole
    | reopened first' _ stored =>
      rw [first] at first'
      cases first'
      exact (stored i m e here isMember).2
  refine ⟨stored, fun owned => ⟨fun onOrigin => ?_, fun same => same ▸ stored⟩⟩
  have owner := stored.owner.resolve_right owned
  exact Option.some.inj (owner.symm.trans (onOrigin.owner.resolve_right owned))

/-- A partial interface without clauses: its attribute is stored on the interface. -/
theorem reopened_members_stored_plain :
    let commands := [.addLibrary "a" false .silent, .ingest ⟨2⟩ "interface X { };"]
    let added := (after commands).addLibrary "b" false .silent
    let report := added.2.ingest added.1 "partial interface X { attribute long a; };"
    added.2.resolve? "X" = some ⟨21⟩ ∧
      Event.firstDeclaration? "X" report.events = some (⟨23⟩, true) ∧
      report.events[3]? = some (.attached ⟨23⟩ ⟨0⟩) ∧
      Event.target "X" ⟨23⟩ ⟨21⟩ (report.events.take 3) = ⟨21⟩ ∧
      report.catalog.StoredOn ⟨21⟩ ⟨0⟩ := by
  intro commands added report
  have facts : added.2.resolve? "X" = some ⟨21⟩ ∧
      Event.firstDeclaration? "X" report.events = some (⟨23⟩, true) ∧
      report.events[3]? = some (.attached ⟨23⟩ ⟨0⟩) ∧
      ⟨0⟩ ∉ (report.catalog.type ⟨23⟩).constructors ∧
      Event.target "X" ⟨23⟩ ⟨21⟩ (report.events.take 3) = ⟨21⟩ := by
    decide +kernel
  obtain ⟨resolved, first, here, unlisted, target⟩ := facts
  have stored := (reopened_members_stored commands "b" false .silent _ "X" resolved first 3 ⟨0⟩ _
    here (.inl ⟨rfl, unlisted⟩)).1
  exact ⟨resolved, first, here, target, target ▸ stored⟩

/-- A partial interface with a super type: the description is accepted, but its attribute is stored
on the super type, and the interface that it reopens has no such property. -/
theorem reopened_members_misdirected :
    let commands := [.addLibrary "a" false .silent,
      .ingest ⟨2⟩ "interface X { }; interface Y { };"]
    let added := (after commands).addLibrary "b" false .silent
    let report := added.2.ingest added.1 "partial interface X : Y { attribute long a; };"
    report.outcome = .ok () ∧ added.2.resolve? "X" = some ⟨21⟩ ∧
      .declared "X" ⟨24⟩ true ∈ report.events ∧ .attached ⟨24⟩ ⟨0⟩ ∈ report.events ∧
      (report.catalog.member ⟨0⟩).name = "a" ∧ report.catalog.property? ⟨21⟩ "a" = none ∧
      (report.catalog.member ⟨0⟩).owner = some ⟨22⟩ := by
  decide +kernel

end IdlCatalog
