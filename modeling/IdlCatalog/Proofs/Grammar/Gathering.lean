/-
# IdlCatalog.Proofs.Grammar.Gathering — one type for a name, and one library that reopens it

A name may have entries in several libraries. It is gathered if they all are one type, but for an
entry of one library that only passes members on. The readings for that library keep the name
gathered as long as they only reopen it, and so do the readings for any other library that only
declare it. The way differs: the reopening gets a type of its own, for a declared type or for a
placeholder, or it creates the type that the declaration takes over later.

## Two orders, one picture

Of the two libraries either may be read first. If the declaring one is, the name gets a type and the
reopening finds it. If the reopening one is, it creates a type of the name itself, of the kind that
it was going to reopen, and the declaration takes this type over. `Meets` is the picture that both
orders lead to: one type that stands for the name, and at most one further entry, which reopens it.
-/
import IdlCatalog.Proofs.Grammar.Filing
import IdlCatalog.Proofs.Grammar.Meaning

namespace IdlCatalog

open Grammar Catalog

variable {c d : Catalog} {s t u : TypeId} {m : MemberId} {l k l₂ : LibraryId} {n : String}
  {kind : Kind} {es before : List Event} {h : History} {reopens : Bool}

/-! ## One type for a name

Before the first reading nobody has heard of the name, `Unheard`. After it the name `Meets` a type.
`Gathered` is either of the two, and it is the invariant of both readings. -/

/-- No library has an entry for the name. -/
def Catalog.Unheard (c : Catalog) (n : String) : Prop :=
  ∀ k : LibraryId, (c.library k).types[n]? = none

/-- All entries for the name are the type that it stands for, except that the library may have one
that only reopens it. -/
structure Catalog.Meets (c : Catalog) (n : String) (l₂ : LibraryId) (t : TypeId) : Prop where
  stands : c.isReopening t = false
  place : ∃ k ∈ c.tiers, (c.library k).types[n]? = some t
  only : ∀ {k : LibraryId} {s}, (c.library k).types[n]? = some s →
    s = t ∨ k = l₂ ∧ c.isReopening s = true

namespace Catalog.Unheard

/-- Who has not heard of a name has not when nothing changes about it. -/
theorem untouched (h : c.Unheard n) (same : Untouched n c d) : d.Unheard n :=
  fun k => (same.lookup k).trans (h k)

/-- A name that nobody has heard of stands for nothing. -/
theorem resolve? (registry : Registry c) (h : c.Unheard n) : c.resolve? n = none := by
  refine Option.eq_none_iff_forall_ne_some.2 fun t found => ?_
  obtain ⟨⟨k, -, entry⟩, -⟩ := resolve?_entry registry found
  rw [h k] at entry
  cases entry

/-- The first type for the name. -/
theorem introduced (h : c.Unheard n) (introduced : Introduced k n t kind c d)
    (other : kind ≠ .reopening) (among : k ∈ c.tiers) : d.Meets n l₂ t where
  stands := introduced.stands other
  place := by
    refine ⟨k, ?_, introduced.lookup_self⟩
    rw [tiers_congr introduced.registered]
    exact among
  only {k' s} entry := by
    rcases introduced.lookup_cases entry with ⟨-, -, same⟩ | before
    · exact .inl same
    · rw [h k'] at before
      cases before

end Catalog.Unheard

namespace Catalog.Meets

theorem untouched (h : c.Meets n l₂ t) (same : Untouched n c d) : d.Meets n l₂ t := by
  obtain ⟨k, among, entry⟩ := h.place
  refine ⟨(same.reopens k t entry).trans h.stands, ⟨k, ?_, (same.lookup k).trans entry⟩, ?_⟩
  · rw [tiers_congr same.registered]
    exact among
  · intro k' s entry
    rw [same.lookup] at entry
    rw [same.reopens k' s entry]
    exact h.only entry

theorem resolve? (registry : Registry c) (h : c.Meets n l₂ t) : c.resolve? n = some t := by
  have standing {k : LibraryId} {s} (entry : (c.library k).types[n]? = some s)
      (stands : c.isReopening s = false) : s = t := by
    rcases h.only entry with same | ⟨-, reopens⟩
    · exact same
    · rw [stands] at reopens
      cases reopens
  obtain ⟨k, among, entry⟩ := h.place
  cases primitive : (c.library primitives).types[n]? with
  | some u =>
    have stands : c.isReopening u = false :=
      decide_eq_false (registry.standing (by decide) primitive)
    rw [Catalog.resolve?, primitive, standing primitive stands]
  | none =>
    rw [Catalog.resolve?, primitive]
    have among : k ∈ Catalog.hidden :: c.registered := by
      rcases List.mem_cons.1 among with rfl | among
      · rw [primitive] at entry
        cases entry
      · exact among
    -- every library that answers answers with the type, and one does
    cases found : (Catalog.hidden :: c.registered).findSome? (c.declaredIn? · n) with
    | none =>
      have silent := List.findSome?_eq_none_iff.1 found k among
      simp [declaredIn?, entry, h.stands] at silent
    | some u =>
      obtain ⟨k', -, declared⟩ := List.exists_of_findSome?_eq_some found
      obtain ⟨entry, stands⟩ := Option.filter_eq_some_iff.1 declared
      rw [standing entry (by simpa using stands)]

theorem unique (registry : Registry c) (h : c.Meets n l₂ t) (h' : c.Meets n l₂ u) : t = u :=
  Option.some.inj ((h.resolve? registry).symm.trans (h'.resolve? registry))

/-- A library takes the type over. -/
theorem taken (h : c.Meets n l₂ t) (registry : Registry c)
    (introduced : Introduced l n t kind c d) (other : kind ≠ .reopening) (among : l ∈ c.tiers) :
    d.Meets n l₂ t where
  stands := introduced.stands other
  place := by
    refine ⟨l, ?_, introduced.lookup_self⟩
    rw [tiers_congr introduced.registered]
    exact among
  only {k s} entry := by
    by_cases here : s = t
    · exact .inl here
    · have before := introduced.lookup_old here entry
      rw [(introduced.others s (registry.entry before).bound here).isReopening]
      exact h.only before

/-- The library that had no entry gets one that reopens the type. -/
theorem reopened (h : c.Meets n l₂ t) (registry : Registry c)
    (introduced : Introduced l₂ n s .reopening c d) (new : c.types.size ≤ s.index)
    (free : (c.library l₂).types[n]? = none) : d.Meets n l₂ t := by
  have old {k : LibraryId} {u} (entry : (c.library k).types[n]? = some u) :
      (d.library k).types[n]? = some u ∧ d.isReopening u = c.isReopening u := by
    have bound := (registry.entry entry).bound
    have other : u ≠ s := fun same => absurd (same ▸ bound) (Nat.not_lt.2 new)
    exact ⟨introduced.lookup_persist (.inl free) entry,
      (introduced.others u bound other).isReopening⟩
  obtain ⟨k, among, entry⟩ := h.place
  refine ⟨(old entry).2.trans h.stands, ⟨k, ?_, (old entry).1⟩, ?_⟩
  · rw [tiers_congr introduced.registered]
    exact among
  · intro k' u entry
    rcases introduced.lookup_cases entry with ⟨here, -, rfl⟩ | before
    · exact .inr ⟨here, decide_eq_true (introduced.kind.reopening_iff.2 rfl)⟩
    · rw [(old before).2]
      exact h.only before

end Catalog.Meets

/-- The name is unheard of, or there is one type for it. -/
def Catalog.Gathered (c : Catalog) (n : String) (l₂ : LibraryId) : Prop :=
  c.Unheard n ∨ ∃ t, c.Meets n l₂ t

/-- Known names are gathered already. -/
theorem existing?_meets (readable : c.Readable l) (gathered : c.Gathered n l₂)
    (plain : n ≠ globalsName) (known : existing? l n c = some t) : ∃ u, c.Meets n l₂ u := by
  refine gathered.resolve_left fun unheard => ?_
  rw [existing?_eq plain, unheard l, unheard.resolve? readable.registry] at known
  cases known

/-- A gathered name that is not known to a library has been heard of by none. -/
theorem unheard_of_existing? (readable : c.Readable l) (gathered : c.Gathered n l₂)
    (plain : n ≠ globalsName) (unknown : existing? l n c = none) : c.Unheard n := by
  refine gathered.resolve_right ?_
  rintro ⟨t, meets⟩
  have nothing := (existing?_eq_none plain unknown).2
  rw [meets.resolve? readable.registry] at nothing
  cases nothing

/-! ## Steps of the two readings

What a step does to the name is one of three things, given by `Step.about`: nothing, a mention, or a
declaration. A mention may create a placeholder, which is then the type of the name. A declaration
either takes the type over or reopens it, by what the reading is allowed to do. -/

/-- What a step of either reading leaves of the name. -/
structure Keeps (n : String) (l₂ : LibraryId) (c d : Catalog) : Prop where
  gathered : d.Gathered n l₂
  meets : ∀ t, c.Meets n l₂ t → d.Meets n l₂ t
  /-- What the library has to reopen the type goes on to do so. -/
  reopens : ∀ s, (c.library l₂).types[n]? = some s → d.isReopening s = c.isReopening s

/-- A step that does not touch the name keeps it gathered. -/
theorem Keeps.untouched (gathered : c.Gathered n l₂) (same : Untouched n c d) :
    Keeps n l₂ c d where
  gathered := gathered.imp (fun unheard => unheard.untouched same)
    fun ⟨t, meets⟩ => ⟨t, meets.untouched same⟩
  meets _ meets := meets.untouched same
  reopens s entry := same.reopens l₂ s entry

/-- Where nothing changes the name stays gathered. -/
theorem Keeps.refl (gathered : c.Gathered n l₂) : Keeps n l₂ c c :=
  .untouched gathered (.refl n c)

/-- The first type for the name comes into being. -/
theorem Keeps.first (registry : Registry c) (unheard : c.Unheard n) (meets : d.Meets n l₂ t) :
    Keeps n l₂ c d where
  gathered := .inr ⟨t, meets⟩
  meets u before := by
    have nothing := unheard.resolve? registry
    rw [before.resolve? registry] at nothing
    cases nothing
  reopens s entry := by
    rw [unheard] at entry
    cases entry

/-- A mention keeps the name gathered and gives no added library an entry. -/
theorem Reference.keeps (readable : c.Readable l) (gathered : c.Gathered n l₂)
    (reference : Reference l n c t d) :
    Keeps n l₂ c d ∧ ∀ k, 2 ≤ k.index → (d.library k).types[n]? = (c.library k).types[n]? := by
  cases reference with
  | own | tier => exact ⟨.refl gathered, fun _ _ => rfl⟩
  | placeholder _ unknown =>
    have introduced := introduced_addPlaceholder readable.registry.hidden_lt
      (readable.registry.hidden_free unknown)
    have unheard : c.Unheard n := by
      refine gathered.resolve_right ?_
      rintro ⟨u, meets⟩
      rw [meets.resolve? readable.registry] at unknown
      cases unknown
    refine ⟨.first readable.registry unheard (unheard.introduced introduced nofun ?_),
      fun k added => ?_⟩
    · exact List.mem_cons_of_mem _ List.mem_cons_self
    · rw [introduced.lookup, if_neg]
      rintro ⟨rfl, -⟩
      exact absurd added (by decide)

/-- A library that does not reopen the type takes it over. -/
theorem Keeps.taken (registry : Registry c) (meets : c.Meets n l₂ t)
    (introduced : Introduced l n t kind c d) (other : kind ≠ .reopening) (among : l ∈ c.tiers) :
    Keeps n l₂ c d where
  gathered := .inr ⟨t, meets.taken registry introduced other among⟩
  meets u before := by
    obtain rfl := meets.unique registry before
    exact meets.taken registry introduced other among
  reopens s entry := by
    by_cases here : s = t
    · rw [here, introduced.stands other, meets.stands]
    · exact (introduced.others s (registry.entry entry).bound here).isReopening

/-- For a library that does not reopen the type the name is the type. -/
theorem Catalog.Meets.existing? (registry : Registry c) (meets : c.Meets n l₂ t) (other : l ≠ l₂)
    (plain : n ≠ globalsName) (known : existing? l n c = some u) : u = t := by
  rw [existing?_eq plain, Option.or_eq_some_iff] at known
  rcases known with entry | ⟨-, found⟩
  · exact (meets.only entry).resolve_right fun both => other both.1
  · rw [meets.resolve? registry] at found
    exact (Option.some.inj found).symm

/-- A step for another library, which declares the name as a whole if it does. -/
theorem Step.keeps_declaring (readable : c.Readable l) (among : l ∈ c.tiers) (other : l ≠ l₂)
    (added : 2 ≤ l₂.index) (gathered : c.Gathered n l₂) (whole : ∀ t, .declared n t true ∉ es)
    (step : Step l c es d) :
    Keeps n l₂ c d ∧ (d.library l₂).types[n]? = (c.library l₂).types[n]? := by
  have registry := readable.registry
  rcases step.about readable n with ⟨untouched, -⟩ | ⟨t, reference, -⟩ |
    ⟨kind, reopens, answer, plain, declared, declaration⟩
  · exact ⟨.untouched gathered untouched, untouched.lookup l₂⟩
  · obtain ⟨keeps, lookup⟩ := reference.keeps readable gathered
    exact ⟨keeps, lookup l₂ added⟩
  · -- whatever is introduced is an entry of the library itself
    have elsewhere {t kind} (introduced : Introduced l n t kind c d) :
        (d.library l₂).types[n]? = (c.library l₂).types[n]? := by
      rw [introduced.lookup, if_neg fun both => other both.1.symm]
    cases declaration with
    | again => exact absurd List.mem_cons_self (whole _)
    | reopened => exact absurd List.mem_cons_self (whole _)
    | refused =>
      have quiet : Quiet c (c.newType n .reopening).2 := quiet_pushType c _ (.inl rfl)
      exact ⟨.untouched gathered (quiet.untouched registry), by rw [quiet.library]⟩
    | @upgraded t e known free entered =>
      have introduced :=
        (introduces_upgraded registry readable.inside plain declared known free entered).introduced
      obtain ⟨u, meets⟩ := existing?_meets readable gathered plain known
      obtain rfl := meets.existing? registry other plain known
      exact ⟨.taken registry meets introduced declared.2 among, elsewhere introduced⟩
    | created unknown entered =>
      have free := (existing?_eq_none plain unknown).1
      have introduced :=
        (introduces_created readable.inside plain declared free entered).introduced
      have unheard := unheard_of_existing? readable gathered plain unknown
      exact ⟨.first registry unheard (unheard.introduced introduced declared.2 among),
        elsewhere introduced⟩

/-- A step for the library that reopens the type, which declares the name in part if it does. -/
theorem Step.keeps_reopening (readable : c.Readable l) (among : l ∈ c.tiers)
    (gathered : c.Gathered n l) (part : ∀ t, .declared n t false ∉ es) (step : Step l c es d) :
    Keeps n l c d := by
  have registry := readable.registry
  rcases step.about readable n with ⟨untouched, -⟩ | ⟨t, reference, -⟩ |
    ⟨kind, reopens, answer, plain, declared, declaration⟩
  · exact .untouched gathered untouched
  · exact (reference.keeps readable gathered).1
  · cases declaration with
    | again => exact .refl gathered
    | @reopened u e known _ free entered =>
      have introduced :=
        (introduces_reopened (u := u) readable.inside plain free entered).introduced
      have reopened {t} (meets : c.Meets n l t) :=
        meets.reopened registry introduced (Nat.le_refl _) free
      obtain ⟨t, meets⟩ := existing?_meets readable gathered plain known
      refine ⟨.inr ⟨t, reopened meets⟩, fun _ => reopened, fun s entry => ?_⟩
      rw [free] at entry
      cases entry
    | refused =>
      exact .untouched gathered (Quiet.untouched registry (quiet_pushType c _ (.inl rfl)))
    | upgraded => exact absurd List.mem_cons_self (part _)
    | created unknown entered =>
      have free := (existing?_eq_none plain unknown).1
      have introduced :=
        (introduces_created readable.inside plain declared free entered).introduced
      have unheard := unheard_of_existing? readable gathered plain unknown
      exact .first registry unheard (unheard.introduced introduced declared.2 among)

/-! ## Where members go

`Links` says of an entry by which the library reopens the type: it was declared in an event noted so
far, and its super type is the type. The latter lasts as long as the events are bare, which means
that no clause has said of a declared type what its super type is. -/

/-- What the library has to reopen the type was declared among the events, and has the type as its
super type. -/
def Catalog.Links (c : Catalog) (n : String) (l : LibraryId) (es : List Event) : Prop :=
  ∀ s, (c.library l).types[n]? = some s → c.isReopening s = true →
    (∃ reopens, .declared n s reopens ∈ es) ∧ ∃ t, c.Meets n l t ∧ (c.type s).superType = some t

/-- Declarations of the name do not say what its super type is. -/
def Event.Bare (n : String) (es : List Event) : Prop :=
  ∀ s reopens u, .declared n s reopens ∈ es → .extended s u ∉ es

/-- What the library gets to reopen the type is declared by that step. -/
theorem Step.linked (readable : c.Readable l) (gathered : c.Gathered n l) (step : Step l c es d)
    (free : (c.library l).types[n]? = none) (entry : (d.library l).types[n]? = some s)
    (reopens : d.isReopening s = true) :
    .declared n s true ∈ es ∧ ∃ t, c.Meets n l t ∧ (d.type s).superType = some t := by
  have old (same : (d.library l).types[n]? = (c.library l).types[n]?) : False := by
    rw [same, free] at entry
    cases entry
  rcases step.about readable n with ⟨untouched, -⟩ | ⟨t, reference, -⟩ |
    ⟨kind, again, answer, plain, declared, declaration⟩
  · exact (old (untouched.lookup l)).elim
  · exact (old ((reference.keeps readable gathered).2 l readable.two_le)).elim
  · have introduced {t kind} (introduced : Introduced l n t kind c d)
        (stands : kind ≠ .reopening) : False := by
      rw [introduced.lookup_self] at entry
      obtain rfl := Option.some.inj entry
      rw [introduced.stands stands] at reopens
      cases reopens
    cases declaration with
    | again | refused => exact (old rfl).elim
    | @reopened u e found _ _ entered =>
      have introduced :=
        (introduces_reopened (u := u) readable.inside plain free entered).introduced
      rw [introduced.lookup_self] at entry
      obtain rfl := Option.some.inj entry
      -- what was found under the name is the type, since the library had no entry
      obtain ⟨t, meets⟩ := existing?_meets readable gathered plain found
      rw [existing?_eq plain, free, Option.none_or, meets.resolve? readable.registry] at found
      obtain rfl := Option.some.inj found
      exact ⟨List.mem_cons_self, t, meets, (files_reopened readable.inside free entered).2⟩
    | upgraded found free entered =>
      exact (introduced (introduces_upgraded readable.registry readable.inside plain declared found
        free entered).introduced declared.2).elim
    | created unknown entered =>
      exact (introduced (introduces_created readable.inside plain declared free
        entered).introduced declared.2).elim

/-- A step keeps the links of the library. -/
theorem Step.links (readable : c.Readable l) (gathered : c.Gathered n l) (keeps : Keeps n l c d)
    (links : c.Links n l before) (bare : Event.Bare n (before ++ es)) (step : Step l c es d) :
    d.Links n l (before ++ es) := by
  intro s entry reopens
  cases known : (c.library l).types[n]? with
  | some t =>
    obtain rfl := Option.some.inj ((step.entry_stays readable known).symm.trans entry)
    rw [keeps.reopens _ known] at reopens
    obtain ⟨⟨again, declared⟩, u, meets, super⟩ := links t known reopens
    refine ⟨⟨again, List.mem_append_left _ declared⟩, u, keeps.meets u meets, ?_⟩
    have bound := (readable.registry.entry known).bound
    rcases (step.files readable).superType t bound with same | ⟨v, given⟩
    · exact same.trans super
    · exact absurd (List.mem_append_right _ given)
        (bare t again v (List.mem_append_left _ declared))
  | none =>
    obtain ⟨declared, t, meets, super⟩ := step.linked readable gathered known entry reopens
    exact ⟨⟨true, List.mem_append_right _ declared⟩, t, keeps.meets t meets, super⟩

namespace Catalog

/-- A type that stands for itself is where following ends. -/
theorem followReopenings_of_stands (count : Nat) (stands : c.isReopening t = false) :
    c.followReopenings count t = t := by
  cases count with
  | zero => rfl
  | succ count =>
    rw [followReopenings]
    split
    · next reopening _ => exact absurd reopening (of_decide_eq_false stands)
    · rfl

/-- What reopens a type directly stores its members there. -/
theorem storage_of_reopening (reopens : c.isReopening s = true)
    (super : (c.type s).superType = some t) (stands : c.isReopening t = false) :
    c.storage s = t := by
  have kind : (c.type s).kind = .reopening := of_decide_eq_true reopens
  rw [storage, maxDepth, followReopenings, kind, super]
  exact followReopenings_of_stands 63 stands

/-- Members of what the library has for the name go to the type. -/
theorem Meets.storage (registry : Registry c) (meets : c.Meets n l t) (links : c.Links n l es)
    (entry : (c.library l).types[n]? = some s) : c.storage s = t := by
  rcases meets.only entry with rfl | ⟨-, reopens⟩
  · exact followReopenings_of_stands _ meets.stands
  · obtain ⟨-, u, meets', super⟩ := links s entry reopens
    obtain rfl := meets.unique registry meets'
    exact storage_of_reopening reopens super meets.stands

end Catalog

end IdlCatalog
