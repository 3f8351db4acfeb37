/-
# IdlCatalog.Proofs.Placement — every member is where its owner says

A member that has an owner is in one place of all places in the catalog: in a table of its owner,
under its name, or among the constructors of its owner. A member without an owner is nowhere. This
holds in every catalog that is reached by calls and readings in any order.

A call either leaves the places alone or puts a new member into one place; whoever was there before
loses its owner (`Catalog.Takes`). Both keep the arrangement.

The statement has two halves which are proved together, since each needs the other. That an owner
has its members in a place is kept only if nobody is put out of a place without losing its owner;
that a place holds only members of its type is kept only if owners do not change by themselves.
`Arranged` is their conjunction, with uniqueness.
-/
import IdlCatalog.Proofs.Grammar.Calling

namespace IdlCatalog

open Catalog

/-! ## Places

A place is an entry of a table, given by a type and a name, or a position among the constructors of
a type. `at?` says who is there. The two tables of a type are places of their own, so a property and
an operation of one name do not compete. -/

/-- A place where a type may have a member: under a name in one of its tables, or at a position
among its constructors. -/
inductive MemberPlace
  | entry (type : TypeId) (table : Table) (name : String)
  | constructor (type : TypeId) (position : Nat)
deriving DecidableEq

/-- The places that a member of the name and the owner may have. -/
inductive MemberPlace.Fits (name : String) (owner : TypeId) : MemberPlace → Prop
  | entry (table : Table) : Fits name owner (.entry owner table name)
  | constructor (position : Nat) : Fits name owner (.constructor owner position)

namespace Catalog

variable {c d : Catalog} {t : TypeId} {m k : MemberId} {a : Member} {place : MemberPlace}

/-- The member in a place. -/
def at? (c : Catalog) : MemberPlace → Option MemberId
  | .entry t table name => (table.of (c.type t))[name]?
  | .constructor t position => (c.type t).constructors[position]?

/-- Members with an owner have one place, which is as the owner says; others have none. -/
structure Arranged (c : Catalog) : Prop where
  occupied : ∀ {place m}, c.at? place = some m →
    m.index < c.members.size ∧ ∃ t, (c.member m).owner = some t ∧ place.Fits (c.member m).name t
  unique : ∀ {place other m}, c.at? place = some m → c.at? other = some m → other = place
  placed : ∀ {m t}, m.index < c.members.size → (c.member m).owner = some t →
    ∃ place, c.at? place = some m

/-! ## Changes that leave places alone

Nearly all calls. It is enough that who is where stays the same, and that members keep their names
and owners. -/

/-- The same members are in the same places, under the same names and owners. -/
structure SamePlaces (c d : Catalog) : Prop where
  at? : ∀ place, d.at? place = c.at? place
  size : d.members.size = c.members.size
  owner : ∀ m : MemberId, m.index < c.members.size → (d.member m).owner = (c.member m).owner
  name : ∀ m : MemberId, m.index < c.members.size → (d.member m).name = (c.member m).name

theorem SamePlaces.trans {b : Catalog} (h : SamePlaces b c) (h' : SamePlaces c d) :
    SamePlaces b d where
  at? place := (h'.at? place).trans (h.at? place)
  size := h'.size.trans h.size
  owner m bound := (h'.owner m (h.size.symm ▸ bound)).trans (h.owner m bound)
  name m bound := (h'.name m (h.size.symm ▸ bound)).trans (h.name m bound)

theorem Arranged.same (h : c.Arranged) (same : SamePlaces c d) : d.Arranged where
  occupied {place m} here := by
    rw [same.at?] at here
    obtain ⟨bound, t, owner, fits⟩ := h.occupied here
    refine ⟨by rwa [same.size], t, (same.owner m bound).trans owner, ?_⟩
    rwa [same.name m bound]
  unique here there := by
    rw [same.at?] at here there
    exact h.unique here there
  placed {m t} bound owned := by
    rw [same.size] at bound
    rw [same.owner m bound] at owned
    obtain ⟨place, here⟩ := h.placed bound owned
    exact ⟨place, by rwa [same.at?]⟩

theorem SameContents.at? (same : SameContents c d) (place : MemberPlace) :
    d.at? place = c.at? place := by
  cases place with
  | entry t table name => rw [Catalog.at?, Catalog.at?, same.of]
  | constructor t position => rw [Catalog.at?, Catalog.at?, same.constructors]

theorem SameContents.samePlaces (same : SameContents c d)
    (size : d.members.size = c.members.size) : SamePlaces c d :=
  ⟨same.at?, size, same.owner, fun m bound => (same.member m bound).name⟩

theorem samePlaces_modifyType {f : TypeNode → TypeNode} (c : Catalog) (t : TypeId)
    (same : ∀ node, (f node).contents = node.contents) : SamePlaces c (c.modifyType t f) :=
  (sameContents_modifyType c t same).samePlaces rfl

theorem samePlaces_modifyLibrary (c : Catalog) (l : LibraryId) (f : Library → Library) :
    SamePlaces c (c.modifyLibrary l f) := by
  have same : SameContents c (c.modifyLibrary l f) := sameContents_of_eq rfl rfl
  exact same.samePlaces rfl

/-- Nothing but the types changed, and these kept their members. -/
theorem samePlaces_of_types (members : d.members = c.members)
    (tables : ∀ (table : Table) u, table.of (d.type u) = table.of (c.type u))
    (constructors : ∀ u, (d.type u).constructors = (c.type u).constructors) : SamePlaces c d := by
  have member (m) : d.member m = c.member m := by rw [Catalog.member, Catalog.member, members]
  refine ⟨fun place => ?_, congrArg Array.size members, fun m _ => by rw [member],
    fun m _ => by rw [member]⟩
  cases place with
  | entry t table name => rw [Catalog.at?, Catalog.at?, tables]
  | constructor t position => rw [Catalog.at?, Catalog.at?, constructors]

theorem samePlaces_setSuperType (c : Catalog) (t u : TypeId) :
    SamePlaces c (c.setSuperType t u) := by
  have same := sameContents_setSuperType c t u
  refine samePlaces_of_types ?_ (fun table v => ?_) fun v => ?_
  · rw [setSuperType]
    split <;> rfl
  · rw [same.of]
    exact type_modifyType_of_eq c t v table.of fun _ => by cases table <;> rfl
  · rw [same.constructors]
    exact type_modifyType_of_eq c t v TypeNode.constructors fun _ => rfl

theorem samePlaces_newSynthesized (c : Catalog) (name : String) (kind : Kind)
    (superType : Option TypeId) : SamePlaces c (c.newSynthesized name kind superType).2 := by
  have blank {u : TypeId} (here : u.index = c.types.size) : c.type u = default :=
    type_of_size_le c u (Nat.le_of_eq here.symm)
  refine samePlaces_of_types rfl (fun table u => ?_) fun u => ?_
  all_goals
    rw [newSynthesized, type_pushType]
    split
    · next here => rw [blank here]; first | rfl | (cases table <;> rfl)
    · rfl

/-! ## A new member takes a place

Three calls attach a member. The member is new and takes one place; whoever was there is not put
anywhere else, and loses its owner. -/

/-- A new member takes a place. The member that was there before loses its owner. -/
structure Takes (place : MemberPlace) (c d : Catalog) : Prop where
  at? : ∀ other, d.at? other = if other = place then some ⟨c.members.size⟩ else c.at? other
  size : d.members.size = c.members.size + 1
  new : ∃ t, (d.member ⟨c.members.size⟩).owner = some t ∧
    place.Fits (d.member ⟨c.members.size⟩).name t
  name : ∀ k : MemberId, k.index < c.members.size → (d.member k).name = (c.member k).name
  stays : ∀ k : MemberId, k.index < c.members.size → c.at? place ≠ some k →
    (d.member k).owner = (c.member k).owner
  leaves : ∀ k : MemberId, c.at? place = some k → (d.member k).owner = none

/-- A member of a larger catalog is an old one or the new one. -/
theorem member_cases (bound : m.index < c.members.size + 1) :
    m.index < c.members.size ∨ m = ⟨c.members.size⟩ := by
  obtain ⟨i⟩ := m
  rcases Nat.lt_succ_iff_lt_or_eq.1 bound with old | rfl
  · exact .inl old
  · exact .inr rfl

theorem Arranged.takes (h : c.Arranged) (takes : Takes place c d) : d.Arranged := by
  -- the number of the new member is nowhere to be found so far
  have fresh (other : MemberPlace) : c.at? other ≠ some ⟨c.members.size⟩ := fun here =>
    Nat.lt_irrefl _ (h.occupied here).1
  have elsewhere {other : MemberPlace} {m : MemberId} (here : c.at? other = some m)
      (ne : other ≠ place) : c.at? place ≠ some m := fun there => ne (h.unique there here)
  refine ⟨fun {other m} here => ?_, fun {first second m} here there => ?_,
    fun {m t} bound owned => ?_⟩
  · rw [takes.at?] at here
    split at here
    · next same =>
      cases here
      exact ⟨by rw [takes.size]; exact Nat.lt_succ_self _, same ▸ takes.new⟩
    · next ne =>
      obtain ⟨bound, t, owner, fits⟩ := h.occupied here
      refine ⟨by rw [takes.size]; exact Nat.lt_succ_of_lt bound, t, ?_, ?_⟩
      · rw [takes.stays m bound (elsewhere here ne), owner]
      · rwa [takes.name m bound]
  · rw [takes.at?] at here there
    split at here <;> split at there
    · next same same' => rw [same, same']
    · cases here
      exact absurd there (fresh second)
    · cases there
      exact absurd here (fresh first)
    · exact h.unique here there
  · rw [takes.size] at bound
    rcases member_cases bound with old | rfl
    · have other : c.at? place ≠ some m := by
        intro here
        rw [takes.leaves m here] at owned
        cases owned
      rw [takes.stays m old other] at owned
      obtain ⟨seat, here⟩ := h.placed old owned
      refine ⟨seat, ?_⟩
      rw [takes.at?, if_neg]
      · exact here
      · rintro rfl
        exact other here
    · exact ⟨place, by rw [takes.at?, if_pos rfl]⟩

theorem owner_replaced (table : Table) (c : Catalog) (t : TypeId) (a : Member)
    (here : (table.of (c.type (c.storage t)))[a.name]? = some k)
    (bound : k.index < c.members.size) : ((enter table c t a).2.member k).owner = none := by
  let e := (c.pushMember a (c.storage t)).2
  have created : Created c a (c.storage t) e := created_pushMember c a (c.storage t)
  have found : (table.of (e.type (c.storage t)))[a.name]? = some k := by
    rw [created.contents.of]
    exact here
  show ((detach _ (table.of (e.type (c.storage t)))[a.name]?).member k).owner = none
  rw [found, detach, member_modifyMember, if_pos]
  refine ⟨rfl, ?_⟩
  show k.index < e.members.size
  rw [created.size]
  exact Nat.lt_succ_of_lt bound

theorem takes_enter (arranged : c.Arranged) (table : Table) (a : Member)
    (bound : (c.storage t).index < c.types.size) :
    Takes (.entry (c.storage t) table a.name) c (enter table c t a).2 := by
  have placed := placed_enter table c t a
  -- whoever stood there is a member that exists, so it is not the new one
  have known (k) (here : (table.of (c.type (c.storage t)))[a.name]? = some k) :
      k.index < c.members.size := by
    have entry : c.at? (.entry (c.storage t) table a.name) = some k := here
    exact (arranged.occupied entry).1
  refine ⟨fun other => ?_, placed.size, ⟨c.storage t, placed.owner fun same => ?_, ?_⟩,
    fun k bound => (placed.old k bound).name, placed.stays, fun k here => ?_⟩
  · cases other with
    | entry u table' name =>
      rw [at?, at?, placed.lookup]
      simp only [bound, and_true, MemberPlace.entry.injEq]
    | constructor u position =>
      rw [at?, at?, placed.constructors, if_neg nofun]
  · exact Nat.lt_irrefl _ (known _ same)
  · rw [placed.new.name]
    exact .entry table
  · exact owner_replaced table c t a here (known k here)

theorem takes_addConstructor (c : Catalog) (a : Member) (bound : t.index < c.types.size) :
    Takes (.constructor t (c.type t).constructors.size) c (c.addConstructor t a).2 := by
  let b : Member := { a with modifiers := a.modifiers ||| Modifiers.constructor }
  let m : MemberId := ⟨c.members.size⟩
  let e := (c.pushMember b t).2
  let f : TypeNode → TypeNode := fun node =>
    { node with
      constructors := node.constructors.push m
      kind := if node.kind = .noInterfaceObject then .interface else node.kind }
  have created : Created c b t e := created_pushMember c b t
  have sized : t.index < e.types.size := Nat.lt_of_lt_of_le bound (quiet_pushMember c b t).size_le
  have added : (c.addConstructor t a).2 = e.modifyType t f := rfl
  -- constructors are appended, so nobody is replaced
  have vacant : c.at? (.constructor t (c.type t).constructors.size) = none := by
    simp [at?]
  rw [added]
  refine ⟨fun other => ?_, created.size, ⟨t, created.owner, .constructor _⟩,
    fun k bound => (created.contents.member k bound).name,
    fun k bound _ => created.contents.owner k bound, fun k here => ?_⟩
  · cases other with
    | entry u table name =>
      have same : table.of ((e.modifyType t f).type u) = table.of (e.type u) :=
        type_modifyType_of_eq e t u table.of fun _ => by cases table <;> rfl
      rw [if_neg nofun, at?, at?, same, created.contents.of]
    | constructor u position =>
      rw [at?, type_modifyType]
      by_cases here : u = t
      · subst here
        rw [if_pos ⟨rfl, sized⟩, ← created.contents.constructors]
        show ((e.type u).constructors.push m)[position]? = _
        simp only [Array.getElem?_push, at?, created.contents.constructors,
          MemberPlace.constructor.injEq, true_and]
        rfl
      · rw [if_neg fun both => here both.1, created.contents.constructors, if_neg]
        · rfl
        · rintro ⟨⟩
          exact here rfl
  · rw [vacant] at here
    cases here

/-! ## Calls and requests

One case for each call, and then the induction over the requests that a catalog was used by. -/

/-- A call keeps the arrangement of members. -/
theorem Arranged.run (h : c.Arranged) (closed : c.Closed) {call : Call}
    (inRange : call.InRange c) : (call.run c).Arranged := by
  have storage {t : TypeId} (bound : t.index < c.types.size) := closed.storage_lt bound
  -- one case for each call: most leave the places alone, three take one
  cases call with
  | addLibrary name readOnly docs =>
    exact h.same ((sameContents_addLibrary c name readOnly docs).samePlaces rfl)
  | removeLibrary l =>
    have moved := moved_removeLibrary c l
    exact h.same ((sameContents_removeLibrary c l).samePlaces (congrArg Array.size moved.members))
  | newType name kind => exact h.same ((sameContents_newType c name kind).samePlaces rfl)
  | newSynthesized name kind superType =>
    exact h.same (samePlaces_newSynthesized c name kind superType)
  | addPlaceholder name =>
    refine h.same ((sameContents_addPlaceholder c name).samePlaces ?_)
    rw [members_addPlaceholder]
  | addType l t =>
    rw [Call.run]
    split
    · next ok =>
      exact h.same ((sameContents_addType ok).samePlaces (congrArg Array.size (members_addType ok)))
    · exact h
  | deleteType t =>
    rw [Call.run, deleteType]
    split
    · exact h
    · refine h.same (.trans (samePlaces_modifyType c t ?_) (samePlaces_modifyLibrary _ _ _))
      exact fun _ => rfl
  | setSuperType t u => exact h.same (samePlaces_setSuperType c t u)
  | addImplements t u => exact h.same ((sameContents_addImplements c t u).samePlaces rfl)
  | setKind t _ | addModifiers t _ | pushTypeArgument t _ | addLiteral t _ | setIterable t _ =>
    refine h.same (samePlaces_modifyType c t ?_)
    exact fun _ => rfl
  | addProperty t a =>
    exact h.takes (takes_enter h .properties a (storage (inRange.types t List.mem_cons_self)))
  | addOperation t a =>
    exact h.takes (takes_enter h .operations a (storage (inRange.types t List.mem_cons_self)))
  | addConstructor t a =>
    exact h.takes (takes_addConstructor c a (inRange.types t List.mem_cons_self))
  | mergeOperation m a =>
    refine h.same ((sameContents_mergeOperation c m a).samePlaces ?_)
    rw [mergeOperation, (onlyNotes_addReferences _ _ m).members, members_size_modifyMember]
  | addReference t m =>
    refine h.same ((sameContents_addReferences c [t] m).samePlaces ?_)
    rw [(onlyNotes_addReferences c [t] m).members]
  | document l artifact =>
    refine h.same ((sameContents_document c l artifact).samePlaces ?_)
    cases artifact with
    | member m => exact members_size_modifyMember c m _
    | library | type => rfl

theorem arranged_initial : initial.Arranged := by
  have nowhere (place : MemberPlace) (m : MemberId) : initial.at? place ≠ some m := by
    intro here
    cases place with
    | entry t table name =>
      obtain ⟨_, _, _, same⟩ := type_initial t
      rw [at?, same] at here
      cases table <;> simp [Table.of, TypeNode.new] at here
    | constructor t position =>
      obtain ⟨_, _, _, same⟩ := type_initial t
      rw [at?, same] at here
      simp [TypeNode.new] at here
  refine ⟨fun here => absurd here (nowhere _ _), fun here => absurd here (nowhere _ _), ?_⟩
  intro m t bound
  exact absurd bound (Nat.not_lt_zero _)

theorem Used.arranged {requests : List Request} (used : Used requests c) : c.Arranged :=
  used.invariant arranged_initial fun _ _ closed inRange h => h.run closed inRange

end Catalog

/-- Whatever was asked of a catalog, a member with an owner is in exactly one place, in a table of
its owner under its name or among the constructors of its owner, and a member without an owner is in
no place at all. -/
theorem member_at_one_place {requests : List Request} {c : Catalog} (used : Used requests c)
    (m : MemberId) :
    (∀ t, (c.member m).owner = some t →
      ∃ place : MemberPlace, place.Fits (c.member m).name t ∧ ∀ q, c.at? q = some m ↔ q = place) ∧
    ((c.member m).owner = none → ∀ q, c.at? q ≠ some m) := by
  have arranged := Catalog.Used.arranged used
  refine ⟨fun t owner => ?_, fun none q here => ?_⟩
  · -- a number without a member has no owner
    have bound : m.index < c.members.size := by
      refine Nat.lt_of_not_le fun outside => ?_
      simp [Catalog.member, outside, default, Member.property] at owner
    obtain ⟨place, here⟩ := arranged.placed bound owner
    obtain ⟨-, u, owner', fits⟩ := arranged.occupied here
    cases owner.symm.trans owner'
    refine ⟨place, fits, fun q => ⟨fun there => arranged.unique here there, ?_⟩⟩
    rintro rfl
    exact here
  · obtain ⟨-, t, owner, -⟩ := arranged.occupied here
    rw [none] at owner
    cases owner

/-- A property that was read gives way to one that is attached by hand. -/
theorem member_at_one_place_replaced :
    let read := (Request.ingest ⟨2⟩ "interface A { attribute long x; };").serve
      ((Request.call (.addLibrary "dom" false .silent)).serve initial)
    let c := (Request.call (.addProperty ⟨21⟩ (.property "x" any Modifiers.empty none))).serve read
    (∃ place : MemberPlace, place.Fits "x" ⟨21⟩ ∧ ∀ q, c.at? q = some ⟨1⟩ ↔ q = place) ∧
      ∀ q, c.at? q ≠ some ⟨0⟩ := by
  intro read c
  have added := Used.start.request (.call (.addLibrary "dom" false .silent)) (by decide +kernel)
  have used : Used _ c :=
    (added.request (.ingest ⟨2⟩ "interface A { attribute long x; };") (by decide +kernel)).request
      (.call (.addProperty ⟨21⟩ (.property "x" any Modifiers.empty none))) (by decide +kernel)
  have facts : (c.member ⟨0⟩).owner = none ∧ (c.member ⟨1⟩).owner = some ⟨21⟩ ∧
      (c.member ⟨1⟩).name = "x" := by
    decide +kernel
  obtain ⟨none, owner, name⟩ := facts
  have placed := (member_at_one_place used ⟨1⟩).1 ⟨21⟩ owner
  rw [name] at placed
  exact ⟨placed, (member_at_one_place used ⟨0⟩).2 none⟩

end IdlCatalog
