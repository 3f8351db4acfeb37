/-
# IdlCatalog.Proofs.Storage — what only reopens a type stores nothing

A type that reopens another one is a sign that points to it. It has no properties and no operations
of its own, and what it points to is no sign again, so one step leads from any entry of a library
to the type that stores its members. Look-ups never stop at a sign.

The kind of a type and its super type may be set again and again, and readings may stop anywhere.
Three facts about single steps carry the invariant. A type that stands on its own is never made to
reopen another one; a super type that a clause gives stands on its own; and a name that is declared
twice in a library, once as a whole, leaves at most a type without owner, which no library has an
entry for.

## The two halves of the invariant

`SignsBare` has two clauses. That signs have empty tables is wanted for itself; that they point to a
type that stands on its own is what the induction needs, since the next member is stored where the
sign points to. The second clause is only claimed of signs that have an owner: a name that a library
declares twice may leave a sign without owner, which no library lists.

A step of a reading comes with a side condition, that the super types it gives stand on their own.
It holds of every history that a reading makes, and it is the only thing about readings that is used
here beyond the steps themselves.
-/
import IdlCatalog.Proofs.Redirection
import IdlCatalog.Proofs.Registration

namespace IdlCatalog

open Grammar Catalog

variable {c d : Catalog} {t u : TypeId} {m : MemberId} {l : LibraryId} {name : String}
  {kind : Kind} {es : List Event} {h : History} {table : Table} {a : Member}

namespace Catalog

/-- The type points to one that stands on its own. -/
def PointsOn (c : Catalog) (t : TypeId) : Prop :=
  ∃ u, (c.type t).superType = some u ∧ u.index < c.types.size ∧ c.isReopening u = false

/-- Types that reopen others have no members, and those that have an owner point on. -/
structure SignsBare (c : Catalog) : Prop where
  bare : ∀ t, c.isReopening t = true → ∀ (table : Table) name, name ∉ table.of (c.type t)
  points : ∀ t, c.isReopening t = true → (c.type t).library ≠ none → c.PointsOn t

theorem isReopening_lt (reopens : c.isReopening t = true) : t.index < c.types.size := by
  refine Nat.lt_of_not_le fun outside => ?_
  rw [isReopening, type_of_size_le c t outside] at reopens
  exact absurd reopens (by decide)

/-- Members for a sign are stored where it points to. -/
theorem PointsOn.storage (points : c.PointsOn t) (reopens : c.isReopening t = true) :
    c.isReopening (c.storage t) = false := by
  obtain ⟨u, superType, -, stands⟩ := points
  rw [storage_of_reopening reopens superType stands]
  exact stands

/-- Members of a type that has an owner are stored by a type that stands on its own. -/
theorem SignsBare.storage (signs : c.SignsBare) (owned : (c.type t).library ≠ none) :
    c.isReopening (c.storage t) = false := by
  cases reopens : c.isReopening t with
  | true => exact (signs.points t reopens owned).storage reopens
  | false =>
    rw [show c.storage t = t from followReopenings_of_stands _ reopens]
    exact reopens

/-! ## New types

Only a declaration creates signs. What an edit creates is a composite, what a reference creates is a
placeholder, and both stand on their own. -/

theorem types_size_document (c : Catalog) (l : LibraryId) (artifact : Artifact) :
    (c.document l artifact).types.size = c.types.size := by
  cases artifact with
  | library | member => rfl
  | type t => exact types_size_modifyType c t _

theorem types_size_addConstructor (c : Catalog) (t : TypeId) (a : Member) :
    (c.addConstructor t a).2.types.size = c.types.size :=
  (types_size_modifyType _ t _).trans (types_size_pushMember c _ t)

theorem types_size_mergeOperation (c : Catalog) (m : MemberId) (a : Member) :
    (c.mergeOperation m a).types.size = c.types.size := by
  rw [mergeOperation]
  exact (onlyNotes_addReferences _ _ _).graph.size

/-- Registering a type creates none. -/
theorem types_size_addType (ok : c.addType l t = .ok d) : d.types.size = c.types.size := by
  obtain ⟨_, -, -, rfl⟩ := addType_eq_ok ok
  exact types_size_modifyType _ t _

end Catalog

/-- An edit creates no type that reopens another one. -/
theorem Edit.reopening_old (edit : Edit l c es d) (reopens : d.isReopening t = true) :
    t.index < c.types.size := by
  have bound := isReopening_lt reopens
  cases edit with
  | nothing | parameter => exact bound
  | compose composite =>
    rw [isReopening, type_pushType] at reopens
    split at reopens
    · exact absurd (of_decide_eq_true reopens) composite.stands
    · exact isReopening_lt reopens
  | superType => rwa [types_size_setSuperType] at bound
  | literal => rwa [addLiteral, types_size_modifyType] at bound
  | modifiers => rwa [addModifiers, types_size_modifyType] at bound
  | mixin => rwa [types_size_addImplements] at bound
  | property =>
    rwa [documentMember, types_size_document, addProperty_eq, types_size_enter] at bound
  | operation =>
    rwa [documentMember, types_size_document, addOperation_eq, types_size_enter] at bound
  | constructor => rwa [documentMember, types_size_document, types_size_addConstructor] at bound
  | merged => rwa [types_size_mergeOperation] at bound

/-- The one type that a declaration or a mention creates. -/
theorem eq_new_of_size (new : c.types.size ≤ t.index) (bound : t.index < d.types.size)
    (size : d.types.size ≤ c.types.size + 1) : t = ⟨c.types.size⟩ := by
  obtain ⟨index⟩ := t
  exact congrArg TypeId.mk (Nat.le_antisymm (Nat.le_of_lt_succ (Nat.lt_of_lt_of_le bound size)) new)

/-- A placeholder reopens nothing. -/
theorem Reference.reopening_old (registry : Registry c) (reference : Reference l name c u d)
    (reopens : d.isReopening t = true) : t.index < c.types.size := by
  have bound := isReopening_lt reopens
  cases reference with
  | own | tier => exact bound
  | placeholder passed unknown =>
    have free := registry.hidden_free unknown
    have introduced := introduced_addPlaceholder registry.hidden_lt free
    rw [addPlaceholder_of_none free] at introduced bound reopens
    have size := types_size_pushType c { TypeNode.new name .noInterfaceObject with
      library := some Catalog.hidden }
    refine Nat.lt_of_not_le fun new => ?_
    obtain rfl := eq_new_of_size new bound (Nat.le_of_eq size)
    exact absurd (introduced.stands (by decide)) (by rw [reopens]; decide)

/-- A type that a declaration creates to reopen another one points to that one. -/
theorem Declaration.reopening_new {isPartial : Bool} {answer : Except (Failure Fault) TypeId}
    (readable : c.Readable l) (plain : name ≠ globalsName) (declared : kind.IsDeclared)
    (declaration : Declaration l kind name c isPartial answer es d)
    (reopens : d.isReopening t = true) (owned : (d.type t).library ≠ none)
    (new : c.types.size ≤ t.index) : d.PointsOn t := by
  have bound := isReopening_lt reopens
  cases declaration with
  | again => exact absurd bound (Nat.not_lt.2 new)
  | @reopened u e known _ free entered =>
    have size : e.types.size = c.types.size + 1 :=
      (types_size_addType entered).trans (types_size_pushType c _)
    rw [types_size_setSuperType, types_size_document] at bound
    obtain rfl := eq_new_of_size new bound (Nat.le_of_eq size)
    have superType := (files_reopened (u := u) readable.inside free entered).2
    have introduced := (introduces_reopened (u := u) readable.inside plain free
      entered).introduced
    -- what is reopened is what the name stands for
    rw [existing?_eq plain, free, Option.none_or] at known
    obtain ⟨_, stands⟩ := resolve?_entry readable.registry known
    have old := (resolve?_isEntry readable.registry known).bound
    -- and goes on to stand on its own, since the declaration introduces another type
    refine ⟨u, superType, Nat.lt_of_lt_of_le old introduced.size_le, ?_⟩
    refine (introduced.others u old ?_).isReopening.trans stands
    rintro rfl
    exact absurd old (Nat.lt_irrefl _)
  | refused =>
    obtain rfl := eq_new_of_size new bound (Nat.le_of_eq (types_size_pushType c _))
    rw [newType, type_pushType, if_pos rfl] at owned
    exact absurd rfl owned
  | upgraded known free entered =>
    rw [types_size_document, types_size_addType entered, setKind, types_size_modifyType] at bound
    exact absurd bound (Nat.not_lt.2 new)
  | created unknown entered =>
    have free := (existing?_eq_none plain unknown).1
    have introduced := (introduces_created readable.inside plain declared free entered).introduced
    rw [types_size_document, types_size_addType entered] at bound
    obtain rfl := eq_new_of_size new bound (Nat.le_of_eq (types_size_pushType c _))
    exact absurd (introduced.stands declared.2) (by rw [reopens]; decide)

/-- A new type that reopens another one and has an owner points on. -/
theorem Step.reopening_new (readable : c.Readable l) (step : Step l c es d)
    (reopens : d.isReopening t = true) (owned : (d.type t).library ≠ none)
    (new : c.types.size ≤ t.index) : d.PointsOn t := by
  cases step with
  | edit edit => exact absurd (edit.reopening_old reopens) (Nat.not_lt.2 new)
  | reference _ reference =>
    exact absurd (reference.reopening_old readable.registry reopens) (Nat.not_lt.2 new)
  | declaration plain declared declaration =>
    exact declaration.reopening_new readable plain declared reopens owned new

/-! ## The invariant

One step, and from it a whole reading. A type that is new after a step either stands on its own or
is the sign that a declaration has just made; an old one is a sign after the step just if it was one
before. -/

/-- The owner of a type that reopens another one is not taken from it. -/
theorem Step.owned_before (readable : c.Readable l) (step : Step l c es d)
    (old : t.index < c.types.size) (reopens : d.isReopening t = true)
    (owned : (d.type t).library ≠ none) : (c.type t).library ≠ none := by
  rcases step.naming readable.registry readable.inside with quiet | ⟨_, _, u, _, introduces⟩
  · rwa [(quiet.old t old).library] at owned
  · refine ne_of_eq_of_ne ((introduces.introduced.others t old ?_).library).symm owned
    rintro rfl
    -- only new types are introduced as ones that reopen others
    have stands := introduces.introduced.stands fun reopening =>
      absurd old (Nat.not_lt.2 (introduces.reopens reopening).2)
    rw [reopens] at stands
    cases stands

theorem Catalog.PointsOn.step (readable : c.Readable l) (step : Step l c es d)
    (given : ∀ t u, .extended t u ∈ es → d.isReopening u = false) (old : t.index < c.types.size)
    (points : c.PointsOn t) : d.PointsOn t := by
  obtain ⟨u, superType, bound, stands⟩ := points
  have grown := step.types_size_le readable
  rw [PointsOn, step.superType readable old, superType]
  cases last : (Event.superTypesOf t es).getLast? with
  | none => exact ⟨u, rfl, Nat.lt_of_lt_of_le bound grown, step.stands readable bound stands⟩
  | some v =>
    have inside := Event.mem_superTypesOf.1 (List.mem_of_getLast? last)
    exact ⟨v, rfl, Nat.lt_of_lt_of_le (step.extended inside).2.2 grown, given t v inside⟩

/-- A super type is given without any change of tables. -/
theorem Catalog.of_setSuperType (c : Catalog) (s u t : TypeId) (table : Table) :
    table.of ((c.setSuperType s u).type t) = table.of (c.type t) := by
  let given := c.modifyType s fun node => { node with superType := some u }
  have first : table.of (given.type t) = table.of (c.type t) :=
    type_modifyType_of_eq c s t table.of fun _ => by cases table <;> rfl
  rw [← first, setSuperType]
  split
  · exact type_modifyType_of_eq given u t table.of fun _ => by cases table <;> rfl
  · rfl

theorem Catalog.of_addConstructor (c : Catalog) (s t : TypeId) (a : Member) (table : Table) :
    table.of ((c.addConstructor s a).2.type t) = table.of (c.type t) := by
  let b : Member := { a with modifiers := a.modifiers ||| Modifiers.constructor }
  rw [← (created_pushMember c b s).contents.of]
  exact type_modifyType_of_eq (c.pushMember b s).2 s t table.of fun _ => by cases table <;> rfl

/-- Nothing enters a table but of the type that stores the members of an owned one. -/
theorem Edit.tables (edit : Edit l c es d) (n : String) (inside : n ∈ table.of (d.type t)) :
    n ∈ table.of (c.type t) ∨ ∃ s, c.Owned l s ∧ t = c.storage s ∧ t.index < c.types.size := by
  have entered {other s a} (owned : c.Owned l s)
      (inside : n ∈ table.of ((documentMember l s (enter other c s a)).2.type t)) :
      n ∈ table.of (c.type t) ∨
        ∃ s, c.Owned l s ∧ t = c.storage s ∧ t.index < c.types.size := by
    rw [documentMember, (sameContents_document _ l _).of, Std.TreeMap.mem_iff_isSome_getElem?,
      (placed_enter other c s a).lookup] at inside
    split at inside
    · next here => exact .inr ⟨s, owned, here.1.1, here.1.1 ▸ here.1.2⟩
    · exact .inl (Std.TreeMap.mem_iff_isSome_getElem?.2 inside)
  have still {e} (inside : n ∈ table.of (e.type t)) (same : SameContents c e) :
      n ∈ table.of (c.type t) := by
    rwa [same.of] at inside
  cases edit with
  | nothing | parameter => exact .inl inside
  | compose composite =>
    rw [type_pushType] at inside
    split at inside
    · rw [composite.bare] at inside
      exact absurd inside Std.TreeMap.not_mem_emptyc
    · exact .inl inside
  | superType =>
    rw [of_setSuperType] at inside
    exact .inl inside
  | literal => exact .inl (still inside (sameContents_modifyType c _ fun _ => rfl))
  | modifiers => exact .inl (still inside (sameContents_modifyType c _ fun _ => rfl))
  | mixin => exact .inl (still inside (sameContents_addImplements c _ _))
  | property owned =>
    rw [addProperty_eq] at inside
    exact entered owned inside
  | operation owned =>
    rw [addOperation_eq] at inside
    exact entered owned inside
  | constructor =>
    rw [documentMember, (sameContents_document _ l _).of, of_addConstructor] at inside
    exact .inl inside
  | merged => exact .inl (still inside (sameContents_mergeOperation c _ _))

/-- A declaration attaches no member. -/
theorem Declaration.tables {reopens : Bool} {answer : Except (Failure Fault) TypeId}
    (declaration : Declaration l kind name c reopens answer es d) (table : Table) (t : TypeId) :
    table.of (d.type t) = table.of (c.type t) := by
  have introduced {e f : Catalog} {u : TypeId} (same : SameContents c e)
      (entered : e.addType l u = .ok f) : SameContents c (f.document l (.type u)) :=
    (same.trans (sameContents_addType entered)).trans (sameContents_document f l _)
  cases declaration with
  | again => rfl
  | reopened _ _ _ entered =>
    rw [of_setSuperType]
    exact (introduced (sameContents_newType c name .reopening) entered).of table t
  | refused => exact (sameContents_newType c name .reopening).of table t
  | @upgraded u _ _ _ entered =>
    have same : SameContents c (c.setKind u kind) := sameContents_modifyType c u fun _ => rfl
    exact (introduced same entered).of table t
  | created _ entered => exact (introduced (sameContents_newType c name kind) entered).of table t

/-- A step puts nothing into a table but that of the type which stores the members of an owned
one. -/
theorem Step.tables (step : Step l c es d) (n : String) (inside : n ∈ table.of (d.type t)) :
    n ∈ table.of (c.type t) ∨ ∃ s, c.Owned l s ∧ t = c.storage s ∧ t.index < c.types.size := by
  cases step with
  | edit edit => exact edit.tables n inside
  | reference _ reference =>
    cases reference with
    | own | tier => exact .inl inside
    | placeholder => exact .inl ((sameContents_addPlaceholder c _).of table t ▸ inside)
  | declaration _ _ declaration => exact .inl (declaration.tables table t ▸ inside)

/-- A step keeps the signs bare, if the super types that it gives stand on their own. -/
theorem Catalog.SignsBare.step (signs : c.SignsBare) (readable : c.Readable l)
    (step : Step l c es d) (given : ∀ t u, .extended t u ∈ es → d.isReopening u = false) :
    d.SignsBare := by
  have before {t} (old : t.index < c.types.size) (reopens : d.isReopening t = true) :
      c.isReopening t = true := by
    refine eq_true_of_ne_false fun stands => ?_
    rw [step.stands readable old stands] at reopens
    cases reopens
  refine ⟨fun t reopens table n inside => ?_, fun t reopens owned => ?_⟩
  · rcases step.tables n inside with earlier | ⟨s, owned, rfl, old⟩
    · -- the entry was there already: the type was a sign before, or it is new and its table empty
      by_cases old : t.index < c.types.size
      · exact signs.bare t (before old reopens) table n earlier
      · rw [type_of_size_le c t (Nat.not_lt.1 old)] at earlier
        cases table <;> exact absurd earlier Std.TreeMap.not_mem_emptyc
    -- what stores members stands on its own, before and after
    · have stands : c.isReopening (c.storage s) = false :=
        signs.storage (by rw [owned.library]; exact Option.some_ne_none l)
      rw [step.stands readable old stands] at reopens
      cases reopens
  · by_cases old : t.index < c.types.size
    · have owned := step.owned_before readable old reopens owned
      exact (signs.points t (before old reopens) owned).step readable step given old
    · exact step.reopening_new readable reopens owned (Nat.not_lt.1 old)

theorem Reading.signsBare (readable : c.Readable l) (signs : c.SignsBare) (stands : h.Stands)
    (reading : Reading l c h d) : d.SignsBare := by
  -- on the steps, each of which gives super types that the history vouches for
  induction reading with
  | start => exact signs
  | step reading step ih =>
    refine (ih fun es d inside => ?_).step (reading.readable readable) step ?_
    · exact stands es d (List.mem_append_left _ inside)
    · exact stands _ _ (List.mem_append_right _ List.mem_cons_self)

/-! ## Sessions

Adding and removing libraries changes owners and entries but no kind and no super type. The one new
type, that of the globals of a library, stands on its own. -/

namespace Catalog

theorem isReopening_initial (t : TypeId) : initial.isReopening t = false := by
  have standing : ∀ node ∈ initial.types, node.kind ≠ .reopening := by decide +kernel
  rw [isReopening, type, Array.getD_eq_getD_getElem?]
  cases found : initial.types[t.index]? with
  | none => rfl
  | some node => exact decide_eq_false (standing node (Array.mem_of_getElem? found))

namespace SignsBare

theorem initial : Catalog.initial.SignsBare := by
  have none {t} (reopens : Catalog.initial.isReopening t = true) : False := by
    rw [isReopening_initial] at reopens
    cases reopens
  exact ⟨fun _ reopens => (none reopens).elim, fun _ reopens => (none reopens).elim⟩

/-- Types that are there keep their kinds, tables and super types, and none gains an owner. There
may be new ones that reopen nothing. -/
theorem same (signs : c.SignsBare) (contents : SameContents c d)
    (size : c.types.size ≤ d.types.size)
    (old : ∀ t, d.isReopening t = true → t.index < c.types.size)
    (kind : ∀ t, t.index < c.types.size → d.isReopening t = c.isReopening t)
    (owner : ∀ t, t.index < c.types.size → (d.type t).library ≠ none →
      (c.type t).library ≠ none) : d.SignsBare := by
  have before {t} (reopens : d.isReopening t = true) : c.isReopening t = true :=
    (kind t (old t reopens)).symm.trans reopens
  refine ⟨fun t reopens table n inside => ?_, fun t reopens owned => ?_⟩
  · rw [contents.of] at inside
    exact signs.bare t (before reopens) table n inside
  · obtain ⟨u, superType, bound, stands⟩ :=
      signs.points t (before reopens) (owner t (old t reopens) owned)
    exact ⟨u, (contents.superType t).trans superType, Nat.lt_of_lt_of_le bound size,
      (kind u bound).trans stands⟩

theorem addLibrary (signs : c.SignsBare) (name : String) (readOnly : Bool)
    (docs : DocumentationProvider) : (c.addLibrary name readOnly docs).2.SignsBare := by
  have type := type_addLibrary c name readOnly docs
  refine signs.same (sameContents_addLibrary c name readOnly docs) ?_ ?_ ?_ ?_
  · rw [types_size_addLibrary]
    exact Nat.le_succ _
  · intro t reopens
    rw [isReopening, type] at reopens
    split at reopens
    · cases of_decide_eq_true reopens
    · exact isReopening_lt reopens
  · intro t old
    rw [isReopening, isReopening, type, if_neg (Nat.ne_of_lt old)]
  · intro t old owned
    rwa [type, if_neg (Nat.ne_of_lt old)] at owned

theorem removeLibrary (signs : c.SignsBare) (owners : Owners c) (l : LibraryId) :
    (c.removeLibrary l).2.SignsBare := by
  have moved := moved_removeLibrary c l
  have kind (t) : (c.removeLibrary l).2.isReopening t = c.isReopening t := by
    obtain ⟨owner, same, -⟩ := moved.type t
    rw [isReopening, same]
    rfl
  refine signs.same (sameContents_removeLibrary c l) (Nat.le_of_eq moved.types_size.symm) ?_
    (fun t _ => kind t) ?_
  · intro t reopens
    exact isReopening_lt ((kind t).symm.trans reopens)
  -- types that are passed on had an owner before, since they are entries
  · intro t _ owned
    obtain ⟨owner, same, rfl | ⟨⟨k, n, entry⟩, -⟩⟩ := moved.type t
    · rwa [same] at owned
    · rw [library_unregister] at entry
      obtain ⟨o, owned, -⟩ := owners.entry entry
      rw [owned]
      exact Option.some_ne_none o

end SignsBare

theorem signsBare_after (commands : List Command) : (after commands).SignsBare := by
  refine after_induction (P := SignsBare) .initial ?_ ?_ ?_ commands
  · intro c _ _ bare name readOnly docs
    exact bare.addLibrary name readOnly docs
  · intro c _ owners bare l
    exact bare.removeLibrary owners l
  · intro c l readable bare source
    obtain ⟨h, reading, -, stands⟩ := ingest_history readable source
    exact reading.signsBare readable bare stands

end Catalog

/-! ## References

A name is looked up among what stands on its own, in the library and then in the tiers, and it gets
a placeholder if nothing is found. So no answer is a sign, whatever the catalog has under the name.
-/

/-- What a name is looked up as in a sound catalog stands on its own. -/
theorem refer_stands (registry : Registry c) (l : LibraryId) (name : String) :
    (refer l name c).2.isReopening (refer l name c).1 = false := by
  rw [refer]
  split
  · next t own => simpa using (Option.filter_eq_some_iff.1 own).2
  · split
    · next t found => exact (resolve?_entry registry found).2
    · cases entry : (c.library Catalog.hidden).types[name]? with
      | none => exact (introduced_addPlaceholder registry.hidden_lt entry).stands (by decide)
      | some t =>
        rw [addPlaceholder, entry]
        exact decide_eq_false (registry.standing (by decide) entry)

theorem Step.referenced (readable : c.Readable l) (step : Step l c es d)
    (inside : .referenced name t ∈ es) : t.index < d.types.size ∧ d.isReopening t = false := by
  cases step with
  | edit edit => cases edit <;> simp [documentMember] at inside
  | reference _ reference =>
    simp only [List.mem_singleton, Event.referenced.injEq] at inside
    obtain ⟨rfl, rfl⟩ := inside
    exact ⟨(reference.isEntry readable.registry).bound, reference.stands readable.registry⟩
  | declaration _ _ declaration => cases declaration <;> simp [introducedEvents] at inside

/-- What a reference was to goes on to stand on its own. -/
theorem Reading.referenced (readable : c.Readable l) (reading : Reading l c h d)
    (inside : .referenced name t ∈ h.events) :
    t.index < d.types.size ∧ d.isReopening t = false := by
  induction reading with
  | start => cases inside
  | step reading step ih =>
    have readable := reading.readable readable
    rw [History.events_append, List.mem_append] at inside
    rcases inside with earlier | now
    · obtain ⟨bound, stands⟩ := ih earlier
      exact ⟨Nat.lt_of_lt_of_le bound (step.types_size_le readable),
        step.stands readable bound stands⟩
    · exact step.referenced readable now

/-! ## The main statement -/

/-- After every session types that reopen others have neither properties nor operations. If a
library has an entry for one, its super type is a type that stands on its own, and so is what stores
the members of any entry. Neither the look-up of a name nor a reference, be it one that is made now
or one of a further reading, comes to a type that reopens another one. -/
theorem reopenings_store_nothing (commands : List Command) {c : Catalog}
    (reached : c = after commands) :
    (∀ t, c.isReopening t = true →
      (c.type t).properties.isEmpty = true ∧ (c.type t).operations.isEmpty = true) ∧
    (∀ (l : LibraryId) (name : String) t, (c.library l).types[name]? = some t →
      (c.isReopening t = true → ∃ u, (c.type t).superType = some u ∧
        u.index < c.types.size ∧ c.isReopening u = false) ∧
      c.isReopening (c.storage t) = false) ∧
    (∀ name t, c.resolve? name = some t → c.isReopening t = false) ∧
    (∀ (l : LibraryId) (name : String) (s : ReadState), s.catalog = c →
      ∃ t s', resolve name l s = (.ok t, s') ∧ s'.catalog.isReopening t = false) ∧
    ∀ (l : LibraryId) (source name : String) t, c.WasAdded l →
      .referenced name t ∈ (c.ingest l source).events →
        (c.ingest l source).catalog.isReopening t = false := by
  have registry : Registry c := reached ▸ registry_after commands
  have owners : Owners c := reached ▸ owners_after commands
  have signs : c.SignsBare := reached ▸ signsBare_after commands
  refine ⟨fun t reopens => ?_, fun l name t entry => ?_,
    fun name t found => (resolve?_entry registry found).2, ?_, ?_⟩
  · have bare := signs.bare t reopens
    exact ⟨Std.TreeMap.isEmpty_iff_forall_not_mem.2 (bare .properties),
      Std.TreeMap.isEmpty_iff_forall_not_mem.2 (bare .operations)⟩
  · -- an entry has an owner, so that the second clause of the invariant is about it
    obtain ⟨o, owned, -⟩ := owners.entry entry
    have owned : (c.type t).library ≠ none := by
      rw [owned]
      exact Option.some_ne_none o
    exact ⟨fun reopens => signs.points t reopens owned, signs.storage owned⟩
  · rintro l name s rfl
    exact ⟨(refer l name s.catalog).1, _, rfl, refer_stands registry l name⟩
  · intro l source name t added inside
    obtain ⟨h, reading, events⟩ := ingest_reading (registry.readable added) source
    rw [← events] at inside
    exact (reading.referenced (registry.readable added) inside).2

/-- A clause has turned a reopening to another type, the reading failed after that, and the library
of both types is gone. -/
theorem reopenings_store_nothing_redirected :
    let c := after [.addLibrary "a" false .silent,
      .ingest ⟨2⟩ "interface X { }; interface Y { };", .addLibrary "b" false .silent,
      .ingest ⟨3⟩ "partial interface X : Y { attribute long p; }; interface", .removeLibrary ⟨2⟩]
    (c.library ⟨3⟩).types["X"]? = some ⟨24⟩ ∧ c.isReopening ⟨24⟩ = true ∧
      (c.type ⟨24⟩).properties.isEmpty = true ∧ (c.type ⟨24⟩).operations.isEmpty = true ∧
      (∃ u, (c.type ⟨24⟩).superType = some u ∧ u.index < c.types.size ∧
        c.isReopening u = false) ∧
      c.isReopening (c.storage ⟨24⟩) = false := by
  intro c
  have facts : (c.library ⟨3⟩).types["X"]? = some ⟨24⟩ ∧ c.isReopening ⟨24⟩ = true := by
    decide +kernel
  obtain ⟨bare, registered, -⟩ := reopenings_store_nothing _ (rfl : c = after _)
  obtain ⟨points, stores⟩ := registered ⟨3⟩ "X" ⟨24⟩ facts.1
  exact ⟨facts.1, facts.2, (bare ⟨24⟩ facts.2).1, (bare ⟨24⟩ facts.2).2, points facts.2, stores⟩

end IdlCatalog
