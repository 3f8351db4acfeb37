/-
# IdlCatalog.Proofs.Implementers — whom a type knows as its implementers

A type that is given a super type or a mixin enters the list of implementers of the type that it
names. Nothing ever leaves such a list, and mixins stay as well. A super type need not stay: a later
declaration may give another one, and the former super type goes on to list a type that does not
name it any more.

So the lists are exact about the past: they have who names a type as mixin now, and who had it as
super type after some step (`History.Inherited`). They are exact about the present if and only if
no super type was given up for good. Composite types are no implementers of their parts and are left
out.

## Given and mixed

An edge of the graph of types is given with a super type or mixed in with an `implements`.
`NewEdges` says of a step which edges of either sort it adds; from there on, steps are not looked at
again. What a list of implementers has is the sum of all edges that were added, and what a type
names is the last super type that was given and all mixins.
-/
import IdlCatalog.Proofs.Catalog.Edges
import IdlCatalog.Proofs.Session

namespace IdlCatalog

open Catalog

variable {c d : Catalog} {t u : TypeId} {l : LibraryId} {name : String} {kind : Kind}
  {es : List Event} {g h : History} {commands : List Command}

/-! ## Edges that a step adds

Few edits touch the graph: one that gives a super type, one that mixes in, and the creation of a
type. All others leave the edges as they are, which is said once for each function of the catalog.
-/

theorem Catalog.Composite.synthesized {node : TypeNode} (composite : c.Composite node) :
    node.kind.isSynthesized = true ∧ node.implementedBy = #[] := by
  cases composite with
  | wrapper wrapper => cases wrapper <;> exact ⟨rfl, rfl⟩
  | generic | union => exact ⟨rfl, rfl⟩

theorem Edit.newEdges (edit : Edit l c es d) : ∃ given mixed, NewEdges given mixed c d := by
  -- what leaves the graph alone is quiet, like every edit
  have idle (same : SameEdges c d) : ∃ given mixed, NewEdges given mixed c d :=
    ⟨_, _, same.newEdges edit.quiet.declaredBefore⟩
  have documented {t added} (same : SameEdges c added.2) :
      SameEdges c (documentMember l t added).2 :=
    same.trans (sameEdges_document added.2 l (.member added.1))
  -- a composite has edges to its parts from the start, and they are not counted
  cases edit with
  | nothing | parameter => exact idle (.refl c)
  | compose composite =>
    obtain ⟨synthesized, unimplemented⟩ := composite.synthesized
    exact ⟨_, _, newEdges_pushType c synthesized (.inr composite.library) unimplemented⟩
  | superType owned bound => exact ⟨_, _, newEdges_setSuperType c owned.bound bound owned.declared⟩
  | literal => exact idle (sameEdges_modifyType c _ fun _ => rfl)
  | modifiers => exact idle (sameEdges_modifyType c _ fun _ => rfl)
  | mixin bound base_bound => exact ⟨_, _, newEdges_addImplements c bound base_bound⟩
  | property => exact idle (documented (sameEdges_enter .properties c _ _))
  | operation => exact idle (documented (sameEdges_enter .operations c _ _))
  | constructor => exact idle (documented (sameEdges_addConstructor c _ _))
  | merged => exact idle (sameEdges_mergeOperation c _ _)

theorem Reference.newEdges (readable : c.Readable l) (plain : name ≠ globalsName)
    (reference : Reference l name c t d) : ∃ given mixed, NewEdges given mixed c d := by
  have same : SameEdges c d := by
    cases reference with
    | own | tier => exact .refl c
    | placeholder => exact sameEdges_addPlaceholder c name
  refine ⟨_, _, same.newEdges ?_⟩
  rcases reference.naming readable.registry plain with rfl | introduces
  · exact fun _ => id
  · obtain ⟨-, new⟩ := introduces.place.resolve_left readable.ne_hidden.symm
    exact introduces.introduced.declaredBefore fun old => absurd old (Nat.not_lt.2 new)

theorem Declaration.newEdges {reopens : Bool} {answer : Except (Failure Fault) TypeId}
    (readable : c.Readable l) (plain : name ≠ globalsName) (declared : kind.IsDeclared)
    (declaration : Declaration l kind name c reopens answer es d) :
    ∃ given mixed, NewEdges given mixed c d := by
  have fresh {P : Prop} (old : (⟨c.types.size⟩ : TypeId).index < c.types.size) : P :=
    absurd old (Nat.lt_irrefl _)
  cases declaration with
  | again => exact ⟨_, _, (SameEdges.refl c).newEdges fun _ => id⟩
  | @reopened u e known _ free entered =>
    -- the new type has no edges until it is given the one to what it reopens
    have introduced := (introduced_newType readable.inside free entered).trans_quiet
      (quiet_document e l (.type ⟨c.types.size⟩))
    have same := ((sameEdges_newType c name .reopening).trans (sameEdges_addType entered)).trans
      (sameEdges_document e l (.type ⟨c.types.size⟩))
    have bound := (existing?_isEntry readable.registry plain known).bound
    have edges := newEdges_setSuperType _ introduced.bound
      (Nat.lt_of_lt_of_le bound introduced.size_le) introduced.kind.isSynthesized
    exact ⟨_, _, edges.of_sameEdges same (introduced.declaredBefore fresh)⟩
  | refused =>
    have quiet := quiet_pushType c (TypeNode.new name .reopening) (.inl rfl)
    exact ⟨_, _, (sameEdges_newType c name .reopening).newEdges quiet.declaredBefore⟩
  | @upgraded t e known free entered =>
    have entry := existing?_isEntry readable.registry plain known
    have introduces := introduces_upgraded readable.registry readable.inside plain declared known
      free entered
    have settled : SameEdges c (c.setKind t kind) := sameEdges_modifyType c t fun _ => rfl
    have same := (settled.trans (sameEdges_addType entered)).trans
      (sameEdges_document e l (.type t))
    exact ⟨_, _, same.newEdges (introduces.introduced.declaredBefore fun _ => entry.declared)⟩
  | @created _ e unknown entered =>
    have introduces := introduces_created readable.inside plain declared
      (existing?_eq_none plain unknown).1 entered
    have same := ((sameEdges_newType c name kind).trans (sameEdges_addType entered)).trans
      (sameEdges_document e l (.type ⟨c.types.size⟩))
    exact ⟨_, _, same.newEdges (introduces.introduced.declaredBefore fresh)⟩

/-- A step gives types super types and mixins, and lists them with what they name. -/
theorem Step.newEdges (readable : c.Readable l) (step : Step l c es d) :
    ∃ given mixed, NewEdges given mixed c d := by
  -- one case for each way to take a step
  cases step with
  | edit edit => exact edit.newEdges
  | reference plain reference => exact reference.newEdges readable plain
  | declaration plain declared declaration => exact declaration.newEdges readable plain declared

/-! ## What the lists have

The sum of all edges so far, along a history. A super type that was given and replaced remains in
the sum. -/

/-- After some step of the history `u` was the super type of `t`. -/
def History.Inherited (h : History) (t u : TypeId) : Prop :=
  ∃ x ∈ h, (x.2.type t).superType = some u

theorem History.inherited_append : History.Inherited (h ++ [(es, d)]) t u ↔
    h.Inherited t u ∨ (d.type t).superType = some u := by
  simp only [History.Inherited, List.mem_append, List.mem_singleton, or_and_right, exists_or,
    exists_eq_left]

/-- The lists of implementers have who names a type as mixin, and who had it as super type after a
step of the history. -/
structure Catalog.ListsPast (c : Catalog) (h : History) : Prop where
  superType : ∀ t u, (c.type t).kind.isSynthesized = false → (c.type t).superType = some u →
    h.Inherited t u
  implementedBy : ∀ t u, (c.type t).kind.isSynthesized = false →
    (t ∈ (c.type u).implementedBy ↔ h.Inherited t u ∨ u ∈ (c.type t).types)

namespace Catalog.ListsPast

theorem initial : Catalog.initial.ListsPast [] := by
  have superType (t) : (Catalog.initial.type t).superType = none :=
    congrArg TypeNode.Edges.superType (edges_initial t)
  have types (t) : (Catalog.initial.type t).types = #[] :=
    congrArg TypeNode.Edges.types (edges_initial t)
  have implementedBy (t) : (Catalog.initial.type t).implementedBy = #[] :=
    congrArg TypeNode.Edges.implementedBy (edges_initial t)
  refine ⟨fun t u _ found => ?_, fun t u _ => ?_⟩
  · rw [superType] at found
    cases found
  · simp [types, implementedBy, History.Inherited]

theorem same (past : c.ListsPast h) (same : SameEdges c d) (declared : DeclaredBefore c d) :
    d.ListsPast h := by
  refine ⟨fun t u declared' found => ?_, fun t u declared' => ?_⟩
  · rw [same.superType] at found
    exact past.superType t u (declared t declared') found
  · rw [same.implementedBy, same.types]
    exact past.implementedBy t u (declared t declared')

/-- The super type that a step gives is one after that step, and what was inherited before counts
whether or not it was replaced. -/
theorem step (past : c.ListsPast h) (readable : c.Readable l) (step : Step l c es d) :
    d.ListsPast (h ++ [(es, d)]) := by
  obtain ⟨given, mixed, edges⟩ := step.newEdges readable
  refine ⟨fun t u _ found => History.inherited_append.2 (.inr found), fun t u declared => ?_⟩
  have before := past.implementedBy t u (edges.declared t declared)
  rw [edges.implementedBy t u declared, edges.types t u declared, History.inherited_append, before]
  constructor
  · rintro ((inherited | mixin) | new | new)
    · exact .inl (.inl inherited)
    · exact .inr (.inl mixin)
    · exact .inl (.inr (edges.settled t u new))
    · exact .inr (.inr new)
  · rintro ((inherited | found) | mixin | new)
    · exact .inl (.inl inherited)
    · rcases edges.superType t u declared found with new | old
      · exact .inr (.inl new)
      · exact .inl (.inl (past.superType t u (edges.declared t declared) old))
    · exact .inl (.inr mixin)
    · exact .inr (.inr new)

end Catalog.ListsPast

theorem Reading.listsPast (readable : c.Readable l) (past : c.ListsPast g)
    (reading : Reading l c h d) : d.ListsPast (g ++ h) := by
  induction reading with
  | start => rwa [List.append_nil]
  | step reading step ih =>
    rw [← List.append_assoc]
    exact ih.step (reading.readable readable) step

theorem Command.Takes.listsPast {command : Command} (registry : Registry c)
    (past : c.ListsPast g) (takes : command.Takes c h) :
    (c.perform command).ListsPast (g ++ h) := by
  cases command with
  | addLibrary name readOnly docs =>
    obtain rfl := takes
    rw [List.append_nil]
    refine past.same (sameEdges_addLibrary c name readOnly docs) fun t declared => ?_
    rw [perform, type_addLibrary] at declared
    split at declared
    · next new => exact isSynthesized_of_size_le (Nat.le_of_eq new.symm)
    · exact declared
  | removeLibrary l =>
    obtain rfl := takes
    rw [List.append_nil]
    refine past.same (sameEdges_removeLibrary c l) fun t declared => ?_
    obtain ⟨owner, same, -⟩ := (moved_removeLibrary c l).type t
    rwa [perform, same] at declared
  | ingest l source =>
    rw [Command.Takes] at takes
    rw [perform]
    split at takes
    · next added =>
      rw [if_pos added]
      exact takes.1.listsPast (registry.readable added) past
    · next skipped =>
      obtain rfl := takes
      rwa [if_neg skipped, List.append_nil]

theorem Course.listsPast (course : Course commands h) : (after commands).ListsPast h := by
  induction course with
  | start => exact .initial
  | @command commands _ _ _ command takes ih =>
    rw [after_concat]
    exact takes.listsPast (registry_after commands) ih

/-! ## When the lists are exact

The present edges are a part of the past ones. The lists are exact if the other past edges are still
there, as super types or as mixins. -/

/-- The lists of implementers have exactly who names a type as super type or mixin. -/
def Catalog.ImplementersExact (c : Catalog) : Prop :=
  ∀ t u, (c.type t).kind.isSynthesized = false →
    (t ∈ (c.type u).implementedBy ↔ (c.type t).superType = some u ∨ u ∈ (c.type t).types)

/-- Every session has a history, and for each of its histories a type that is not composite is
listed as an implementer by its mixins and by whatever was its super type after some step. So the
lists are exact if and only if every such super type still is the super type, or is a mixin now. -/
theorem implementersExact_iff (commands : List Command) :
    (∃ h, Course commands h) ∧ ∀ h, Course commands h →
      (∀ t u, ((after commands).type t).kind.isSynthesized = false →
        (t ∈ ((after commands).type u).implementedBy ↔
          h.Inherited t u ∨ u ∈ ((after commands).type t).types)) ∧
      ((after commands).ImplementersExact ↔
        ∀ t u, ((after commands).type t).kind.isSynthesized = false → h.Inherited t u →
          ((after commands).type t).superType = some u ∨
            u ∈ ((after commands).type t).types) := by
  refine ⟨exists_course commands, fun h course => ?_⟩
  have past := course.listsPast
  refine ⟨past.implementedBy, fun exact t u declared inherited => ?_,
    fun stays t u declared => ?_⟩
  · exact (exact t u declared).1 ((past.implementedBy t u declared).2 (.inl inherited))
  · rw [past.implementedBy t u declared]
    constructor
    · rintro (inherited | mixin)
      · exact stays t u declared inherited
      · exact .inr mixin
    · exact Or.imp_left (past.superType t u declared)

/-- Both super types that two declarations give, one after the other, were inherited. -/
theorem implementersExact_iff_replaced :
    let commands := [.addLibrary "x" false .silent,
      .ingest ⟨2⟩ "interface A : B { }; interface A : C { };"]
    ∃ h, Course commands h ∧ h.Inherited ⟨21⟩ ⟨22⟩ ∧ h.Inherited ⟨21⟩ ⟨23⟩ := by
  intro commands
  obtain ⟨⟨h, course⟩, lists⟩ := implementersExact_iff commands
  have facts : let c := after commands
      (c.type ⟨21⟩).kind.isSynthesized = false ∧ (c.type ⟨21⟩).types = #[] ∧
        ⟨21⟩ ∈ (c.type ⟨22⟩).implementedBy ∧ ⟨21⟩ ∈ (c.type ⟨23⟩).implementedBy := by
    decide +kernel
  have exact := (lists h course).1
  generalize after commands = c at exact facts
  obtain ⟨declared, unmixed, first, second⟩ := facts
  -- without mixins only inheritance is left as the reason for being listed
  have inherited {u} (listed : ⟨21⟩ ∈ (c.type u).implementedBy) : h.Inherited ⟨21⟩ u := by
    refine ((exact ⟨21⟩ u declared).1 listed).resolve_right ?_
    rw [unmixed]
    exact Array.not_mem_empty u
  exact ⟨h, course, inherited first, inherited second⟩

/-- A second declaration gives another super type. The first one still lists the type, which does
not name it any more. -/
theorem replaced_super_type_listed :
    ¬(after [.addLibrary "x" false .silent,
      .ingest ⟨2⟩ "interface A : B { }; interface A : C { };"]).ImplementersExact := by
  intro exact
  have facts : let c := after [.addLibrary "x" false .silent,
        .ingest ⟨2⟩ "interface A : B { }; interface A : C { };"]
      (c.type ⟨21⟩).kind.isSynthesized = false ∧ ⟨21⟩ ∈ (c.type ⟨22⟩).implementedBy ∧
        (c.type ⟨21⟩).superType = some ⟨23⟩ ∧ ⟨22⟩ ∉ (c.type ⟨21⟩).types := by
    decide +kernel
  -- nothing else about the catalog is needed, and evaluating it again would be slow
  generalize after _ = c at exact facts
  obtain ⟨declared, listed, superType, unmixed⟩ := facts
  rcases (exact ⟨21⟩ ⟨22⟩ declared).1 listed with named | mixin
  · rw [superType] at named
    cases named
  · exact unmixed mixin

end IdlCatalog
