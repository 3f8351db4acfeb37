/-
# IdlCatalog.Proofs.Catalog.Edges — which functions change the type graph

A type names its super type and its mixins, and a type that is named so has a list of the types that
do. Only three functions touch any of this once a type is there: the one that sets a super type, the
one that adds a mixin, and the one that creates a composite type, whose parts are no implementers.
All others leave the three fields of every type alone (`SameEdges`).

`NewEdges` says what the three have in common. Edges are judged at types that are not composite.

A function is judged by what it does to `edges`, the three fields together. Then a function that
changes other fields keeps them by computation, and a chain of functions by transitivity; no
invariant about the graph has to look into any function that is not one of the three.
-/
import IdlCatalog.Proofs.Catalog.Tables

namespace IdlCatalog

/-- What an entry says about the graph. -/
structure TypeNode.Edges where
  superType : Option TypeId
  types : Array TypeId
  implementedBy : Array TypeId

/-- The edges of an entry. -/
def TypeNode.edges (node : TypeNode) : TypeNode.Edges :=
  ⟨node.superType, node.types, node.implementedBy⟩

/-- Whoever is not composite is noted by its super type. -/
theorem Kind.registers_of_declared {kind : Kind} (declared : kind.isSynthesized = false) :
    kind.registersImplementedBy = true := by
  cases kind with
  | sequence | nullable | union => cases declared
  | _ => rfl

namespace Catalog

variable {b c d : Catalog} {s t u v : TypeId} {l k : LibraryId} {name : String} {kind : Kind}

/-! ## Functions that leave the graph alone

All of them are changes of other fields, creations of types without edges, or changes of members and
libraries, which are not part of the graph. -/

/-- The edges of all types stay as they are. -/
structure SameEdges (c d : Catalog) : Prop where
  type : ∀ u, (d.type u).edges = (c.type u).edges

namespace SameEdges

/-- The super type of every type is the same. -/
theorem superType (h : SameEdges c d) (u : TypeId) : (d.type u).superType = (c.type u).superType :=
  congrArg TypeNode.Edges.superType (h.type u)

/-- So are its mixins. -/
theorem types (h : SameEdges c d) (u : TypeId) : (d.type u).types = (c.type u).types :=
  congrArg TypeNode.Edges.types (h.type u)

/-- So is the list of its implementers. -/
theorem implementedBy (h : SameEdges c d) (u : TypeId) :
    (d.type u).implementedBy = (c.type u).implementedBy :=
  congrArg TypeNode.Edges.implementedBy (h.type u)

theorem refl (c : Catalog) : SameEdges c c := ⟨fun _ => rfl⟩

theorem trans (h : SameEdges b c) (h' : SameEdges c d) : SameEdges b d :=
  ⟨fun u => (h'.type u).trans (h.type u)⟩

end SameEdges

/-- What leaves the types as they are leaves their edges. -/
theorem sameEdges_of_types (types : d.types = c.types) : SameEdges c d :=
  ⟨fun u => by rw [type, type, types]⟩

/-- A change of other fields leaves the edges. -/
theorem sameEdges_modifyType {f : TypeNode → TypeNode} (c : Catalog) (t : TypeId)
    (same : ∀ node, (f node).edges = node.edges) : SameEdges c (c.modifyType t f) :=
  ⟨fun u => type_modifyType_of_eq c t u TypeNode.edges same⟩

/-- A new type without edges. -/
theorem sameEdges_pushType (c : Catalog) (node : TypeNode)
    (blank : node.edges = (default : TypeNode).edges) : SameEdges c (c.pushType node).2 := by
  refine ⟨fun u => ?_⟩
  rw [type_pushType]
  split
  · next here => rw [blank, type_of_size_le c u (Nat.le_of_eq here.symm)]
  · rfl

/-- A declared type has no edges at first. -/
theorem sameEdges_newType (c : Catalog) (name : String) (kind : Kind) :
    SameEdges c (c.newType name kind).2 :=
  sameEdges_pushType c (TypeNode.new name kind) rfl

theorem sameEdges_addPlaceholder (c : Catalog) (name : String) :
    SameEdges c (c.addPlaceholder name).2 := by
  rw [addPlaceholder]
  split
  · exact .refl c
  · exact (sameEdges_pushType c { TypeNode.new name .noInterfaceObject with
      library := some hidden } rfl).trans (sameEdges_of_types rfl)

theorem sameEdges_addType (ok : c.addType l t = .ok d) : SameEdges c d := by
  obtain ⟨library, -, -, rfl⟩ := addType_eq_ok ok
  have same := sameEdges_modifyType (c.modifyLibrary l fun _ => library) t
    (f := fun node => { node with library := some l }) fun _ => rfl
  exact ⟨same.type⟩

theorem sameEdges_document (c : Catalog) (l : LibraryId) (artifact : Artifact) :
    SameEdges c (c.document l artifact) := by
  cases artifact with
  | library _ => exact .refl c
  | type t => exact sameEdges_modifyType c t fun _ => rfl
  | member m => exact sameEdges_of_types rfl

/-- References are recorded in another list. -/
theorem sameEdges_addReferences (c : Catalog) (ts : List TypeId) (m : MemberId) :
    SameEdges c (c.addReferences ts m) := by
  have note (c : Catalog) (t : TypeId) : SameEdges c (noteReference m c t) :=
    sameEdges_modifyType c t fun _ => rfl
  have one (c : Catalog) (t : TypeId) : SameEdges c (c.addReference t m) :=
    related_foldl .refl .trans note _ c
  exact related_foldl .refl .trans one ts c

theorem sameEdges_pushMember (c : Catalog) (a : Member) (owner : TypeId) :
    SameEdges c (c.pushMember a owner).2 := by
  have created : SameEdges c { c with members := c.members.push { a with owner := some owner } } :=
    sameEdges_of_types rfl
  exact created.trans (sameEdges_addReferences _ _ _)

theorem sameEdges_enter (table : Table) (c : Catalog) (t : TypeId) (a : Member) :
    SameEdges c (enter table c t a).2 := by
  have entered := sameEdges_modifyType (c.pushMember a (c.storage t)).2 (c.storage t)
    (f := table.insert a.name (c.pushMember a (c.storage t)).1) fun _ => by cases table <;> rfl
  refine ((sameEdges_pushMember c a (c.storage t)).trans entered).trans ⟨fun u => ?_⟩
  exact congrArg TypeNode.edges (type_detach _ _ u)

theorem sameEdges_addConstructor (c : Catalog) (t : TypeId) (a : Member) :
    SameEdges c (c.addConstructor t a).2 :=
  (sameEdges_pushMember c _ t).trans (sameEdges_modifyType _ t fun _ => rfl)

theorem sameEdges_mergeOperation (c : Catalog) (m : MemberId) (a : Member) :
    SameEdges c (c.mergeOperation m a) := by
  have merged (f : Member → Member) : SameEdges c (c.modifyMember m f) := sameEdges_of_types rfl
  exact (merged _).trans (sameEdges_addReferences _ _ _)

theorem sameEdges_pushLibrary (c : Catalog) (name : String) (readOnly : Bool)
    (docs : DocumentationProvider) : SameEdges c (c.pushLibrary name readOnly docs).2 :=
  (sameEdges_pushType c { TypeNode.new globalsName .noInterfaceObject with
    library := some ⟨c.libraries.size⟩ } rfl).trans (sameEdges_of_types rfl)

theorem sameEdges_addLibrary (c : Catalog) (name : String) (readOnly : Bool)
    (docs : DocumentationProvider) : SameEdges c (c.addLibrary name readOnly docs).2 :=
  (sameEdges_pushLibrary c name readOnly docs).trans (sameEdges_of_types rfl)

/-- Removing a library changes owners and maps only, so the graph stays when its names are gone. -/
theorem sameEdges_removeLibrary (c : Catalog) (l : LibraryId) :
    SameEdges c (c.removeLibrary l).2 :=
  related_removeLibrary (r := SameEdges) .refl .trans (fun _ => sameEdges_of_types rfl)
    (fun c t _ => sameEdges_modifyType c t fun _ => rfl) c

theorem sameEdges_addPrimitive (c : Catalog) (name : String) :
    SameEdges c (c.addPrimitive name) :=
  (sameEdges_pushType c { TypeNode.new name .primitive with
    library := some primitives } rfl).trans (sameEdges_of_types rfl)

/-- The first catalog has no edges. -/
theorem edges_initial (u : TypeId) : (initial.type u).edges = (default : TypeNode).edges := by
  have first : SameEdges ⟨#[], #[], #[], []⟩ initial := by
    rw [initial_eq]
    exact ((sameEdges_pushLibrary _ _ _ _).trans (sameEdges_pushLibrary _ _ _ _)).trans
      (related_foldl .refl .trans sameEdges_addPrimitive primitiveNames empty)
  rw [first.type, type_of_size_le _ u (Nat.zero_le _)]

/-! ## Types that are not composite

A composite names its parts in the same fields as a declared type its mixins, but is not listed at
them. So statements about edges are about types that are not composite, and it matters that a type
is composite once and for all. -/

/-- No composite type turns into one that is not. -/
def DeclaredBefore (c d : Catalog) : Prop :=
  ∀ t, (d.type t).kind.isSynthesized = false → (c.type t).kind.isSynthesized = false

/-- What does not exist yet is not composite. -/
theorem isSynthesized_of_size_le (new : c.types.size ≤ t.index) :
    (c.type t).kind.isSynthesized = false := by
  rw [type_of_size_le c t new]
  rfl

/-- A quiet change makes no composite of a type that was none. -/
theorem Quiet.declaredBefore (quiet : Quiet c d) : DeclaredBefore c d := by
  intro t declared
  by_cases old : t.index < c.types.size
  · rwa [(quiet.old t old).kind.isSynthesized] at declared
  · exact isSynthesized_of_size_le (Nat.not_lt.1 old)

/-- Introducing a type makes none either, if the type was declared or new. -/
theorem Introduced.declaredBefore (introduced : Introduced k name t kind c d)
    (known : t.index < c.types.size → (c.type t).kind.isSynthesized = false) :
    DeclaredBefore c d := by
  intro u declared
  by_cases old : u.index < c.types.size
  · by_cases here : u = t
    · subst here
      exact known old
    · rwa [(introduced.others u old here).kind.isSynthesized] at declared
  · exact isSynthesized_of_size_le (Nat.not_lt.1 old)

/-! ## Functions that add an edge

Adding a mixin lists the type at the mixin. Setting a super type lists it at the super type where
the kind of the type says so, and when it replaces an earlier super type the type stays listed
there. -/

/-- Types that are not composite get the given super types and mixins, and nothing else; whoever is
named learns of it. A super type takes the place of the one before. -/
structure NewEdges (given mixed : TypeId → TypeId → Prop) (c d : Catalog) : Prop where
  declared : DeclaredBefore c d
  settled : ∀ t u, given t u → (d.type t).superType = some u
  superType : ∀ t u, (d.type t).kind.isSynthesized = false → (d.type t).superType = some u →
    given t u ∨ (c.type t).superType = some u
  types : ∀ t u, (d.type t).kind.isSynthesized = false →
    (u ∈ (d.type t).types ↔ u ∈ (c.type t).types ∨ mixed t u)
  implementedBy : ∀ t u, (d.type t).kind.isSynthesized = false →
    (t ∈ (d.type u).implementedBy ↔ t ∈ (c.type u).implementedBy ∨ given t u ∨ mixed t u)

variable {given mixed : TypeId → TypeId → Prop}

/-- A graph that is left alone has no new edges. -/
theorem SameEdges.newEdges (same : SameEdges c d) (declared : DeclaredBefore c d) :
    NewEdges (fun _ _ => False) (fun _ _ => False) c d where
  declared := declared
  settled _ _ none := none.elim
  superType t u _ superType := .inr ((same.superType t).symm.trans superType)
  types t u _ := by rw [same.types, or_false]
  implementedBy t u _ := by rw [same.implementedBy, or_false, or_false]

/-- What leaves the graph alone may come first. -/
theorem NewEdges.of_sameEdges (same : SameEdges b c) (declared : DeclaredBefore b c)
    (edges : NewEdges given mixed c d) : NewEdges given mixed b d where
  declared t declared' := declared t (edges.declared t declared')
  settled := edges.settled
  superType t u declared' superType :=
    (edges.superType t u declared' superType).imp_right (same.superType t).symm.trans
  types t u declared' := by rw [← same.types]; exact edges.types t u declared'
  implementedBy t u declared' := by
    rw [← same.implementedBy]
    exact edges.implementedBy t u declared'

/-- A composite type names its parts, but does not count. -/
theorem newEdges_pushType (c : Catalog) {node : TypeNode}
    (composite : node.kind.isSynthesized = true)
    (owner : node.library = none ∨ node.library = some hidden)
    (unimplemented : node.implementedBy = #[]) :
    NewEdges (fun _ _ => False) (fun _ _ => False) c (c.pushType node).2 := by
  have old {t} (declared : ((c.pushType node).2.type t).kind.isSynthesized = false) :
      (c.pushType node).2.type t = c.type t := by
    rw [type_pushType] at declared ⊢
    split at declared
    · rw [composite] at declared
      cases declared
    · next old => rw [if_neg old]
  refine ⟨(quiet_pushType c node owner).declaredBefore, fun _ _ => False.elim, ?_, ?_, ?_⟩
  · intro t u declared superType
    rw [old declared] at superType
    exact .inr superType
  · intro t u declared
    rw [old declared, or_false]
  · intro t u _
    rw [type_pushType, or_false, or_false]
    split
    · next here =>
      rw [unimplemented, type_of_size_le c u (Nat.le_of_eq here.symm)]
      rfl
    · rfl

/-- Listing a type at another one changes no super type. -/
theorem superType_addImplementer (c : Catalog) (u t s : TypeId) :
    ((c.addImplementer u t).type s).superType = (c.type s).superType :=
  type_modifyType_of_eq c u s TypeNode.superType fun _ => rfl

/-- Nor does it change mixins. -/
theorem types_addImplementer (c : Catalog) (u t s : TypeId) :
    ((c.addImplementer u t).type s).types = (c.type s).types :=
  type_modifyType_of_eq c u s TypeNode.types fun _ => rfl

/-- The one new entry of a list is the type that was added, and only at the type that it names. -/
theorem mem_implementedBy_addImplementer (c : Catalog) (bound : u.index < c.types.size)
    (s t v : TypeId) : s ∈ ((c.addImplementer u t).type v).implementedBy ↔
      s ∈ (c.type v).implementedBy ∨ s = t ∧ v = u := by
  rw [addImplementer, type_modifyType]
  by_cases here : v = u
  · simp [here, bound, Array.mem_push]
  · simp [here]

/-- A type that is not composite gets a super type. -/
theorem newEdges_setSuperType (c : Catalog) (bound : t.index < c.types.size)
    (base_bound : u.index < c.types.size) (declared : (c.type t).kind.isSynthesized = false) :
    NewEdges (fun s v => s = t ∧ v = u) (fun _ _ => False) c (c.setSuperType t u) := by
  let f : TypeNode → TypeNode := fun node => { node with superType := some u }
  have kept (v) : ((c.modifyType t f).type v).kind = (c.type v).kind :=
    type_modifyType_of_eq c t v TypeNode.kind fun _ => rfl
  have noted : c.setSuperType t u = (c.modifyType t f).addImplementer u t := by
    show (if _ then _ else _) = _
    rw [if_pos]
    rw [kept]
    exact Kind.registers_of_declared declared
  have sized : u.index < (c.modifyType t f).types.size := by rwa [types_size_modifyType]
  have superType (s) : ((c.setSuperType t u).type s).superType =
      if s = t then some u else (c.type s).superType := by
    rw [noted, superType_addImplementer, type_modifyType]
    simp only [bound, and_true]
    split <;> rfl
  refine ⟨(quiet_setSuperType c t u).declaredBefore, ?_, ?_, ?_, ?_⟩
  · rintro s v ⟨rfl, rfl⟩
    rw [superType, if_pos rfl]
  · intro s v _ found
    rw [superType] at found
    split at found
    · next here => exact .inl ⟨here, (Option.some.inj found).symm⟩
    · exact .inr found
  · intro s v _
    have same : ((c.modifyType t f).type s).types = (c.type s).types :=
      type_modifyType_of_eq c t s TypeNode.types fun _ => rfl
    rw [noted, types_addImplementer, same, or_false]
  · intro s v _
    have same : ((c.modifyType t f).type v).implementedBy = (c.type v).implementedBy :=
      type_modifyType_of_eq c t v TypeNode.implementedBy fun _ => rfl
    rw [noted, mem_implementedBy_addImplementer _ sized, same, or_false]

/-- A type gets a mixin. -/
theorem newEdges_addImplements (c : Catalog) (bound : t.index < c.types.size)
    (base_bound : u.index < c.types.size) :
    NewEdges (fun _ _ => False) (fun s v => s = t ∧ v = u) c (c.addImplements t u) := by
  have sized : u.index < (c.pushTypeArgument t u).types.size := by
    rwa [pushTypeArgument, types_size_modifyType]
  refine ⟨(quiet_addImplements c t u).declaredBefore, fun _ _ => False.elim, ?_, ?_, ?_⟩
  · intro s v _ found
    have same : ((c.pushTypeArgument t u).type s).superType = (c.type s).superType :=
      type_modifyType_of_eq c t s TypeNode.superType fun _ => rfl
    rw [addImplements, superType_addImplementer, same] at found
    exact .inr found
  · intro s v _
    rw [addImplements, types_addImplementer, pushTypeArgument, type_modifyType]
    by_cases here : s = t
    · simp [here, bound, Array.mem_push]
    · simp [here]
  · intro s v _
    have same : ((c.pushTypeArgument t u).type v).implementedBy = (c.type v).implementedBy :=
      type_modifyType_of_eq c t v TypeNode.implementedBy fun _ => rfl
    rw [addImplements, mem_implementedBy_addImplementer _ sized, same, false_or]

end Catalog

end IdlCatalog
