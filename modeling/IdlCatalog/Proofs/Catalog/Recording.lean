/-
# IdlCatalog.Proofs.Catalog.Recording — when the mentions of a member are recorded

A member is recorded at the types that it mentions when it is attached, and again when a further
overload is folded into it. This module says what these two do, and that no other function on
catalogs touches members or records anything.

## What is not said

The lists say which members mention a type, and they are written when a member is attached or
merged. A typedef that is declared later makes members mention further types that did not record
them. So the lists are not the mentions at the moment; they are the mentions at the moments of
recording, which is what the two sections below say about a single call.
-/
import IdlCatalog.Proofs.Catalog.Mentions
import IdlCatalog.Proofs.Catalog.Registry

namespace IdlCatalog

/-- What a member mentions is seen from its type and its body. -/
theorem Member.referencedTypes_congr {a b : Member} (type : a.type = b.type)
    (body : a.body = b.body) : a.referencedTypes = b.referencedTypes := by
  rw [Member.referencedTypes, Member.referencedTypes, Member.parameters, Member.parameters, type,
    body]

namespace Catalog

variable {b c d e : Catalog} {t u : TypeId} {m k : MemberId} {l : LibraryId} {a : Member}

/-! ## Functions that record nothing

These functions change types, libraries or documentation. They leave members, lists of references
and the tables of operations alone, and may only create types that have none of these. -/

/-- Members and what is recorded about them stay as they are. -/
structure SameMembers (c d : Catalog) : Prop where
  members : d.members = c.members
  referencedBy : ∀ u, (d.type u).referencedBy = (c.type u).referencedBy
  operations : ∀ u, (d.type u).operations = (c.type u).operations

theorem SameMembers.refl (c : Catalog) : SameMembers c c := ⟨rfl, fun _ => rfl, fun _ => rfl⟩

theorem SameMembers.trans (h : SameMembers b c) (h' : SameMembers c d) : SameMembers b d :=
  ⟨h'.members.trans h.members, fun u => (h'.referencedBy u).trans (h.referencedBy u),
    fun u => (h'.operations u).trans (h.operations u)⟩

/-- Every member is read as before. -/
theorem SameMembers.member (h : SameMembers c d) (m : MemberId) : d.member m = c.member m := by
  rw [Catalog.member, Catalog.member, h.members]

/-- A change of other fields of a type records nothing. -/
theorem sameMembers_modifyType {f : TypeNode → TypeNode} (c : Catalog) (t : TypeId)
    (referencedBy : ∀ node, (f node).referencedBy = node.referencedBy)
    (operations : ∀ node, (f node).operations = node.operations) :
    SameMembers c (c.modifyType t f) :=
  ⟨rfl, fun u => type_modifyType_of_eq c t u TypeNode.referencedBy referencedBy,
    fun u => type_modifyType_of_eq c t u TypeNode.operations operations⟩

/-- A new type mentions and records nothing. -/
theorem sameMembers_pushType (c : Catalog) (node : TypeNode) (referencedBy : node.referencedBy = ∅)
    (operations : node.operations = ∅) : SameMembers c (c.pushType node).2 := by
  have blank (u : TypeId) (here : u.index = c.types.size) : c.type u = default :=
    type_of_size_le c u (Nat.le_of_eq here.symm)
  refine ⟨rfl, fun u => ?_, fun u => ?_⟩
  · rw [type_pushType]
    split
    · next here => rw [blank u here, referencedBy]; rfl
    · rfl
  · rw [type_pushType]
    split
    · next here => rw [blank u here, operations]; rfl
    · rfl

theorem sameMembers_newType (c : Catalog) (name : String) (kind : Kind) :
    SameMembers c (c.newType name kind).2 :=
  sameMembers_pushType c (TypeNode.new name kind) rfl rfl

theorem sameMembers_pushTypeArgument (c : Catalog) (t u : TypeId) :
    SameMembers c (c.pushTypeArgument t u) :=
  sameMembers_modifyType c t (fun _ => rfl) fun _ => rfl

theorem sameMembers_addImplementer (c : Catalog) (t u : TypeId) :
    SameMembers c (c.addImplementer t u) :=
  sameMembers_modifyType c t (fun _ => rfl) fun _ => rfl

/-- Setting a super type records nothing, though it may change what members mention. -/
theorem sameMembers_setSuperType (c : Catalog) (t u : TypeId) :
    SameMembers c (c.setSuperType t u) := by
  have first : SameMembers c (c.modifyType t fun node => { node with superType := some u }) :=
    sameMembers_modifyType c t (fun _ => rfl) fun _ => rfl
  unfold setSuperType
  dsimp only
  split
  · exact first.trans (sameMembers_addImplementer _ u t)
  · exact first

theorem sameMembers_addImplements (c : Catalog) (t u : TypeId) :
    SameMembers c (c.addImplements t u) :=
  (sameMembers_pushTypeArgument c t u).trans (sameMembers_addImplementer _ u t)

theorem sameMembers_setKind (c : Catalog) (t : TypeId) (kind : Kind) :
    SameMembers c (c.setKind t kind) :=
  sameMembers_modifyType c t (fun _ => rfl) fun _ => rfl

theorem sameMembers_addType (ok : c.addType l t = .ok d) : SameMembers c d := by
  obtain ⟨library, -, -, rfl⟩ := addType_eq_ok ok
  have entry : SameMembers c (c.modifyLibrary l fun _ => library) :=
    ⟨rfl, fun _ => rfl, fun _ => rfl⟩
  refine entry.trans (sameMembers_modifyType _ t ?_ ?_)
  · exact fun _ => rfl
  · exact fun _ => rfl

theorem sameMembers_documentType (c : Catalog) (l : LibraryId) (t : TypeId) :
    SameMembers c (c.document l (.type t)) :=
  sameMembers_modifyType c t (fun _ => rfl) fun _ => rfl

theorem sameMembers_addPlaceholder (c : Catalog) (name : String) :
    SameMembers c (c.addPlaceholder name).2 := by
  rw [addPlaceholder]
  split
  · exact .refl c
  · have pushed := sameMembers_pushType c
      { TypeNode.new name .noInterfaceObject with library := some hidden } rfl rfl
    exact ⟨pushed.members, pushed.referencedBy, pushed.operations⟩

theorem sameMembers_pushLibrary (c : Catalog) (name : String) (readOnly : Bool)
    (docs : DocumentationProvider) : SameMembers c (c.pushLibrary name readOnly docs).2 := by
  have pushed := sameMembers_pushType c { TypeNode.new globalsName .noInterfaceObject with
    library := some ⟨c.libraries.size⟩ } rfl rfl
  exact ⟨pushed.members, pushed.referencedBy, pushed.operations⟩

theorem sameMembers_addLibrary (c : Catalog) (name : String) (readOnly : Bool)
    (docs : DocumentationProvider) : SameMembers c (c.addLibrary name readOnly docs).2 := by
  have pushed := sameMembers_pushLibrary c name readOnly docs
  exact ⟨pushed.members, pushed.referencedBy, pushed.operations⟩

theorem sameMembers_addPrimitive (c : Catalog) (name : String) :
    SameMembers c (c.addPrimitive name) := by
  have pushed := sameMembers_pushType c
    { TypeNode.new name .primitive with library := some primitives } rfl rfl
  exact ⟨pushed.members, pushed.referencedBy, pushed.operations⟩

theorem sameMembers_initial : SameMembers ⟨#[], #[], #[], []⟩ initial := by
  rw [initial_eq]
  exact ((sameMembers_pushLibrary _ _ _ _).trans (sameMembers_pushLibrary _ _ _ _)).trans
    (related_foldl .refl .trans sameMembers_addPrimitive primitiveNames empty)

/-- In the first catalog there are no operations, and nothing is recorded. -/
theorem initial_blank (u : TypeId) :
    (initial.type u).operations = ∅ ∧ (initial.type u).referencedBy = ∅ := by
  have blank : (⟨#[], #[], #[], []⟩ : Catalog).type u = default :=
    type_of_size_le _ u (Nat.zero_le _)
  rw [sameMembers_initial.operations, sameMembers_initial.referencedBy, blank]
  exact ⟨rfl, rfl⟩

/-- Removing a library forgets nothing that was recorded. -/
theorem sameMembers_removeLibrary (c : Catalog) (l : LibraryId) :
    SameMembers c (c.removeLibrary l).2 :=
  related_removeLibrary .refl .trans (fun _ => ⟨rfl, fun _ => rfl, fun _ => rfl⟩)
    (fun c t _ => sameMembers_modifyType c t (fun _ => rfl) fun _ => rfl) c

/-! ## Attaching a member

A member is created and recorded first. What follows, writing the table and detaching another
member, changes neither what it mentions nor the graph along which mentions are passed on
(`Settles`). -/

/-- `m` is created with the types and the body of `a`, and recorded at the types that it mentions.
An operation may enter the table of its type. -/
structure Attached (m : MemberId) (a : Member) (c d : Catalog) : Prop where
  fresh : m.index = c.members.size
  size : d.members.size = c.members.size + 1
  type : (d.member m).type = a.type
  body : (d.member m).body = a.body
  others : ∀ k, k.index < c.members.size → (d.member k).body = (c.member k).body
  graph : SameGraph c d
  referencedBy : ∀ k u, k ∈ (d.type u).referencedBy ↔
    k ∈ (c.type u).referencedBy ∨ (k = m ∧ c.Mentions a.referencedTypes u)
  operations : ∀ u (name : String) k, (d.type u).operations[name]? = some k →
    (c.type u).operations[name]? = some k ∨ (k = m ∧ a.IsOperation)

/-- What may still happen to a member and its type after it was recorded. -/
structure Settles (m : MemberId) (a : Member) (c d : Catalog) : Prop where
  size : d.members.size = c.members.size
  type : ∀ k, (d.member k).type = (c.member k).type
  body : ∀ k, (d.member k).body = (c.member k).body
  graph : SameGraph c d
  referencedBy : ∀ u, (d.type u).referencedBy = (c.type u).referencedBy
  operations : ∀ u (name : String) k, (d.type u).operations[name]? = some k →
    (c.type u).operations[name]? = some k ∨ (k = m ∧ a.IsOperation)

/-- What is done after the recording leaves the member attached as it was. -/
theorem Attached.settles (h : Attached m a c d) (h' : Settles m a d e) : Attached m a c e where
  fresh := h.fresh
  size := h'.size.trans h.size
  type := (h'.type m).trans h.type
  body := (h'.body m).trans h.body
  others k lt := (h'.body k).trans (h.others k lt)
  graph := h.graph.trans h'.graph
  referencedBy k u := by rw [h'.referencedBy, h.referencedBy]
  operations u name k entry := (h'.operations u name k entry).elim (h.operations u name k) .inr

/-- A change of the owner or of the documentation is of this sort. -/
theorem settles_modifyMember (c : Catalog) (k : MemberId) {f : Member → Member}
    (type : ∀ member, (f member).type = member.type)
    (body : ∀ member, (f member).body = member.body) : Settles m a c (c.modifyMember k f) where
  size := members_size_modifyMember c k f
  type k' := member_modifyMember_of_eq c k k' Member.type type
  body k' := member_modifyMember_of_eq c k k' Member.body body
  graph := sameGraph_of_types rfl
  referencedBy _ := rfl
  operations _ _ _ := .inl

/-- So is writing the tables of a type. -/
theorem settles_modifyType (c : Catalog) (t : TypeId) {f : TypeNode → TypeNode}
    (keeps : KeepsTargets f) (referencedBy : ∀ node, (f node).referencedBy = node.referencedBy)
    (operations : ∀ node (name : String) k, (f node).operations[name]? = some k →
      node.operations[name]? = some k ∨ (k = m ∧ a.IsOperation)) :
    Settles m a c (c.modifyType t f) where
  size := rfl
  type _ := rfl
  body _ := rfl
  graph := sameGraph_modifyType c t keeps
  referencedBy u := type_modifyType_of_eq c t u TypeNode.referencedBy referencedBy
  operations u name k := by
    rw [type_modifyType]
    split
    · exact operations _ name k
    · exact .inl

/-- And detaching. -/
theorem settles_detach (c : Catalog) (replaced : Option MemberId) :
    Settles m a c (c.detach replaced) := by
  cases replaced with
  | none => exact ⟨rfl, fun _ => rfl, fun _ => rfl, sameGraph_of_types rfl, fun _ => rfl,
      fun _ _ _ => .inl⟩
  | some k => exact settles_modifyMember c k (fun _ => rfl) fun _ => rfl

/-- And documenting. -/
theorem settles_document (c : Catalog) (l : LibraryId) (k : MemberId) :
    Settles m a c (c.document l (.member k)) :=
  settles_modifyMember c k (fun _ => rfl) fun _ => rfl

/-- A member that was created is recorded at the types that it mentions, and at no others. -/
theorem attached_pushMember (c : Catalog) (a : Member) (owner : TypeId) :
    Attached ⟨c.members.size⟩ a c (c.pushMember a owner).2 := by
  -- the references are noted once the member is there, in a graph that it did not change
  let pushed : Catalog := { c with members := c.members.push { a with owner := some owner } }
  have notes := onlyNotes_addReferences pushed a.referencedTypes ⟨c.members.size⟩
  have graph : SameGraph c pushed := sameGraph_of_types rfl
  have member (k) : (c.pushMember a owner).2.member k = pushed.member k := by
    have members : (c.pushMember a owner).2.members = pushed.members := notes.members
    rw [Catalog.member, Catalog.member, members]
  have new : pushed.member ⟨c.members.size⟩ = { a with owner := some owner } := by
    simp [Catalog.member, pushed]
  refine ⟨rfl, ?_, ?_, ?_, ?_, graph.trans notes.graph, ?_, ?_⟩
  · have members : (c.pushMember a owner).2.members = pushed.members := notes.members
    rw [members]
    exact Array.size_push _
  · rw [member, new]
  · rw [member, new]
  · intro k lt
    have old : pushed.member k = c.member k := by
      simp [Catalog.member, pushed, Array.getElem?_push, Nat.ne_of_lt lt]
    rw [member, old]
  · intro k u
    rw [← graph.mentions]
    exact mem_referencedBy_addReferences pushed a.referencedTypes ⟨c.members.size⟩
  · intro u name k entry
    have same : ((c.pushMember a owner).2.type u).operations = (c.type u).operations :=
      notes.operations u
    rw [same] at entry
    exact .inl entry

/-- So a property is, wherever it is stored. -/
theorem attached_addProperty (c : Catalog) (t : TypeId) (a : Member) :
    Attached (c.addProperty t a).1 a c (c.addProperty t a).2 := by
  refine ((attached_pushMember c a (c.storage t)).settles ?_).settles (settles_detach _ _)
  refine settles_modifyType _ _ ?_ (fun _ => rfl) fun _ _ _ => .inl
  exact keepsTargets_of_eq (fun _ => rfl) (fun _ => rfl) fun _ => rfl

/-- An operation enters the table of its type under its name. -/
theorem attached_addOperation (c : Catalog) (t : TypeId) (body : a.IsOperation) :
    Attached (c.addOperation t a).1 a c (c.addOperation t a).2 := by
  refine ((attached_pushMember c a (c.storage t)).settles ?_).settles (settles_detach _ _)
  refine settles_modifyType _ _ ?_ (fun _ => rfl) fun node name k entry => ?_
  · exact keepsTargets_of_eq (fun _ => rfl) (fun _ => rfl) fun _ => rfl
  · have entry : (node.operations.insert a.name ⟨c.members.size⟩)[name]? = some k := entry
    rw [Std.TreeMap.getElem?_insert] at entry
    split at entry
    · exact .inr ⟨(Option.some.inj entry).symm, body⟩
    · exact .inl entry

/-- And so is a constructor. -/
theorem attached_addConstructor (c : Catalog) (t : TypeId) (a : Member) :
    Attached (c.addConstructor t a).1 a c (c.addConstructor t a).2 := by
  have pushed := attached_pushMember c
    { a with modifiers := a.modifiers ||| Modifiers.constructor } t
  have settled := pushed.settles (settles_modifyType _ t
    (f := fun node => { node with
      constructors := node.constructors.push ⟨c.members.size⟩
      kind := if node.kind = .noInterfaceObject then .interface else node.kind })
    ?_ (fun _ => rfl) fun _ _ _ => .inl)
  · exact ⟨settled.fresh, settled.size, settled.type, settled.body, settled.others, settled.graph,
      settled.referencedBy, settled.operations⟩
  · -- neither of the two kinds of interface passes references on
    refine ⟨fun node => ?_, fun node => ?_⟩
    · by_cases bare : node.kind = .noInterfaceObject
      · simp [bare, Kind.isTransparent]
      · simp [bare]
    · by_cases bare : node.kind = .noInterfaceObject
      · simp [bare, TypeNode.targets]
      · simp [bare, TypeNode.targets]

/-! ## Folding in an overload

The operation that takes the overload gets the parameters of both, and is recorded at all types that
these mention. That it was recorded at some of them before does not matter. -/

/-- `m` gets the parameters `ps` and is recorded at the types that these mention. -/
structure Folded (m : MemberId) (ps : List Parameter) (c d : Catalog) : Prop where
  members : ∀ k, k ≠ m → d.member k = c.member k
  size : d.members.size = c.members.size
  parameters : (d.member m).parameters = ps
  isOperation : (d.member m).IsOperation
  graph : SameGraph c d
  referencedBy : ∀ k u, k ∈ (d.type u).referencedBy ↔
    k ∈ (c.type u).referencedBy ∨ (k = m ∧ c.Mentions (ps.map Parameter.type) u)
  operations : ∀ u, (d.type u).operations = (c.type u).operations

/-- An operation takes the parameters that it is given. -/
theorem parameters_withParameters (body : a.IsOperation) (ps : List Parameter) :
    (a.withParameters ps).parameters = ps ∧ (a.withParameters ps).IsOperation := by
  obtain ⟨_, specials, eq⟩ := body
  have folded : a.withParameters ps = { a with body := .operation ps specials } := by
    rw [Member.withParameters, eq]
  rw [folded]
  exact ⟨rfl, ps, specials, rfl⟩

/-- Giving parameters to an operation and recording them does nothing else. -/
theorem folded_addReferences (bound : m.index < c.members.size) (body : (c.member m).IsOperation)
    (ps : List Parameter) : Folded m ps c
      ((c.modifyMember m fun member => member.withParameters ps).addReferences
        (ps.map Parameter.type) m) := by
  have new : (c.modifyMember m fun member => member.withParameters ps).member m =
      (c.member m).withParameters ps := by
    rw [member_modifyMember, if_pos ⟨rfl, bound⟩]
  have old (k) (other : k ≠ m) :
      (c.modifyMember m fun member => member.withParameters ps).member k = c.member k := by
    rw [member_modifyMember, if_neg fun both => other both.1]
  have size := members_size_modifyMember c m fun member => member.withParameters ps
  have graph : SameGraph c (c.modifyMember m fun member => member.withParameters ps) :=
    sameGraph_of_types rfl
  have type (u) : (c.modifyMember m fun member => member.withParameters ps).type u = c.type u := rfl
  generalize c.modifyMember m (fun member => member.withParameters ps) = e at *
  have notes := onlyNotes_addReferences e (ps.map Parameter.type) m
  have member (k) : (e.addReferences (ps.map Parameter.type) m).member k = e.member k := by
    rw [Catalog.member, Catalog.member, notes.members]
  obtain ⟨parameters, isOperation⟩ := parameters_withParameters body ps
  refine ⟨?_, ?_, ?_, ?_, graph.trans notes.graph, ?_, ?_⟩
  · intro k other
    rw [member, old k other]
  · rw [notes.members, size]
  · rw [member, new, parameters]
  · rw [member, new]
    exact isOperation
  · intro k u
    rw [mem_referencedBy_addReferences, type, graph.mentions]
  · intro u
    rw [notes.operations, type]

/-- A further overload is folded in. -/
theorem folded_mergeOperation (bound : m.index < c.members.size) (body : (c.member m).IsOperation)
    (a : Member) : ∃ ps, Folded m ps c (c.mergeOperation m a) :=
  ⟨_, folded_addReferences bound body (Parameter.merge any (c.member m).parameters a.parameters)⟩

end Catalog

end IdlCatalog
