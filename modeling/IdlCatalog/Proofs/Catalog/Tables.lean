/-
# IdlCatalog.Proofs.Catalog.Tables — where members are found again

A type keeps its properties and its operations in two tables, under their names. What is in a table
is owned by the type, and a name that is in a table stays there: a member may give way to another
one of its name, which is owned instead. Next to the tables stands the super type, which says where
the members of a reopening go.

`Tables` is the first of these facts, about one catalog. `Extends` is about two, and holds along
every change of a catalog.

## Three sizes of change

Changes are sorted by how much of this they concern. `SameContents` is for the many functions that
leave tables, constructors and super types alone, whatever else they do. `Extends` is for all
functions: names are never lost from a table, members keep what was read, and constructors are only
added. `Filed` is for the functions that attach a member, and says where the member is afterwards.

A member that gives way to another one of its name loses its owner and nothing else. It is in no
table then, and still in the array of members, where its number goes on to mean it.
-/
import IdlCatalog.Proofs.Catalog.Mentions
import IdlCatalog.Proofs.Catalog.Registry

namespace IdlCatalog

/-! ## The two tables

Properties and operations are kept in the same way, so whatever is said of tables is said once, with
the table as a parameter. Which table a member belongs to is seen from its body. -/

/-- The tables of a type. -/
inductive Table
  | properties
  | operations
deriving DecidableEq

namespace Table

/-- The table of an entry. -/
def of : Table → TypeNode → NameMap MemberId
  | properties, node => node.properties
  | operations, node => node.operations

/-- The members that belong into the table. -/
def Holds : Table → Member → Prop
  | properties, a => a.IsProperty
  | operations, a => a.IsOperation

/-- The entry with a member under a name. -/
def insert : Table → String → MemberId → TypeNode → TypeNode
  | properties, name, m, node => { node with properties := node.properties.insert name m }
  | operations, name, m, node => { node with operations := node.operations.insert name m }

variable (table other : Table) {a : Member}

/-- A member belongs to one table. -/
theorem eq_of_holds (h : table.Holds a) (h' : other.Holds a) : table = other := by
  cases table <;> cases other
  · rfl
  · obtain ⟨initial, property⟩ := h
    obtain ⟨ps, specials, operation⟩ := h'
    rw [property] at operation
    cases operation
  · obtain ⟨ps, specials, operation⟩ := h
    obtain ⟨initial, property⟩ := h'
    rw [property] at operation
    cases operation
  · rfl

/-- Inserting into a table changes it under the name, and the other table not at all. -/
theorem of_insert (name n : String) (m : MemberId) (node : TypeNode) :
    (other.of (table.insert name m node))[n]? =
      if other = table ∧ n = name then some m else (other.of node)[n]? := by
  cases table <;> cases other
  · simpa [of, insert] using Catalog.getElem?_insert node.properties name n m
  · simp [of, insert]
  · simp [of, insert]
  · simpa [of, insert] using Catalog.getElem?_insert node.operations name n m

end Table

/-! ## Parts of an entry

What is said here concerns a few fields of a type and of a member. Naming them together keeps the
statements about all other fields short. -/

/-- What an entry says about its members and about its super type. -/
structure TypeNode.Contents where
  superType : Option TypeId
  properties : NameMap MemberId
  operations : NameMap MemberId
  constructors : Array MemberId

/-- The contents of an entry. -/
def TypeNode.contents (node : TypeNode) : TypeNode.Contents :=
  ⟨node.superType, node.properties, node.operations, node.constructors⟩

/-- Two states of a member. The owner may have changed, and the parameters of an operation. -/
structure Member.Alike (a b : Member) : Prop where
  name : b.name = a.name
  holds : ∀ table : Table, table.Holds b ↔ table.Holds a

/-- Members with the same name and body are alike. -/
theorem Member.Alike.of_body {a b : Member} (name : b.name = a.name) (body : b.body = a.body) :
    a.Alike b := by
  refine ⟨name, fun table => ?_⟩
  cases table
  · simp only [Table.Holds, Member.IsProperty, body]
  · simp only [Table.Holds, Member.IsOperation, body]

/-- Every member is like itself. -/
theorem Member.Alike.refl (a : Member) : a.Alike a := .of_body rfl rfl

theorem Member.Alike.trans {a b d : Member} (h : a.Alike b) (h' : b.Alike d) : a.Alike d :=
  ⟨h'.name.trans h.name, fun table => (h'.holds table).trans (h.holds table)⟩

namespace Catalog

variable {b c d : Catalog} {s t u : TypeId} {m k : MemberId} {l : LibraryId} {a : Member}
  {table : Table}

/-- What a table has under a name is a member of that name that the type owns. -/
def Tables (c : Catalog) : Prop :=
  ∀ (table : Table) u (name : String) m, (table.of (c.type u))[name]? = some m →
    m.index < c.members.size ∧ (c.member m).owner = some u ∧ (c.member m).name = name ∧
      table.Holds (c.member m)

/-- A member is in one place at most. -/
theorem Tables.unique (tables : c.Tables) {other : Table} {name n : String}
    (h : (table.of (c.type t))[name]? = some m) (h' : (other.of (c.type u))[n]? = some m) :
    t = u ∧ table = other ∧ name = n := by
  obtain ⟨-, owner, named, holds⟩ := tables _ _ _ _ h
  obtain ⟨-, owner', named', holds'⟩ := tables _ _ _ _ h'
  exact ⟨Option.some.inj (owner.symm.trans owner'), Table.eq_of_holds _ _ holds holds',
    named.symm.trans named'⟩

/-- Nothing is taken out: names stay in tables, members keep their names, constructors stay. What
was there before becomes no constructor. -/
structure Extends (c d : Catalog) : Prop where
  entry : ∀ (table : Table) u (name : String), name ∈ table.of (c.type u) →
    name ∈ table.of (d.type u)
  constructors : ∀ u m, m ∈ (c.type u).constructors → m ∈ (d.type u).constructors
  gained : ∀ u m, m ∈ (d.type u).constructors → m ∈ (c.type u).constructors ∨
    c.members.size ≤ m.index ∧ m.index < d.members.size
  size_le : c.members.size ≤ d.members.size
  member : ∀ m, m.index < c.members.size → (c.member m).Alike (d.member m)
  tables : c.Tables → d.Tables

theorem Extends.refl (c : Catalog) : Extends c c :=
  ⟨fun _ _ _ => id, fun _ _ => id, fun _ _ => .inl, Nat.le_refl _, fun _ _ => .refl _, id⟩

theorem Extends.trans (h : Extends b c) (h' : Extends c d) : Extends b d where
  entry table u name inside := h'.entry table u name (h.entry table u name inside)
  constructors u m inside := h'.constructors u m (h.constructors u m inside)
  gained u m inside := by
    rcases h'.gained u m inside with earlier | ⟨new, bound⟩
    · exact (h.gained u m earlier).imp_right fun ⟨new, bound⟩ =>
        ⟨new, Nat.lt_of_lt_of_le bound h'.size_le⟩
    · exact .inr ⟨Nat.le_trans h.size_le new, bound⟩
  size_le := Nat.le_trans h.size_le h'.size_le
  member m bound := by
    exact (h.member m bound).trans (h'.member m (Nat.lt_of_lt_of_le bound h.size_le))
  tables tables := h'.tables (h.tables tables)

/-! ## Changes of other things

A function that writes other fields keeps the contents by computation. Removal, documentation,
references and mixins are all of this sort. -/

/-- The contents of types stay as they are, and so do members; there may be further ones. -/
structure SameContents (c d : Catalog) : Prop where
  type : ∀ u, (d.type u).contents = (c.type u).contents
  size_le : c.members.size ≤ d.members.size
  owner : ∀ m, m.index < c.members.size → (d.member m).owner = (c.member m).owner
  member : ∀ m, m.index < c.members.size → (c.member m).Alike (d.member m)

namespace SameContents

theorem of (h : SameContents c d) (table : Table) (u : TypeId) :
    table.of (d.type u) = table.of (c.type u) := by
  cases table
  · exact congrArg TypeNode.Contents.properties (h.type u)
  · exact congrArg TypeNode.Contents.operations (h.type u)

/-- Super types are the same. -/
theorem superType (h : SameContents c d) (u : TypeId) :
    (d.type u).superType = (c.type u).superType :=
  congrArg TypeNode.Contents.superType (h.type u)

/-- So are constructors. -/
theorem constructors (h : SameContents c d) (u : TypeId) :
    (d.type u).constructors = (c.type u).constructors :=
  congrArg TypeNode.Contents.constructors (h.type u)

/-- A catalog with the same contents has sound tables too. -/
theorem tables (h : SameContents c d) (tables : c.Tables) : d.Tables := by
  intro table u name m entry
  rw [h.of] at entry
  obtain ⟨bound, owner, named, holds⟩ := tables table u name m entry
  have alike := h.member m bound
  exact ⟨Nat.lt_of_lt_of_le bound h.size_le, (h.owner m bound).trans owner,
    alike.name.trans named, (alike.holds table).2 holds⟩

/-- What leaves the contents leaves all names in tables. -/
theorem toExtends (h : SameContents c d) : Extends c d where
  entry table u name inside := by rwa [h.of]
  constructors u m inside := by rwa [h.constructors]
  gained u m inside := .inl (by rwa [← h.constructors])
  size_le := h.size_le
  member := h.member
  tables := h.tables

theorem refl (c : Catalog) : SameContents c c :=
  ⟨fun _ => rfl, Nat.le_refl _, fun _ _ => rfl, fun _ _ => .refl _⟩

theorem trans (h : SameContents b c) (h' : SameContents c d) : SameContents b d where
  type u := (h'.type u).trans (h.type u)
  size_le := Nat.le_trans h.size_le h'.size_le
  owner m bound :=
    (h'.owner m (Nat.lt_of_lt_of_le bound h.size_le)).trans (h.owner m bound)
  member m bound := by
    exact (h.member m bound).trans (h'.member m (Nat.lt_of_lt_of_le bound h.size_le))

end SameContents

/-- The same types and members. -/
theorem sameContents_of_eq (types : d.types = c.types) (members : d.members = c.members) :
    SameContents c d := by
  have member (m) : d.member m = c.member m := by rw [Catalog.member, Catalog.member, members]
  refine ⟨fun u => by rw [type, type, types], Nat.le_of_eq (congrArg Array.size members.symm),
    fun m _ => by rw [member], ?_⟩
  intro m _
  rw [member]
  exact .refl _

/-- A change of other fields of a type leaves the contents. -/
theorem sameContents_modifyType {f : TypeNode → TypeNode} (c : Catalog) (t : TypeId)
    (same : ∀ node, (f node).contents = node.contents) : SameContents c (c.modifyType t f) where
  type u := type_modifyType_of_eq c t u TypeNode.contents same
  size_le := Nat.le_refl _
  owner _ _ := rfl
  member _ _ := .refl _

/-- So does a change of a member that leaves its owner, its name and its sort. -/
theorem sameContents_modifyMember {f : Member → Member} (c : Catalog) (m : MemberId)
    (owner : ∀ a, (f a).owner = a.owner) (alike : ∀ a : Member, a.Alike (f a)) :
    SameContents c (c.modifyMember m f) where
  type _ := rfl
  size_le := Nat.le_of_eq (members_size_modifyMember c m f).symm
  owner k _ := member_modifyMember_of_eq c m k Member.owner owner
  member k _ := by
    rw [member_modifyMember]
    split
    · exact alike _
    · exact .refl _

/-- A new type without contents adds nothing. -/
theorem sameContents_pushType (c : Catalog) (node : TypeNode)
    (blank : node.contents = (default : TypeNode).contents) :
    SameContents c (c.pushType node).2 := by
  refine ⟨fun u => ?_, Nat.le_refl _, fun _ _ => rfl, fun _ _ => .refl _⟩
  rw [type_pushType]
  split
  · next here => rw [blank, type_of_size_le c u (Nat.le_of_eq here.symm)]
  · rfl

theorem sameContents_newType (c : Catalog) (name : String) (kind : Kind) :
    SameContents c (c.newType name kind).2 :=
  sameContents_pushType c (TypeNode.new name kind) rfl

theorem sameContents_addPlaceholder (c : Catalog) (name : String) :
    SameContents c (c.addPlaceholder name).2 := by
  rw [addPlaceholder]
  split
  · exact .refl c
  · exact (sameContents_pushType c { TypeNode.new name .noInterfaceObject with
      library := some hidden } rfl).trans (sameContents_of_eq rfl rfl)

theorem sameContents_pushLibrary (c : Catalog) (name : String) (readOnly : Bool)
    (docs : DocumentationProvider) : SameContents c (c.pushLibrary name readOnly docs).2 :=
  (sameContents_pushType c { TypeNode.new globalsName .noInterfaceObject with
    library := some ⟨c.libraries.size⟩ } rfl).trans (sameContents_of_eq rfl rfl)

theorem sameContents_addLibrary (c : Catalog) (name : String) (readOnly : Bool)
    (docs : DocumentationProvider) : SameContents c (c.addLibrary name readOnly docs).2 :=
  (sameContents_pushLibrary c name readOnly docs).trans (sameContents_of_eq rfl rfl)

theorem sameContents_addPrimitive (c : Catalog) (name : String) :
    SameContents c (c.addPrimitive name) :=
  (sameContents_pushType c { TypeNode.new name .primitive with
    library := some primitives } rfl).trans (sameContents_of_eq rfl rfl)

/-- Removing a library takes no member out of its table: types are still there, without an entry. -/
theorem sameContents_removeLibrary (c : Catalog) (l : LibraryId) :
    SameContents c (c.removeLibrary l).2 :=
  related_removeLibrary (r := SameContents) .refl .trans (fun _ => sameContents_of_eq rfl rfl)
    (fun c t _ => sameContents_modifyType c t fun _ => rfl) c

theorem sameContents_addType (ok : c.addType l t = .ok d) : SameContents c d := by
  obtain ⟨library, -, -, rfl⟩ := addType_eq_ok ok
  have same := sameContents_modifyType (c.modifyLibrary l fun _ => library) t
    (f := fun node => { node with library := some l }) fun _ => rfl
  exact ⟨same.type, same.size_le, same.owner, same.member⟩

/-- No member is touched when a placeholder is created. -/
theorem members_addPlaceholder (c : Catalog) (name : String) :
    (c.addPlaceholder name).2.members = c.members := by
  rw [addPlaceholder]
  split <;> rfl

/-- Nor when a type is entered. -/
theorem members_addType (ok : c.addType l t = .ok d) : d.members = c.members := by
  obtain ⟨_, -, -, rfl⟩ := addType_eq_ok ok
  rfl

/-- What is documented is no content. -/
theorem sameContents_document (c : Catalog) (l : LibraryId) (artifact : Artifact) :
    SameContents c (c.document l artifact) := by
  cases artifact with
  | library _ => exact .refl c
  | type t => exact sameContents_modifyType c t fun _ => rfl
  | member m => exact sameContents_modifyMember c m (fun _ => rfl) fun _ => .of_body rfl rfl

theorem sameContents_addReferences (c : Catalog) (ts : List TypeId) (m : MemberId) :
    SameContents c (c.addReferences ts m) := by
  have note (c : Catalog) (t : TypeId) : SameContents c (noteReference m c t) :=
    sameContents_modifyType c t fun _ => rfl
  have one (c : Catalog) (t : TypeId) : SameContents c (c.addReference t m) :=
    related_foldl .refl .trans note _ c
  exact related_foldl .refl .trans one ts c

/-- An overload that is folded in changes parameters only, which are not part of what makes members
alike. -/
theorem sameContents_mergeOperation (c : Catalog) (m : MemberId) (a : Member) :
    SameContents c (c.mergeOperation m a) := by
  refine (sameContents_modifyMember c m (fun b => ?_) fun b => ?_).trans
    (sameContents_addReferences _ _ _)
  · rw [Member.withParameters]
    split <;> rfl
  · rw [Member.withParameters]
    split
    · exact .refl _
    · next ps specials body =>
      refine ⟨rfl, fun table => ?_⟩
      cases table
      · simp [Table.Holds, Member.IsProperty, body]
      · simp [Table.Holds, Member.IsOperation, body]

theorem sameContents_addImplements (c : Catalog) (t u : TypeId) :
    SameContents c (c.addImplements t u) := by
  have argument : SameContents c (c.pushTypeArgument t u) :=
    sameContents_modifyType c t fun _ => rfl
  exact argument.trans (sameContents_modifyType _ u fun _ => rfl)

/-! ## Changes of entries

Setting a super type is the one change of a type that is not of this sort and attaches nothing. -/

/-- A change of an entry that adds new constructors at most, after a change of other things. -/
theorem extends_modifyType {f : TypeNode → TypeNode} (same : SameContents b c) (t : TypeId)
    (of : ∀ (table : Table) node, table.of (f node) = table.of node)
    (constructors : ∀ node m, m ∈ node.constructors → m ∈ (f node).constructors)
    (gained : ∀ node m, m ∈ (f node).constructors → m ∈ node.constructors ∨
      b.members.size ≤ m.index ∧ m.index < c.members.size) :
    Extends b (c.modifyType t f) := by
  have tables (table : Table) (u) : table.of ((c.modifyType t f).type u) = table.of (b.type u) :=
    (type_modifyType_of_eq c t u table.of (of table)).trans (same.of table u)
  refine ⟨fun table u name inside => by rwa [tables], fun u m inside => ?_, fun u m inside => ?_,
    same.size_le, same.member, fun whole table u name m entry => ?_⟩
  · rw [← same.constructors] at inside
    rw [type_modifyType]
    split
    · exact constructors _ m inside
    · exact inside
  · rw [type_modifyType] at inside
    rw [← same.constructors]
    split at inside
    · exact gained _ m inside
    · exact .inl inside
  · rw [tables] at entry
    obtain ⟨bound, owner, named, held⟩ := whole table u name m entry
    have alike := same.member m bound
    exact ⟨Nat.lt_of_lt_of_le bound same.size_le, (same.owner m bound).trans owner,
      alike.name.trans named, (alike.holds table).2 held⟩

/-- A new type without members. -/
theorem extends_pushType (c : Catalog) (node : TypeNode)
    (bare : ∀ table : Table, table.of node = ∅) (none : node.constructors = #[]) :
    Extends c (c.pushType node).2 := by
  -- beyond the end there was nothing
  have blank {u : TypeId} (here : u.index = c.types.size) : c.type u = default :=
    type_of_size_le c u (Nat.le_of_eq here.symm)
  refine ⟨fun table u name inside => ?_, fun u m inside => ?_, fun u m inside => ?_,
    Nat.le_refl _, fun _ _ => .refl _, fun tables table u name m entry => ?_⟩
  · rw [type_pushType]
    split
    · next here =>
      rw [blank here] at inside
      cases table <;> simp [Table.of, default, TypeNode.new] at inside
    · exact inside
  · rw [type_pushType]
    split
    · next here =>
      rw [blank here] at inside
      simp [default, TypeNode.new] at inside
    · exact inside
  · rw [type_pushType] at inside
    split at inside
    · rw [none] at inside
      simp at inside
    · exact .inl inside
  · rw [type_pushType] at entry
    split at entry
    · rw [bare] at entry
      simp at entry
    · exact tables table u name m entry

theorem member_setSuperType (c : Catalog) (t u : TypeId) (m : MemberId) :
    (c.setSuperType t u).member m = c.member m := by
  rw [setSuperType]
  split <;> rfl

/-- That the super type comes to know who derives from it does not matter for the contents. -/
theorem sameContents_setSuperType (c : Catalog) (t u : TypeId) :
    SameContents (c.modifyType t fun node => { node with superType := some u })
      (c.setSuperType t u) := by
  rw [setSuperType]
  split
  · exact sameContents_modifyType _ u fun _ => rfl
  · exact .refl _

/-- A type gets a super type, and no other one does. -/
theorem extends_setSuperType (c : Catalog) (t u : TypeId) :
    Extends c (c.setSuperType t u) ∧
      (t.index < c.types.size → ((c.setSuperType t u).type t).superType = some u) ∧
      ∀ s, s ≠ t → ((c.setSuperType t u).type s).superType = (c.type s).superType := by
  have same := sameContents_setSuperType c t u
  have first : Extends c (c.modifyType t fun node => { node with superType := some u }) :=
    extends_modifyType (.refl c) t (fun table _ => by cases table <;> rfl) (fun _ _ => id)
      fun _ _ => .inl
  refine ⟨first.trans same.toExtends, fun bound => ?_, fun s other => ?_⟩
  · rw [same.superType, type_modifyType_self c t _ bound]
  · rw [same.superType, type_modifyType_of_ne c t s _ other]

/-! ## Members

Attaching a property and attaching an operation differ in the table only, so they are one function
`enter`. It creates the member for the type that stores it, writes the table and detaches what was
there. -/

/-- A member is created and enters a table of the type that stores it. -/
def enter (table : Table) (c : Catalog) (t : TypeId) (member : Member) : MemberId × Catalog :=
  let target := c.storage t
  let (m, c) := c.pushMember member target
  let replaced := (table.of (c.type target))[member.name]?
  let c := c.modifyType target (table.insert member.name m)
  (m, c.detach replaced)

/-- Attaching a property is entering it into the table of the properties. -/
theorem addProperty_eq (c : Catalog) (t : TypeId) (a : Member) :
    c.addProperty t a = enter .properties c t a := rfl

/-- Attaching an operation is entering it into the table of the operations. -/
theorem addOperation_eq (c : Catalog) (t : TypeId) (a : Member) :
    c.addOperation t a = enter .operations c t a := rfl

/-- What is known of a member that was just created. -/
structure Created (c : Catalog) (a : Member) (owner : TypeId) (d : Catalog) : Prop where
  contents : SameContents c d
  size : d.members.size = c.members.size + 1
  owner : (d.member ⟨c.members.size⟩).owner = some owner
  alike : a.Alike (d.member ⟨c.members.size⟩)

/-- A new member has the owner that it was created for, and what was read. -/
theorem created_pushMember (c : Catalog) (a : Member) (owner : TypeId) :
    Created c a owner (c.pushMember a owner).2 := by
  let pushed : Catalog := { c with members := c.members.push { a with owner := some owner } }
  have old (m : MemberId) (bound : m.index < c.members.size) : pushed.member m = c.member m := by
    simp [Catalog.member, pushed, Array.getElem?_push, Nat.ne_of_lt bound]
  have new : pushed.member ⟨c.members.size⟩ = { a with owner := some owner } := by
    simp [Catalog.member, pushed]
  have first : SameContents c pushed := by
    refine ⟨fun _ => rfl, ?_, fun m bound => by rw [old m bound], fun m bound => ?_⟩
    · simp [pushed]
    · rw [old m bound]
      exact .refl _
  -- noting its references changes nothing about it
  have notes := onlyNotes_addReferences pushed a.referencedTypes ⟨c.members.size⟩
  have members : (c.pushMember a owner).2.members = pushed.members := notes.members
  have member (m) : (c.pushMember a owner).2.member m = pushed.member m := by
    rw [Catalog.member, Catalog.member, members]
  refine ⟨first.trans (sameContents_addReferences pushed _ _), ?_, ?_, ?_⟩
  · rw [members]
    exact Array.size_push _
  · rw [member, new]
  · rw [member, new]
    exact .of_body rfl rfl

/-- What is known of a member that was just attached to a type. -/
structure Filed (c : Catalog) (a : Member) (m : MemberId) (d : Catalog) : Prop where
  grows : Extends c d
  fresh : c.members.size ≤ m.index
  bound : m.index < d.members.size
  alike : a.Alike (d.member m)
  superType : ∀ s, (d.type s).superType = (c.type s).superType
  /-- Other members go on to belong to their types, or give way to the new one. -/
  owner : ∀ k : MemberId, k.index < c.members.size →
    (d.member k).owner = (c.member k).owner ∨ (d.member k).owner = none

/-- Detaching concerns no type. -/
theorem type_detach (c : Catalog) (replaced : Option MemberId) (u : TypeId) :
    (c.detach replaced).type u = c.type u := by
  cases replaced <;> rfl

/-- A detached member keeps what was read; all others keep their owner as well. -/
theorem alike_detach (c : Catalog) (replaced : Option MemberId) (k : MemberId) :
    (c.member k).Alike ((c.detach replaced).member k) ∧
      (replaced ≠ some k → ((c.detach replaced).member k).owner = (c.member k).owner) := by
  cases replaced with
  | none => exact ⟨.refl _, fun _ => rfl⟩
  | some m =>
    rw [detach, member_modifyMember]
    by_cases here : k = m
    · refine ⟨?_, fun other => absurd (congrArg some here.symm) other⟩
      split
      · exact .of_body rfl rfl
      · exact .refl _
    · rw [if_neg fun both => here both.1]
      exact ⟨.refl _, fun _ => rfl⟩

/-- Owners are at most taken away. -/
theorem owner_detach (c : Catalog) (replaced : Option MemberId) (k : MemberId) :
    ((c.detach replaced).member k).owner = (c.member k).owner ∨
      ((c.detach replaced).member k).owner = none := by
  cases replaced with
  | none => exact .inl rfl
  | some m =>
    rw [detach, member_modifyMember]
    split
    · exact .inr rfl
    · exact .inl rfl

theorem members_size_detach (c : Catalog) (replaced : Option MemberId) :
    (c.detach replaced).members.size = c.members.size := by
  cases replaced with
  | none => rfl
  | some m => exact members_size_modifyMember c m _

/-- What is known of a catalog after a new member entered a table of the target. It took the place
of the one of its name, if there was one. -/
structure Placed (table : Table) (c : Catalog) (target : TypeId) (a : Member) (d : Catalog) :
    Prop where
  lookup : ∀ (other : Table) u (n : String), (other.of (d.type u))[n]? =
    if (u = target ∧ target.index < c.types.size) ∧ other = table ∧ n = a.name then
      some ⟨c.members.size⟩
    else (other.of (c.type u))[n]?
  superType : ∀ u, (d.type u).superType = (c.type u).superType
  constructors : ∀ u, (d.type u).constructors = (c.type u).constructors
  size : d.members.size = c.members.size + 1
  new : a.Alike (d.member ⟨c.members.size⟩)
  owner : (table.of (c.type target))[a.name]? ≠ some ⟨c.members.size⟩ →
    (d.member ⟨c.members.size⟩).owner = some target
  old : ∀ k : MemberId, k.index < c.members.size → (c.member k).Alike (d.member k)
  stays : ∀ k : MemberId, k.index < c.members.size →
    (table.of (c.type target))[a.name]? ≠ some k → (d.member k).owner = (c.member k).owner

/-- What entering does, table by table and member by member. -/
theorem placed_enter (table : Table) (c : Catalog) (t : TypeId) (a : Member) :
    Placed table c (c.storage t) a (enter table c t a).2 := by
  let target := c.storage t
  let m : MemberId := ⟨c.members.size⟩
  let e := (c.pushMember a target).2
  let replaced := (table.of (e.type target))[a.name]?
  have created : Created c a target e := created_pushMember c a target
  have sized : e.types.size = c.types.size :=
    (onlyNotes_addReferences _ a.referencedTypes m).graph.size
  have before : replaced = (table.of (c.type target))[a.name]? := by
    rw [← created.contents.of]
  have entered : (enter table c t a).2 =
      (e.modifyType target (table.insert a.name m)).detach replaced := rfl
  rw [entered]
  generalize eq : (e.modifyType target (table.insert a.name m)).detach replaced = d
  have member (k) : (e.member k).Alike (d.member k) ∧
      (replaced ≠ some k → (d.member k).owner = (e.member k).owner) := by
    rw [← eq]
    exact alike_detach (e.modifyType target (table.insert a.name m)) replaced k
  refine ⟨fun other u n => ?_, fun u => ?_, fun u => ?_, ?_, created.alike.trans (member m).1,
    fun fresh => ?_, fun k bound => ?_, fun k bound other => ?_⟩
  · rw [← eq, type_detach, type_modifyType, sized]
    show _ = if (u = target ∧ target.index < c.types.size) ∧ other = table ∧ n = a.name then some m
      else (other.of (c.type u))[n]?
    -- the table of the storing type has the new member under its name, and the others are as before
    by_cases here : u = target ∧ target.index < c.types.size
    · simp only [here, and_self, if_true, true_and, Table.of_insert, created.contents.of]
    · simp only [here, if_false, false_and, created.contents.of]
  · rw [← created.contents.superType, ← eq, type_detach]
    exact type_modifyType_of_eq e target u TypeNode.superType fun _ => by cases table <;> rfl
  · rw [← created.contents.constructors, ← eq, type_detach]
    exact type_modifyType_of_eq e target u TypeNode.constructors fun _ => by cases table <;> rfl
  · rw [← eq, members_size_detach]
    exact created.size
  · rw [← before] at fresh
    exact ((member m).2 fresh).trans created.owner
  · exact (created.contents.member k bound).trans (member k).1
  · rw [← before] at other
    exact ((member k).2 other).trans (created.contents.owner k bound)

namespace Placed

/-- What enters a table that it belongs in leaves the tables as they should be. -/
theorem tables (placed : Placed table c t a d) (holds : table.Holds a) (tables : Tables c) :
    Tables d := by
  intro other u n k entry
  rw [placed.lookup] at entry
  split at entry
  · next here =>
    obtain ⟨⟨rfl, -⟩, rfl, rfl⟩ := here
    obtain rfl := Option.some.inj entry
    refine ⟨by rw [placed.size]; exact Nat.lt_succ_self _, placed.owner fun same => ?_,
      placed.new.name, (placed.new.holds other).2 holds⟩
    exact absurd (tables _ _ _ _ same).1 (Nat.lt_irrefl _)
  · next here =>
    obtain ⟨bound, owner, named, held⟩ := tables other u n k entry
    have alike := placed.old k bound
    refine ⟨by rw [placed.size]; exact Nat.lt_succ_of_lt bound, ?_, alike.name.trans named,
      (alike.holds other).2 held⟩
    -- a member that gives way was in the place that is taken now, and nowhere else
    refine (placed.stays k bound fun same => ?_).trans owner
    obtain ⟨rfl, rfl, rfl⟩ := tables.unique entry same
    refine here ⟨⟨rfl, Nat.lt_of_not_le fun outside => ?_⟩, rfl, rfl⟩
    rw [type_of_size_le c _ outside] at entry
    cases other <;> simp [Table.of, default, TypeNode.new] at entry

/-- No name is lost from a table. -/
theorem keeps (placed : Placed table c t a d) (other : Table) (u : TypeId) (n : String)
    (inside : n ∈ other.of (c.type u)) : n ∈ other.of (d.type u) := by
  rw [Std.TreeMap.mem_iff_isSome_getElem?] at inside ⊢
  rw [placed.lookup]
  split
  · rfl
  · exact inside

/-- It takes no name out of any table. -/
theorem grows (placed : Placed table c t a d) (holds : table.Holds a) : Extends c d where
  entry := placed.keeps
  constructors u k inside := by rwa [placed.constructors u]
  gained u k inside := .inl (by rwa [← placed.constructors u])
  size_le := Nat.le_of_succ_le (Nat.le_of_eq placed.size.symm)
  member := placed.old
  tables := placed.tables holds

end Placed

/-- Other members keep their owners, but for one that gives way. -/
theorem owner_enter (table : Table) (c : Catalog) (t : TypeId) (a : Member)
    (bound : k.index < c.members.size) :
    ((enter table c t a).2.member k).owner = (c.member k).owner ∨
      ((enter table c t a).2.member k).owner = none := by
  let e := (c.pushMember a (c.storage t)).2
  have created : Created c a (c.storage t) e := created_pushMember c a (c.storage t)
  rw [← created.contents.owner k bound]
  exact owner_detach (e.modifyType (c.storage t) (table.insert a.name ⟨c.members.size⟩)) _ k

/-- A member that enters a table is found there. -/
theorem filed_enter (table : Table) (c : Catalog) (t : TypeId) (holds : table.Holds a) :
    Filed c a (enter table c t a).1 (enter table c t a).2 ∧
      ((c.storage t).index < c.types.size →
        a.name ∈ table.of ((enter table c t a).2.type (c.storage t))) := by
  have placed := placed_enter table c t a
  have new : (enter table c t a).1 = ⟨c.members.size⟩ := rfl
  rw [new]
  refine ⟨⟨placed.grows holds, Nat.le_refl _, ?_, placed.new, placed.superType,
    fun k => owner_enter table c t a⟩, fun bound => ?_⟩
  · rw [placed.size]
    exact Nat.lt_succ_self _
  · rw [Std.TreeMap.mem_iff_isSome_getElem?, placed.lookup, if_pos ⟨⟨rfl, bound⟩, rfl, rfl⟩]
    rfl

/-- A constructor enters no table. -/
theorem filed_addConstructor (c : Catalog) (a : Member) (bound : t.index < c.types.size) :
    Filed c a (c.addConstructor t a).1 (c.addConstructor t a).2 ∧
      (c.addConstructor t a).1 ∈ ((c.addConstructor t a).2.type t).constructors := by
  let b : Member := { a with modifiers := a.modifiers ||| Modifiers.constructor }
  let m : MemberId := ⟨c.members.size⟩
  let f : TypeNode → TypeNode := fun node =>
    { node with
      constructors := node.constructors.push m
      kind := if node.kind = .noInterfaceObject then .interface else node.kind }
  have created : Created c b t (c.pushMember b t).2 := created_pushMember c b t
  have sized : (c.pushMember b t).2.types.size = c.types.size :=
    (onlyNotes_addReferences _ b.referencedTypes m).graph.size
  have added : c.addConstructor t a = (m, (c.pushMember b t).2.modifyType t f) := rfl
  rw [added]
  refine ⟨⟨?_, Nat.le_refl _, ?_, ?_, fun s => ?_,
    fun k bound => .inl (created.contents.owner k bound)⟩, ?_⟩
  · refine extends_modifyType created.contents t (fun table _ => by cases table <;> rfl)
      (fun _ _ inside => Array.mem_push_of_mem _ inside) fun node k inside => ?_
    -- what is gained is the new member
    refine (Array.mem_push.1 inside).imp_right ?_
    rintro rfl
    rw [created.size]
    exact ⟨Nat.le_refl _, Nat.lt_succ_self _⟩
  · show m.index < (c.pushMember b t).2.members.size
    rw [created.size]
    exact Nat.lt_succ_self _
  · exact (Member.Alike.of_body rfl rfl : a.Alike b).trans created.alike
  · rw [← created.contents.superType s]
    exact type_modifyType_of_eq _ t s TypeNode.superType fun _ => rfl
  · rw [type_modifyType_self _ t f (by rw [sized]; exact bound)]
    exact Array.mem_push_self

/-- Documentation of the member does not matter. -/
theorem Filed.trans (h : Filed c a m d) {e : Catalog} (same : SameContents d e) :
    Filed c a m e where
  grows := h.grows.trans same.toExtends
  fresh := h.fresh
  bound := Nat.lt_of_lt_of_le h.bound same.size_le
  alike := h.alike.trans (same.member m h.bound)
  superType s := (same.superType s).trans (h.superType s)
  owner k bound := by
    rw [same.owner k (Nat.lt_of_lt_of_le bound h.grows.size_le)]
    exact h.owner k bound

/-! ## The first catalog

The first catalog has types and no members, so its tables are empty. -/

/-- The first catalog has types only. -/
theorem sameContents_initial : SameContents ⟨#[], #[], #[], []⟩ initial := by
  rw [initial_eq]
  exact ((sameContents_pushLibrary _ _ _ _).trans (sameContents_pushLibrary _ _ _ _)).trans
    (related_foldl .refl .trans sameContents_addPrimitive primitiveNames empty)

/-- The tables of the first catalog are sound, since they are empty. -/
theorem tables_initial : Tables initial := by
  refine sameContents_initial.tables fun table u name m entry => ?_
  rw [type_of_size_le _ u (Nat.zero_le _)] at entry
  cases table <;> simp [Table.of, default, TypeNode.new] at entry

end Catalog

end IdlCatalog
