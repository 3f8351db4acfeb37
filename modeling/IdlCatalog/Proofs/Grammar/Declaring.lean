/-
# IdlCatalog.Proofs.Grammar.Declaring — a type that gets one member after the other

While a body is read, the references in it add types to the catalog, and the members in it are
attached to the type of the body. Neither changes what references stand for, and each member leaves
the tables of the type with what all members so far come to.

The invariant `Declaring` has two halves. One is about the type: it exists, it stores its own
members, and its tables list what the members so far come to, which is computed by folding them one
by one. The other is about the rest of the catalog: names and tables are in order. `Gains` adds that
references go on to mean what they meant, so that the types of earlier members can still be read off
at the end of the body.
-/
import IdlCatalog.Proofs.Catalog.Listing
import IdlCatalog.Proofs.Grammar.Gathering
import IdlCatalog.Proofs.Grammar.TypeMeaning

namespace IdlCatalog

open Grammar

/-! ## What attaching keeps

To attach a member writes into the tables of a type and into the list of members, and notes the
references in the types that the member mentions. None of this is part of a shape. -/

namespace Catalog

variable {b c d : Catalog} {t : TypeId} {m : MemberId} {l : LibraryId} {a : Member}
  {table : Table} {as : List Member}

/-- All types keep their shapes. -/
def SameShapes (c d : Catalog) : Prop := ∀ u, (d.type u).shape = (c.type u).shape

theorem SameShapes.refl (c : Catalog) : SameShapes c c := fun _ => rfl

/-- Shapes that stay the same twice stay the same. -/
theorem SameShapes.trans (h : SameShapes b c) (h' : SameShapes c d) : SameShapes b d :=
  fun u => (h' u).trans (h u)

/-- A change to an entry outside its shape. -/
theorem sameShapes_modifyType {f : TypeNode → TypeNode} (c : Catalog) (t : TypeId)
    (same : ∀ node, (f node).shape = node.shape) : SameShapes c (c.modifyType t f) :=
  fun u => type_modifyType_of_eq c t u TypeNode.shape same

/-- To note references changes no shape. -/
theorem sameShapes_addReferences (c : Catalog) (ts : List TypeId) (m : MemberId) :
    SameShapes c (c.addReferences ts m) := by
  have note (c : Catalog) (t : TypeId) : SameShapes c (noteReference m c t) :=
    sameShapes_modifyType c t fun _ => rfl
  have one (c : Catalog) (t : TypeId) : SameShapes c (c.addReference t m) :=
    related_foldl .refl .trans note _ c
  exact related_foldl .refl .trans one ts c

/-- To attach a member changes no shape. -/
theorem sameShapes_enter (table : Table) (c : Catalog) (t : TypeId) (a : Member) :
    SameShapes c (enter table c t a).2 := by
  have pushed : SameShapes c (c.pushMember a (c.storage t)).2 := sameShapes_addReferences _ _ _
  refine pushed.trans fun u => ?_
  rw [enter, type_detach]
  exact sameShapes_modifyType _ _ (fun _ => by cases table <;> rfl) u

/-- To attach a member changes nothing that look-ups depend on. -/
theorem quiet_enter (table : Table) (c : Catalog) (t : TypeId) (a : Member) :
    Quiet c (enter table c t a).2 := by
  cases table with
  | properties => exact quiet_addProperty c t a
  | operations => exact quiet_addOperation c t a

/-- What reopens another type goes on to do so, and nothing else starts to. -/
theorem Retains.isReopening (h : Retains c d) (bound : t.index < c.types.size) :
    d.isReopening t = c.isReopening t := by
  rw [Catalog.isReopening, Catalog.isReopening]
  exact congrArg (fun shape : TypeNode.Shape => decide (shape.kind = .reopening)) (h.shape bound)

/-- References list nothing and take nothing from a list. -/
theorem Mentioning.keepsLists (h : Mentioning c d) : KeepsLists c d := by
  induction h with
  | refl => exact .refl c
  | @composite c node before composite ih =>
    exact ih.trans (keepsLists_pushType c node composite.bare composite.constructors)
  | @placeholder c name before _ _ ih => exact ih.trans (keepsLists_addPlaceholder c name)

/-! ## A type that is being declared

Three things may happen to a member: it is a property, it is the first operation of its name, or it
is folded into one. Each of the three is followed by a question for documentation at most, which
writes into the entry of the member and nowhere else. -/

/-- The type stores its own members, and those that were declared so far come to what it lists. -/
structure Declaring (c : Catalog) (t : TypeId) (as : List Member) : Prop where
  registry : Registry c
  tables : c.Tables
  bound : t.index < c.types.size
  stands : c.isReopening t = false
  lists : c.Lists t as

/-- The type got a further member, and nothing changed on which references depend. -/
structure Gains (c : Catalog) (t : TypeId) (as : List Member) (a : Member) (d : Catalog) :
    Prop where
  retains : Retains c d
  declaring : d.Declaring t (as ++ [a])

namespace Declaring

variable (h : c.Declaring t as)

include h

/-- The type itself stores its members. -/
theorem storage : c.storage t = t := followReopenings_of_stands _ h.stands

/-- The invariant survives what keeps names, shapes and lists. -/
theorem keeps (registry : Registry d) (retains : Retains c d) (keeps : KeepsLists c d) :
    d.Declaring t as where
  registry := registry
  tables := keeps.grows.tables h.tables
  bound := Nat.lt_of_lt_of_le h.bound retains.size_le
  stands := (retains.isReopening h.bound).trans h.stands
  lists := h.lists.keeps h.tables keeps

/-- The invariant survives references. -/
theorem mentioning (later : Mentioning c d) : d.Declaring t as :=
  h.keeps (later.registry h.registry) (later.retains h.registry) later.keepsLists

/-- The new member is documented, or nothing more happens. -/
theorem gains (quiet : Quiet c d) (shapes : SameShapes c d) (tables : d.Tables)
    (lists : d.Lists t (as ++ [a])) : Gains c t as a d := by
  have retains : Retains c d := quiet.retains h.registry fun _ => shapes _
  exact ⟨retains, h.registry.quiet quiet, tables, Nat.lt_of_lt_of_le h.bound retains.size_le,
    (retains.isReopening h.bound).trans h.stands, lists⟩

/-- A member with a place of its own is appended to its table. -/
theorem enter (bare : a.bare = a)
    (alone : (Table.home a).extend ((Table.home a).united as a.name) a = a) :
    Gains c t as a (enter (Table.home a) c t a).2 := by
  have placed := placed_enter (Table.home a) c t a
  exact h.gains (quiet_enter _ c t a) (sameShapes_enter _ c t a)
    (placed.tables (Table.holds_home a) h.tables)
    (h.lists.enter h.tables h.storage h.bound bare alone)

/-- A property always has a place of its own. -/
theorem property (bare : a.bare = a) (home : Table.home a = .properties) :
    Gains c t as a (c.addProperty t a).2 := by
  have gains := h.enter bare (by rw [home]; rfl)
  rwa [home] at gains

/-- The first operation of a name has a place of its own. -/
theorem operation (bare : a.bare = a) (home : Table.home a = .operations)
    (new : c.operation? t a.name = none) : Gains c t as a (c.addOperation t a).2 := by
  have nothing : Table.operations.united as a.name = none := by
    rw [operation?, h.storage] at new
    rw [← h.lists, listed, Table.of, new]
    rfl
  have gains := h.enter bare (by rw [home, nothing]; rfl)
  rwa [home] at gains

/-- A further operation of a name is folded into the first one. -/
theorem overload (home : Table.home a = .operations) (known : c.operation? t a.name = some m) :
    Gains c t as a (c.mergeOperation m a) := by
  refine h.gains (quiet_mergeOperation c m a) (fun u => ?_)
    ((sameContents_mergeOperation c m a).tables h.tables)
    (h.lists.overload h.tables h.storage home known)
  exact sameShapes_addReferences (c.modifyMember m _) _ m u

end Declaring

/-- To ask for documentation afterwards changes nothing of it. -/
theorem Gains.document (h : Gains c t as a d) (l : LibraryId)
    (artifact : Artifact) : Gains c t as a (d.document l artifact) := by
  have quiet := quiet_document d l artifact
  have shapes : SameShapes d (d.document l artifact) := by
    cases artifact with
    | library | member => exact .refl d
    | type u => exact sameShapes_modifyType d u fun _ => rfl
  have retains : Retains d (d.document l artifact) :=
    quiet.retains h.declaring.registry fun _ => shapes _
  exact ⟨h.retains.trans retains, h.declaring.keeps (h.declaring.registry.quiet quiet) retains
    (keepsLists_document d l artifact)⟩

end Catalog

end IdlCatalog
