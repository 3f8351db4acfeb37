/-
# IdlCatalog.Proofs.Catalog.Entries — what the writing functions do to the entries

Every function on catalogs writes through four doors: it changes the entry of a type, of a member
or of a library, or it creates the entry of a type. This module says what each door does to what is
read afterwards, and then the same for the functions that add references and members. Later proofs
read entries through these lemmas and open none of the functions.

A part of an entry that a change leaves alone is a function `π` on entries with `π (f x) = π x`;
the lemmas whose names end in `_of_eq` carry such a part over the change.

## How to use it

Each door has one lemma that says everything about it, `type_modifyType`, `type_pushType`,
`library_modifyLibrary` and `member_modifyMember`; the lemmas about single fields are consequences
of it and are tagged for `simp`. The question is always whether the entry that is read is the one
that was written, and whether it exists: a write to an entry that is not there does nothing.

A function that does the same for each element of a list is a fold. `related_foldl` carries a
relation between catalogs over a fold, so that it has to be shown for one element only.
-/
import IdlCatalog.Catalog.Attach
import IdlCatalog.Catalog.Document

namespace IdlCatalog

/-- Whether a member is an operation. -/
def Member.IsOperation (a : Member) : Prop := ∃ ps specials, a.body = .operation ps specials

/-- Whether a member is a property. -/
def Member.IsProperty (a : Member) : Prop := ∃ initial, a.body = .property initial

namespace Catalog

variable (c : Catalog) (t u : TypeId) (m k : MemberId) (l : LibraryId)

/-- A relation that chains holds between the ends of a chain of changes if each change keeps it. -/
theorem related_foldl {α : Type} {r : Catalog → Catalog → Prop} {f : Catalog → α → Catalog}
    (refl : ∀ c, r c c) (trans : ∀ {b c d}, r b c → r c d → r b d) (h : ∀ c a, r c (f c a))
    (as : List α) (c : Catalog) : r c (as.foldl f c) := by
  induction as generalizing c with
  | nil => exact refl c
  | cons a as ih => exact trans (h c a) (ih (f c a))

/-! ## Types

A type is read by its number. Writing to it concerns no other number, and creating one concerns the
first free number only. Beyond the last one every type reads as the default one, which has no name,
no owner and no members: this spares the lemmas a condition that the type exists wherever it is only
read. -/

/-- What is read after the entry of a type was changed. All other facts about the change follow from
it. -/
theorem type_modifyType (f : TypeNode → TypeNode) :
    (c.modifyType t f).type u =
      if u = t ∧ t.index < c.types.size then f (c.type u) else c.type u := by
  obtain ⟨i⟩ := t
  obtain ⟨j⟩ := u
  simp only [type, modifyType, Array.getD_eq_getD_getElem?, Array.getElem?_modify, TypeId.mk.injEq]
  by_cases same : j = i
  · subst same
    by_cases inside : j < c.types.size
    · simp [inside]
    · simp [inside]
  · simp [same, Ne.symm same]

/-- The changed type itself, if it exists. -/
theorem type_modifyType_self (f : TypeNode → TypeNode) (h : t.index < c.types.size) :
    (c.modifyType t f).type t = f (c.type t) := by
  simp [type_modifyType, h]

/-- Other types are read as before. -/
theorem type_modifyType_of_ne (f : TypeNode → TypeNode) (h : u ≠ t) :
    (c.modifyType t f).type u = c.type u := by
  simp [type_modifyType, h]

/-- A part of the entries that the change leaves alone is read as before, at every type. -/
theorem type_modifyType_of_eq {β : Type} (π : TypeNode → β) {f : TypeNode → TypeNode}
    (h : ∀ node, π (f node) = π node) : π ((c.modifyType t f).type u) = π (c.type u) := by
  rw [type_modifyType]
  split
  · exact h _
  · rfl

/-- Types keep their names when a kind is set. -/
theorem typeName_setKind (kind : Kind) : (c.setKind t kind).typeName u = c.typeName u :=
  type_modifyType_of_eq c t u TypeNode.name fun _ => rfl

@[simp] theorem types_size_modifyType (f : TypeNode → TypeNode) :
    (c.modifyType t f).types.size = c.types.size := by
  simp [modifyType]

@[simp] theorem member_modifyType (f : TypeNode → TypeNode) :
    (c.modifyType t f).member m = c.member m := rfl

@[simp] theorem members_modifyType (f : TypeNode → TypeNode) :
    (c.modifyType t f).members = c.members := rfl

@[simp] theorem libraries_modifyType (f : TypeNode → TypeNode) :
    (c.modifyType t f).libraries = c.libraries := rfl

@[simp] theorem registered_modifyType (f : TypeNode → TypeNode) :
    (c.modifyType t f).registered = c.registered := rfl

/-- A new type has the first free number; all others are read as before. -/
theorem type_pushType (node : TypeNode) :
    (c.pushType node).2.type u = if u.index = c.types.size then node else c.type u := by
  simp only [type, pushType, Array.getD_eq_getD_getElem?, Array.getElem?_push]
  split <;> simp

@[simp] theorem types_size_pushType (node : TypeNode) :
    (c.pushType node).2.types.size = c.types.size + 1 := by
  simp [pushType]

@[simp] theorem members_pushType (node : TypeNode) :
    (c.pushType node).2.members = c.members := rfl

@[simp] theorem libraries_pushType (node : TypeNode) :
    (c.pushType node).2.libraries = c.libraries := rfl

@[simp] theorem registered_pushType (node : TypeNode) :
    (c.pushType node).2.registered = c.registered := rfl

/-- The entry of a number that was not given out so far. -/
theorem type_of_size_le (h : c.types.size ≤ t.index) : c.type t = default := by
  simp [type, h]

/-! ## Libraries

The same for libraries. A name is looked up in the map of a library, so what is said of the library
is said of the names in it. -/

/-- Libraries are read from the array of libraries alone. -/
theorem library_congr {c d : Catalog} (h : c.libraries = d.libraries) (l : LibraryId) :
    c.library l = d.library l := by
  rw [library, library, h]

/-- A library that does not exist reads as the default one. -/
theorem library_of_size_le (h : c.libraries.size ≤ l.index) : c.library l = default := by
  simp [library, h]

/-- A library that does not exist has no entries either. -/
theorem entry_of_size_le {name : String} (h : c.libraries.size ≤ l.index) :
    (c.library l).types[name]? = none := by
  rw [library_of_size_le c l h]
  exact Std.TreeMap.getElem?_emptyc

/-- What is read after the entry of a library was changed. -/
theorem library_modifyLibrary (l₁ : LibraryId) (f : Library → Library) :
    (c.modifyLibrary l f).library l₁ =
      if l₁ = l ∧ l.index < c.libraries.size then f (c.library l₁) else c.library l₁ := by
  obtain ⟨i⟩ := l
  obtain ⟨j⟩ := l₁
  simp only [library, modifyLibrary, Array.getD_eq_getD_getElem?, Array.getElem?_modify,
    LibraryId.mk.injEq]
  by_cases same : j = i
  · subst same
    by_cases inside : j < c.libraries.size
    · simp [inside]
    · simp [inside]
  · simp [same, Ne.symm same]

@[simp] theorem types_modifyLibrary (f : Library → Library) :
    (c.modifyLibrary l f).types = c.types := rfl

@[simp] theorem type_modifyLibrary (f : Library → Library) :
    (c.modifyLibrary l f).type t = c.type t := rfl

@[simp] theorem members_modifyLibrary (f : Library → Library) :
    (c.modifyLibrary l f).members = c.members := rfl

@[simp] theorem registered_modifyLibrary (f : Library → Library) :
    (c.modifyLibrary l f).registered = c.registered := rfl

@[simp] theorem libraries_size_modifyLibrary (f : Library → Library) :
    (c.modifyLibrary l f).libraries.size = c.libraries.size := by
  simp [modifyLibrary]

/-! ## Members

And for members. That a member was written to never matters for types and libraries. -/

/-- What is read after the entry of a member was changed. -/
theorem member_modifyMember (f : Member → Member) :
    (c.modifyMember m f).member k =
      if k = m ∧ m.index < c.members.size then f (c.member k) else c.member k := by
  obtain ⟨i⟩ := m
  obtain ⟨j⟩ := k
  simp only [member, modifyMember, Array.getD_eq_getD_getElem?, Array.getElem?_modify,
    MemberId.mk.injEq]
  by_cases same : j = i
  · subst same
    by_cases inside : j < c.members.size
    · simp [inside]
    · simp [inside]
  · simp [same, Ne.symm same]

/-- A part of the entries that the change leaves alone is read as before, at every member. -/
theorem member_modifyMember_of_eq {β : Type} (π : Member → β) {f : Member → Member}
    (h : ∀ member, π (f member) = π member) :
    π ((c.modifyMember m f).member k) = π (c.member k) := by
  rw [member_modifyMember]
  split
  · exact h _
  · rfl

@[simp] theorem types_modifyMember (f : Member → Member) :
    (c.modifyMember m f).types = c.types := rfl

@[simp] theorem type_modifyMember (f : Member → Member) :
    (c.modifyMember m f).type t = c.type t := rfl

@[simp] theorem libraries_modifyMember (f : Member → Member) :
    (c.modifyMember m f).libraries = c.libraries := rfl

@[simp] theorem registered_modifyMember (f : Member → Member) :
    (c.modifyMember m f).registered = c.registered := rfl

@[simp] theorem members_size_modifyMember (f : Member → Member) :
    (c.modifyMember m f).members.size = c.members.size := by
  simp [modifyMember]

end Catalog

end IdlCatalog
