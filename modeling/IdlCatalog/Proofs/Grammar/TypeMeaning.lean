/-
# IdlCatalog.Proofs.Grammar.TypeMeaning — the types that references stand for

A reference stands for a type if its names are those that a look-up finds and each composite has the
entry that the grammar gives it. `Means` says so about a catalog alone, without a reading. A type
reference creates composites and placeholders and nothing else, and such changes leave what other
references stand for.

A reference may stand for several types, because every mention of a composite creates one. They all
have one name, which is the text of the reference, and one shape.

## Types by their shapes

A composite has no name under which it could be looked up, so a reference to one cannot be resolved
after the fact. `Holds` asks for its shape instead: the entry that the grammar would give it now,
from the parts it has. Since shapes last, `Means` lasts as well, and it can be stated at the end of
a reading what a reference in the middle of it stood for.
-/
import IdlCatalog.Proofs.Grammar.Following
import IdlCatalog.Proofs.Grammar.Meaning
import IdlCatalog.Proofs.Grammar.TypeSyntax

namespace IdlCatalog

open Grammar

namespace Catalog

variable {b c d : Catalog} {t u v : TypeId} {l : LibraryId} {name n : String} {kind : Kind}
  {rendered : String → String} {node : TypeNode}

/-! ## Look-ups

A name is looked up in the library of the reading first, where types that only reopen others are
passed over, then in the tiers. The library's own entry wins even against a type that was registered
under the name. -/

/-- The type that a name stands for in a reading for the library, if it stands for one. -/
def lookUp (c : Catalog) (l : LibraryId) (name : String) : Option TypeId :=
  (((c.library l).get? name).filter fun t => !c.isReopening t).or (c.resolve? name)

/-- To refer to a name is to look it up, and to add a placeholder where nothing is found. -/
theorem refer_eq (l : LibraryId) (name : String) (c : Catalog) :
    refer l name c =
      match c.lookUp l name with
      | some t => (t, c)
      | none => c.addPlaceholder name := by
  rw [refer, lookUp]
  cases ((c.library l).get? name).filter fun t => !c.isReopening t with
  | some t => rfl
  | none => cases c.resolve? name <;> simp

/-- A name that can be written is looked up among the declared types of the library and then in the
tiers. -/
theorem lookUp_eq (plain : name ≠ globalsName) :
    c.lookUp l name = (c.declaredIn? l name).or (c.resolve? name) := by
  rw [lookUp, Registry.get?_eq plain]
  rfl

/-- What is found is a type of that name. -/
theorem lookUp_isEntry (registry : Registry c) (plain : name ≠ globalsName)
    (found : c.lookUp l name = some t) : c.IsEntry name t := by
  rw [lookUp_eq plain, Option.or_eq_some_iff] at found
  rcases found with own | ⟨-, tier⟩
  · exact registry.entry (Option.filter_eq_some_iff.1 own).1
  · exact resolve?_isEntry registry tier

/-- What a look-up does not find, no tier has. -/
theorem resolve?_of_lookUp (unknown : c.lookUp l name = none) : c.resolve? name = none :=
  (Option.or_eq_none_iff.1 unknown).2

end Catalog

open Catalog

/-- A name about which nothing changes is looked up with the same result. -/
theorem Untouched.lookUp {c d : Catalog} {n : String} (h : Untouched n c d)
    (plain : n ≠ globalsName) (l : LibraryId) : d.lookUp l n = c.lookUp l n := by
  have own : d.declaredIn? l n = c.declaredIn? l n := by
    rw [declaredIn?, declaredIn?, h.lookup]
    cases entry : (c.library l).types[n]? with
    | none => rfl
    | some t => rw [Option.filter_some, Option.filter_some, h.reopens l t entry]
  rw [lookUp_eq plain, lookUp_eq plain, h.resolve?, own]

/-- What an entry says about the type itself, and not about the members that mention it. -/
structure TypeNode.Shape where
  kind : Kind
  name : String
  superType : Option TypeId
  types : Array TypeId
  iterable : Option Iterable

/-- The shape of an entry. -/
def TypeNode.shape (node : TypeNode) : TypeNode.Shape :=
  ⟨node.kind, node.name, node.superType, node.types, node.iterable⟩

namespace Catalog

variable {b c d : Catalog} {t u v : TypeId} {l : LibraryId} {name n : String} {kind : Kind}
  {rendered : String → String} {node : TypeNode}

/-! ## What stays

The shape of an entry leaves out what grows: the members and the references to the type. `Retains`
adds that names go on to stand for what they stood for, which is true of everything but a
declaration. -/

/-- The types that there are keep their shapes. -/
structure KeepsShapes (c d : Catalog) : Prop where
  size_le : c.types.size ≤ d.types.size
  shape : ∀ {t : TypeId}, t.index < c.types.size → (d.type t).shape = (c.type t).shape

/-- Names go on to stand for the types for which they stand, too, and only the library of the
placeholders gets entries. -/
structure Retains (c d : Catalog) : Prop extends KeepsShapes c d where
  lookUp : ∀ {l : LibraryId} {n : String} {t}, n ≠ globalsName → c.lookUp l n = some t →
    d.lookUp l n = some t
  resolve : ∀ {n : String} {t}, c.resolve? n = some t → d.resolve? n = some t
  entry : ∀ {l : LibraryId}, l ≠ Catalog.hidden → ∀ n : String,
    (d.library l).types[n]? = (c.library l).types[n]?

/-- Shapes that are kept twice are kept. -/
theorem KeepsShapes.trans (h : KeepsShapes b c) (h' : KeepsShapes c d) : KeepsShapes b d :=
  ⟨h.size_le.trans h'.size_le, fun bound =>
    (h'.shape (Nat.lt_of_lt_of_le bound h.size_le)).trans (h.shape bound)⟩

theorem Retains.refl (c : Catalog) : Retains c c :=
  ⟨⟨Nat.le_refl _, fun _ => rfl⟩, fun _ => id, id, fun _ _ => rfl⟩

/-- What is retained twice is retained. -/
theorem Retains.trans (h : Retains b c) (h' : Retains c d) : Retains b d where
  toKeepsShapes := h.toKeepsShapes.trans h'.toKeepsShapes
  lookUp plain found := h'.lookUp plain (h.lookUp plain found)
  resolve found := h'.resolve (h.resolve found)
  entry other n := (h'.entry other n).trans (h.entry other n)

/-- A change that no look-up depends on, and that changes no shape. -/
theorem Quiet.retains (quiet : Quiet c d) (registry : Registry c)
    (shape : ∀ {t : TypeId}, t.index < c.types.size → (d.type t).shape = (c.type t).shape) :
    Retains c d where
  toKeepsShapes := ⟨quiet.size_le, shape⟩
  lookUp plain found := by rw [(quiet.untouched registry).lookUp plain, found]
  resolve found := by rw [(quiet.untouched registry).resolve?, found]
  entry _ n := by rw [quiet.library]

/-! ## What references create

`Mentioning` is the effect of any number of references: composites pushed at the end, and
placeholders in the hidden library for names that no tier knows. A placeholder takes no name from
anyone, for nothing was found under it before. -/

/-- A placeholder takes no type away. -/
theorem types_size_addPlaceholder (c : Catalog) (name : String) :
    c.types.size ≤ (c.addPlaceholder name).2.types.size := by
  rw [addPlaceholder]
  split
  · exact Nat.le_refl _
  · simp

/-- A placeholder leaves the types alone that there are. -/
theorem type_addPlaceholder (name : String) (bound : t.index < c.types.size) :
    (c.addPlaceholder name).2.type t = c.type t := by
  rw [addPlaceholder]
  split
  · rfl
  · exact (type_pushType c t _).trans (if_neg (Nat.ne_of_lt bound))

/-- Composites and placeholders are created, one after the other. -/
inductive Mentioning : Catalog → Catalog → Prop
  | refl (c : Catalog) : Mentioning c c
  | composite {b c : Catalog} {node : TypeNode} (before : Mentioning b c)
      (composite : c.Composite node) : Mentioning b (c.pushType node).2
  | placeholder {b c : Catalog} {name : String} (before : Mentioning b c)
      (plain : name ≠ globalsName) (unknown : c.resolve? name = none) :
      Mentioning b (c.addPlaceholder name).2

namespace Mentioning

/-- References may be read one after the other. -/
theorem trans (h : Mentioning b c) (h' : Mentioning c d) : Mentioning b d := by
  induction h' with
  | refl => exact h
  | composite _ composite ih => exact ih.composite composite
  | placeholder _ plain unknown ih => exact ih.placeholder plain unknown

/-- References keep the names in order. -/
theorem registry (h : Mentioning c d) (registry : Registry c) : Registry d := by
  induction h with
  | refl => exact registry
  | composite _ composite ih => exact ih.quiet (quiet_pushType _ _ (.inr composite.library))
  | placeholder _ plain unknown ih =>
    have free := ih.hidden_free unknown
    exact ih.introduced (introduced_addPlaceholder ih.hidden_lt free) ih.hidden_lt plain rfl nofun

/-- References take no type away. -/
theorem size_le (h : Mentioning c d) : c.types.size ≤ d.types.size := by
  induction h with
  | refl => exact Nat.le_refl _
  | composite _ _ ih => exact ih.trans (by simp)
  | placeholder _ _ _ ih => exact ih.trans (types_size_addPlaceholder _ _)

/-- References leave the types alone that there are. -/
theorem type (h : Mentioning c d) (bound : t.index < c.types.size) : d.type t = c.type t := by
  induction h with
  | refl => rfl
  | composite before _ ih =>
    have old := Nat.lt_of_lt_of_le bound before.size_le
    rw [type_pushType, if_neg (Nat.ne_of_lt old), ih]
  | placeholder before _ _ ih =>
    rw [type_addPlaceholder _ (Nat.lt_of_lt_of_le bound before.size_le), ih]

/-- References change no shape. -/
theorem keepsShapes (h : Mentioning c d) : KeepsShapes c d :=
  ⟨h.size_le, fun bound => congrArg TypeNode.shape (h.type bound)⟩

/-- A name that stands for a type goes on to stand for it. -/
theorem lookUp (h : Mentioning c d) (registry : Registry c) (plain : n ≠ globalsName)
    (found : c.lookUp l n = some t) : d.lookUp l n = some t := by
  induction h with
  | refl => exact found
  | @composite c node before composite ih =>
    have quiet := quiet_pushType c node (.inr composite.library)
    rw [(quiet.untouched (before.registry registry)).lookUp plain, ih]
  | @placeholder c name before other unknown ih =>
    have registry := before.registry registry
    have free := registry.hidden_free unknown
    have introduced := introduced_addPlaceholder registry.hidden_lt free
    by_cases same : name = n
    · -- no tier knows the name, so the library itself does, and keeps its entry
      subst same
      have own := ih
      rw [lookUp_eq plain, unknown, Option.or_none, declaredIn?, Option.filter_eq_some_iff] at own
      obtain ⟨entry, stands⟩ := own
      have isEntry := registry.entry entry
      have elsewhere : l ≠ Catalog.hidden := by
        rintro rfl
        rw [free] at entry
        cases entry
      have reopens : (c.addPlaceholder name).2.isReopening t = c.isReopening t := by
        rw [isReopening, isReopening, type_addPlaceholder _ isEntry.bound]
      rw [lookUp_eq plain, declaredIn?, introduced.lookup, if_neg fun both => elsewhere both.1,
        entry, Option.filter_some, reopens, if_pos stands, Option.some_or]
    · rw [(introduced.untouched registry same).lookUp plain, ih]

/-- What the tiers know they go on to know. -/
theorem resolve? (h : Mentioning c d) (registry : Registry c) (found : c.resolve? n = some t) :
    d.resolve? n = some t := by
  induction h with
  | refl => exact found
  | @composite c node before composite ih =>
    have quiet := quiet_pushType c node (.inr composite.library)
    rw [(quiet.untouched (before.registry registry)).resolve?, ih]
  | @placeholder c name before _ unknown ih =>
    have registry := before.registry registry
    have introduced := introduced_addPlaceholder registry.hidden_lt (registry.hidden_free unknown)
    have other : name ≠ n := by
      rintro rfl
      rw [unknown] at ih
      cases ih
    rw [(introduced.untouched registry other).resolve?, ih]

/-- Placeholders are the only entries that references make. -/
theorem entry (h : Mentioning c d) (registry : Registry c) (other : l ≠ Catalog.hidden)
    (n : String) : (d.library l).types[n]? = (c.library l).types[n]? := by
  induction h with
  | refl => rfl
  | composite _ _ ih => exact ih
  | placeholder before _ unknown ih =>
    have registry := before.registry registry
    have introduced := introduced_addPlaceholder registry.hidden_lt (registry.hidden_free unknown)
    rw [introduced.lookup, if_neg fun both => other both.1, ih]

/-- References retain everything. -/
theorem retains (h : Mentioning c d) (registry : Registry c) : Retains c d where
  toKeepsShapes := h.keepsShapes
  lookUp := h.lookUp registry
  resolve := h.resolve? registry
  entry := h.entry registry

end Mentioning

/-! ## What references stand for

One clause for each form of a reference. Arguments and branches are related by their positions in a
row, since an inductive family cannot be nested in a relation between lists. -/

/-- The type exists and has the shape of this entry. -/
structure Holds (c : Catalog) (t : TypeId) (node : TypeNode) : Prop where
  bound : t.index < c.types.size
  shape : (c.type t).shape = node.shape

/-- The second type is a wrapper around the first one, or the first one itself without a mark. -/
inductive Marked (c : Catalog) (kind : Kind) (rendered : String → String) :
    Bool → TypeId → TypeId → Prop
  | plain (t : TypeId) : Marked c kind rendered false t t
  | wrapped {t u : TypeId} (holds : c.Holds u (c.wrapperNode kind rendered t)) :
      Marked c kind rendered true t u

/-- The reference stands for the type. -/
inductive Means (c : Catalog) (l : LibraryId) : TypeExpr → TypeId → Prop
  | named {name : TypeName} {nullable array again : Bool} {marked} {t₀ t₁ t₂ t₃ : TypeId}
      (found : c.lookUp l name.text = some t₀)
      (first : c.Marked .nullable (· ++ "?") nullable t₀ t₁)
      (second : c.Marked .array (· ++ "[]") array t₁ t₂)
      (third : c.Marked .nullable (· ++ "?") again t₂ t₃) :
      Means c l (.named name nullable array again marked) t₃
  | sequence {element : TypeExpr} {nullable : Bool} {t u v : TypeId}
      (inner : Means c l element t)
      (holds : c.Holds u (c.wrapperNode .sequence (fun name => "sequence<" ++ name ++ ">") t))
      (mark : c.Marked .nullable (· ++ "?") nullable u v) : Means c l (.sequence element nullable) v
  | generic {name : TypeName} {first : TypeExpr} {others : List TypeExpr} {nullable : Bool}
      {t u v : TypeId} {ts : List TypeId} (head : Means c l first t)
      (length : others.length = ts.length)
      (tail : ∀ e t, (e, t) ∈ others.zip ts → Means c l e t)
      (holds : c.Holds u (c.genericNode name.text (t :: ts)))
      (mark : c.Marked .nullable (· ++ "?") nullable u v) :
      Means c l (.generic name first others nullable) v
  | union {first : TypeExpr} {others : List TypeExpr} {t u : TypeId} {ts : List TypeId}
      (head : Means c l first t) (length : others.length = ts.length)
      (tail : ∀ e t, (e, t) ∈ others.zip ts → Means c l e t)
      (holds : c.Holds u (c.unionNode (t :: ts))) : Means c l (.union first others) u

variable {e : TypeExpr} {nullable : Bool}

/-- A marked type exists if the type under the mark does. -/
theorem Marked.bound (h : c.Marked kind rendered nullable t u) (bound : t.index < c.types.size) :
    u.index < c.types.size := by
  cases h with
  | plain => exact bound
  | wrapped holds => exact holds.bound

namespace Holds

theorem typeName (h : c.Holds t node) : c.typeName t = node.name :=
  congrArg TypeNode.Shape.name h.shape

theorem kind_eq (h : c.Holds t node) : (c.type t).kind = node.kind :=
  congrArg TypeNode.Shape.kind h.shape

theorem superType_eq (h : c.Holds t node) : (c.type t).superType = node.superType :=
  congrArg TypeNode.Shape.superType h.shape

theorem types_eq (h : c.Holds t node) : (c.type t).types = node.types :=
  congrArg TypeNode.Shape.types h.shape

theorem iterable_eq (h : c.Holds t node) : (c.type t).iterable = node.iterable :=
  congrArg TypeNode.Shape.iterable h.shape

end Holds

/-- A mark is written after the name of the type under it. -/
theorem Marked.typeName (h : c.Marked kind rendered nullable t u) :
    c.typeName u = if nullable then rendered (c.typeName t) else c.typeName t := by
  cases h with
  | plain => rfl
  | wrapped holds =>
    exact holds.typeName

/-- The names of types in a row, each named as the reference to it is written. -/
theorem typeNames {others : List TypeExpr} {ts : List TypeId} (length : others.length = ts.length)
    (named : ∀ e t, (e, t) ∈ others.zip ts → c.typeName t = e.text) :
    ts.map c.typeName = TypeExpr.texts others := by
  have related : List.Forall₂ (fun e t => c.typeName t = e.text) others ts :=
    List.forall₂_iff_zip.2 ⟨length, fun {e t} => named e t⟩
  clear length named
  rw [TypeExpr.texts_eq_map]
  induction related with
  | nil => rfl
  | cons named _ ih => rw [List.map_cons, List.map_cons, named, ih]

namespace KeepsShapes

theorem typeName (h : KeepsShapes c d) (bound : t.index < c.types.size) :
    d.typeName t = c.typeName t :=
  congrArg TypeNode.Shape.name (h.shape bound)

theorem holds (h : KeepsShapes c d) (holds : c.Holds t node) : d.Holds t node :=
  ⟨Nat.lt_of_lt_of_le holds.bound h.size_le, (h.shape holds.bound).trans holds.shape⟩

theorem wrapperNode (h : KeepsShapes c d) (bound : t.index < c.types.size) :
    c.wrapperNode kind rendered t = d.wrapperNode kind rendered t := by
  rw [Catalog.wrapperNode, Catalog.wrapperNode, h.typeName bound]

theorem typeNames {ts : List TypeId} (h : KeepsShapes c d)
    (bound : ∀ t ∈ ts, t.index < c.types.size) : ts.map c.typeName = ts.map d.typeName :=
  List.map_congr_left fun t inside => (h.typeName (bound t inside)).symm

theorem genericNode {ts : List TypeId} (h : KeepsShapes c d)
    (bound : ∀ t ∈ ts, t.index < c.types.size) : c.genericNode name ts = d.genericNode name ts := by
  rw [Catalog.genericNode, Catalog.genericNode, h.typeNames bound]

theorem unionNode {ts : List TypeId} (h : KeepsShapes c d)
    (bound : ∀ t ∈ ts, t.index < c.types.size) : c.unionNode ts = d.unionNode ts := by
  rw [Catalog.unionNode, Catalog.unionNode, h.typeNames bound]

theorem marked (h : KeepsShapes c d) (bound : t.index < c.types.size)
    (marked : c.Marked kind rendered nullable t u) : d.Marked kind rendered nullable t u := by
  cases marked with
  | plain => exact .plain t
  | wrapped holds => exact .wrapped (h.wrapperNode bound ▸ h.holds holds)

end KeepsShapes

namespace Means

/-- A type that a reference stands for exists. -/
theorem bound (registry : Registry c) (h : c.Means l e t) : t.index < c.types.size := by
  cases h with
  | @named name _ _ _ _ _ _ _ _ found first second third =>
    have entry := lookUp_isEntry registry name.ne_globalsName found
    exact third.bound (second.bound (first.bound entry.bound))
  | sequence _ holds mark => exact mark.bound holds.bound
  | generic _ _ _ holds mark => exact mark.bound holds.bound
  | union _ _ _ holds => exact holds.bound

theorem forall_bound {es : List TypeExpr} {ts : List TypeId} (registry : Registry c)
    (related : List.Forall₂ (c.Means l) es ts) : ∀ t ∈ ts, t.index < c.types.size := by
  have flipped : List.Forall₂ (fun t e => c.Means l e t) ts es := related.flip
  exact ((List.forall₂_and_left _ _).1 (flipped.imp fun _ _ h => ⟨h.bound registry, h⟩)).1

/-- A type is named as the reference to it is written. -/
theorem typeName (registry : Registry c) (h : c.Means l e t) : c.typeName t = e.text := by
  induction h with
  | @named name nullable array again _ _ _ _ _ found first second third =>
    have entry := lookUp_isEntry registry name.ne_globalsName found
    rw [third.typeName, second.typeName, first.typeName, entry.name, TypeExpr.text]
    cases nullable <;> cases array <;> cases again <;> simp
  | @sequence _ nullable _ _ _ _ holds mark ih =>
    rw [mark.typeName, holds.typeName, TypeExpr.text, ← ih]
    cases nullable <;> simp [wrapperNode, TypeNode.new]
  | @generic _ _ _ nullable _ _ _ _ _ length _ holds mark ih ihs =>
    rw [mark.typeName, holds.typeName, TypeExpr.text, ← ih, ← typeNames length ihs]
    cases nullable <;> simp [genericNode, TypeNode.new]
  | union _ length _ holds ih ihs =>
    rw [holds.typeName, TypeExpr.text, ← ih, ← typeNames length ihs]
    rfl

/-- A reference goes on to stand for a type as long as shapes and the meanings of names stay. -/
theorem stays (registry : Registry c) (h : c.Means l e t) (later : Retains c d) :
    d.Means l e t := by
  induction h with
  | @named name _ _ _ _ _ _ _ _ found first second third =>
    have entry := lookUp_isEntry registry name.ne_globalsName found
    have bound := first.bound entry.bound
    exact .named (later.lookUp name.ne_globalsName found) (later.marked entry.bound first)
      (later.marked bound second) (later.marked (second.bound bound) third)
  | sequence inner holds mark ih =>
    refine .sequence ih ?_ (later.marked holds.bound mark)
    exact later.wrapperNode (inner.bound registry) ▸ later.holds holds
  | generic head length tail holds mark ih ihs =>
    have related := List.Forall₂.cons head (List.forall₂_iff_zip.2 ⟨length, fun {e t} => tail e t⟩)
    refine .generic ih length ihs ?_ (later.marked holds.bound mark)
    exact later.genericNode (forall_bound registry related) ▸ later.holds holds
  | union head length tail holds ih ihs =>
    have related := List.Forall₂.cons head (List.forall₂_iff_zip.2 ⟨length, fun {e t} => tail e t⟩)
    refine .union ih length ihs ?_
    exact later.unionNode (forall_bound registry related) ▸ later.holds holds

/-- A name and its marks, created one after the other. -/
theorem marks {c₀ c₁ c₂ c₃ : Catalog} {name : TypeName} {nullable array again : Bool} {marked}
    {t₀ t₁ t₂ t₃ : TypeId} (registry : Registry c₀) (found : c₀.lookUp l name.text = some t₀)
    (later₁ : Mentioning c₀ c₁) (first : c₁.Marked .nullable (· ++ "?") nullable t₀ t₁)
    (later₂ : Mentioning c₁ c₂) (second : c₂.Marked .array (· ++ "[]") array t₁ t₂)
    (later₃ : Mentioning c₂ c₃) (third : c₃.Marked .nullable (· ++ "?") again t₂ t₃) :
    c₃.Means l (.named name nullable array again marked) t₃ := by
  have plain := name.ne_globalsName
  have bound := (lookUp_isEntry registry plain found).bound
  have bound₁ := Nat.lt_of_lt_of_le bound later₁.size_le
  have bound₂ := Nat.lt_of_lt_of_le (first.bound bound₁) later₂.size_le
  have found := ((later₁.trans later₂).trans later₃).lookUp registry plain found
  have first := (later₂.trans later₃).keepsShapes.marked bound₁ first
  exact .named found first (later₃.keepsShapes.marked bound₂ second) third

/-- A sequence that was created around a type, and a mark after it. -/
theorem sequence_later {c₀ c₁ c₂ : Catalog} {nullable : Bool} (registry : Registry c₀)
    (means : c₀.Means l e t) (later₁ : Mentioning c₀ c₁)
    (holds : c₁.Holds u (c₁.wrapperNode .sequence (fun name => "sequence<" ++ name ++ ">") t))
    (later₂ : Mentioning c₁ c₂) (mark : c₂.Marked .nullable (· ++ "?") nullable u v) :
    c₂.Means l (.sequence e nullable) v := by
  have bound := Nat.lt_of_lt_of_le (means.bound registry) later₁.size_le
  have keeps := later₂.keepsShapes
  refine .sequence (means.stays registry ((later₁.trans later₂).retains registry)) ?_ mark
  exact keeps.wrapperNode bound ▸ keeps.holds holds

/-- References in a row stand for types in a row, as many as there are references. -/
theorem row {first : TypeExpr} {others : List TypeExpr} {ts : List TypeId}
    (related : List.Forall₂ (c.Means l) (first :: others) ts) :
    ∃ t us, ts = t :: us ∧ c.Means l first t ∧ others.length = us.length ∧
      ∀ e u, (e, u) ∈ others.zip us → c.Means l e u := by
  cases related with
  | @cons _ t _ us head tail =>
    obtain ⟨length, each⟩ := List.forall₂_iff_zip.1 tail
    exact ⟨t, us, rfl, head, length, fun e u => each⟩

/-- A generic type that was created with its arguments, and a mark after it. -/
theorem generic_later {c₀ c₁ c₂ : Catalog} {name : TypeName} {first : TypeExpr}
    {others : List TypeExpr} {ts : List TypeId} {nullable : Bool} (registry : Registry c₀)
    (related : List.Forall₂ (c₀.Means l) (first :: others) ts) (later₁ : Mentioning c₀ c₁)
    (holds : c₁.Holds u (c₀.genericNode name.text ts)) (later₂ : Mentioning c₁ c₂)
    (mark : c₂.Marked .nullable (· ++ "?") nullable u v) :
    c₂.Means l (.generic name first others nullable) v := by
  have later := (later₁.trans later₂).retains registry
  have bound := forall_bound registry related
  obtain ⟨t, us, rfl, head, length, tail⟩ := row related
  refine .generic (head.stays registry later) length ?_ ?_ mark
  · exact fun e u inside => (tail e u inside).stays registry later
  · exact later.genericNode bound ▸ later₂.keepsShapes.holds holds

/-- A union that was created with its branches. -/
theorem union_later {c₀ c₁ : Catalog} {first : TypeExpr} {others : List TypeExpr}
    {ts : List TypeId} (registry : Registry c₀)
    (related : List.Forall₂ (c₀.Means l) (first :: others) ts) (later : Mentioning c₀ c₁)
    (holds : c₁.Holds u (c₀.unionNode ts)) : c₁.Means l (.union first others) u := by
  have later := later.retains registry
  have bound := forall_bound registry related
  obtain ⟨t, us, rfl, head, length, tail⟩ := row related
  refine .union (head.stays registry later) length ?_ ?_
  · exact fun e u inside => (tail e u inside).stays registry later
  · exact later.unionNode bound ▸ holds

end Means

end Catalog

end IdlCatalog
