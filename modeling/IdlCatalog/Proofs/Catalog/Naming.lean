/-
# IdlCatalog.Proofs.Catalog.Naming — which changes concern names

Names are found through the maps of the libraries, and what is found is judged by the name, the
owner and the kind of the type. Most functions on catalogs leave all of that alone: they are
`Quiet`. The others introduce one type under one name in one library; `Introduced` says what this
comes to. Invariants about names need only these two cases.

## Two sorts of changes

Whether a change is quiet is seen from the fields that it writes. `QuietEntry` asks of a function on
entries that it leaves name, owner and iterable alone and at most promotes the kind; then changing
an entry by it is quiet. Functions that do several things are quiet since quiet changes compose.

A type is introduced when it gets an entry under its name. That happens in three ways: an upgraded
or newly created type is entered into the library under way, a placeholder is entered into the
hidden library, and a primitive into the library of primitives. `Introduced` forgets which of them
it was and says what all of them do, with the kind that the type has then.
-/
import IdlCatalog.Proofs.Catalog.Entries

namespace IdlCatalog

/-! ## Kinds

A kind may change. What names depend on is not the kind itself but two questions about it: whether
the type is a composite, which has no entry, and whether it only reopens another one, for which it
then stands. Attaching the first constructor promotes a type, and a promotion answers both questions
as before. -/

/-- What a kind may become without a declaration: a type without an object gains one with its first
constructor. -/
def Kind.Promotes (a b : Kind) : Prop := b = a ∨ (a = .noInterfaceObject ∧ b = .interface)

namespace Kind.Promotes

variable {a b d : Kind}

/-- A kind that stays is promoted. -/
theorem refl (a : Kind) : a.Promotes a := .inl rfl

/-- Promotions follow one another. -/
theorem trans (h : a.Promotes b) (h' : b.Promotes d) : a.Promotes d := by
  rcases h with rfl | ⟨rfl, rfl⟩
  · exact h'
  · rcases h' with rfl | ⟨impossible, -⟩
    · exact .inr ⟨rfl, rfl⟩
    · cases impossible

/-- A promotion makes no composite of a type, and none of a composite. -/
theorem isSynthesized (h : a.Promotes b) : b.isSynthesized = a.isSynthesized := by
  rcases h with rfl | ⟨rfl, rfl⟩
  · rfl
  · rfl

/-- Nor does it make a type reopen another one, or end that. -/
theorem reopening_iff (h : a.Promotes b) : b = .reopening ↔ a = .reopening := by
  rcases h with rfl | ⟨rfl, rfl⟩
  · rfl
  · decide

end Kind.Promotes

namespace Catalog

variable {b c d : Catalog} {t u : TypeId} {l k : LibraryId} {name n : String} {kind : Kind}

/-! ## Quiet changes

A quiet change leaves every library as it is and of every type what look-ups depend on. It may
create types, but only such that no added library owns. -/

/-- Nothing about a type changes that look-ups depend on. -/
structure SameEntry (c d : Catalog) (t : TypeId) : Prop where
  name : d.typeName t = c.typeName t
  library : (d.type t).library = (c.type t).library
  iterable : (d.type t).iterable = (c.type t).iterable
  kind : (c.type t).kind.Promotes (d.type t).kind

/-- Nothing changes that look-ups depend on; types may be created that no library has an entry
for. -/
structure Quiet (c d : Catalog) : Prop where
  libraries : d.libraries = c.libraries
  registered : d.registered = c.registered
  size_le : c.types.size ≤ d.types.size
  old : ∀ t, t.index < c.types.size → SameEntry c d t
  new : ∀ t, c.types.size ≤ t.index → t.index < d.types.size →
    (d.type t).library = none ∨ (d.type t).library = some hidden

theorem SameEntry.refl (c : Catalog) (t : TypeId) : SameEntry c c t :=
  ⟨rfl, rfl, rfl, .refl _⟩

/-- A type that is read as before is the same entry. -/
theorem SameEntry.of_eq (same : d.type t = c.type t) : SameEntry c d t :=
  ⟨by rw [typeName, typeName, same], by rw [same], by rw [same], by rw [same]; exact .refl _⟩

theorem SameEntry.trans (h : SameEntry b c t) (h' : SameEntry c d t) : SameEntry b d t :=
  ⟨h'.name.trans h.name, h'.library.trans h.library, h'.iterable.trans h.iterable,
    h.kind.trans h'.kind⟩

theorem Quiet.refl (c : Catalog) : Quiet c c :=
  ⟨rfl, rfl, Nat.le_refl _, fun t _ => .refl c t, fun _ le lt => absurd lt (Nat.not_lt.2 le)⟩

theorem Quiet.trans (h : Quiet b c) (h' : Quiet c d) : Quiet b d where
  libraries := h'.libraries.trans h.libraries
  registered := h'.registered.trans h.registered
  size_le := Nat.le_trans h.size_le h'.size_le
  old t lt := (h.old t lt).trans (h'.old t (Nat.lt_of_lt_of_le lt h.size_le))
  new t le lt := by
    -- what the first change creates is there before the second, which leaves its owner alone
    by_cases inside : t.index < c.types.size
    · rw [(h'.old t inside).library]
      exact h.new t le inside
    · exact h'.new t (Nat.not_lt.1 inside) lt

/-- Every library is read as before a quiet change. -/
theorem Quiet.library (h : Quiet c d) (l : LibraryId) : d.library l = c.library l :=
  library_congr h.libraries l

/-! ### Which functions are quiet -/

/-- A change of an entry that no look-up depends on. -/
structure QuietEntry (f : TypeNode → TypeNode) : Prop where
  name : ∀ node, (f node).name = node.name
  library : ∀ node, (f node).library = node.library
  iterable : ∀ node, (f node).iterable = node.iterable
  kind : ∀ node : TypeNode, node.kind.Promotes (f node).kind

/-- Changing an entry in a quiet way is quiet. -/
theorem quiet_modifyType {f : TypeNode → TypeNode} (c : Catalog) (t : TypeId) (h : QuietEntry f) :
    Quiet c (c.modifyType t f) where
  libraries := rfl
  registered := rfl
  size_le := Nat.le_of_eq (types_size_modifyType c t f).symm
  old u _ := by
    refine ⟨?_, ?_, ?_, ?_⟩
    · exact type_modifyType_of_eq c t u TypeNode.name h.name
    · exact type_modifyType_of_eq c t u TypeNode.library h.library
    · exact type_modifyType_of_eq c t u TypeNode.iterable h.iterable
    · rw [type_modifyType]
      split
      · exact h.kind _
      · exact .refl _
  new u le lt := absurd lt (by rw [types_size_modifyType]; exact Nat.not_lt.2 le)

/-- A change of the members only. -/
theorem quiet_of_members (types : d.types = c.types) (libraries : d.libraries = c.libraries)
    (registered : d.registered = c.registered) : Quiet c d where
  libraries := libraries
  registered := registered
  size_le := Nat.le_of_eq (congrArg Array.size types).symm
  old t _ := .of_eq (by rw [type, type, types])
  new t le lt := absurd lt (by rw [types]; exact Nat.not_lt.2 le)

/-- Creating a type is quiet if no added library owns it. Composites belong to the hidden library,
and a type that is about to be declared has no owner yet. -/
theorem quiet_pushType (c : Catalog) (node : TypeNode)
    (h : node.library = none ∨ node.library = some hidden) : Quiet c (c.pushType node).2 where
  libraries := rfl
  registered := rfl
  size_le := by rw [types_size_pushType]; exact Nat.le_succ _
  old t lt := .of_eq (by rw [type_pushType, if_neg (Nat.ne_of_lt lt)])
  new t le lt := by
    rw [types_size_pushType] at lt
    rw [type_pushType, if_pos (Nat.le_antisymm (Nat.le_of_lt_succ lt) le)]
    exact h

theorem quiet_addImplementer (c : Catalog) (t u : TypeId) : Quiet c (c.addImplementer t u) :=
  quiet_modifyType c t ⟨fun _ => rfl, fun _ => rfl, fun _ => rfl, fun _ => .refl _⟩

/-- A super type is written to the type and to the list of the other one, neither of which names
depend on. -/
theorem quiet_setSuperType (c : Catalog) (t u : TypeId) : Quiet c (c.setSuperType t u) := by
  have first : Quiet c (c.modifyType t fun node => { node with superType := some u }) :=
    quiet_modifyType c t ⟨fun _ => rfl, fun _ => rfl, fun _ => rfl, fun _ => .refl _⟩
  unfold setSuperType
  dsimp only
  split
  · exact first.trans (quiet_addImplementer _ u t)
  · exact first

theorem quiet_pushTypeArgument (c : Catalog) (t u : TypeId) : Quiet c (c.pushTypeArgument t u) :=
  quiet_modifyType c t ⟨fun _ => rfl, fun _ => rfl, fun _ => rfl, fun _ => .refl _⟩

theorem quiet_addImplements (c : Catalog) (t u : TypeId) : Quiet c (c.addImplements t u) :=
  (quiet_pushTypeArgument c t u).trans (quiet_addImplementer _ u t)

theorem quiet_addLiteral (c : Catalog) (t : TypeId) (literal : String) :
    Quiet c (c.addLiteral t literal) :=
  quiet_modifyType c t ⟨fun _ => rfl, fun _ => rfl, fun _ => rfl, fun _ => .refl _⟩

theorem quiet_addModifiers (c : Catalog) (t : TypeId) (modifiers : Modifiers) :
    Quiet c (c.addModifiers t modifiers) :=
  quiet_modifyType c t ⟨fun _ => rfl, fun _ => rfl, fun _ => rfl, fun _ => .refl _⟩

theorem quiet_modifyMember (c : Catalog) (m : MemberId) (f : Member → Member) :
    Quiet c (c.modifyMember m f) :=
  quiet_of_members rfl rfl rfl

theorem quiet_document (c : Catalog) (l : LibraryId) (artifact : Artifact) :
    Quiet c (c.document l artifact) := by
  cases artifact with
  | library _ => exact .refl c
  | type t =>
    exact quiet_modifyType c t ⟨fun _ => rfl, fun _ => rfl, fun _ => rfl, fun _ => .refl _⟩
  | member m => exact quiet_modifyMember c m _

theorem quiet_noteReference (m : MemberId) (c : Catalog) (t : TypeId) :
    Quiet c (noteReference m c t) :=
  quiet_modifyType c t ⟨fun _ => rfl, fun _ => rfl, fun _ => rfl, fun _ => .refl _⟩

/-- References are recorded in lists of types, however many they are. -/
theorem quiet_addReferences (c : Catalog) (ts : List TypeId) (m : MemberId) :
    Quiet c (c.addReferences ts m) := by
  have one (c : Catalog) (t : TypeId) : Quiet c (c.addReference t m) :=
    related_foldl .refl .trans (quiet_noteReference m) _ c
  exact related_foldl .refl .trans one ts c

/-- A member is created and recorded where its types are referred to. -/
theorem quiet_pushMember (c : Catalog) (member : Member) (t : TypeId) :
    Quiet c (c.pushMember member t).2 :=
  (quiet_of_members (c := c)
    (d := { c with members := c.members.push { member with owner := some t } }) rfl rfl rfl).trans
      (quiet_addReferences _ _ _)

theorem quiet_detach (c : Catalog) (replaced : Option MemberId) : Quiet c (c.detach replaced) := by
  cases replaced with
  | none => exact .refl c
  | some m => exact quiet_modifyMember c m _

/-- So attaching a member is quiet, with the member that it replaces being detached. -/
theorem quiet_addProperty (c : Catalog) (t : TypeId) (member : Member) :
    Quiet c (c.addProperty t member).2 := by
  refine (quiet_pushMember c member (c.storage t)).trans (Quiet.trans ?_ (quiet_detach _ _))
  exact quiet_modifyType _ _ ⟨fun _ => rfl, fun _ => rfl, fun _ => rfl, fun _ => .refl _⟩

theorem quiet_addOperation (c : Catalog) (t : TypeId) (member : Member) :
    Quiet c (c.addOperation t member).2 := by
  refine (quiet_pushMember c member (c.storage t)).trans (Quiet.trans ?_ (quiet_detach _ _))
  exact quiet_modifyType _ _ ⟨fun _ => rfl, fun _ => rfl, fun _ => rfl, fun _ => .refl _⟩

theorem quiet_addConstructor (c : Catalog) (t : TypeId) (member : Member) :
    Quiet c (c.addConstructor t member).2 := by
  refine (quiet_pushMember c _ t).trans
    (quiet_modifyType _ _ ⟨fun _ => rfl, fun _ => rfl, fun _ => rfl, fun node => ?_⟩)
  -- the first constructor gives a bare interface its object
  by_cases bare : node.kind = .noInterfaceObject
  · exact .inr ⟨bare, by simp [bare]⟩
  · exact .inl (by simp [bare])

theorem quiet_mergeOperation (c : Catalog) (m : MemberId) (member : Member) :
    Quiet c (c.mergeOperation m member) :=
  (quiet_modifyMember c m _).trans (quiet_addReferences _ _ _)

/-! ## Introducing a type under a name

What is introduced has the name afterwards and is owned by the library. All other entries stay, and
whatever has an entry afterwards had it before or was introduced. These facts are all that
invariants about names use of a declaration. -/

/-- `l` gets `t` as the type it calls `name` and becomes its owner. The type has that name and, at
the end, the kind. -/
structure Introduced (l : LibraryId) (name : String) (t : TypeId) (kind : Kind) (c d : Catalog) :
    Prop where
  before : t.index < c.types.size → c.typeName t = name ∧ (c.type t).iterable = none
  lookup : ∀ k n, (d.library k).types[n]? =
    if k = l ∧ n = name then some t else (c.library k).types[n]?
  globals : ∀ k, (d.library k).globals = (c.library k).globals
  libraryName : ∀ k, (d.library k).name = (c.library k).name
  libraries_size : d.libraries.size = c.libraries.size
  registered : d.registered = c.registered
  size_le : c.types.size ≤ d.types.size
  others : ∀ u, u.index < c.types.size → u ≠ t → SameEntry c d u
  new : ∀ u, c.types.size ≤ u.index → u.index < d.types.size → u ≠ t →
    (d.type u).library = none ∨ (d.type u).library = some hidden
  bound : t.index < d.types.size
  name : d.typeName t = name
  library : (d.type t).library = some l
  kind : kind.Promotes (d.type t).kind
  iterable : (d.type t).iterable = none

namespace Introduced

/-- What was introduced is found under its name. -/
theorem lookup_self (h : Introduced l name t kind c d) : (d.library l).types[name]? = some t := by
  rw [h.lookup, if_pos ⟨rfl, rfl⟩]

/-- An entry is the new one, or it was there before. -/
theorem lookup_cases (h : Introduced l name t kind c d)
    (entry : (d.library k).types[n]? = some u) :
    (k = l ∧ n = name ∧ u = t) ∨ (c.library k).types[n]? = some u := by
  rw [h.lookup] at entry
  split at entry
  · next here => exact .inl ⟨here.1, here.2, (Option.some.inj entry).symm⟩
  · exact .inr entry

/-- An entry for another type was there before. -/
theorem lookup_old (h : Introduced l name t kind c d) (other : u ≠ t)
    (entry : (d.library k).types[n]? = some u) : (c.library k).types[n]? = some u :=
  (h.lookup_cases entry).resolve_left fun here => other here.2.2

/-- Entries stay where the new one takes no place that another type has. -/
theorem lookup_persist (h : Introduced l name t kind c d)
    (free : (c.library l).types[name]? = none ∨ (c.library l).types[name]? = some t)
    (entry : (c.library k).types[n]? = some u) : (d.library k).types[n]? = some u := by
  rw [h.lookup]
  split
  · next here =>
    obtain ⟨rfl, rfl⟩ := here
    rcases free with none | same
    · rw [none] at entry
      cases entry
    · exact same.symm.trans entry
  · exact entry

end Introduced

/-- Quiet changes after a type was introduced leave it introduced. -/
theorem Introduced.trans_quiet (h : Introduced l name t kind b c) (quiet : Quiet c d) :
    Introduced l name t kind b d where
  before := h.before
  lookup k n := by rw [quiet.library, h.lookup]
  globals k := by rw [quiet.library, h.globals]
  libraryName k := by rw [quiet.library, h.libraryName]
  libraries_size := by rw [quiet.libraries, h.libraries_size]
  registered := quiet.registered.trans h.registered
  size_le := Nat.le_trans h.size_le quiet.size_le
  others u lt other := (h.others u lt other).trans (quiet.old u (Nat.lt_of_lt_of_le lt h.size_le))
  new u le lt other := by
    -- a further type is new in the first change or in the second
    by_cases inside : u.index < c.types.size
    · rw [(quiet.old u inside).library]
      exact h.new u le inside other
    · exact quiet.new u (Nat.not_lt.1 inside) lt
  bound := Nat.lt_of_lt_of_le h.bound quiet.size_le
  name := (quiet.old t h.bound).name.trans h.name
  library := (quiet.old t h.bound).library.trans h.library
  kind := h.kind.trans (quiet.old t h.bound).kind
  iterable := (quiet.old t h.bound).iterable.trans h.iterable

/-! ### Entering a type -/

/-- The map after an entry was set: the new one under its name and the old ones elsewhere. -/
theorem getElem?_insert {α : Type} (entries : NameMap α) (name n : String) (a : α) :
    (entries.insert name a)[n]? = if n = name then some a else entries[n]? := by
  rw [Std.TreeMap.getElem?_insert]
  by_cases same : n = name
  · subst same
    simp
  · rw [if_neg same, if_neg]
    simpa [Std.compare_eq_iff_eq] using Ne.symm same

/-- Erasing takes out the entry under the name if it is for the type, and no other one. -/
theorem getElem?_erase (a : Library) (name n : String) (t : TypeId) :
    (a.erase name t).types[n]? =
      if n = name ∧ a.types[name]? = some t then none else a.types[n]? := by
  rw [Library.erase]
  by_cases here : a.types[name]? = some t
  · rw [if_pos here, Std.TreeMap.getElem?_erase]
    by_cases same : n = name
    · subst same
      simp [here]
    · rw [if_neg, if_neg fun both => same both.1]
      simpa [Std.compare_eq_iff_eq] using Ne.symm same
  · rw [if_neg here, if_neg fun both => here both.2]

/-- Erasing an entry does not concern the globals. -/
theorem globals_erase (a : Library) (name : String) (t : TypeId) :
    (a.erase name t).globals = a.globals := by
  rw [Library.erase]
  split <;> rfl

/-- Nor does it concern the name of the library. -/
theorem name_erase (a : Library) (name : String) (t : TypeId) : (a.erase name t).name = a.name := by
  rw [Library.erase]
  split <;> rfl

/-- What a library is after a type was entered under a name. -/
structure LibraryEntered (name : String) (t : TypeId) (a b : Library) : Prop where
  lookup : ∀ n, b.types[n]? = if n = name then some t else a.types[n]?
  globals : b.globals = a.globals
  name : b.name = a.name

/-- An entry that is free, or taken by the same type already, can be given to the type. -/
theorem library_insert_ok {a : Library} (free : a.types[name]? = none ∨ a.types[name]? = some t) :
    ∃ b, a.insert name t = .ok b ∧ LibraryEntered name t a b := by
  rcases free with none | same
  · refine ⟨{ a with types := a.types.insert name t }, by rw [Library.insert, none], ?_, rfl, rfl⟩
    exact fun n => getElem?_insert a.types name n t
  · refine ⟨a, by rw [Library.insert, same]; simp, ?_, rfl, rfl⟩
    intro n
    split
    · next eq => rw [eq, same]
    · rfl

/-- An entry that another type has cannot. -/
theorem library_insert_error {a : Library} (taken : a.types[name]? = some u) (other : u ≠ t) :
    a.insert name t = .error ⟨a.name, name⟩ := by
  rw [Library.insert, taken]
  simp [other]

/-- What a catalog is after a type was entered into a library. -/
structure Entered (l : LibraryId) (name : String) (t : TypeId) (c d : Catalog) : Prop where
  lookup : ∀ k n, (d.library k).types[n]? =
    if k = l ∧ n = name then some t else (c.library k).types[n]?
  globals : ∀ k, (d.library k).globals = (c.library k).globals
  libraryName : ∀ k, (d.library k).name = (c.library k).name
  libraries_size : d.libraries.size = c.libraries.size
  registered : d.registered = c.registered
  members : d.members = c.members
  types : d.types = c.types.modify t.index fun node => { node with library := some l }

/-- A type is entered under its own name if the entry is free, and is owned by the library then. -/
theorem addType_ok (inside : l.index < c.libraries.size)
    (free : (c.library l).types[c.typeName t]? = none ∨
      (c.library l).types[c.typeName t]? = some t) :
    ∃ d, c.addType l t = .ok d ∧ Entered l (c.typeName t) t c d := by
  obtain ⟨entered, insert, after⟩ := library_insert_ok free
  refine ⟨_, by rw [addType, insert]; rfl, ?_⟩
  have library (k : LibraryId) : ((c.modifyLibrary l fun _ => entered).modifyType t fun node =>
      { node with library := some l }).library k = if k = l then entered else c.library k := by
    rw [library_congr (libraries_modifyType _ _ _), library_modifyLibrary]
    simp [inside]
  -- the entry is new in its own library, and all other libraries are as before
  refine ⟨?_, ?_, ?_, by simp, rfl, rfl, rfl⟩
  · intro k n
    rw [library]
    by_cases same : k = l
    · rw [if_pos same, after.lookup, same]
      simp
    · rw [if_neg same, if_neg fun h => same h.1]
  · intro k
    rw [library]
    split
    · next same => rw [after.globals, same]
    · rfl
  · intro k
    rw [library]
    split
    · next same => rw [after.name, same]
    · rfl

/-- What happens where a type is entered into a library: the entry was free, or it was there. -/
theorem addType_eq_ok (ok : c.addType l t = .ok d) :
    ∃ b, ((c.library l).types[c.typeName t]? = none ∨
        (c.library l).types[c.typeName t]? = some t) ∧
      LibraryEntered (c.typeName t) t (c.library l) b ∧
      d = (c.modifyLibrary l fun _ => b).modifyType t fun node =>
        { node with library := some l } := by
  rw [addType] at ok
  have free : (c.library l).types[c.typeName t]? = none ∨
      (c.library l).types[c.typeName t]? = some t := by
    cases entry : (c.library l).types[c.typeName t]? with
    | none => exact .inl rfl
    | some u =>
      by_cases same : u = t
      · exact .inr (congrArg some same)
      · rw [library_insert_error entry same] at ok
        cases ok
  obtain ⟨b, insert, entered⟩ := library_insert_ok free
  rw [insert] at ok
  cases ok
  exact ⟨b, free, entered, rfl⟩

/-- If it is not free, the catalog is not changed and the fault names library and type. -/
theorem addType_error (taken : (c.library l).types[c.typeName t]? = some u) (other : u ≠ t) :
    c.addType l t = .error ⟨(c.library l).name, c.typeName t⟩ := by
  rw [addType, library_insert_error taken other]
  rfl

/-! ### Names of libraries -/

/-- No library gets another name. -/
def SameNames (c d : Catalog) : Prop := ∀ k, (d.library k).name = (c.library k).name

theorem SameNames.refl (c : Catalog) : SameNames c c := fun _ => rfl

theorem SameNames.trans (h : SameNames b c) (h' : SameNames c d) : SameNames b d :=
  fun k => (h' k).trans (h k)

/-- Quiet changes rename no library. -/
theorem Quiet.sameNames (h : Quiet c d) : SameNames c d :=
  fun k => congrArg Library.name (h.library k)

theorem sameNames_modifyLibrary (c : Catalog) (l : LibraryId) {f : Library → Library}
    (name : (f (c.library l)).name = (c.library l).name) :
    SameNames c (c.modifyLibrary l f) := by
  intro k
  rw [library_modifyLibrary]
  split
  · next same => rw [same.1, name]
  · rfl

/-- Nor does creating a placeholder. -/
theorem sameNames_addPlaceholder (c : Catalog) (name : String) :
    SameNames c (c.addPlaceholder name).2 := by
  rw [addPlaceholder]
  split
  · exact .refl c
  · exact sameNames_modifyLibrary (c.pushType _).2 hidden rfl

/-- Nor does entering a type. -/
theorem sameNames_addType (added : c.addType l t = .ok d) : SameNames c d := by
  obtain ⟨b, -, entered, rfl⟩ := addType_eq_ok added
  exact sameNames_modifyLibrary c l entered.name

/-- After a type was entered only its owner differs, and that of no other type. -/
theorem Entered.type (h : Entered l name t c d) (u : TypeId) :
    d.type u = if u = t ∧ t.index < c.types.size then { c.type u with library := some l }
      else c.type u := by
  rw [← type_modifyType c t u fun node => { node with library := some l }]
  rw [Catalog.type, Catalog.type, modifyType, h.types]

theorem Entered.types_size (h : Entered l name t c d) : d.types.size = c.types.size := by
  rw [h.types, Array.size_modify]

/-- Entering a type that exists already and has another kind since. -/
theorem Entered.introduced (h : Entered l name t (c.setKind t kind) d)
    (bound : t.index < c.types.size) (named : c.typeName t = name)
    (iterable : (c.type t).iterable = none) : Introduced l name t kind c d := by
  have size : d.types.size = c.types.size := by
    rw [h.types_size]
    exact types_size_modifyType c t _
  have self : d.type t = { c.type t with kind, library := some l } := by
    have sized : t.index < (c.setKind t kind).types.size := by
      rw [setKind, types_size_modifyType]; exact bound
    rw [h.type, if_pos ⟨rfl, sized⟩, setKind, type_modifyType_self c t _ bound]
  refine ⟨fun _ => ⟨named, iterable⟩, h.lookup, h.globals, h.libraryName, h.libraries_size,
    h.registered, Nat.le_of_eq size.symm, ?_, ?_, ?_, ?_, ?_, ?_, ?_⟩
  · intro u _ other
    refine .of_eq ?_
    rw [h.type, if_neg fun both => other both.1, setKind, type_modifyType_of_ne c t u _ other]
  · intro u le lt _
    exact absurd lt (by rw [size]; exact Nat.not_lt.2 le)
  · rw [size]; exact bound
  · rw [typeName, self]; exact named
  · rw [self]
  · rw [self]; exact .refl _
  · rw [self]; exact iterable

/-- Entering a type that was just created. -/
theorem Entered.introduced_new (h : Entered l name ⟨c.types.size⟩ (c.newType name kind).2 d) :
    Introduced l name ⟨c.types.size⟩ kind c d := by
  have size : d.types.size = c.types.size + 1 := by
    rw [h.types_size]
    exact types_size_pushType c _
  have self : d.type ⟨c.types.size⟩ = { TypeNode.new name kind with library := some l } := by
    rw [h.type, if_pos ⟨rfl, by rw [newType, types_size_pushType]; exact Nat.lt_succ_self _⟩,
      newType, type_pushType, if_pos rfl]
  refine ⟨fun lt => absurd lt (Nat.lt_irrefl _), h.lookup, h.globals, h.libraryName,
    h.libraries_size, h.registered, by omega, ?_, ?_, ?_, ?_, ?_, ?_, ?_⟩
  · intro u lt other
    refine .of_eq ?_
    rw [h.type, if_neg fun both => other both.1, newType, type_pushType, if_neg (Nat.ne_of_lt lt)]
  · intro u le lt other
    refine absurd ?_ other
    obtain ⟨i⟩ := u
    simp only [TypeId.mk.injEq] at *
    omega
  · rw [size]; exact Nat.lt_succ_self _
  · rw [typeName, self]; rfl
  · rw [self]
  · rw [self]; exact .refl _
  · rw [self]; rfl

/-- A type that is created with its entry and its owner. -/
theorem introduced_pushType (c : Catalog) (inside : l.index < c.libraries.size) (name : String)
    (kind : Kind) : Introduced l name ⟨c.types.size⟩ kind c
      ((c.pushType { TypeNode.new name kind with library := some l }).2.modifyLibrary l fun a =>
        { a with types := a.types.insert name ⟨c.types.size⟩ }) := by
  have library (k : LibraryId) :
      ((c.pushType { TypeNode.new name kind with library := some l }).2.modifyLibrary l fun a =>
          { a with types := a.types.insert name ⟨c.types.size⟩ }).library k =
        if k = l then
          { c.library k with types := (c.library k).types.insert name ⟨c.types.size⟩ }
        else c.library k := by
    rw [library_modifyLibrary, library_congr (libraries_pushType c _)]
    simp [inside]
  refine ⟨fun lt => absurd lt (Nat.lt_irrefl _), ?_, ?_, ?_, by simp, rfl, by simp, ?_, ?_, by simp,
    ?_, ?_, ?_, ?_⟩
  · intro k n
    rw [library]
    by_cases same : k = l
    · rw [if_pos same]
      simp only [getElem?_insert, same, true_and]
    · rw [if_neg same, if_neg fun h => same h.1]
  · intro k
    rw [library]
    split <;> rfl
  · intro k
    rw [library]
    split <;> rfl
  · intro u lt _
    exact .of_eq (by rw [type_modifyLibrary, type_pushType, if_neg (Nat.ne_of_lt lt)])
  · intro u le lt other
    -- the only number that was given out is that of the type itself
    rw [types_modifyLibrary, types_size_pushType] at lt
    refine absurd ?_ other
    obtain ⟨i⟩ := u
    simp only [TypeId.mk.injEq] at *
    omega
  all_goals simp only [typeName, type_modifyLibrary, type_pushType, if_true, TypeNode.new]
  exact .refl _

/-- A placeholder is created where the hidden library has none of the name. -/
theorem addPlaceholder_of_none (free : (c.library hidden).types[name]? = none) :
    c.addPlaceholder name =
      (⟨c.types.size⟩,
        (c.pushType { TypeNode.new name .noInterfaceObject with
          library := some hidden }).2.modifyLibrary hidden fun a =>
            { a with types := a.types.insert name ⟨c.types.size⟩ }) := by
  rw [addPlaceholder, free]
  rfl

/-- A placeholder is introduced into the hidden library. -/
theorem introduced_addPlaceholder (inside : hidden.index < c.libraries.size)
    (free : (c.library hidden).types[name]? = none) :
    Introduced hidden name (c.addPlaceholder name).1 .noInterfaceObject c
      (c.addPlaceholder name).2 := by
  rw [addPlaceholder_of_none free]
  exact introduced_pushType c inside name .noInterfaceObject

/-- A primitive type is introduced into the library of the primitives. -/
theorem introduced_addPrimitive (inside : primitives.index < c.libraries.size) (name : String) :
    Introduced primitives name ⟨c.types.size⟩ .primitive c (c.addPrimitive name) :=
  introduced_pushType c inside name .primitive

end Catalog

end IdlCatalog
