/-
# IdlCatalog.Proofs.Catalog.Calls — the functions of a catalog, called in any order

A user need not read descriptions: every function that changes a catalog may be called directly,
with any numbers that are in range. `Call` lists these functions and `Made` is a chain of calls. The
catalogs that are reached so are odd in many ways; a library may own a type that it has no entry
for, or a super type may lead back to its own type. What holds of all of them is that every number
they store is in range: `Catalog.Closed`.

## How it is used

Whatever is proved of all that users may do is an induction over a chain of calls. `Catalog.Closed`
is kept by each of them and says what later proofs need about any such catalog: an accessor that is
given a number from the catalog finds an entry. Nothing is said about removed entries, since none is
ever taken out.

The proofs about single functions follow the entries that the function writes: a changed entry has
to stay within range, a new one has to be within range, and the extent may only grow.
`Closed.of_changes` reduces the rest to this.
-/
import IdlCatalog.Proofs.Catalog.Tables

namespace IdlCatalog

/-! ## Calls

A call has numbers as arguments, and is in range if the entries are there. Answers that a function
gives are dropped here: what matters is the catalog after the call. -/

/-- A function that changes a catalog, with its arguments. -/
inductive Call
  | addLibrary (name : String) (readOnly : Bool) (docs : DocumentationProvider)
  | removeLibrary (l : LibraryId)
  | newType (name : String) (kind : Kind)
  | newSynthesized (name : String) (kind : Kind) (superType : Option TypeId)
  | addPlaceholder (name : String)
  | addType (l : LibraryId) (t : TypeId)
  | deleteType (t : TypeId)
  | setKind (t : TypeId) (kind : Kind)
  | addModifiers (t : TypeId) (modifiers : Modifiers)
  | setSuperType (t superType : TypeId)
  | addImplements (t base : TypeId)
  | pushTypeArgument (t argument : TypeId)
  | addLiteral (t : TypeId) (literal : String)
  | setIterable (t : TypeId) (iterable : Iterable)
  | addProperty (t : TypeId) (member : Member)
  | addOperation (t : TypeId) (member : Member)
  | addConstructor (t : TypeId) (member : Member)
  | mergeOperation (m : MemberId) (incoming : Member)
  | addReference (t : TypeId) (m : MemberId)
  | document (l : LibraryId) (artifact : Artifact)

namespace Call

/-- The types among the arguments. -/
def types : Call → List TypeId
  | addLibrary _ _ _ | removeLibrary _ | newType _ _ | addPlaceholder _ => []
  | newSynthesized _ _ superType => superType.toList
  | addType _ t | deleteType t | setKind t _ | addModifiers t _ | addLiteral t _
  | addReference t _ => [t]
  | setSuperType t u | addImplements t u | pushTypeArgument t u => [t, u]
  | setIterable t iterable => t :: iterable.key :: iterable.value.toList
  | addProperty t a | addOperation t a | addConstructor t a => t :: a.referencedTypes
  | mergeOperation _ a => a.referencedTypes
  | document _ (.type t) => [t]
  | document _ (.library _) | document _ (.member _) => []

/-- The members among the arguments. -/
def members : Call → List MemberId
  | mergeOperation m _ | addReference _ m | document _ (.member m) => [m]
  | _ => []

/-- The libraries among the arguments. -/
def libraries : Call → List LibraryId
  | removeLibrary l | addType l _ => [l]
  | document l (.library k) => [l, k]
  | document l (.type _) | document l (.member _) => [l]
  | _ => []

/-- The arguments are numbers of the catalog. -/
structure InRange (c : Catalog) (call : Call) : Prop where
  types : ∀ t ∈ call.types, t.index < c.types.size
  members : ∀ m ∈ call.members, m.index < c.members.size
  libraries : ∀ l ∈ call.libraries, l.index < c.libraries.size

instance (c : Catalog) (call : Call) : Decidable (call.InRange c) :=
  decidable_of_iff ((∀ t ∈ call.types, t.index < c.types.size) ∧
      (∀ m ∈ call.members, m.index < c.members.size) ∧
      ∀ l ∈ call.libraries, l.index < c.libraries.size)
    ⟨fun ⟨types, members, libraries⟩ => ⟨types, members, libraries⟩,
      fun ⟨types, members, libraries⟩ => ⟨types, members, libraries⟩⟩

/-- The catalog after a call. A type that a library refuses to take leaves the catalog as it is. -/
def run (c : Catalog) : Call → Catalog
  | addLibrary name readOnly docs => (c.addLibrary name readOnly docs).2
  | removeLibrary l => (c.removeLibrary l).2
  | newType name kind => (c.newType name kind).2
  | newSynthesized name kind superType => (c.newSynthesized name kind superType).2
  | addPlaceholder name => (c.addPlaceholder name).2
  | addType l t =>
    match c.addType l t with
    | .ok d => d
    | .error _ => c
  | deleteType t => c.deleteType t
  | setKind t kind => c.setKind t kind
  | addModifiers t modifiers => c.addModifiers t modifiers
  | setSuperType t superType => c.setSuperType t superType
  | addImplements t base => c.addImplements t base
  | pushTypeArgument t argument => c.pushTypeArgument t argument
  | addLiteral t literal => c.addLiteral t literal
  | setIterable t iterable => c.setIterable t iterable
  | addProperty t member => (c.addProperty t member).2
  | addOperation t member => (c.addOperation t member).2
  | addConstructor t member => (c.addConstructor t member).2
  | mergeOperation m incoming => c.mergeOperation m incoming
  | addReference t m => c.addReference t m
  | document l artifact => c.document l artifact

end Call

/-- A chain of calls, each of which is in range where it is made. -/
inductive Made (c : Catalog) : List Call → Catalog → Prop
  | start : Made c [] c
  | call {calls : List Call} {d : Catalog} (made : Made c calls d) {call : Call}
      (inRange : call.InRange d) : Made c (calls ++ [call]) (call.run d)

/-- Chains of calls follow one another. -/
theorem Made.trans {b c d : Catalog} {calls more : List Call} (h : Made b calls c)
    (h' : Made c more d) : Made b (calls ++ more) d := by
  induction h' with
  | start => rwa [List.append_nil]
  | call _ inRange ih =>
    rw [← List.append_assoc]
    exact ih.call inRange

/-- A call that is in range is a chain. -/
theorem Made.one {c : Catalog} {call : Call} (inRange : call.InRange c) :
    Made c [call] (call.run c) :=
  Made.start.call inRange

/-- A chain of calls determines what it comes to. -/
theorem Made.eq_foldl {c d : Catalog} {calls : List Call} (h : Made c calls d) :
    d = calls.foldl Call.run c := by
  induction h with
  | start => rfl
  | call _ _ ih => rw [List.foldl_append, ← ih]; rfl

/-! ## Numbers in range

An `Extent` is how many types, members and libraries there are. An entry is within an extent if all
numbers that it stores are. -/

/-- How many types, members and libraries a catalog holds. -/
structure Extent where
  types : Nat
  members : Nat
  libraries : Nat

/-- The extent of a catalog. -/
def Catalog.extent (c : Catalog) : Extent :=
  ⟨c.types.size, c.members.size, c.libraries.size⟩

/-- At least as much of everything. -/
structure Extent.Le (e f : Extent) : Prop where
  types : e.types ≤ f.types
  members : e.members ≤ f.members
  libraries : e.libraries ≤ f.libraries

/-- The entry of a type stores numbers in range only. -/
structure TypeNode.Within (e : Extent) (node : TypeNode) : Prop where
  superType : ∀ u, node.superType = some u → u.index < e.types
  types : ∀ u ∈ node.types, u.index < e.types
  implementedBy : ∀ u ∈ node.implementedBy, u.index < e.types
  iterable : ∀ pair, node.iterable = some pair →
    pair.key.index < e.types ∧ ∀ u, pair.value = some u → u.index < e.types
  properties : ∀ (name : String) m, node.properties[name]? = some m → m.index < e.members
  operations : ∀ (name : String) m, node.operations[name]? = some m → m.index < e.members
  constructors : ∀ m ∈ node.constructors, m.index < e.members
  referencedBy : ∀ m ∈ node.referencedBy, m.index < e.members
  library : ∀ l, node.library = some l → l.index < e.libraries

/-- A member stores numbers in range only. -/
structure Member.Within (e : Extent) (a : Member) : Prop where
  types : ∀ t ∈ a.referencedTypes, t.index < e.types
  owner : ∀ t, a.owner = some t → t.index < e.types

/-- A library stores numbers in range only. -/
structure Library.Within (e : Extent) (a : Library) : Prop where
  entry : ∀ (name : String) t, a.types[name]? = some t → t.index < e.types
  globals : a.globals.index < e.types

/-- Every number that the catalog stores is in range. -/
structure Catalog.Closed (c : Catalog) : Prop where
  any_lt : Catalog.any.index < c.types.size
  hidden_lt : Catalog.hidden.index < c.libraries.size
  type : ∀ t, (c.type t).Within c.extent
  member : ∀ m, (c.member m).Within c.extent
  library : ∀ l, (c.library l).Within c.extent
  registered : ∀ l ∈ c.registered, l.index < c.libraries.size

section Within

variable {e f : Extent} {node : TypeNode} {a : Member} {b : Library}

/-- An extent is no smaller than itself. -/
theorem Extent.Le.refl (e : Extent) : e.Le e := ⟨Nat.le_refl _, Nat.le_refl _, Nat.le_refl _⟩

theorem Extent.Le.trans {g : Extent} (h : e.Le f) (h' : f.Le g) : e.Le g :=
  ⟨Nat.le_trans h.types h'.types, Nat.le_trans h.members h'.members,
    Nat.le_trans h.libraries h'.libraries⟩

/-- A type stays within range when there is more. -/
theorem TypeNode.Within.mono (h : node.Within e) (le : e.Le f) : node.Within f where
  superType u eq := Nat.lt_of_lt_of_le (h.superType u eq) le.types
  types u inside := Nat.lt_of_lt_of_le (h.types u inside) le.types
  implementedBy u inside := Nat.lt_of_lt_of_le (h.implementedBy u inside) le.types
  iterable pair eq :=
    ⟨Nat.lt_of_lt_of_le (h.iterable pair eq).1 le.types,
      fun u value => Nat.lt_of_lt_of_le ((h.iterable pair eq).2 u value) le.types⟩
  properties name m entry := Nat.lt_of_lt_of_le (h.properties name m entry) le.members
  operations name m entry := Nat.lt_of_lt_of_le (h.operations name m entry) le.members
  constructors m inside := Nat.lt_of_lt_of_le (h.constructors m inside) le.members
  referencedBy m inside := Nat.lt_of_lt_of_le (h.referencedBy m inside) le.members
  library l eq := Nat.lt_of_lt_of_le (h.library l eq) le.libraries

/-- So does a member. -/
theorem Member.Within.mono (h : a.Within e) (le : e.Le f) : a.Within f :=
  ⟨fun t inside => Nat.lt_of_lt_of_le (h.types t inside) le.types,
    fun t eq => Nat.lt_of_lt_of_le (h.owner t eq) le.types⟩

/-- And so does a library. -/
theorem Library.Within.mono (h : b.Within e) (le : e.Le f) : b.Within f :=
  ⟨fun name t entry => Nat.lt_of_lt_of_le (h.entry name t entry) le.types,
    Nat.lt_of_lt_of_le h.globals le.types⟩

/-- A type that is just created stores its library and its super type at most. -/
theorem TypeNode.within_new (name : String) (kind : Kind) {library : Option LibraryId}
    {superType : Option TypeId} (inside : ∀ l, library = some l → l.index < e.libraries)
    (bound : ∀ u, superType = some u → u.index < e.types) :
    ({ TypeNode.new name kind with library, superType } : TypeNode).Within e where
  superType := bound
  types := by simp [TypeNode.new]
  implementedBy := by simp [TypeNode.new]
  iterable := nofun
  properties _ _ entry := by simp [TypeNode.new] at entry
  operations _ _ entry := by simp [TypeNode.new] at entry
  constructors := by simp [TypeNode.new]
  referencedBy := by simp [TypeNode.new]
  library := inside

/-- What is read where no library is stays within range if there is a type at all. -/
theorem Library.within_default (some_type : 0 < e.types) : (default : Library).Within e where
  entry _ _ entry := by simp [default] at entry
  globals := some_type

/-- And so does what is read where no member is. -/
theorem Member.within_default (some_type : 0 < e.types) : (default : Member).Within e where
  types t inside := by
    obtain rfl := List.mem_singleton.1 (inside : t ∈ [default])
    exact some_type
  owner := nofun

end Within

namespace Catalog

variable {c d : Catalog} {t u : TypeId} {m : MemberId} {l : LibraryId} {a : Member}

/-! ## Changes that keep numbers in range

A catalog after a change is closed if what was changed and what was created is within the new
extent. -/

/-- Entries may change to others that are in range, and there may be more of them. -/
theorem Closed.of_changes (h : c.Closed) (le : c.extent.Le d.extent)
    (type : ∀ u, d.type u = c.type u ∨ (d.type u).Within d.extent)
    (member : ∀ m, d.member m = c.member m ∨ (d.member m).Within d.extent)
    (library : ∀ l, d.library l = c.library l ∨ (d.library l).Within d.extent)
    (registered : ∀ l ∈ d.registered, l ∈ c.registered ∨ l.index < d.libraries.size) :
    d.Closed where
  any_lt := Nat.lt_of_lt_of_le h.any_lt le.types
  hidden_lt := Nat.lt_of_lt_of_le h.hidden_lt le.libraries
  type u := (type u).elim (fun same => same ▸ (h.type u).mono le) id
  member m := (member m).elim (fun same => same ▸ (h.member m).mono le) id
  library l := (library l).elim (fun same => same ▸ (h.library l).mono le) id
  registered l inside := by
    rcases registered l inside with before | within
    · exact Nat.lt_of_lt_of_le (h.registered l before) le.libraries
    · exact within

/-- Changing a type keeps numbers in range if the changed entry does. -/
theorem Closed.modifyType {f : TypeNode → TypeNode} (h : c.Closed)
    (keeps : ∀ node : TypeNode, node.Within c.extent → (f node).Within c.extent) :
    (c.modifyType t f).Closed := by
  have extent : (c.modifyType t f).extent = c.extent := by simp [Catalog.extent]
  refine h.of_changes (extent ▸ .refl _) (fun u => ?_) (fun _ => .inl rfl) (fun _ => .inl rfl)
    fun _ inside => .inl inside
  rw [extent, type_modifyType]
  split
  · exact .inr (keeps _ (h.type u))
  · exact .inl rfl

/-- The same for members. -/
theorem Closed.modifyMember {f : Member → Member} (h : c.Closed)
    (keeps : ∀ a : Member, a.Within c.extent → (f a).Within c.extent) :
    (c.modifyMember m f).Closed := by
  have extent : (c.modifyMember m f).extent = c.extent := by simp [Catalog.extent]
  refine h.of_changes (extent ▸ .refl _) (fun _ => .inl rfl) (fun k => ?_) (fun _ => .inl rfl)
    fun _ inside => .inl inside
  rw [extent, member_modifyMember]
  split
  · exact .inr (keeps _ (h.member k))
  · exact .inl rfl

/-- The same for libraries. -/
theorem Closed.modifyLibrary {f : Library → Library} (h : c.Closed)
    (keeps : ∀ b : Library, b.Within c.extent → (f b).Within c.extent) :
    (c.modifyLibrary l f).Closed := by
  have extent : (c.modifyLibrary l f).extent = c.extent := by simp [Catalog.extent]
  refine h.of_changes (extent ▸ .refl _) (fun _ => .inl rfl) (fun _ => .inl rfl) (fun k => ?_)
    fun _ inside => .inl inside
  rw [extent, library_modifyLibrary]
  split
  · exact .inr (keeps _ (h.library k))
  · exact .inl rfl

/-- A new type has to be within range. -/
theorem Closed.pushType {node : TypeNode} (h : c.Closed) (within : node.Within c.extent) :
    (c.pushType node).2.Closed := by
  have le : c.extent.Le (c.pushType node).2.extent :=
    ⟨by simp [Catalog.extent], Nat.le_refl _, Nat.le_refl _⟩
  refine h.of_changes le (fun u => ?_) (fun _ => .inl rfl) (fun _ => .inl rfl)
    fun _ inside => .inl inside
  rw [type_pushType]
  split
  · exact .inr (within.mono le)
  · exact .inl rfl

/-! ## What calls do to the numbers in range

One lemma for each function. Each asks for what a call in range gives. -/

/-- A new library comes with the type for its globals. -/
theorem Closed.addLibrary (h : c.Closed) (name : String) (readOnly : Bool)
    (docs : DocumentationProvider) : (c.addLibrary name readOnly docs).2.Closed := by
  have types := types_size_addLibrary c name readOnly docs
  have libraries := libraries_size_addLibrary c name readOnly docs
  have members := members_addLibrary c name readOnly docs
  -- a type and a library are new, and each names the other
  refine h.of_changes ⟨?_, ?_, ?_⟩ (fun u => ?_) (fun m => .inl ?_) (fun l => ?_) fun l inside => ?_
  · simp only [extent, types, Nat.le_succ]
  · simp only [extent, members, Nat.le_refl]
  · simp only [extent, libraries, Nat.le_succ]
  · rw [type_addLibrary]
    split
    · refine .inr (TypeNode.within_new globalsName .noInterfaceObject ?_ nofun)
      rintro _ ⟨rfl⟩
      show c.libraries.size < _
      rw [extent, libraries]
      exact Nat.lt_succ_self _
    · exact .inl rfl
  · rw [Catalog.member, members, Catalog.member]
  · rw [library_addLibrary]
    split
    · refine .inr ⟨fun n t entry => by simp at entry, ?_⟩
      show c.types.size < _
      rw [extent, types]
      exact Nat.lt_succ_self _
    · exact .inl rfl
  · rw [registered_addLibrary, List.mem_append, List.mem_singleton] at inside
    refine inside.imp id ?_
    rintro rfl
    rw [libraries]
    exact Nat.lt_succ_self _

/-- A removed library stays in the array, so whatever refers to it still does. -/
theorem Closed.removeLibrary (h : c.Closed) (l : LibraryId) : (c.removeLibrary l).2.Closed := by
  have moved := moved_removeLibrary c l
  generalize (c.removeLibrary l).2 = d at moved
  have extent : d.extent = c.extent := by
    rw [Catalog.extent, moved.types_size, moved.members, moved.libraries]
    rfl
  have registered : d.registered = c.registered.filter (· ≠ l) := moved.registered
  refine h.of_changes (extent ▸ .refl _) (fun t => .inr ?_) (fun m => .inl ?_)
    (fun k => .inl (library_congr moved.libraries k)) fun k inside => ?_
  · rw [extent]
    obtain ⟨owner, same, change⟩ := moved.type t
    have old : (c.type t).Within c.extent := h.type t
    rw [same]
    refine { old with library := ?_ }
    -- a type keeps its owner or goes to an heir
    rintro k ⟨rfl⟩
    rcases change with unchanged | ⟨-, heir, eq, inside⟩
    · exact old.library k unchanged.symm
    · cases eq
      rcases List.mem_cons.1 inside with rfl | inside
      · exact h.hidden_lt
      · exact h.registered k (List.mem_filter.1 inside).1
  · rw [Catalog.member, moved.members]
    rfl
  · rw [registered] at inside
    exact .inl (List.mem_filter.1 inside).1

theorem Closed.newSynthesized (h : c.Closed) (name : String) (kind : Kind)
    {superType : Option TypeId} (bound : ∀ u ∈ superType.toList, u.index < c.types.size) :
    (c.newSynthesized name kind superType).2.Closed := by
  refine h.pushType (TypeNode.within_new name kind ?_ ?_)
  · rintro _ ⟨rfl⟩
    exact h.hidden_lt
  · rintro u rfl
    exact bound u (by simp)

/-- A placeholder has an entry in the hidden library, which leads to it. -/
theorem Closed.addPlaceholder (h : c.Closed) (name : String) :
    (c.addPlaceholder name).2.Closed := by
  rw [Catalog.addPlaceholder]
  split
  · exact h
  · let node := { TypeNode.new name .noInterfaceObject with library := some hidden }
    have within : node.Within c.extent :=
      TypeNode.within_new name _ (by rintro _ ⟨rfl⟩; exact h.hidden_lt) (by rintro _ ⟨⟩)
    have pushed := h.pushType within
    -- the entry is made when the type is there
    refine pushed.modifyLibrary fun b within => ⟨fun n t entry => ?_, within.globals⟩
    rw [getElem?_insert] at entry
    split at entry
    · cases entry
      show c.types.size < (c.pushType _).2.types.size
      rw [types_size_pushType]
      exact Nat.lt_succ_self _
    · exact within.entry n t entry

theorem Closed.addType (h : c.Closed) (inside : l.index < c.libraries.size)
    (bound : t.index < c.types.size) (ok : c.addType l t = .ok d) : d.Closed := by
  obtain ⟨b, -, entered, rfl⟩ := addType_eq_ok ok
  have within : b.Within c.extent := by
    refine ⟨fun n u entry => ?_, entered.globals ▸ (h.library l).globals⟩
    rw [entered.lookup] at entry
    split at entry
    · cases entry
      exact bound
    · exact (h.library l).entry n u entry
  have replaced : (c.modifyLibrary l fun _ => b).Closed := h.modifyLibrary fun _ _ => within
  refine replaced.modifyType fun node old => { old with library := ?_ }
  rintro _ ⟨rfl⟩
  show l.index < (c.modifyLibrary l _).libraries.size
  rwa [libraries_size_modifyLibrary]

/-- Taking a type out of its library leaves the type itself. -/
theorem Closed.deleteType (h : c.Closed) (t : TypeId) : (c.deleteType t).Closed := by
  rw [Catalog.deleteType]
  split
  · exact h
  · have freed : (c.modifyType t fun node => { node with library := none }).Closed :=
      h.modifyType fun node old => { old with library := nofun }
    refine freed.modifyLibrary fun b within => ⟨fun n u entry => ?_, ?_⟩
    · rw [getElem?_erase] at entry
      split at entry
      · cases entry
      · exact within.entry n u entry
    · rw [globals_erase]
      exact within.globals

theorem Closed.addImplementer (h : c.Closed) (bound : t.index < c.types.size) :
    (c.addImplementer u t).Closed := by
  refine h.modifyType fun node old => { old with implementedBy := ?_ }
  intro v inside
  rcases Array.mem_push.1 inside with before | rfl
  · exact old.implementedBy v before
  · exact bound

/-- A super type that exists is written, and the type is written to its list. -/
theorem Closed.setSuperType (h : c.Closed) (bound : t.index < c.types.size)
    (base : u.index < c.types.size) : (c.setSuperType t u).Closed := by
  have given : (c.modifyType t fun node => { node with superType := some u }).Closed :=
    h.modifyType fun node old => { old with superType := by rintro _ ⟨rfl⟩; exact base }
  rw [Catalog.setSuperType]
  split
  · exact given.addImplementer (by rwa [types_size_modifyType])
  · exact given

theorem Closed.pushTypeArgument (h : c.Closed) (bound : u.index < c.types.size) :
    (c.pushTypeArgument t u).Closed := by
  refine h.modifyType fun node old => { old with types := ?_ }
  intro v inside
  rcases Array.mem_push.1 inside with before | rfl
  · exact old.types v before
  · exact bound

theorem Closed.addImplements (h : c.Closed) (bound : t.index < c.types.size)
    (base : u.index < c.types.size) : (c.addImplements t u).Closed :=
  (h.pushTypeArgument base).addImplementer (by
    rw [Catalog.pushTypeArgument, types_size_modifyType]
    exact bound)

theorem Closed.addReference (h : c.Closed) (bound : m.index < c.members.size) (t : TypeId) :
    (c.addReference t m).Closed := by
  have note (us : List TypeId) : ∀ d : Catalog, d.Closed → m.index < d.members.size →
      (us.foldl (noteReference m) d).Closed := by
    induction us with
    | nil => exact fun _ closed _ => closed
    | cons u us ih =>
      intro d closed bound
      refine ih _ (closed.modifyType fun node old =>
        { old with referencedBy := fun k inside => ?_ }) bound
      rw [Std.TreeSet.mem_insert, Std.LawfulEqCmp.compare_eq_iff_eq] at inside
      rcases inside with rfl | before
      · exact bound
      · exact old.referencedBy k before
  exact note _ c h bound

/-- Recording writes the number of the member to types that exist. -/
theorem Closed.addReferences (h : c.Closed) (bound : m.index < c.members.size)
    (ts : List TypeId) : (c.addReferences ts m).Closed := by
  induction ts generalizing c with
  | nil => exact h
  | cons t ts ih =>
    refine ih (h.addReference bound t) ?_
    rw [(onlyNotes_addReference c t m).members]
    exact bound

/-- A new member mentions types that exist. -/
theorem Closed.pushMember (h : c.Closed) (bound : t.index < c.types.size)
    (mentioned : ∀ u ∈ a.referencedTypes, u.index < c.types.size) :
    (c.pushMember a t).2.Closed := by
  let pushed : Catalog := { c with members := c.members.push { a with owner := some t } }
  have size : pushed.members.size = c.members.size + 1 := Array.size_push _
  have closed : pushed.Closed := by
    refine h.of_changes ⟨Nat.le_refl _, ?_, Nat.le_refl _⟩ (fun _ => .inl rfl) (fun k => ?_)
      (fun _ => .inl rfl) fun _ inside => .inl inside
    · simp only [extent, size, Nat.le_succ]
    · by_cases last : k.index = c.members.size
      · have new : pushed.member k = { a with owner := some t } := by
          simp [Catalog.member, pushed, last]
        rw [new]
        exact .inr ⟨mentioned, by rintro _ ⟨rfl⟩; exact bound⟩
      · exact .inl (by simp [Catalog.member, pushed, Array.getElem?_push, last])
  exact closed.addReferences (by rw [size]; exact Nat.lt_succ_self _) _

/-- Following reopenings does not leave the catalog. -/
theorem Closed.followReopenings_lt (h : c.Closed) (steps : Nat) (bound : t.index < c.types.size) :
    (c.followReopenings steps t).index < c.types.size := by
  induction steps generalizing t with
  | zero => exact bound
  | succ steps ih =>
    rw [followReopenings]
    split
    · next target _ given => exact ih ((h.type t).superType target given)
    · exact bound

/-- What stores the members of a type exists if the type does. -/
theorem Closed.storage_lt (h : c.Closed) (bound : t.index < c.types.size) :
    (c.storage t).index < c.types.size :=
  h.followReopenings_lt maxDepth bound

/-- So attaching a member stores numbers that are in range. -/
theorem Closed.enter (h : c.Closed) (table : Table) (bound : t.index < c.types.size)
    (mentioned : ∀ u ∈ a.referencedTypes, u.index < c.types.size) :
    (enter table c t a).2.Closed := by
  let pushed := (c.pushMember a (c.storage t)).2
  have closed : pushed.Closed := h.pushMember (h.storage_lt bound) mentioned
  have size : pushed.members.size = c.members.size + 1 :=
    (created_pushMember c a (c.storage t)).size
  have entered : (pushed.modifyType (c.storage t)
      (table.insert a.name ⟨c.members.size⟩)).Closed := by
    have entries {entries : NameMap MemberId} {k : MemberId} {n : String}
        (old : ∀ (n : String) k, entries[n]? = some k → k.index < pushed.extent.members)
        (entry : (entries.insert a.name ⟨c.members.size⟩)[n]? = some k) :
        k.index < pushed.extent.members := by
      rw [getElem?_insert] at entry
      split at entry
      · cases entry
        show c.members.size < pushed.members.size
        rw [size]
        exact Nat.lt_succ_self _
      · exact old n k entry
    refine closed.modifyType fun node old => ?_
    cases table with
    | properties => exact { old with properties := fun _ _ => entries old.properties }
    | operations => exact { old with operations := fun _ _ => entries old.operations }
  -- a member that is replaced loses its owner, and that is all
  show (Catalog.detach _ (table.of (pushed.type (c.storage t)))[a.name]?).Closed
  generalize (table.of (pushed.type (c.storage t)))[a.name]? = replaced
  cases replaced with
  | none => exact entered
  | some k => exact entered.modifyMember fun b within => ⟨within.types, nofun⟩

theorem Closed.addConstructor (h : c.Closed) (bound : t.index < c.types.size)
    (mentioned : ∀ u ∈ a.referencedTypes, u.index < c.types.size) :
    (c.addConstructor t a).2.Closed := by
  let b : Member := { a with modifiers := a.modifiers ||| Modifiers.constructor }
  have pushed : (c.pushMember b t).2.Closed := h.pushMember bound mentioned
  have size := (created_pushMember c b t).size
  refine pushed.modifyType fun node old => { old with constructors := fun k inside => ?_ }
  rcases Array.mem_push.1 inside with before | rfl
  · exact old.constructors k before
  · show c.members.size < (c.pushMember b t).2.members.size
    rw [size]
    exact Nat.lt_succ_self _

/-- Merged parameters have the types of the two lists, or `any`. -/
theorem merge_types {ps qs : List Parameter} {p : Parameter}
    (inside : p ∈ Parameter.merge any ps qs) :
    p.type = any ∨ p.type ∈ ps.map (·.type) ∨ p.type ∈ qs.map (·.type) := by
  have kept {rs : List Parameter} (inside : p ∈ rs.map Parameter.orAbsent) :
      p.type ∈ rs.map (·.type) := by
    obtain ⟨q, known, rfl⟩ := List.mem_map.1 inside
    exact List.mem_map.2 ⟨q, known, rfl⟩
  -- along both lists at once, as they are merged
  induction ps generalizing qs with
  | nil =>
    cases qs with
    | nil => cases inside
    | cons q qs => exact .inr (.inr (kept inside))
  | cons r ps ih =>
    cases qs with
    | nil => exact .inr (.inl (kept inside))
    | cons q qs =>
      rcases List.mem_cons.1 inside with rfl | later
      · rw [Parameter.unify]
        dsimp only
        split
        · exact .inr (.inl (by simp))
        · exact .inl rfl
      · rcases ih later with first | second | third
        · exact .inl first
        · exact .inr (.inl (List.mem_cons_of_mem _ second))
        · exact .inr (.inr (List.mem_cons_of_mem _ third))

/-- A merged overload mentions what the two mentioned, and perhaps `any`. -/
theorem Closed.mergeOperation (h : c.Closed) (bound : m.index < c.members.size)
    (mentioned : ∀ u ∈ a.referencedTypes, u.index < c.types.size) :
    (c.mergeOperation m a).Closed := by
  have merged : ∀ p ∈ Parameter.merge any (c.member m).parameters a.parameters,
      p.type.index < c.types.size := by
    intro p inside
    rcases merge_types inside with eq | first | second
    · rw [eq]
      exact h.any_lt
    · exact (h.member m).types _ (List.mem_append_right _ first)
    · exact mentioned _ (List.mem_append_right _ second)
  -- parameters that come out mention what one of the lists mentions, or `any`
  refine Closed.addReferences (h.modifyMember fun b within => ?_) ?_ _
  · rw [Member.withParameters]
    split
    · exact within
    · refine ⟨fun t inside => ?_, within.owner⟩
      rcases List.mem_append.1 inside with own | parameter
      · exact within.types t (List.mem_append_left _ own)
      · obtain ⟨p, known, rfl⟩ := List.mem_map.1 parameter
        exact merged p known
  · rwa [members_size_modifyMember]

theorem Closed.document (h : c.Closed) (l : LibraryId) (artifact : Artifact) :
    (c.document l artifact).Closed := by
  cases artifact with
  | library _ => exact h
  | type t =>
    exact h.modifyType fun node old => { old with }
  | member m => exact h.modifyMember fun b within => ⟨within.types, within.owner⟩

/-- A call with numbers in range leaves only numbers in range behind. -/
theorem Closed.run (h : c.Closed) {call : Call} (inRange : call.InRange c) :
    (call.run c).Closed := by
  obtain ⟨types, members, libraries⟩ := inRange
  -- each call is made of changes that were looked at above
  cases call with
  | addLibrary name readOnly docs => exact h.addLibrary name readOnly docs
  | removeLibrary l => exact h.removeLibrary l
  | newType name kind => exact h.pushType (TypeNode.within_new name kind nofun nofun)
  | newSynthesized name kind superType => exact h.newSynthesized name kind types
  | addPlaceholder name => exact h.addPlaceholder name
  | addType l t =>
    rw [Call.run]
    split
    · next ok =>
      exact h.addType (libraries l (by simp [Call.libraries])) (types t (by simp [Call.types])) ok
    · exact h
  | deleteType t => exact h.deleteType t
  | setKind t kind | addModifiers t modifiers | addLiteral t literal =>
    exact h.modifyType fun node old => { old with }
  | setSuperType t u =>
    exact h.setSuperType (types t (by simp [Call.types])) (types u (by simp [Call.types]))
  | addImplements t u =>
    exact h.addImplements (types t (by simp [Call.types])) (types u (by simp [Call.types]))
  | pushTypeArgument t u => exact h.pushTypeArgument (types u (by simp [Call.types]))
  | setIterable t iterable =>
    refine h.modifyType fun node old => { old with iterable := ?_ }
    rintro _ ⟨rfl⟩
    exact ⟨types _ (by simp [Call.types]), fun u value => types u (by simp [Call.types, value])⟩
  | addProperty t a =>
    exact h.enter .properties (types t List.mem_cons_self)
      fun u inside => types u (List.mem_cons_of_mem _ inside)
  | addOperation t a =>
    exact h.enter .operations (types t List.mem_cons_self)
      fun u inside => types u (List.mem_cons_of_mem _ inside)
  | addConstructor t a =>
    exact h.addConstructor (types t List.mem_cons_self)
      fun u inside => types u (List.mem_cons_of_mem _ inside)
  | mergeOperation m a => exact h.mergeOperation (members m (by simp [Call.members])) types
  | addReference t m => exact h.addReference (members m (by simp [Call.members])) t
  | document l artifact => exact h.document l artifact

/-- Every chain of calls keeps numbers in range. -/
theorem Closed.made {calls : List Call} (h : c.Closed) (made : Made c calls d) : d.Closed := by
  induction made with
  | start => exact h
  | call _ inRange ih => exact ih.run inRange

/-! ## Numbers stay in range

No function makes an array shorter. So a number that was in range stays in range. -/

/-- A quiet change that takes no member out. -/
theorem Quiet.extent_le (quiet : Quiet c d) (members : c.members.size ≤ d.members.size) :
    c.extent.Le d.extent :=
  ⟨quiet.size_le, members, Nat.le_of_eq (congrArg Array.size quiet.libraries).symm⟩

/-- Where the sizes are the same the extent is. -/
theorem extent_le_of_sizes (types : d.types.size = c.types.size)
    (members : d.members.size = c.members.size) (libraries : d.libraries.size = c.libraries.size) :
    c.extent.Le d.extent :=
  ⟨Nat.le_of_eq types.symm, Nat.le_of_eq members.symm, Nat.le_of_eq libraries.symm⟩

/-- No call makes the extent smaller. -/
theorem extent_le_run (c : Catalog) (call : Call) : c.extent.Le (call.run c).extent := by
  -- of the quiet calls only the number of new entries is left to say
  cases call with
  | addLibrary name readOnly docs =>
    refine ⟨?_, Nat.le_refl _, ?_⟩
    · show _ ≤ (c.addLibrary name readOnly docs).2.types.size
      rw [types_size_addLibrary]
      exact Nat.le_succ _
    · show _ ≤ (c.addLibrary name readOnly docs).2.libraries.size
      rw [libraries_size_addLibrary]
      exact Nat.le_succ _
  | removeLibrary l =>
    have moved := moved_removeLibrary c l
    exact extent_le_of_sizes moved.types_size (congrArg Array.size moved.members)
      (congrArg Array.size moved.libraries)
  | newType name kind => exact (quiet_pushType c _ (.inl rfl)).extent_le (Nat.le_refl _)
  | newSynthesized name kind superType =>
    exact (quiet_pushType c _ (.inr rfl)).extent_le (Nat.le_refl _)
  | addPlaceholder name =>
    rw [Call.run, addPlaceholder]
    split
    · exact .refl _
    · exact ⟨by simp [extent], Nat.le_refl _, by simp [extent]⟩
  | addType l t =>
    rw [Call.run, addType]
    cases (c.library l).insert (c.typeName t) t with
    | error e => exact .refl _
    | ok entered =>
      exact extent_le_of_sizes (types_size_modifyType (c.modifyLibrary l _) t _) rfl
        (libraries_size_modifyLibrary c l _)
  | deleteType t =>
    rw [Call.run, deleteType]
    split
    · exact .refl _
    · exact extent_le_of_sizes (types_size_modifyType c t _) rfl
        (libraries_size_modifyLibrary _ _ _)
  | setKind t kind => exact extent_le_of_sizes (types_size_modifyType c t _) rfl rfl
  | addModifiers t modifiers => exact (quiet_addModifiers c t modifiers).extent_le (Nat.le_refl _)
  | setSuperType t u =>
    refine (quiet_setSuperType c t u).extent_le ?_
    exact (extends_setSuperType c t u).1.size_le
  | addImplements t u => exact (quiet_addImplements c t u).extent_le (Nat.le_refl _)
  | pushTypeArgument t u => exact (quiet_pushTypeArgument c t u).extent_le (Nat.le_refl _)
  | addLiteral t literal => exact (quiet_addLiteral c t literal).extent_le (Nat.le_refl _)
  | setIterable t iterable => exact extent_le_of_sizes (types_size_modifyType c t _) rfl rfl
  | addProperty t a =>
    exact (quiet_addProperty c t a).extent_le
      (Nat.le_of_succ_le (Nat.le_of_eq (placed_enter .properties c t a).size.symm))
  | addOperation t a =>
    exact (quiet_addOperation c t a).extent_le
      (Nat.le_of_succ_le (Nat.le_of_eq (placed_enter .operations c t a).size.symm))
  | addConstructor t a =>
    exact (quiet_addConstructor c t a).extent_le
      (Nat.le_of_succ_le (Nat.le_of_eq (created_pushMember c _ t).size.symm))
  | mergeOperation m a =>
    exact (quiet_mergeOperation c m a).extent_le (sameContents_mergeOperation c m a).size_le
  | addReference t m =>
    exact (quiet_addReferences c [t] m).extent_le (sameContents_addReferences c [t] m).size_le
  | document l artifact =>
    exact (quiet_document c l artifact).extent_le (sameContents_document c l artifact).size_le

/-- Nor does a chain of calls. -/
theorem extent_le_made {calls : List Call} (made : Made c calls d) : c.extent.Le d.extent := by
  induction made with
  | start => exact .refl _
  | call _ _ ih => exact ih.trans (extent_le_run _ _)

/-! ## The first catalog

The first catalog is closed, which is shown along the list of the primitives. -/

/-- The first types are bare. -/
theorem type_initial (t : TypeId) : ∃ (name : String) (kind : Kind) (library : Option LibraryId),
    initial.type t = { TypeNode.new name kind with library } := by
  revert t
  have bare (c : Catalog) (name : String) (kind : Kind) (library : Option LibraryId)
      (old : ∀ t, ∃ (name : String) (kind : Kind) (library : Option LibraryId),
        c.type t = { TypeNode.new name kind with library }) (t : TypeId) :
      ∃ (n : String) (k : Kind) (l : Option LibraryId),
        (c.pushType { TypeNode.new name kind with library }).2.type t =
          { TypeNode.new n k with library := l } := by
    rw [type_pushType]
    split
    · exact ⟨name, kind, library, rfl⟩
    · exact old t
  refine initial_induction ?_ fun c name _ old => bare c name .primitive (some primitives) old
  refine bare _ globalsName .noInterfaceObject (some hidden) ?_
  refine bare _ globalsName .noInterfaceObject (some primitives) ?_
  exact fun t => ⟨"", .interface, none, type_of_size_le _ t (Nat.zero_le _)⟩

/-- The first catalog stores numbers in range only. -/
theorem closed_initial : initial.Closed := by
  have registry := registry_initial
  have some_type : 0 < initial.types.size := by decide +kernel
  refine ⟨by decide +kernel, registry.hidden_lt, fun t => ?_, fun m => ?_, fun l => ?_,
    fun l inside => (registry.registered l inside).2⟩
  · obtain ⟨name, kind, library, same⟩ := type_initial t
    have owner (l : LibraryId) (eq : library = some l) : l.index < initial.extent.libraries :=
      registry.owner (by rw [same]; exact eq)
    rw [same]
    exact TypeNode.within_new name kind owner nofun
  · -- there are no members yet
    have none : initial.members = #[] := rfl
    have same : initial.member m = default := by simp [Catalog.member, none]
    rw [same]
    exact Member.within_default some_type
  · by_cases inside : l.index < initial.libraries.size
    · exact ⟨fun name t entry => (registry.entry entry).bound, (registry.globals inside).bound⟩
    · rw [library_of_size_le _ l (Nat.not_lt.1 inside)]
      exact Library.within_default some_type

end Catalog

end IdlCatalog
