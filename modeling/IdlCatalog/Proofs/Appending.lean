/-
# IdlCatalog.Proofs.Appending — a type reference only adds to the catalog

Reading a type reference creates composites and placeholders, and may fail in the middle of any of
them. `Catalog.Appends` says what the catalog has after it that it did not have before: the types
that there are stay as they are, each new name of the hidden library stands for a placeholder that
no look-up had found, and every other new type is a composite that no library lists and whose parts
are older than it. The relation is a coupling of a reading with itself, so it holds wherever the
reading stops.

Nothing is asked of the catalog but that its numbers are in range. In such a catalog a library may
list a type that another one owns, or super types may run in a circle; what a reference adds does
not close a circle.

## Names against shapes

`Proofs.Grammar.TypeMeaning` describes the same changes by what they leave of names and shapes, for
catalogs in which names are in order. Here the description is exact, entry by entry, and holds
without that: it says what every field of the catalog is. That is what a caller has to know who
reads a type reference in a catalog of unknown history.
-/
import Mathlib.Logic.Relation
import IdlCatalog.Proofs.Grammar.Calling
import IdlCatalog.Proofs.Grammar.TypeMeaning

namespace IdlCatalog

open Grammar Catalog

variable {c d : Catalog} {t u : TypeId} {l k : LibraryId} {n name : String} {node : TypeNode}

/-! ## Parts

A composite has parts: the types in its entry. To be older is to have a smaller number, so a chain
of parts among the new types comes to an end. -/

/-- A type that an entry names as what it is made of: the type it wraps or extends, an argument or
a branch, and the key and the value over which one iterates. -/
inductive TypeNode.Part (node : TypeNode) : TypeId → Prop
  | superType {u : TypeId} (eq : node.superType = some u) : Part node u
  | argument {u : TypeId} (inside : u ∈ node.types) : Part node u
  | key {pair : Iterable} (eq : node.iterable = some pair) : Part node pair.key
  | value {pair : Iterable} {u : TypeId} (eq : node.iterable = some pair)
      (value : pair.value = some u) : Part node u

/-- The first type is made of the second one. -/
def Catalog.HasPart (c : Catalog) (t u : TypeId) : Prop := (c.type t).Part u

/-- The entry of a placeholder. -/
def placeholderNode (name : String) : TypeNode :=
  { TypeNode.new name .noInterfaceObject with library := some Catalog.hidden }

theorem TypeNode.Within.part_lt {e : Extent} (within : node.Within e) (part : node.Part u) :
    u.index < e.types := by
  cases part with
  | superType eq => exact within.superType u eq
  | argument inside => exact within.types u inside
  | key eq => exact (within.iterable _ eq).1
  | value eq value => exact (within.iterable _ eq).2 u value

/-- A type about which only its name, its kind and its library are known has no parts. -/
theorem TypeNode.not_part_new (name : String) (kind : Kind) (library : Option LibraryId) :
    ¬({ TypeNode.new name kind with library } : TypeNode).Part u := by
  rintro (eq | inside | eq | ⟨eq, -⟩)
  · cases eq
  · simp [TypeNode.new] at inside
  · cases eq
  · cases eq

/-- The key and the value of a generic type are among its arguments. -/
theorem iterableOf_mem {arguments : List TypeId} {pair : Iterable}
    (eq : iterableOf arguments = some pair) :
    pair.key ∈ arguments ∧ ∀ u, pair.value = some u → u ∈ arguments := by
  cases arguments with
  | nil => cases eq
  | cons key rest =>
    cases eq
    exact ⟨List.mem_cons_self, fun u value =>
      List.mem_cons_of_mem _ (List.mem_of_mem_head? value)⟩

namespace Catalog

/-- The entry of a composite, which is about to be created, stores numbers in range only. -/
theorem Composite.within (composite : c.Composite node) (closed : c.Closed) :
    node.Within c.extent where
  superType u eq := by
    -- the super type of a wrapper or a generic type is one of its parts
    cases composite with
    | wrapper _ bound =>
      cases eq
      exact bound
    | generic _ bound => exact bound u (List.mem_of_getLast? eq)
    | union => cases eq
  types u inside := by
    cases composite with
    | wrapper => simp [wrapperNode, TypeNode.new] at inside
    | generic _ bound => exact bound u (by simpa [genericNode] using inside)
    | union bound => exact bound u (by simpa [unionNode] using inside)
  implementedBy u inside := by
    cases composite <;> simp [wrapperNode, genericNode, unionNode, TypeNode.new] at inside
  iterable pair eq := by
    cases composite with
    | wrapper => cases eq
    | union => cases eq
    | generic name bound =>
      simp only [genericNode] at eq
      split at eq
      · obtain ⟨key, value⟩ := iterableOf_mem eq
        exact ⟨bound _ key, fun u some => bound u (value u some)⟩
      · cases eq
  properties m u entry := by
    cases composite <;> simp [wrapperNode, genericNode, unionNode, TypeNode.new] at entry
  operations m u entry := by
    cases composite <;> simp [wrapperNode, genericNode, unionNode, TypeNode.new] at entry
  constructors m inside := by
    cases composite <;> simp [wrapperNode, genericNode, unionNode, TypeNode.new] at inside
  referencedBy m inside := by
    cases composite <;> simp [wrapperNode, genericNode, unionNode, TypeNode.new] at inside
  library l eq := by
    rw [composite.library] at eq
    cases eq
    exact closed.hidden_lt

theorem Composite.isSynthesized (composite : c.Composite node) : node.kind.isSynthesized := by
  cases composite with
  | wrapper wrapper => cases wrapper <;> rfl
  | generic | union => rfl

/-! ## What is added

Two sorts of types are added. A lone composite is in no list of names, so it can only be reached as
a part or through the reference. A new placeholder has a name that no look-up had found when the
reading began. -/

/-- A composite that no library lists, made of types that are older than it. -/
structure LoneComposite (d : Catalog) (t : TypeId) : Prop where
  kind : (d.type t).kind.isSynthesized
  library : (d.type t).library = some hidden
  unlisted : ∀ (k : LibraryId) (n : String), (d.library k).types[n]? ≠ some t
  parts : ∀ u, d.HasPart t u → u.index < t.index

/-- A placeholder that was created in a reading for `l`, for a name that stood for no type. -/
structure NewPlaceholder (c : Catalog) (l : LibraryId) (d : Catalog) (n : String) (t : TypeId) :
    Prop where
  unknown : c.lookUp l n = none
  new : c.types.size ≤ t.index
  bound : t.index < d.types.size
  entry : d.type t = placeholderNode n

/-- What references in a reading for `l` may make of `c`. -/
structure Appends (c : Catalog) (l : LibraryId) (d : Catalog) : Prop where
  size_le : c.types.size ≤ d.types.size
  type : ∀ {t : TypeId}, t.index < c.types.size → d.type t = c.type t
  members : d.members = c.members
  registered : d.registered = c.registered
  libraries : d.libraries.size = c.libraries.size
  library : ∀ {k : LibraryId}, k ≠ hidden → d.library k = c.library k
  /-- The hidden library has other entries at most. -/
  frame : d.library hidden = { c.library hidden with types := (d.library hidden).types }
  kept : ∀ {n : String} {t : TypeId}, (c.library hidden).types[n]? = some t →
    (d.library hidden).types[n]? = some t
  gained : ∀ {n : String} {t : TypeId}, (d.library hidden).types[n]? = some t →
    (c.library hidden).types[n]? = some t ∨ NewPlaceholder c l d n t
  created : ∀ {t : TypeId}, c.types.size ≤ t.index → t.index < d.types.size →
    (∃ n : String, (d.library hidden).types[n]? = some t) ∨ LoneComposite d t

namespace Appends

theorem refl (c : Catalog) (l : LibraryId) : c.Appends l c where
  size_le := Nat.le_refl _
  type _ := rfl
  members := rfl
  registered := rfl
  libraries := rfl
  library _ := rfl
  frame := rfl
  kept := id
  gained := .inl
  created new bound := absurd bound (Nat.not_lt.2 new)

/-! ### Look-ups -/

/-- No entry of a library is lost. -/
theorem entry (h : c.Appends l d) (found : (c.library k).types[n]? = some t) :
    (d.library k).types[n]? = some t := by
  by_cases here : k = hidden
  · subst here
    exact h.kept found
  · rw [h.library here]
    exact found

theorem declaredIn? (h : c.Appends l d) (closed : c.Closed) (found : c.declaredIn? k n = some t) :
    d.declaredIn? k n = some t := by
  obtain ⟨entry, stands⟩ := Option.filter_eq_some_iff.1 found
  have same : d.isReopening t = c.isReopening t := by
    rw [isReopening, isReopening, h.type ((closed.library k).entry n t entry)]
  rw [Catalog.declaredIn?, h.entry entry, Option.filter_some, same, if_pos stands]

/-- A name that a tier knows goes on to be known. -/
theorem resolve?_eq_none (h : c.Appends l d) (closed : c.Closed) (unknown : d.resolve? n = none) :
    c.resolve? n = none := by
  have other : primitives ≠ hidden := by decide
  rw [Catalog.resolve?] at unknown ⊢
  rw [h.library other, h.registered] at unknown
  split at unknown
  · cases unknown
  · next none =>
    refine List.findSome?_eq_none_iff.2 fun k inside => ?_
    cases found : c.declaredIn? k n with
    | none => rfl
    | some t =>
      have passed := List.findSome?_eq_none_iff.1 unknown k inside
      rw [h.declaredIn? closed found] at passed
      cases passed

theorem lookUp_eq_none (h : c.Appends l d) (closed : c.Closed) (plain : n ≠ globalsName)
    (unknown : d.lookUp k n = none) : c.lookUp k n = none := by
  rw [lookUp_eq plain, Option.or_eq_none_iff] at unknown ⊢
  refine ⟨?_, h.resolve?_eq_none closed unknown.2⟩
  cases found : c.declaredIn? k n with
  | none => rfl
  | some t =>
    rw [h.declaredIn? closed found] at unknown
    cases unknown.1

end Appends

/-! ### Composites and placeholders -/

/-- What is said about the types that there are goes on to hold when one is pushed after them. -/
theorem NewPlaceholder.push (h : NewPlaceholder c l d n t) (node : TypeNode) :
    NewPlaceholder c l (d.pushType node).2 n t where
  unknown := h.unknown
  new := h.new
  bound := by
    rw [types_size_pushType]
    exact Nat.lt_succ_of_lt h.bound
  entry := by rw [type_pushType, if_neg (Nat.ne_of_lt h.bound), h.entry]

theorem LoneComposite.push (h : LoneComposite d t) (bound : t.index < d.types.size)
    (node : TypeNode) : LoneComposite (d.pushType node).2 t := by
  have same : (d.pushType node).2.type t = d.type t := by
    rw [type_pushType, if_neg (Nat.ne_of_lt bound)]
  refine ⟨?_, ?_, h.unlisted, ?_⟩
  · rw [same]
    exact h.kind
  · rw [same]
    exact h.library
  · intro u part
    rw [HasPart, same] at part
    exact h.parts u part

/-- The number of the next type is in no library so far. -/
theorem unlisted_next (closed : d.Closed) (k : LibraryId) (n : String) :
    (d.library k).types[n]? ≠ some ⟨d.types.size⟩ := by
  intro entry
  exact absurd ((closed.library k).entry n _ entry) (Nat.lt_irrefl _)

theorem LoneComposite.next (closed : d.Closed) (composite : d.Composite node) :
    LoneComposite (d.pushType node).2 ⟨d.types.size⟩ := by
  have same : (d.pushType node).2.type ⟨d.types.size⟩ = node := by
    rw [type_pushType, if_pos rfl]
  refine ⟨?_, ?_, unlisted_next closed, ?_⟩
  · rw [same]
    exact composite.isSynthesized
  · rw [same]
    exact composite.library
  · intro u part
    rw [HasPart, same] at part
    exact (composite.within closed).part_lt part

theorem Appends.compose (h : c.Appends l d) (closed : d.Closed) (composite : d.Composite node) :
    c.Appends l (d.pushType node).2 where
  size_le := by
    rw [types_size_pushType]
    exact Nat.le_succ_of_le h.size_le
  type {t} bound := by
    have old := Nat.lt_of_lt_of_le bound h.size_le
    rw [type_pushType, if_neg (Nat.ne_of_lt old), h.type bound]
  members := h.members
  registered := h.registered
  libraries := h.libraries
  library := h.library
  frame := h.frame
  kept := h.kept
  gained found := (h.gained found).imp id (·.push node)
  created {t} new bound := by
    rw [types_size_pushType] at bound
    -- the last type is the new composite; the others were added before
    by_cases last : t.index = d.types.size
    · obtain rfl : t = ⟨d.types.size⟩ := congrArg TypeId.mk last
      exact .inr (.next closed composite)
    · have older : t.index < d.types.size := by omega
      exact (h.created new older).imp id (·.push older node)

section Free

variable (free : (d.library hidden).types[n]? = none)

include free

theorem library_addPlaceholder (k : LibraryId) :
    (d.addPlaceholder n).2.library k =
      { d.library k with types := ((d.addPlaceholder n).2.library k).types } := by
  rw [addPlaceholder_of_none free, library_modifyLibrary]
  split <;> rfl

theorem library_addPlaceholder_of_ne (other : k ≠ hidden) :
    (d.addPlaceholder n).2.library k = d.library k := by
  rw [addPlaceholder_of_none free, library_modifyLibrary, if_neg fun both => other both.1]
  rfl

/-- The placeholder is the next type. -/
theorem types_addPlaceholder :
    (d.addPlaceholder n).2.types = (d.pushType (placeholderNode n)).2.types := by
  rw [addPlaceholder_of_none free]
  rfl

theorem type_addPlaceholder_next :
    (d.addPlaceholder n).2.type ⟨d.types.size⟩ = placeholderNode n := by
  rw [type, types_addPlaceholder free]
  exact (type_pushType d _ _).trans (if_pos rfl)

theorem NewPlaceholder.beside {m : String} (h : NewPlaceholder c l d m t) :
    NewPlaceholder c l (d.addPlaceholder n).2 m t := by
  obtain ⟨unknown, new, bound, entry⟩ := h.push (placeholderNode n)
  rw [addPlaceholder_of_none free]
  exact ⟨unknown, new, bound, entry⟩

/-- A placeholder that is not there yet is the next type, and a new entry of the hidden library. -/
theorem introduced_next (closed : d.Closed) :
    Introduced hidden n ⟨d.types.size⟩ .noInterfaceObject d (d.addPlaceholder n).2 := by
  have introduced := introduced_addPlaceholder closed.hidden_lt free
  rwa [addPlaceholder_of_none free] at introduced ⊢

/-- The new entry is not one for a composite that was there. -/
theorem LoneComposite.beside (h : LoneComposite d t) (closed : d.Closed)
    (bound : t.index < d.types.size) : LoneComposite (d.addPlaceholder n).2 t := by
  have introduced := introduced_next free closed
  have other : t ≠ ⟨d.types.size⟩ := fun same => absurd (same ▸ bound) (Nat.lt_irrefl _)
  rw [addPlaceholder_of_none free] at introduced ⊢
  obtain ⟨kind, library, unlisted, parts⟩ := h.push bound (placeholderNode n)
  exact ⟨kind, library, fun k m found => unlisted k m (introduced.lookup_old other found), parts⟩

end Free

namespace Appends

/-- A placeholder that is not there yet is created for a name that stood for no type. -/
theorem newPlaceholder (h : c.Appends l d) (closed : d.Closed)
    (free : (d.library hidden).types[n]? = none) (unknown : c.lookUp l n = none) :
    c.Appends l (d.addPlaceholder n).2 := by
  have introduced := introduced_next free closed
  have size : (d.addPlaceholder n).2.types.size = d.types.size + 1 := by
    rw [types_addPlaceholder free, types_size_pushType]
  constructor
  case size_le =>
    rw [size]
    exact Nat.le_succ_of_le h.size_le
  case type =>
    intro t bound
    rw [type_addPlaceholder n (Nat.lt_of_lt_of_le bound h.size_le), h.type bound]
  case members =>
    rw [addPlaceholder_of_none free]
    exact h.members
  case registered => rw [introduced.registered, h.registered]
  case libraries => rw [introduced.libraries_size, h.libraries]
  case library =>
    intro k away
    rw [library_addPlaceholder_of_ne free away, h.library away]
  case frame => rw [library_addPlaceholder free, h.frame]
  case kept =>
    intro m t found
    exact introduced.lookup_persist (.inl free) (h.kept found)
  case gained =>
    intro m t found
    rcases introduced.lookup_cases found with ⟨-, rfl, rfl⟩ | before
    · exact .inr ⟨unknown, h.size_le, introduced.bound, type_addPlaceholder_next free⟩
    · exact (h.gained before).imp id (·.beside free)
  case created =>
    intro t new bound
    rw [size] at bound
    -- the last type is the new placeholder; the others were added before
    by_cases last : t.index = d.types.size
    · obtain rfl : t = ⟨d.types.size⟩ := congrArg TypeId.mk last
      exact .inl ⟨n, introduced.lookup_self⟩
    · have older : t.index < d.types.size := by omega
      rcases h.created new older with ⟨m, found⟩ | composite
      · exact .inl ⟨m, introduced.lookup_persist (.inl free) found⟩
      · exact .inr (composite.beside free closed older)

theorem placeholder (h : c.Appends l d) (start : c.Closed) (closed : d.Closed)
    (plain : n ≠ globalsName) (unknown : d.lookUp l n = none) :
    c.Appends l (d.addPlaceholder n).2 := by
  cases free : (d.library hidden).types[n]? with
  | some t =>
    -- the hidden library has a type of this name that reopens another one
    have same : d.addPlaceholder n = (t, d) := by rw [addPlaceholder, free]
    rw [same]
    exact h
  | none => exact h.newPlaceholder closed free (h.lookUp_eq_none start plain unknown)

/-! ### Circles -/

/-- Whatever a type is made of is older than the type itself or was there before. -/
theorem part_lt (h : c.Appends l d) (closed : c.Closed) (part : d.HasPart t u) :
    u.index < max t.index c.types.size := by
  by_cases old : t.index < c.types.size
  · rw [HasPart, h.type old] at part
    have there : u.index < c.types.size := (closed.type t).part_lt part
    omega
  suffices u.index < t.index by omega
  by_cases bound : t.index < d.types.size
  · -- a new type is a placeholder, which has no parts, or a composite
    rcases h.created (Nat.not_lt.1 old) bound with ⟨n, found⟩ | composite
    · rcases h.gained found with before | placeholder
      · exact absurd ((closed.library _).entry n t before) old
      · rw [HasPart, placeholder.entry] at part
        exact absurd part (TypeNode.not_part_new n _ _)
    · exact composite.parts u part
  · rw [HasPart, type_of_size_le d t (Nat.not_lt.1 bound)] at part
    exact absurd part (TypeNode.not_part_new "" .interface none)

/-- What was added is on no circle. -/
theorem acyclic (h : c.Appends l d) (closed : c.Closed) (new : c.types.size ≤ t.index) :
    ¬Relation.TransGen d.HasPart t t := by
  have older {u : TypeId} (chain : Relation.TransGen d.HasPart t u) :
      u.index < max t.index c.types.size := by
    induction chain with
    | single part => exact h.part_lt closed part
    | tail _ part ih =>
      have next := h.part_lt closed part
      omega
  intro circle
  have := older circle
  omega

end Appends

end Catalog

/-! ## The coupling of a reading with itself

The coupling holds the relation to the catalog at the start and that all numbers are in range. A
type reference declares nothing, so what may end its reading is a fault in the tokens, and the
relation holds up to there. -/

/-- Both readings are the same one, and all it did was to add to `c`. -/
def appending (l : LibraryId) (c : Catalog) : Coupling where
  lib₁ := l
  lib₂ := l
  holds w := w.first = w.second ∧ c.Appends l w.first.catalog ∧ w.first.catalog.Closed
  type w t u := t = u ∧ t.index < w.first.catalog.types.size
  named _ _ _ := False
  refuses _ := False

namespace Appending

variable {w : Stores} {m : Nat}

/-- An action that adds types, and answers a type, keeps the coupling. -/
theorem keeps {p : Parser TypeId}
    (h : ∀ x : Store, (appending l c).Later w (.twice x) → c.Appends l x.catalog →
      x.catalog.Closed → p.Performs l x.catalog fun answer _ d =>
        ∃ t, answer = .ok t ∧ c.Appends l d ∧ d.Closed ∧
          x.catalog.types.size ≤ d.types.size ∧ t.index < d.types.size) :
    (appending l c).Keeps w m (appending l c).type p p := by
  intro s₁ s₂ tokens _ _ holds later
  obtain ⟨same, appends, closed⟩ := holds
  obtain rfl := tokens.eq same
  obtain ⟨_, _, x, run, -, t, rfl, appends', closed', le, bound⟩ :=
    h s₁.store later appends closed s₁ rfl
  have after := ReadState.put_after s₁ x
  have grown : (appending l c).Later (.of s₁ s₁) (.of (s₁.put x) (s₁.put x)) := by
    refine ⟨?_, nofun⟩
    rintro u _ ⟨rfl, inside⟩
    exact ⟨rfl, Nat.lt_of_lt_of_le inside le⟩
  show (appending l c).Outcome s₁ s₁ _ _ (p l s₁) (p l s₁)
  rw [run]
  exact .ok after after (Nat.zero_le _) ⟨rfl, appends', closed'⟩ grown ⟨rfl, bound⟩

/-- An action that creates a composite keeps the coupling. -/
theorem composite_keeps {p : Parser TypeId}
    (h : ∀ x : Store, (appending l c).Later w (.twice x) →
      ∃ node, x.catalog.Composite node ∧ p.Creates l x.catalog node) :
    (appending l c).Keeps w m (appending l c).type p p := by
  refine keeps fun x later appends closed => ?_
  obtain ⟨node, composite, creates⟩ := h x later
  refine creates.imp ?_
  rintro _ _ _ ⟨rfl, -, rfl⟩
  refine ⟨_, rfl, appends.compose closed composite,
    closed.pushType (composite.within closed), ?_, ?_⟩
  · rw [types_size_pushType]
    exact Nat.le_succ _
  · rw [types_size_pushType]
    exact Nat.lt_succ_self _

theorem resolve_keeps (start : c.Closed) (plain : name ≠ globalsName) :
    (appending l c).Keeps w m (appending l c).type (resolve name) (resolve name) := by
  refine keeps fun x _ appends closed => (resolve_performs plain).imp ?_
  rintro _ _ d ⟨t, rfl, -, reference⟩
  refine ⟨t, rfl, ?_⟩
  cases reference with
  | own entry =>
    exact ⟨appends, closed, Nat.le_refl _, (closed.library l).entry name t entry⟩
  | tier _ found => exact ⟨appends, closed, Nat.le_refl _, closed.resolve?_lt found⟩
  | placeholder passed unknown =>
    have own : x.catalog.declaredIn? l name = none := by
      rw [declaredIn?, Option.filter_eq_none_iff]
      intro u entry
      simp [passed u entry]
    -- what was not found by the reading was not found by a look-up either
    have missing : x.catalog.lookUp l name = none := by
      rw [lookUp_eq plain, own, unknown]
      rfl
    exact ⟨appends.placeholder start closed plain missing, closed.addPlaceholder name,
      types_size_addPlaceholder _ name, addPlaceholder_lt closed name⟩

/-- Types that correspond are the same. -/
theorem types_eq {ts us : List TypeId} (h : List.Forall₂ ((appending l c).type w) ts us) :
    ts = us ∧ ∀ t ∈ ts, t.index < w.first.catalog.types.size :=
  ⟨eq_of_related h fun tu => tu.1, forall_left h fun tu => tu.2⟩

end Appending

theorem appending_lawfulTypes (start : c.Closed) : (appending l c).LawfulTypes where
  resolve plain := Appending.resolve_keeps start plain
  wrap wrapper tu := by
    obtain rfl := tu.1
    exact Appending.composite_keeps fun x later =>
      ⟨_, .wrapper wrapper (later.type tu).2, wrap_creates _ _ _⟩
  genericOf {w m ts us} name related := by
    obtain ⟨rfl, -⟩ := Appending.types_eq related
    exact Appending.composite_keeps fun x later =>
      ⟨_, .generic name (Appending.types_eq (related.imp fun _ _ => later.type)).2,
        genericOf_creates name ts⟩
  unionOf {w m ts us} related := by
    obtain ⟨rfl, -⟩ := Appending.types_eq related
    exact Appending.composite_keeps fun x later =>
      ⟨_, .union (Appending.types_eq (related.imp fun _ _ => later.type)).2, unionOf_creates ts⟩

/-- Reading a type reference, from whatever place in a source and whether it succeeds or fails, only
adds to the catalog: the types and members that there are stay as they are and so does every library
but the hidden one, whose new names stand for placeholders that no look-up had found. Any other new
type is a composite of older types that no library lists, so no new type is on a circle. -/
theorem typeReference_appends (closed : c.Closed) (l : LibraryId) (source : String)
    (s : ReadState) (here : s.catalog = c)
    (place : s.rest <:+ Lexer.tokens source.toList) :
    let d := (typeReference l s).2.catalog
    c.Appends l d ∧
      ∀ t : TypeId, c.types.size ≤ t.index → ¬Relation.TransGen d.HasPart t t := by
  subst here
  have plain : s.Plain := (ReadState.start_plain source.toList s.catalog).suffix place
  have outcome : (appending l s.catalog).Outcome s s _ _ (typeReference l s) (typeReference l s) :=
    (Coupling.typeReference_reads (appending_lawfulTypes closed)).outcome ⟨rfl, rfl⟩ plain
      ⟨rfl, .refl s.catalog l, closed⟩
  generalize typeReference l s = run at outcome
  obtain ⟨answer, e⟩ := run
  cases outcome with
  | ok _ _ _ holds => exact ⟨holds.2.1, fun t => holds.2.1.acyclic closed⟩
  | error _ _ _ holds => exact ⟨holds.2.1, fun t => holds.2.1.acyclic closed⟩

/-- A reference that breaks off has left a placeholder and two composites behind. -/
theorem typeReference_appends_truncated :
    let source := "sequence<Promise<Blob?>"
    let c := (initial.addLibrary "file" false .silent).2
    let s := ReadState.start (Lexer.tokens source.toList) c
    let d := (typeReference ⟨2⟩ s).2.catalog
    c.Closed ∧ s.rest <:+ Lexer.tokens source.toList ∧
      (typeReference ⟨2⟩ s).1.toBool = false ∧
      (d.types.toList.drop c.types.size).map (·.name) = ["Blob", "Blob?", "Promise<Blob?>"] ∧
      c.Appends ⟨2⟩ d ∧
      ∀ t : TypeId, c.types.size ≤ t.index → ¬Relation.TransGen d.HasPart t t := by
  intro source c s d
  have closed : c.Closed := closed_initial.addLibrary "file" false .silent
  refine ⟨closed, List.suffix_refl _, by decide +kernel, by decide +kernel, ?_⟩
  exact typeReference_appends closed ⟨2⟩ source s rfl (List.suffix_refl _)

end IdlCatalog
