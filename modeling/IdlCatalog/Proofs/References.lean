/-
# IdlCatalog.Proofs.References — where a reference is recorded

A reference to a type is passed on from wrappers and typedefs to what they stand for, and from
unions to their branches. `addReference` searches breadth first, with every type of a front once.
The same can be done by walking: note the reference at the type at hand, go on from there, branch by
branch, through a catalog that the walk itself is changing. Both record the member at exactly the
types to which a path of bounded length leads, and both change nothing but what is recorded.

The walk never looks at what it writes. So the graph through which the later branches go is the one
with which the walk began (`OnlyReferences`), and the induction is on the number of steps that are
left.

## Which types take note

Arrays, sequences, nullable types and unions take no note of a reference; they only pass it on. A
typedef does both: it is a name that is mentioned, and it stands for a type that is mentioned by way
of it. All other types take note and pass nothing on.
-/
import IdlCatalog.Proofs.Catalog.Mentions

namespace IdlCatalog

namespace Catalog

variable {b c d : Catalog} {t u : TypeId} {m k : MemberId} {steps : Nat}

/-! ## Paths

The way of a reference is a path along super types and branches. Its length is bounded, so that a
circle of typedefs does no harm. -/

/-- A reference to `t` is passed on to `u`. -/
inductive PassesOn (c : Catalog) (t u : TypeId) : Prop
  | part (kind : (c.type t).kind ∈ [.array, .sequence, .nullable, .typedef])
      (superType : (c.type t).superType = some u) : PassesOn c t u
  | branch (kind : (c.type t).kind = .union) (inside : u ∈ (c.type t).types) : PassesOn c t u

/-- The types of the list lead from `t` to `u`, each to the one after it. -/
structure ReferencePath (c : Catalog) (t u : TypeId) (path : List TypeId) : Prop where
  first : path.head? = some t
  last : path.getLast? = some u
  chain : path.IsChain c.PassesOn

/-- The targets of a type are those to which it passes a reference on. -/
theorem mem_referenceTargets : u ∈ c.referenceTargets t ↔ c.PassesOn t u := by
  unfold referenceTargets
  constructor
  · intro inside
    -- the kind decides whether there are parts, branches or nothing
    cases kind : (c.type t).kind with
    | array | sequence | nullable | typedef =>
      exact .part (by simp [kind]) (by simpa [kind] using inside)
    | union => exact .branch kind (by simpa [kind] using inside)
    | _ => simp [kind] at inside
  · rintro (⟨kind, superType⟩ | ⟨kind, inside⟩)
    · simp only [List.mem_cons, List.not_mem_nil, or_false] at kind
      rcases kind with kind | kind | kind | kind <;> simp [kind, superType]
    · simpa [kind] using inside

/-- A type is reached in so many steps if a path of so many steps leads to it. -/
theorem leadsTo_iff_path : LeadsTo c.referenceTargets steps t u ↔
    ∃ path, c.ReferencePath t u path ∧ path.length ≤ steps + 1 := by
  have chains (path : List TypeId) :
      PathAlong c.referenceTargets t u path ↔ c.ReferencePath t u path := by
    constructor
    · rintro ⟨first, last, chain⟩
      exact ⟨first, last, chain.imp fun _ _ => mem_referenceTargets.1⟩
    · rintro ⟨first, last, chain⟩
      exact ⟨first, last, chain.imp fun _ _ => mem_referenceTargets.2⟩
  simp only [leadsTo_iff_pathAlong, chains]

/-! ## What is left alone

The only change is in the lists of references. In particular the kinds and targets along which the
search goes are the same in all catalogs on the way. -/

/-- Nothing but the records of references differs. -/
structure OnlyReferences (c d : Catalog) : Prop where
  members : d.members = c.members
  libraries : d.libraries = c.libraries
  registered : d.registered = c.registered
  size : d.types.size = c.types.size
  type : ∀ u, ∃ records, d.type u = { c.type u with referencedBy := records }

theorem OnlyReferences.refl (c : Catalog) : OnlyReferences c c :=
  ⟨rfl, rfl, rfl, rfl, fun _ => ⟨_, rfl⟩⟩

theorem OnlyReferences.trans (h : OnlyReferences b c) (h' : OnlyReferences c d) :
    OnlyReferences b d where
  members := h'.members.trans h.members
  libraries := h'.libraries.trans h.libraries
  registered := h'.registered.trans h.registered
  size := h'.size.trans h.size
  type u := by
    obtain ⟨_, old⟩ := h.type u
    obtain ⟨records, new⟩ := h'.type u
    exact ⟨records, by rw [new, old]⟩

/-- Such catalogs pass references on in the same way. -/
theorem OnlyReferences.graph (h : OnlyReferences c d) : SameGraph c d where
  size := h.size
  isTransparent u := by
    obtain ⟨_, same⟩ := h.type u
    rw [same]
  targets u := by
    obtain ⟨_, same⟩ := h.type u
    rw [referenceTargets_eq, referenceTargets_eq, same]
    rfl

theorem onlyReferences_noteReference (c : Catalog) (t : TypeId) (m : MemberId) :
    OnlyReferences c (noteReference m c t) := by
  refine ⟨rfl, rfl, rfl, types_size_modifyType c t _, fun u => ?_⟩
  unfold noteReference
  rw [type_modifyType]
  split
  · exact ⟨_, rfl⟩
  · exact ⟨_, rfl⟩

/-- Noting a reference changes records of references only. -/
theorem onlyReferences_addReference (c : Catalog) (t : TypeId) (m : MemberId) :
    OnlyReferences c (c.addReference t m) :=
  related_foldl .refl .trans (fun c u => onlyReferences_noteReference c u m) _ c

/-! ## Walking

The walk changes the catalog while it goes through it. Its result can be said in terms of the first
catalog because nothing that it changes is ever looked at. -/

/-- Notes the reference at a type, unless the type only passes it on. -/
def noteAt (m : MemberId) (c : Catalog) (t : TypeId) : Catalog :=
  if (c.type t).kind.isTransparent then c else noteReference m c t

/-- Notes the reference at a type and then goes on to each type to which this one passes it, with so
many steps left. The next types are looked up in the catalog as it is by then. -/
def walkReference (m : MemberId) : (steps : Nat) → Catalog → TypeId → Catalog
  | 0, c, t => noteAt m c t
  | steps + 1, c, t =>
    let noted := noteAt m c t
    (noted.referenceTargets t).foldl (walkReference m steps) noted

/-- A type of the catalog that takes note of references, within so many steps from `t`. -/
def Reaches (c : Catalog) (steps : Nat) (t u : TypeId) : Prop :=
  (u.index < c.types.size ∧ (c.type u).kind.isTransparent = false) ∧
    LeadsTo c.referenceTargets steps t u

theorem SameGraph.reaches (same : SameGraph c d) :
    d.Reaches steps t u ↔ c.Reaches steps t u := by
  have targets : d.referenceTargets = c.referenceTargets := funext same.targets
  rw [Reaches, Reaches, same.size, same.isTransparent, targets]

theorem onlyReferences_noteAt (m : MemberId) (c : Catalog) (t : TypeId) :
    OnlyReferences c (noteAt m c t) := by
  unfold noteAt
  split
  · exact .refl c
  · exact onlyReferences_noteReference c t m

/-- At one type: a wrapper or a union takes no note. -/
theorem mem_referencedBy_noteAt (m : MemberId) (c : Catalog) (t : TypeId) :
    k ∈ ((noteAt m c t).type u).referencedBy ↔ k ∈ (c.type u).referencedBy ∨
      (k = m ∧ (u.index < c.types.size ∧ (c.type u).kind.isTransparent = false) ∧ u = t) := by
  unfold noteAt
  split
  · next passes =>
    refine ⟨.inl, fun found => found.elim id ?_⟩
    rintro ⟨-, ⟨-, stops⟩, rfl⟩
    rw [passes] at stops
    cases stops
  · next stops =>
    rw [mem_referencedBy_noteReference]
    apply or_congr_right
    constructor
    · rintro ⟨rfl, rfl, bound⟩
      exact ⟨rfl, ⟨bound, by simpa using stops⟩, rfl⟩
    · rintro ⟨rfl, ⟨bound, -⟩, rfl⟩
      exact ⟨rfl, rfl, bound⟩

/-- So does the walk. -/
theorem onlyReferences_walkReference (m : MemberId) (steps : Nat) (c : Catalog) (t : TypeId) :
    OnlyReferences c (walkReference m steps c t) := by
  induction steps generalizing c t with
  | zero => exact onlyReferences_noteAt m c t
  | succ steps ih =>
    exact (onlyReferences_noteAt m c t).trans (related_foldl .refl .trans ih _ _)

/-- The walk records the member at the types that are reached in the catalog with which it began. -/
theorem mem_referencedBy_walkReference (m : MemberId) (steps : Nat) (c : Catalog) (t : TypeId) :
    k ∈ ((walkReference m steps c t).type u).referencedBy ↔
      k ∈ (c.type u).referencedBy ∨ (k = m ∧ c.Reaches steps t u) := by
  induction steps generalizing c t with
  | zero =>
    unfold walkReference Reaches
    rw [mem_referencedBy_noteAt, leadsTo_zero]
  | succ steps ih =>
    -- one branch after the other; those before have not changed the way
    have branches (ts : List TypeId) (e : Catalog) :
        k ∈ ((ts.foldl (walkReference m steps) e).type u).referencedBy ↔
          k ∈ (e.type u).referencedBy ∨ (k = m ∧ ∃ b ∈ ts, e.Reaches steps b u) := by
      induction ts generalizing e with
      | nil => simp
      | cons b ts later =>
        have graph := (onlyReferences_walkReference m steps e b).graph
        rw [List.foldl_cons, later, ih]
        rw [List.exists_mem_cons_iff, and_or_left, ← or_assoc]
        simp only [graph.reaches]
    have graph := (onlyReferences_noteAt m c t).graph
    have targets : (noteAt m c t).referenceTargets t = c.referenceTargets t := graph.targets t
    unfold walkReference
    rw [branches, mem_referencedBy_noteAt, targets, or_assoc, ← and_or_left]
    simp only [graph.reaches]
    apply or_congr_right
    apply and_congr_right
    intro _
    simp only [Reaches, leadsTo_succ, and_or_left]
    apply or_congr_right
    constructor
    · rintro ⟨b, first, here, others⟩
      exact ⟨here, b, first, others⟩
    · rintro ⟨here, b, first, others⟩
      exact ⟨b, first, here, others⟩

/-! ## Where a reference is recorded

Both searches put together. -/

theorem isTransparent_iff (kind : Kind) :
    kind.isTransparent = true ↔ kind ∈ [.array, .sequence, .nullable, .union] := by
  cases kind <;> decide

theorem mentions_singleton_iff : c.Mentions [t] u ↔ c.Reaches maxDepth t u := by
  constructor
  · rintro ⟨bound, stops, _, inside, leads⟩
    obtain rfl := List.mem_singleton.1 inside
    exact ⟨⟨bound, stops⟩, leads⟩
  · rintro ⟨⟨bound, stops⟩, leads⟩
    exact ⟨bound, stops, t, List.mem_singleton_self t, leads⟩

/-- Adding a reference changes nothing but records of references, and of these only those of the
member. The member is recorded at the types where it was before, and at every type, no wrapper and
no union itself, to which a path of at most `maxDepth` steps leads. Walking through the catalog,
noting the reference on the way, does the same. -/
theorem reference_recorded (c : Catalog) (t : TypeId) (m : MemberId) :
    (OnlyReferences c (c.addReference t m) ∧
      ∀ u k, k ∈ ((c.addReference t m).type u).referencedBy ↔
        k ∈ (c.type u).referencedBy ∨
          (k = m ∧ u.index < c.types.size ∧
            (c.type u).kind ∉ [.array, .sequence, .nullable, .union] ∧
            ∃ path, c.ReferencePath t u path ∧ path.length ≤ maxDepth + 1)) ∧
    OnlyReferences c (walkReference m maxDepth c t) ∧
      ∀ u k, k ∈ ((walkReference m maxDepth c t).type u).referencedBy ↔
        k ∈ ((c.addReference t m).type u).referencedBy := by
  refine ⟨⟨onlyReferences_addReference c t m, fun u k => ?_⟩,
    onlyReferences_walkReference m maxDepth c t, fun u k => ?_⟩
  · -- what is reached is said by paths, and transparent kinds by their names
    rw [mem_referencedBy_addReference, mentions_singleton_iff, Reaches, leadsTo_iff_path,
      ← isTransparent_iff, Bool.not_eq_true, and_assoc]
  · rw [mem_referencedBy_walkReference, mem_referencedBy_addReference, mentions_singleton_iff]

end Catalog

end IdlCatalog
