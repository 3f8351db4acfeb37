/-
# IdlCatalog.Proofs.Catalog.Mentions — which types a list of types mentions

A reference to a type is passed on through wrappers, unions and typedefs, up to a bounded number of
steps. `Catalog.Mentions` says which types are reached so; it is what `addReference` computes, and
it depends on the kinds, the super types and the branches of the types alone.

## The bound

The walk is bounded because the graph may be cyclic: `typedef B A; typedef A B;` is accepted. The
bound counts steps along wrappers, unions and typedefs. `LeadsTo` keeps it, so what is proved is
exact: a type that is reached only in more steps is not recorded, and one within them is, however
many paths lead there.
-/
import Mathlib.Data.List.Basic
import IdlCatalog.Proofs.Catalog.Entries

namespace IdlCatalog

/-! ## Reaching within a number of steps

`reachWithin` goes through the graph in breadth and lists the types of each step once. That this
finds the same as following single paths is shown for any relation, by induction over the number of
steps. -/

section Reach

variable {α : Type} {next : α → List α} {a b z : α} {steps : Nat}

/-- A path along `next` of at most so many steps. -/
inductive LeadsTo (next : α → List α) : Nat → α → α → Prop
  | here (steps : Nat) (a : α) : LeadsTo next steps a a
  | step {steps : Nat} {a b z : α} (first : b ∈ next a) (others : LeadsTo next steps b z) :
      LeadsTo next (steps + 1) a z

/-- In no steps one stays where one is. -/
theorem leadsTo_zero : LeadsTo next 0 a z ↔ z = a := by
  constructor
  · rintro ⟨⟩
    rfl
  · rintro rfl
    exact .here 0 z

/-- In one step more one stays, or goes to a target and on from there. -/
theorem leadsTo_succ :
    LeadsTo next (steps + 1) a z ↔ z = a ∨ ∃ b ∈ next a, LeadsTo next steps b z := by
  constructor
  · intro leads
    cases leads with
    | here => exact .inl rfl
    | step first others => exact .inr ⟨_, first, others⟩
  · rintro (rfl | ⟨b, first, others⟩)
    · exact .here _ z
    · exact .step first others

/-- What every step keeps holds at the end of a path. -/
theorem LeadsTo.ends {P : α → Prop} (leads : LeadsTo next steps a z) (start : P a)
    (keeps : ∀ x y, y ∈ next x → P y) : P z := by
  induction leads with
  | here => exact start
  | step first _ ih => exact ih (keeps _ _ first)

/-- The members of the list lead from `a` to `z`, each to the one after it along `next`. -/
structure PathAlong (next : α → List α) (a z : α) (path : List α) : Prop where
  first : path.head? = some a
  last : path.getLast? = some z
  chain : path.IsChain fun x y => y ∈ next x

/-- Within a number of steps lies what a path of at most as many edges leads to. -/
theorem leadsTo_iff_pathAlong :
    LeadsTo next steps a z ↔ ∃ path, PathAlong next a z path ∧ path.length ≤ steps + 1 := by
  constructor
  · intro leads
    induction leads with
    | here steps a => exact ⟨[a], ⟨rfl, rfl, .singleton a⟩, by simp⟩
    | @step steps a b z first _ ih =>
      obtain ⟨path, ⟨head, last, chain⟩, short⟩ := ih
      obtain ⟨rest, rfl⟩ := List.head?_eq_some_iff.1 head
      refine ⟨a :: b :: rest, ⟨rfl, ?_, .cons_cons first chain⟩, Nat.succ_le_succ short⟩
      rwa [List.getLast?_cons_cons]
  · rintro ⟨path, ⟨head, last, chain⟩, short⟩
    induction steps generalizing a path with
    | zero =>
      obtain ⟨rest, rfl⟩ := List.head?_eq_some_iff.1 head
      obtain rfl : rest = [] := by simpa using short
      obtain rfl : a = z := by simpa using last
      exact .here 0 a
    | succ steps ih =>
      obtain ⟨rest, rfl⟩ := List.head?_eq_some_iff.1 head
      cases rest with
      | nil =>
        obtain rfl : a = z := by simpa using last
        exact .here _ a
      | cons b rest =>
        rw [List.getLast?_cons_cons] at last
        obtain ⟨first, chain⟩ := List.isChain_cons_cons.1 chain
        exact .step first (ih (b :: rest) (Nat.le_of_succ_le_succ short) rfl last chain)

/-- The walk finds exactly what lies within the steps. -/
theorem mem_reachWithin [DecidableEq α] {front : List α} :
    z ∈ reachWithin next steps front ↔ ∃ a ∈ front, LeadsTo next steps a z := by
  -- the search goes on from all successors of the front at once, a path from one of them
  induction steps generalizing front with
  | zero =>
    constructor
    · exact fun inside => ⟨z, inside, .here 0 z⟩
    · rintro ⟨a, inside, ⟨⟩⟩
      exact inside
  | succ steps ih =>
    rw [reachWithin, List.mem_append, ih]
    constructor
    · rintro (inside | ⟨b, behind, path⟩)
      · exact ⟨z, inside, .here _ z⟩
      · obtain ⟨a, inside, first⟩ := List.mem_flatMap.1 (List.mem_eraseDups.1 behind)
        exact ⟨a, inside, .step first path⟩
    · rintro ⟨a, inside, path⟩
      cases path with
      | here => exact .inl inside
      | @step _ _ b _ first others =>
        refine .inr ⟨b, ?_, others⟩
        exact List.mem_eraseDups.2 (List.mem_flatMap.2 ⟨a, inside, first⟩)

end Reach

/-- Where a reference to a type with such an entry is passed on to. -/
def TypeNode.targets (node : TypeNode) : List TypeId :=
  match node.kind with
  | .array | .sequence | .nullable | .typedef => node.superType.toList
  | .union => node.types.toList
  | _ => []

namespace Catalog

variable {b c d : Catalog} {t u : TypeId} {m k : MemberId} {ts us : List TypeId}

/-! ## Mentions

What a member mentions depends on the kinds of the types and on where they pass references on. Two
catalogs that agree on this agree on all mentions. -/

/-- A type of the catalog, no wrapper itself, to which a reference to one of `ts` is passed on. -/
structure Mentions (c : Catalog) (ts : List TypeId) (u : TypeId) : Prop where
  bound : u.index < c.types.size
  stops : (c.type u).kind.isTransparent = false
  path : ∃ t ∈ ts, LeadsTo c.referenceTargets maxDepth t u

/-- References are passed on in the same way. -/
structure SameGraph (c d : Catalog) : Prop where
  size : d.types.size = c.types.size
  isTransparent : ∀ u, (d.type u).kind.isTransparent = (c.type u).kind.isTransparent
  targets : ∀ u, d.referenceTargets u = c.referenceTargets u

/-- Mentions depend on the graph only. -/
theorem SameGraph.mentions (same : SameGraph c d) : d.Mentions ts u ↔ c.Mentions ts u := by
  have targets : d.referenceTargets = c.referenceTargets := funext same.targets
  constructor
  · rintro ⟨bound, stops, path⟩
    exact ⟨same.size ▸ bound, (same.isTransparent u).symm.trans stops, targets ▸ path⟩
  · rintro ⟨bound, stops, path⟩
    exact ⟨same.size.symm ▸ bound, (same.isTransparent u).trans stops, targets.symm ▸ path⟩

theorem SameGraph.trans (h : SameGraph b c) (h' : SameGraph c d) : SameGraph b d :=
  ⟨h'.size.trans h.size, fun u => (h'.isTransparent u).trans (h.isTransparent u),
    fun u => (h'.targets u).trans (h.targets u)⟩

/-- Where nothing is written nothing is mentioned. -/
theorem not_mentions_nil : ¬c.Mentions [] u := by
  rintro ⟨-, -, t, inside, -⟩
  cases inside

/-- A list mentions what its elements mention. -/
theorem mentions_cons (ts : List TypeId) :
    c.Mentions (t :: ts) u ↔ c.Mentions [t] u ∨ c.Mentions ts u := by
  constructor
  · rintro ⟨bound, stops, t', inside, path⟩
    rcases List.mem_cons.1 inside with rfl | later
    · exact .inl ⟨bound, stops, t', List.mem_cons_self, path⟩
    · exact .inr ⟨bound, stops, t', later, path⟩
  · rintro (⟨bound, stops, t', inside, path⟩ | ⟨bound, stops, t', inside, path⟩)
    · obtain rfl := List.mem_singleton.1 inside
      exact ⟨bound, stops, t', List.mem_cons_self, path⟩
    · exact ⟨bound, stops, t', List.mem_cons_of_mem t inside, path⟩

/-! ## Changes of one entry

Whether a change of a type matters for mentions is seen from its kind and its targets. -/

/-- Where a type passes references on to is seen from its entry. -/
theorem referenceTargets_eq (c : Catalog) (t : TypeId) :
    c.referenceTargets t = (c.type t).targets := rfl

/-- A change of an entry after which references are passed on in the same way. -/
structure KeepsTargets (f : TypeNode → TypeNode) : Prop where
  isTransparent : ∀ node, (f node).kind.isTransparent = node.kind.isTransparent
  targets : ∀ node, (f node).targets = node.targets

/-- A change that leaves kind, super type and branches is of this sort. -/
theorem keepsTargets_of_eq {f : TypeNode → TypeNode} (kind : ∀ node, (f node).kind = node.kind)
    (superType : ∀ node, (f node).superType = node.superType)
    (types : ∀ node, (f node).types = node.types) : KeepsTargets f where
  isTransparent node := by rw [kind]
  targets node := by rw [TypeNode.targets, TypeNode.targets, kind, superType, types]

/-- Changing a type in such a way leaves the graph. -/
theorem sameGraph_modifyType {f : TypeNode → TypeNode} (c : Catalog) (t : TypeId)
    (keeps : KeepsTargets f) : SameGraph c (c.modifyType t f) where
  size := types_size_modifyType c t f
  isTransparent u := type_modifyType_of_eq c t u (·.kind.isTransparent) keeps.isTransparent
  targets u := type_modifyType_of_eq c t u TypeNode.targets keeps.targets

theorem sameGraph_of_types (types : d.types = c.types) : SameGraph c d := by
  have same (u) : d.type u = c.type u := by rw [type, type, types]
  refine ⟨by rw [types], fun u => by rw [same], fun u => ?_⟩
  rw [referenceTargets_eq, referenceTargets_eq, same]

/-! ## Noting references

Noting changes the lists only, so the graph that is walked is the same before and after each note.
-/

/-- At most references are noted. -/
structure OnlyNotes (c d : Catalog) : Prop where
  members : d.members = c.members
  operations : ∀ u, (d.type u).operations = (c.type u).operations
  graph : SameGraph c d

theorem OnlyNotes.refl (c : Catalog) : OnlyNotes c c :=
  ⟨rfl, fun _ => rfl, sameGraph_of_types rfl⟩

theorem OnlyNotes.trans (h : OnlyNotes b c) (h' : OnlyNotes c d) : OnlyNotes b d :=
  ⟨h'.members.trans h.members, fun u => (h'.operations u).trans (h.operations u),
    h.graph.trans h'.graph⟩

theorem onlyNotes_noteReference (c : Catalog) (t : TypeId) (m : MemberId) :
    OnlyNotes c (noteReference m c t) :=
  ⟨rfl, fun u => type_modifyType_of_eq c t u TypeNode.operations fun _ => rfl,
    sameGraph_modifyType c t (keepsTargets_of_eq (fun _ => rfl) (fun _ => rfl) fun _ => rfl)⟩

theorem onlyNotes_addReference (c : Catalog) (t : TypeId) (m : MemberId) :
    OnlyNotes c (c.addReference t m) :=
  related_foldl .refl .trans (fun c u => onlyNotes_noteReference c u m) _ c

/-- References to a list of types are noted and nothing else is done. -/
theorem onlyNotes_addReferences (c : Catalog) (ts : List TypeId) (m : MemberId) :
    OnlyNotes c (c.addReferences ts m) :=
  related_foldl .refl .trans (fun c t => onlyNotes_addReference c t m) ts c

/-- A note adds the member to the list of one type, if the type exists. -/
theorem mem_referencedBy_noteReference (c : Catalog) (t : TypeId) (m : MemberId) :
    k ∈ ((noteReference m c t).type u).referencedBy ↔
      k ∈ (c.type u).referencedBy ∨ (k = m ∧ u = t ∧ u.index < c.types.size) := by
  rw [noteReference, type_modifyType]
  by_cases here : u = t ∧ t.index < c.types.size
  · obtain ⟨rfl, bound⟩ := here
    rw [if_pos ⟨rfl, bound⟩, Std.TreeSet.mem_insert, Std.LawfulEqCmp.compare_eq_iff_eq]
    simp only [bound, and_true]
    exact ⟨fun found => found.elim (fun eq => .inr eq.symm) .inl,
      fun found => found.elim .inr fun eq => .inl eq.symm⟩
  · rw [if_neg here]
    refine ⟨.inl, fun found => found.elim id ?_⟩
    rintro ⟨-, rfl, bound⟩
    exact absurd ⟨rfl, bound⟩ here

/-- Notes at a list of types add the member at each of them. -/
theorem mem_referencedBy_notes (c : Catalog) (m : MemberId) (us : List TypeId) :
    k ∈ ((us.foldl (noteReference m) c).type u).referencedBy ↔
      k ∈ (c.type u).referencedBy ∨ (k = m ∧ u ∈ us ∧ u.index < c.types.size) := by
  induction us generalizing c with
  | nil => simp
  | cons t us ih =>
    rw [List.foldl_cons, ih, mem_referencedBy_noteReference,
      (onlyNotes_noteReference c t m).graph.size, List.mem_cons]
    constructor
    · rintro ((old | ⟨rfl, rfl, bound⟩) | ⟨rfl, later, bound⟩)
      · exact .inl old
      · exact .inr ⟨rfl, .inl rfl, bound⟩
      · exact .inr ⟨rfl, .inr later, bound⟩
    · rintro (old | ⟨rfl, rfl | later, bound⟩)
      · exact .inl (.inl old)
      · exact .inl (.inr ⟨rfl, rfl, bound⟩)
      · exact .inr ⟨rfl, later, bound⟩

/-- A reference is noted at every type that is mentioned by it. -/
theorem mem_referencedBy_addReference (c : Catalog) (t : TypeId) (m : MemberId) :
    k ∈ ((c.addReference t m).type u).referencedBy ↔
      k ∈ (c.type u).referencedBy ∨ (k = m ∧ c.Mentions [t] u) := by
  have mentioned : (u ∈ (reachWithin c.referenceTargets maxDepth [t]).filter
      fun v => !(c.type v).kind.isTransparent) ∧ u.index < c.types.size ↔ c.Mentions [t] u := by
    rw [List.mem_filter, mem_reachWithin]
    constructor
    · rintro ⟨⟨path, stops⟩, bound⟩
      exact ⟨bound, by simpa using stops, path⟩
    · rintro ⟨bound, stops, path⟩
      exact ⟨⟨path, by simpa using stops⟩, bound⟩
  rw [addReference, mem_referencedBy_notes, mentioned]

/-- References to several types are noted at every type that one of them mentions. -/
theorem mem_referencedBy_addReferences (c : Catalog) (ts : List TypeId) (m : MemberId) :
    k ∈ ((c.addReferences ts m).type u).referencedBy ↔
      k ∈ (c.type u).referencedBy ∨ (k = m ∧ c.Mentions ts u) := by
  induction ts generalizing c with
  | nil =>
    refine ⟨.inl, fun found => found.elim id ?_⟩
    rintro ⟨-, mentioned⟩
    exact absurd mentioned not_mentions_nil
  | cons t ts ih =>
    -- what the first reference notes leaves the graph alone that the others follow
    have later : (c.addReferences (t :: ts) m) = (c.addReference t m).addReferences ts m := rfl
    rw [later, ih, mem_referencedBy_addReference, (onlyNotes_addReference c t m).graph.mentions,
      mentions_cons ts, or_assoc, ← and_or_left]

end Catalog

end IdlCatalog
