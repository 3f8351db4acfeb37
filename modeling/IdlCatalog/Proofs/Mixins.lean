/-
# IdlCatalog.Proofs.Mixins — the members that a type has through mixins

A type has its own members and those of everything it implements, directly or through others. The
graph may be cyclic, and a diamond meets its foot twice, so the question is asked to a bounded
depth. `membersWithin` searches breadth first, with every type of a front once. The same can be done
by walking: take the members of the type at hand, go on to each type it implements, and do not look
where the walk has been. Both find the members of exactly the types to which a path of bounded
length leads.

What is found is listed by name without regard to case. Names may agree then, so age decides between
such members, and the list is strictly ordered: no member is lost and none is listed twice.

## Paths

Both searches are compared with paths and not with each other. A path is a list of types in which
each one implements the next; its length bounds the number of steps. Paths may run in circles, and
they may meet a type several times, which does not matter for the question whether there is one.
-/
import IdlCatalog.Catalog.Reach
import IdlCatalog.Proofs.Catalog.Mentions
import IdlCatalog.Proofs.Text.ByteOrder

namespace IdlCatalog

namespace Catalog

variable {c : Catalog} {table : TypeNode → NameMap MemberId} {t u : TypeId} {m : MemberId}
  {ms : List MemberId} {steps : Nat}

/-! ## Gathering

The search by fronts: all types that are reached within the bound, and of each one its table. -/

/-- The values of a table are what it has under some name. -/
theorem mem_values {names : NameMap MemberId} :
    m ∈ names.values ↔ ∃ name : String, names[name]? = some m := by
  have values : names.values = names.toList.map (·.2) := by
    have fold : names.values = names.foldr (fun _ k found => k :: found) [] := rfl
    rw [fold, Std.TreeMap.foldr_eq_foldr_toList, List.map_eq_foldr]
  simp only [values, List.mem_map, Prod.exists, exists_eq_right,
    Std.TreeMap.mem_toList_iff_getElem?_eq_some]

/-- The table of the type has the member under some name. -/
def HasMember (c : Catalog) (table : TypeNode → NameMap MemberId) (u : TypeId) (m : MemberId) :
    Prop :=
  ∃ name : String, (table (c.type u))[name]? = some m

theorem mem_insertMany_values {found : Std.TreeSet MemberId} :
    m ∈ found.insertMany (table (c.type u)).values ↔ m ∈ found ∨ c.HasMember table u m := by
  rw [Std.TreeSet.mem_insertMany_list, List.contains_iff_mem, mem_values, HasMember]

/-- What one type implements. -/
def mixins (c : Catalog) (t : TypeId) : List TypeId := (c.type t).types.toList

theorem mem_membersWithin :
    m ∈ c.membersWithin table t ↔ ∃ u, LeadsTo c.mixins maxDepth t u ∧ c.HasMember table u m := by
  -- the tables of the front are put into one set, one after the other
  have folded (ts : List TypeId) (found : Std.TreeSet MemberId) :
      m ∈ ts.foldl (fun found u => found.insertMany (table (c.type u)).values) found ↔
        m ∈ found ∨ ∃ u ∈ ts, c.HasMember table u m := by
    induction ts generalizing found with
    | nil => simp
    | cons t ts ih =>
      rw [List.foldl_cons, ih, mem_insertMany_values, List.exists_mem_cons_iff, or_assoc]
  have reached (u : TypeId) :
      u ∈ (reachWithin (fun v => (c.type v).types.toList) maxDepth [t]).eraseDups ↔
        LeadsTo c.mixins maxDepth t u := by
    rw [List.mem_eraseDups, mem_reachWithin]
    simp only [List.mem_singleton, exists_eq_left]
    rfl
  rw [membersWithin, Std.TreeSet.mem_toList, folded]
  simp only [Std.TreeSet.not_mem_emptyc, false_or, reached]

/-! ## Walking

The search by branches. It carries along what was found, and different branches may find the same
members again. -/

/-- Takes the members of a type and then goes on to each type that it implements, with so many steps
left, whether the walk has been there or not. -/
def walkMembers (c : Catalog) (table : TypeNode → NameMap MemberId) :
    (steps : Nat) → Std.TreeSet MemberId → TypeId → Std.TreeSet MemberId
  | 0, found, t => found.insertMany (table (c.type t)).values
  | steps + 1, found, t =>
    (c.mixins t).foldl (walkMembers c table steps) (found.insertMany (table (c.type t)).values)

/-- The walk finds the members of the types that are reached. -/
theorem mem_walkMembers (steps : Nat) (found : Std.TreeSet MemberId) (t : TypeId) :
    m ∈ c.walkMembers table steps found t ↔
      m ∈ found ∨ ∃ u, LeadsTo c.mixins steps t u ∧ c.HasMember table u m := by
  -- on the number of steps that are left
  induction steps generalizing found t with
  | zero =>
    rw [walkMembers, mem_insertMany_values]
    simp only [leadsTo_zero, exists_eq_left]
  | succ steps ih =>
    have branches (ts : List TypeId) (found : Std.TreeSet MemberId) :
        m ∈ ts.foldl (walkMembers c table steps) found ↔
          m ∈ found ∨ ∃ b ∈ ts, ∃ u, LeadsTo c.mixins steps b u ∧ c.HasMember table u m := by
      induction ts generalizing found with
      | nil => simp
      | cons b ts later =>
        rw [List.foldl_cons, later, ih, List.exists_mem_cons_iff, or_assoc]
    rw [walkMembers, branches, mem_insertMany_values, or_assoc]
    apply or_congr_right
    -- the type itself, or a type behind one that it implements
    constructor
    · rintro (own | ⟨b, first, u, others, holds⟩)
      · exact ⟨t, .here _ t, own⟩
      · exact ⟨u, .step first others, holds⟩
    · rintro ⟨u, leads, holds⟩
      rcases leadsTo_succ.1 leads with rfl | ⟨b, first, others⟩
      · exact .inl holds
      · exact .inr ⟨b, first, u, others, holds⟩

/-- The two searches find the same members, and sets of the same members are listed alike. -/
theorem walkMembers_eq (c : Catalog) (table : TypeNode → NameMap MemberId) (t : TypeId) :
    (c.walkMembers table maxDepth ∅ t).toList = c.membersWithin table t := by
  apply Std.TreeSet.Equiv.toList_eq
  rw [Std.TreeSet.equiv_iff_forall_mem_iff]
  intro m
  have within : m ∈ c.membersWithin table t ↔ _ := mem_membersWithin
  rw [membersWithin, Std.TreeSet.mem_toList] at within
  rw [mem_walkMembers, within]
  simp only [Std.TreeSet.not_mem_emptyc, false_or]

/-- A set lists nothing twice. -/
theorem nodup_membersWithin (c : Catalog) (table : TypeNode → NameMap MemberId) (t : TypeId) :
    (c.membersWithin table t).Nodup := by
  refine Std.TreeSet.distinct_toList.imp fun {a b} apart same => apart ?_
  rw [same]
  exact Std.ReflCmp.compare_self

/-! ## Sorting

Sorting puts the list into an order in which all pairs can be compared; since no member is there
twice, it is strict. -/

/-- The first member is listed before the second: its name, in lowercase, has the smaller bytes, or
the names agree and it is the older one. -/
def ListedBefore (c : Catalog) (a b : MemberId) : Prop :=
  utf8Bytes (lowercase (c.member a).name) < utf8Bytes (lowercase (c.member b).name) ∨
    lowercase (c.member a).name = lowercase (c.member b).name ∧ a.index < b.index

/-- Sorting loses nothing and adds nothing. -/
theorem perm_sortByName (c : Catalog) (ms : List MemberId) : (c.sortByName ms).Perm ms := by
  unfold sortByName
  refine ((List.mergeSort_perm _ _).map _).trans ?_
  rw [List.map_map]
  exact .of_eq (List.map_id ms)

/-- Sorting lists members, each of which is there once, strictly by name and age. -/
theorem pairwise_sortByName (once : ms.Nodup) : (c.sortByName ms).Pairwise c.ListedBefore := by
  let before (a b : String × MemberId) : Bool :=
    a.1 < b.1 || (a.1 = b.1 && a.2.index ≤ b.2.index)
  have before_iff (a b : String × MemberId) :
      before a b = true ↔ a.1 < b.1 ∨ a.1 = b.1 ∧ a.2.index ≤ b.2.index := by
    simp [before]
  let key (m : MemberId) : String × MemberId := (lowercase (c.member m).name, m)
  have trans (x y z : String × MemberId) (xy : before x y = true) (yz : before y z = true) :
      before x z = true := by
    rw [before_iff] at xy yz ⊢
    rcases xy with less | ⟨same, older⟩ <;> rcases yz with less' | ⟨same', older'⟩
    · exact .inl (String.lt_trans less less')
    · exact .inl (same' ▸ less)
    · exact .inl (same ▸ less')
    · exact .inr ⟨same.trans same', Nat.le_trans older older'⟩
  have total (x y : String × MemberId) : (before x y || before y x) = true := by
    rw [Bool.or_eq_true, before_iff, before_iff]
    by_cases less : x.1 < y.1
    · exact .inl (.inl less)
    by_cases more : y.1 < x.1
    · exact .inr (.inl more)
    have same : x.1 = y.1 := String.le_antisymm (String.not_lt.1 more) (String.not_lt.1 less)
    rcases Nat.le_total x.2.index y.2.index with older | younger
    · exact .inl (.inr ⟨same, older⟩)
    · exact .inr (.inr ⟨same.symm, younger⟩)
  have sorted : ((ms.map key).mergeSort before).Pairwise fun x y => before x y = true :=
    List.pairwise_mergeSort trans total _
  have keyed : ∀ x ∈ (ms.map key).mergeSort before, x = key x.2 := by
    intro x inside
    obtain ⟨m, -, rfl⟩ := List.mem_map.1 ((List.mergeSort_perm _ _).subset inside)
    rfl
  -- members of one name are of different age, so that the order is strict
  have distinct : ((ms.map key).mergeSort before).Pairwise fun x y => x.2 ≠ y.2 := by
    rw [← List.pairwise_map]
    exact (perm_sortByName c ms).nodup_iff.2 once
  show List.Pairwise _ (((ms.map key).mergeSort before).map (·.2))
  rw [List.pairwise_map]
  refine (sorted.and distinct).imp_of_mem fun {x y} left right ⟨le, apart⟩ => ?_
  rw [keyed x left, keyed y right, before_iff] at le
  rcases le with less | ⟨same, older⟩
  · exact .inl (utf8Bytes_lt less)
  · refine .inr ⟨same, Nat.lt_of_le_of_ne older fun eq => apart ?_⟩
    exact congrArg MemberId.mk eq

/-! ## Members through mixins

The lists are those of the search by fronts, sorted. -/

/-- The list is strictly sorted, has no member twice, and has exactly the members of the types to
which a path of at most `maxDepth` steps along what is implemented leads from `t`. -/
structure ListsMembers (c : Catalog) (table : TypeNode → NameMap MemberId) (t : TypeId)
    (ms : List MemberId) : Prop where
  sorted : ms.Pairwise c.ListedBefore
  nodup : ms.Nodup
  exact : ∀ m, m ∈ ms ↔
    ∃ u path, PathAlong (fun v => (c.type v).types.toList) t u path ∧
      path.length ≤ maxDepth + 1 ∧ c.HasMember table u m

/-- The sorted list has what the search has found. -/
theorem lists_sortByName (c : Catalog) (table : TypeNode → NameMap MemberId) (t : TypeId) :
    c.ListsMembers table t (c.sortByName (c.membersWithin table t)) := by
  have once := nodup_membersWithin c table t
  have perm := perm_sortByName c (c.membersWithin table t)
  refine ⟨pairwise_sortByName once, perm.nodup_iff.2 once, fun m => ?_⟩
  rw [perm.mem_iff, mem_membersWithin]
  constructor
  · rintro ⟨u, leads, has⟩
    obtain ⟨path, along, short⟩ := leadsTo_iff_pathAlong.1 leads
    exact ⟨u, path, along, short, has⟩
  · rintro ⟨u, path, along, short, has⟩
    exact ⟨u, leadsTo_iff_pathAlong.2 ⟨path, along, short⟩, has⟩

/-- In every catalog, whatever cycles it has, the operations that a type has through mixins are
listed strictly by name without regard to case and by age: exactly the operations of the type and of
the types to which at most `maxDepth` steps lead from it. The same holds for the properties. Walking
through the graph without noting where one has been gives the same lists. -/
theorem mixin_members_listed (c : Catalog) (t : TypeId) :
    (c.ListsMembers (·.operations) t (c.ownAndInterfaceOperations t) ∧
      c.ListsMembers (·.properties) t (c.ownAndInterfaceProperties t)) ∧
    c.sortByName (c.walkMembers (·.operations) maxDepth ∅ t).toList =
        c.ownAndInterfaceOperations t ∧
      c.sortByName (c.walkMembers (·.properties) maxDepth ∅ t).toList =
        c.ownAndInterfaceProperties t := by
  refine ⟨⟨lists_sortByName c _ t, lists_sortByName c _ t⟩, ?_, ?_⟩
  · rw [walkMembers_eq, ownAndInterfaceOperations]
  · rw [walkMembers_eq, ownAndInterfaceProperties]

end Catalog

end IdlCatalog
