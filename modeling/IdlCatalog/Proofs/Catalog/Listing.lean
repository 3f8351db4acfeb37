/-
# IdlCatalog.Proofs.Catalog.Listing — what the tables of a type list

What a table has under a name is a member that was read as such, or an operation into which further
ones of its name were folded; `listed` is this member without the owner and the documentation that
it got when it was attached. `Table.united` says what a table lists after members were declared one
after the other: of the properties of a name the last one counts, and of the operations the first
one, with the parameters of all of them.

## The specification of a table

`united` is a function of a list of members and knows no catalog. It is what one reads off a body:
the members in the order in which they are written. The main facts are that `enter` and
`mergeOperation`, which do the work in a catalog, add one member to the list that a table stands for
(`Lists.enter`, `Lists.overload`), and that everything else leaves the list.

Owner and documentation are left out of the comparison since a member gets them when it is attached,
so they are not part of what is written.
-/
import Mathlib.Data.List.Induction
import IdlCatalog.Proofs.Catalog.Tables

namespace IdlCatalog

/-! ## Members of one name

A property replaces the one before it. An operation is folded into the first one, which keeps its
place, its type and its modifiers and takes the parameters of both. -/

/-- The member as it was read: without owner and documentation. -/
def Member.bare (a : Member) : Member := { a with owner := none, documentation := none }

/-- An operation with the parameters of a further one folded in. -/
def Member.overloaded (a b : Member) : Member :=
  a.withParameters (Parameter.merge Catalog.any a.parameters b.parameters)

/-- Parameters are part of what was read. -/
theorem Member.bare_withParameters (a : Member) (ps : List Parameter) :
    (a.withParameters ps).bare = a.bare.withParameters ps := by
  obtain ⟨_, _, _, _, _, body⟩ := a
  cases body <;> rfl

/-- An overload concerns what was read only. -/
theorem Member.bare_overloaded (a b : Member) : (a.overloaded b).bare = a.bare.overloaded b :=
  a.bare_withParameters _

namespace Table

/-- The table into which a member belongs. -/
def home (a : Member) : Table :=
  match a.body with
  | .property _ => .properties
  | .operation _ _ => .operations

/-- Members of one name as a single one. -/
def unite : Table → List Member → Option Member
  | .properties, as => as.getLast?
  | .operations, [] => none
  | .operations, a :: as => some (as.foldl Member.overloaded a)

/-- What the table lists under the name after the members were declared in this order. -/
def united (table : Table) (as : List Member) (name : String) : Option Member :=
  table.unite (as.filter fun a => home a = table ∧ a.name = name)

/-- Every member belongs to one of the two tables. -/
theorem holds_home (a : Member) : (home a).Holds a := by
  unfold home
  cases body : a.body with
  | property initial => exact ⟨initial, body⟩
  | operation ps specials => exact ⟨ps, specials, body⟩

/-- One further declaration: a property takes the place, an operation is folded in. -/
def extend (table : Table) (present : Option Member) (a : Member) : Member :=
  match table, present with
  | .operations, some b => b.overloaded a
  | _, _ => a

variable {table : Table} {as : List Member} {a : Member} {name : String}

/-- One more member extends what the ones before it come to. -/
theorem unite_concat (table : Table) (as : List Member) (a : Member) :
    table.unite (as ++ [a]) = some (table.extend (table.unite as) a) := by
  cases table with
  | properties => rw [unite, List.getLast?_concat]; rfl
  | operations =>
    cases as with
    | nil => rfl
    | cons b as =>
      rw [List.cons_append, unite, List.foldl_append]
      rfl

/-- It does so under its own name and in its own table, and nowhere else. -/
theorem united_concat (table : Table) (as : List Member) (a : Member) (name : String) :
    table.united (as ++ [a]) name =
      if home a = table ∧ a.name = name then some (table.extend (table.united as name) a)
      else table.united as name := by
  rw [united, List.filter_append]
  by_cases here : home a = table ∧ a.name = name
  · rw [if_pos here, List.filter_cons_of_pos (by simpa using here), List.filter_nil, unite_concat]
    rfl
  · rw [if_neg here, List.filter_cons_of_neg (by simpa using here), List.filter_nil,
      List.append_nil]
    rfl

end Table

namespace Catalog

variable {b c d : Catalog} {t u : TypeId} {m k : MemberId} {l : LibraryId} {a : Member}
  {table other : Table} {n : String} {as : List Member}

/-- What a table of the type lists under the name. -/
def listed (c : Catalog) (table : Table) (t : TypeId) (name : String) : Option Member :=
  ((table.of (c.type t))[name]?).map fun m => (c.member m).bare

/-! ## Changes that leave the lists

What names are declared as, and what is documented, does not concern the tables of types that are
there already. -/

/-- The tables stay, and so do members, apart from what is not listed. -/
structure KeepsLists (c d : Catalog) : Prop where
  grows : Extends c d
  of : ∀ (table : Table) u, table.of (d.type u) = table.of (c.type u)
  bare : ∀ m, m.index < c.members.size → (d.member m).bare = (c.member m).bare

theorem KeepsLists.refl (c : Catalog) : KeepsLists c c :=
  ⟨.refl c, fun _ _ => rfl, fun _ _ => rfl⟩

theorem KeepsLists.trans (h : KeepsLists b c) (h' : KeepsLists c d) : KeepsLists b d where
  grows := h.grows.trans h'.grows
  of table u := (h'.of table u).trans (h.of table u)
  bare m bound := by
    rw [h'.bare m (Nat.lt_of_lt_of_le bound h.grows.size_le), h.bare m bound]

/-- A change that leaves members and the contents of tables as they are leaves the lists. -/
theorem keepsLists_of_members (contents : SameContents c d) (members : d.members = c.members) :
    KeepsLists c d where
  grows := contents.toExtends
  of := contents.of
  bare m _ := by rw [member, member, members]

/-- The lists are read as before. -/
theorem KeepsLists.listed (h : KeepsLists c d) (tables : c.Tables) (table : Table) (t : TypeId)
    (n : String) : d.listed table t n = c.listed table t n := by
  rw [Catalog.listed, Catalog.listed, h.of]
  cases entry : (table.of (c.type t))[n]? with
  | none => rfl
  | some m => exact congrArg some (h.bare m (tables table t n m entry).1)

/-- A new type without members. -/
theorem keepsLists_pushType (c : Catalog) (node : TypeNode)
    (blank : ∀ table : Table, table.of node = ∅) (none : node.constructors = #[]) :
    KeepsLists c (c.pushType node).2 where
  grows := extends_pushType c node blank none
  of table u := by
    rw [type_pushType]
    split
    · next here =>
      rw [blank, type_of_size_le c u (Nat.le_of_eq here.symm)]
      cases table <;> rfl
    · rfl
  bare _ _ := rfl

theorem keepsLists_addPlaceholder (c : Catalog) (name : String) :
    KeepsLists c (c.addPlaceholder name).2 :=
  keepsLists_of_members (sameContents_addPlaceholder c name) (members_addPlaceholder c name)

theorem keepsLists_newType (c : Catalog) (name : String) (kind : Kind) :
    KeepsLists c (c.newType name kind).2 :=
  keepsLists_of_members (sameContents_newType c name kind) rfl

theorem keepsLists_addType (ok : c.addType l t = .ok d) : KeepsLists c d :=
  keepsLists_of_members (sameContents_addType ok) (members_addType ok)

theorem keepsLists_document (c : Catalog) (l : LibraryId) (artifact : Artifact) :
    KeepsLists c (c.document l artifact) := by
  have contents := sameContents_document c l artifact
  refine ⟨contents.toExtends, contents.of, fun k _ => ?_⟩
  cases artifact with
  | library | type => rfl
  | member m => exact member_modifyMember_of_eq c m k Member.bare fun _ => rfl

/-! ## Attaching

A member that is attached has the first free number. What is under its name before is detached,
which changes its owner only. -/

/-- Detaching changes nothing that was read. -/
theorem bare_detach (c : Catalog) (replaced : Option MemberId) (k : MemberId) :
    ((c.detach replaced).member k).bare = (c.member k).bare := by
  cases replaced with
  | none => rfl
  | some m => exact member_modifyMember_of_eq c m k Member.bare fun _ => rfl

/-- A new member is what was read. -/
theorem bare_pushMember (c : Catalog) (a : Member) (owner : TypeId) (k : MemberId) :
    ((c.pushMember a owner).2.member k).bare =
      if k.index = c.members.size then a.bare else (c.member k).bare := by
  let pushed : Catalog := { c with members := c.members.push { a with owner := some owner } }
  have notes := onlyNotes_addReferences pushed a.referencedTypes ⟨c.members.size⟩
  have same : (c.pushMember a owner).2.member k = pushed.member k := by
    rw [member, member]
    exact congrArg (·.getD k.index default) notes.members
  rw [same, member]
  split
  · next last => simp [pushed, last]; rfl
  · next other => simp [pushed, Array.getElem?_push, other, member]

/-- After a member was attached it is what was read, and so are all others. -/
theorem bare_enter (table : Table) (c : Catalog) (t : TypeId) (a : Member) (k : MemberId) :
    ((enter table c t a).2.member k).bare =
      if k.index = c.members.size then a.bare else (c.member k).bare :=
  (bare_detach _ _ k).trans (bare_pushMember c a (c.storage t) k)

/-- After an overload was merged only the operation that took it differs. -/
theorem bare_mergeOperation (c : Catalog) (m : MemberId) (a : Member) (k : MemberId) :
    ((c.mergeOperation m a).member k).bare =
      if k = m ∧ m.index < c.members.size then (c.member k).bare.overloaded a
      else (c.member k).bare := by
  let merged := Parameter.merge any (c.member m).parameters a.parameters
  let d := c.modifyMember m fun b => b.withParameters merged
  have members : (c.mergeOperation m a).member k = d.member k := by
    rw [member, member]
    exact congrArg (·.getD k.index default) (onlyNotes_addReferences d _ m).members
  rw [members, member_modifyMember]
  by_cases here : k = m ∧ m.index < c.members.size
  · rw [if_pos here, if_pos here, here.1]
    exact Member.bare_overloaded (c.member m) a
  · rw [if_neg here, if_neg here]

/-- A member that enters a table is listed there, in place of the one of its name. -/
theorem listed_enter (tables : c.Tables) (bound : (c.storage t).index < c.types.size)
    (other : Table) (u : TypeId) (n : String) :
    (enter table c t a).2.listed other u n =
      if u = c.storage t ∧ other = table ∧ n = a.name then some a.bare
      else c.listed other u n := by
  rw [listed, (placed_enter table c t a).lookup]
  by_cases here : u = c.storage t ∧ other = table ∧ n = a.name
  · rw [if_pos ⟨⟨here.1, bound⟩, here.2⟩, if_pos here, Option.map_some,
      bare_enter, if_pos rfl]
  · rw [if_neg fun both => here ⟨both.1.1, both.2⟩, if_neg here, listed]
    cases entry : (other.of (c.type u))[n]? with
    | none => rfl
    | some k =>
      have old := (tables other u n k entry).1
      rw [Option.map_some, Option.map_some, bare_enter, if_neg (Nat.ne_of_lt old)]

/-- An overload is folded into the operation that is listed. -/
theorem listed_mergeOperation (tables : c.Tables)
    (found : (Table.operations.of (c.type t))[n]? = some m) (a : Member) (other : Table)
    (u : TypeId) (name : String) :
    (c.mergeOperation m a).listed other u name =
      if u = t ∧ other = .operations ∧ name = n then (c.listed .operations t n).map (·.overloaded a)
      else c.listed other u name := by
  have bound := (tables .operations t n m found).1
  rw [listed, (sameContents_mergeOperation c m a).of]
  by_cases here : u = t ∧ other = .operations ∧ name = n
  · obtain ⟨rfl, rfl, rfl⟩ := here
    rw [if_pos ⟨rfl, rfl, rfl⟩, listed, found, Option.map_some, bare_mergeOperation,
      if_pos ⟨rfl, bound⟩]
    rfl
  · rw [if_neg here, listed]
    cases entry : (other.of (c.type u))[name]? with
    | none => rfl
    | some k =>
      have elsewhere : k ≠ m := by
        rintro rfl
        exact here (tables.unique entry found)
      rw [Option.map_some, Option.map_some, bare_mergeOperation,
        if_neg fun both => elsewhere both.1]

/-! ## Declaring one member after the other

By induction over the members of a body, the tables list what `united` says. -/

/-- The tables of the type list what the members come to that were declared in this order. -/
def Lists (c : Catalog) (t : TypeId) (as : List Member) : Prop :=
  ∀ (table : Table) (n : String), c.listed table t n = table.united as n

namespace Lists

/-- Changes that leave the lists leave what a type was given. -/
theorem keeps (h : c.Lists t as) (tables : c.Tables) (keeps : KeepsLists c d) : d.Lists t as :=
  fun table n => (keeps.listed tables table t n).trans (h table n)

/-- A type without entries was given nothing. -/
theorem nil (bare : ∀ table : Table, table.of (c.type t) = ∅) : c.Lists t [] := by
  intro table n
  rw [listed, bare]
  cases table <;> rfl

/-- A new member of its table, where none of its name counts any more. -/
theorem enter (h : c.Lists t as) (tables : c.Tables) (storage : c.storage t = t)
    (bound : t.index < c.types.size) (bare : a.bare = a)
    (alone : (Table.home a).extend ((Table.home a).united as a.name) a = a) :
    (enter (Table.home a) c t a).2.Lists t (as ++ [a]) := by
  intro table n
  rw [listed_enter tables (storage.symm ▸ bound), Table.united_concat, storage, bare]
  by_cases here : Table.home a = table ∧ a.name = n
  · obtain ⟨rfl, rfl⟩ := here
    rw [if_pos ⟨rfl, rfl, rfl⟩, if_pos ⟨rfl, rfl⟩, alone]
  · rw [if_neg here, if_neg fun all => here ⟨all.2.1.symm, all.2.2.symm⟩, h]

/-- An operation of a known name is folded into what is there. -/
theorem overload (h : c.Lists t as) (tables : c.Tables) (storage : c.storage t = t)
    (home : Table.home a = .operations) (known : c.operation? t a.name = some m) :
    (c.mergeOperation m a).Lists t (as ++ [a]) := by
  rw [operation?, storage] at known
  have listed : c.listed .operations t a.name = some (c.member m).bare := by
    rw [Catalog.listed, Table.of, known]
    rfl
  intro table n
  rw [listed_mergeOperation tables known, Table.united_concat, home]
  by_cases here : Table.operations = table ∧ a.name = n
  · obtain ⟨rfl, rfl⟩ := here
    rw [if_pos ⟨rfl, rfl, rfl⟩, if_pos ⟨rfl, rfl⟩, ← h, listed]
    rfl
  · rw [if_neg here, if_neg fun all => here ⟨all.2.1.symm, all.2.2.symm⟩, h]

end Lists

end Catalog

end IdlCatalog
