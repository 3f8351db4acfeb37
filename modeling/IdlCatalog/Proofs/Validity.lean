/-
# IdlCatalog.Proofs.Validity — numbers are valid and stay so

Types, members and libraries name each other by number, in more than a dozen places of their
entries, and every function of a catalog writes such places. A number that no entry belongs to would
do its harm much later, in a function that has nothing to do with the one that stored it.

Nothing of that kind is ever stored. A call with numbers in range leaves only numbers in range
behind, and a description, also one whose reading fails halfway, comes to a chain of such calls.
What a catalog answers is then in range as well, and so is every type that a walk along reopenings,
mixins or mentions comes by. And a number that was given out once stays good: later calls keep its
entry and the name in it.

## Two invariants

`Closed` says of one catalog that all numbers in it are in range. `Preserves` relates a catalog to a
later one: the arrays have grown at most, and what a number stood for has its old name. The first is
kept by every call whose arguments are in range; the second holds of every call, in range or not,
since no function ever shortens an array or writes a name.

Both are passed on along chains of calls. A request is such a chain: a call of the interface is one
by itself, and a description comes to the calls that its reading makes until it ends, by whatever
result.
-/
import Mathlib.Data.List.Induction
import IdlCatalog.Proofs.Grammar.Calling
import IdlCatalog.Proofs.Mixins

namespace IdlCatalog

namespace Catalog

variable {b c d : Catalog} {t u : TypeId} {m : MemberId} {l : LibraryId} {name : String}

/-! ## What a catalog answers

A walk over the catalog takes its steps along stored numbers, so it stays in range if it starts
there. The number of steps does not matter. -/

/-- What the catalog answers is in range, and so is every type that a walk from a type in range
comes by. -/
structure AnswersWithin (c : Catalog) : Prop where
  resolved : ∀ (name : String) t, c.resolve? name = some t → t.index < c.types.size
  declared : ∀ (l : LibraryId) (name : String) t, (c.library l).get? name = some t →
    t.index < c.types.size
  libraryNamed : ∀ (name : String) l, c.libraryByName? name = some l → l.index < c.libraries.size
  heir : ∀ (name : String) t l, c.heir? name t = some l → l.index < c.libraries.size
  property : ∀ t (name : String) m, c.property? t name = some m → m.index < c.members.size
  operation : ∀ t (name : String) m, c.operation? t name = some m → m.index < c.members.size
  listedProperty : ∀ t, ∀ m ∈ c.ownAndInterfaceProperties t, m.index < c.members.size
  listedOperation : ∀ t, ∀ m ∈ c.ownAndInterfaceOperations t, m.index < c.members.size
  reopened : ∀ steps t, t.index < c.types.size →
    (c.followReopenings steps t).index < c.types.size
  implemented : ∀ steps t u, t.index < c.types.size → LeadsTo c.mixins steps t u →
    u.index < c.types.size
  mentioned : ∀ steps t u, t.index < c.types.size → LeadsTo c.referenceTargets steps t u →
    u.index < c.types.size

/-- What a table has under a name is a member. -/
theorem Closed.entry_lt (h : c.Closed) (table : Table)
    (entry : (table.of (c.type t))[name]? = some m) : m.index < c.members.size := by
  cases table with
  | properties => exact (h.type t).properties name m entry
  | operations => exact (h.type t).operations name m entry

/-- Every tier is a library. -/
theorem Closed.tier_lt (h : c.Closed) (inside : l ∈ c.tiers) : l.index < c.libraries.size := by
  rcases List.mem_cons.1 inside with rfl | inside
  · exact Nat.lt_of_le_of_lt (Nat.zero_le _) h.hidden_lt
  rcases List.mem_cons.1 inside with rfl | registered
  · exact h.hidden_lt
  · exact h.registered l registered

/-- So is what the queries list. -/
theorem Closed.listed_lt (h : c.Closed) (table : Table)
    (listed : m ∈ c.sortByName (c.membersWithin table.of t)) : m.index < c.members.size := by
  rw [(perm_sortByName c _).mem_iff, mem_membersWithin] at listed
  obtain ⟨u, -, name, entry⟩ := listed
  exact h.entry_lt table entry

theorem Closed.mixin_lt (h : c.Closed) (next : u ∈ c.mixins t) : u.index < c.types.size :=
  (h.type t).types u (Array.mem_toList_iff.1 next)

/-- References are passed on to super types and to branches. -/
theorem Closed.target_lt (h : c.Closed) (next : u ∈ c.referenceTargets t) :
    u.index < c.types.size := by
  rw [referenceTargets] at next
  split at next
  case h_5 => exact (h.type t).types u (Array.mem_toList_iff.1 next)
  case h_6 => cases next
  all_goals exact (h.type t).superType u (Option.mem_toList.1 next)

/-- In a catalog all of whose numbers are in range, every answer is in range. -/
theorem Closed.answersWithin (h : c.Closed) : c.AnswersWithin where
  -- each answer is read off an entry, or is reached from one along entries
  resolved _ _ found := h.resolve?_lt found
  declared _ _ _ found := h.get?_lt found
  libraryNamed _ _ found := h.tier_lt (List.mem_of_find?_eq_some found)
  heir _ _ _ found := h.tier_lt (List.mem_cons_of_mem _ (heir?_mem found))
  property _ _ _ found := h.entry_lt .properties found
  operation _ _ _ found := h.entry_lt .operations found
  listedProperty _ _ listed := h.listed_lt .properties listed
  listedOperation _ _ listed := h.listed_lt .operations listed
  reopened steps _ bound := h.followReopenings_lt steps bound
  implemented _ _ _ bound leads := leads.ends bound fun _ _ next => h.mixin_lt next
  mentioned _ _ _ bound leads := leads.ends bound fun _ _ next => h.target_lt next

end Catalog

/-! ## What calls give out

A number that a call answers with is that of the entry which the call has just pushed, or that of a
placeholder which was there. -/

namespace Call

/-- The type that a call answers with, which it creates, or finds as a placeholder. -/
def givenTypes (c : Catalog) : Call → List TypeId
  | newType name kind => [(c.newType name kind).1]
  | newSynthesized name kind superType => [(c.newSynthesized name kind superType).1]
  | addPlaceholder name => [(c.addPlaceholder name).1]
  | _ => []

/-- The member that a call answers with, which it creates. -/
def givenMembers (c : Catalog) : Call → List MemberId
  | addProperty t a => [(c.addProperty t a).1]
  | addOperation t a => [(c.addOperation t a).1]
  | addConstructor t a => [(c.addConstructor t a).1]
  | _ => []

/-- The library that a call answers with, which it creates. -/
def givenLibraries (c : Catalog) : Call → List LibraryId
  | addLibrary name readOnly docs => [(c.addLibrary name readOnly docs).1]
  | _ => []

/-- What the call answers with are numbers of the catalog after it. -/
structure GivesWithin (c : Catalog) (call : Call) : Prop where
  types : ∀ t ∈ call.givenTypes c, t.index < (call.run c).types.size
  members : ∀ m ∈ call.givenMembers c, m.index < (call.run c).members.size
  libraries : ∀ l ∈ call.givenLibraries c, l.index < (call.run c).libraries.size

end Call

namespace Catalog

variable {b c d : Catalog} {t u : TypeId} {m : MemberId} {l : LibraryId} {name : String}

theorem given_enter (table : Table) (c : Catalog) (t : TypeId) (a : Member) :
    (enter table c t a).1.index < (enter table c t a).2.members.size := by
  rw [(placed_enter table c t a).size]
  exact Nat.lt_succ_self _

theorem given_addConstructor (c : Catalog) (t : TypeId) (a : Member) :
    (c.addConstructor t a).1.index < (c.addConstructor t a).2.members.size := by
  let b : Member := { a with modifiers := a.modifiers ||| Modifiers.constructor }
  show c.members.size < (c.pushMember b t).2.members.size
  rw [(created_pushMember c b t).size]
  exact Nat.lt_succ_self _

/-- What a call gives out is in range afterwards. -/
theorem Closed.givesWithin (h : c.Closed) (call : Call) : call.GivesWithin c where
  types t given := by
    cases call with
    | newType name kind | newSynthesized name kind superType =>
      obtain rfl := List.mem_singleton.1 given
      exact pushed_lt c _
    | addPlaceholder name =>
      obtain rfl := List.mem_singleton.1 given
      exact addPlaceholder_lt h name
    | _ => cases given
  members m given := by
    cases call with
    | addProperty t a =>
      obtain rfl := List.mem_singleton.1 given
      exact given_enter .properties c t a
    | addOperation t a =>
      obtain rfl := List.mem_singleton.1 given
      exact given_enter .operations c t a
    | addConstructor t a =>
      obtain rfl := List.mem_singleton.1 given
      exact given_addConstructor c t a
    | _ => cases given
  libraries l given := by
    cases call with
    | addLibrary name readOnly docs =>
      obtain rfl := List.mem_singleton.1 given
      show c.libraries.size < (c.addLibrary name readOnly docs).2.libraries.size
      rw [libraries_size_addLibrary]
      exact Nat.lt_succ_self _
    | _ => cases given

/-! ## What a catalog keeps

All changes are made through few functions: an entry is replaced by another one of the same name, or
a new entry is pushed at the end. -/

/-- Numbers of `c` are numbers of `d`, and they stand for something of the same name. -/
structure Preserves (c d : Catalog) : Prop where
  extent : c.extent.Le d.extent
  typeName : ∀ t, t.index < c.types.size → d.typeName t = c.typeName t
  memberName : ∀ m, m.index < c.members.size → (d.member m).name = (c.member m).name
  libraryName : ∀ l, l.index < c.libraries.size → (d.library l).name = (c.library l).name

namespace Preserves

theorem refl (c : Catalog) : Preserves c c :=
  ⟨.refl _, fun _ _ => rfl, fun _ _ => rfl, fun _ _ => rfl⟩

theorem trans (h : Preserves b c) (h' : Preserves c d) : Preserves b d where
  extent := h.extent.trans h'.extent
  typeName t old :=
    (h'.typeName t (Nat.lt_of_lt_of_le old h.extent.types)).trans (h.typeName t old)
  memberName m old :=
    (h'.memberName m (Nat.lt_of_lt_of_le old h.extent.members)).trans (h.memberName m old)
  libraryName l old :=
    (h'.libraryName l (Nat.lt_of_lt_of_le old h.extent.libraries)).trans (h.libraryName l old)

end Preserves

section Doors

variable (c : Catalog) (t : TypeId) (m : MemberId) (l : LibraryId)

theorem preserves_modifyType {f : TypeNode → TypeNode} (name : ∀ node, (f node).name = node.name) :
    Preserves c (c.modifyType t f) where
  extent := extent_le_of_sizes (types_size_modifyType c t f) rfl rfl
  typeName u _ := type_modifyType_of_eq c t u TypeNode.name name
  memberName _ _ := rfl
  libraryName _ _ := rfl

theorem preserves_modifyMember {f : Member → Member} (name : ∀ a, (f a).name = a.name) :
    Preserves c (c.modifyMember m f) where
  extent := extent_le_of_sizes rfl (members_size_modifyMember c m f) rfl
  typeName _ _ := rfl
  memberName k _ := member_modifyMember_of_eq c m k Member.name name
  libraryName _ _ := rfl

theorem preserves_modifyLibrary {f : Library → Library}
    (name : (f (c.library l)).name = (c.library l).name) : Preserves c (c.modifyLibrary l f) where
  extent := extent_le_of_sizes rfl rfl (libraries_size_modifyLibrary c l f)
  typeName _ _ := rfl
  memberName _ _ := rfl
  libraryName k _ := sameNames_modifyLibrary c l name k

theorem preserves_pushType (node : TypeNode) : Preserves c (c.pushType node).2 where
  extent := by
    refine ⟨?_, Nat.le_refl _, Nat.le_refl _⟩
    show c.types.size ≤ (c.pushType node).2.types.size
    rw [types_size_pushType]
    exact Nat.le_succ _
  typeName u old := by
    rw [typeName, type_pushType, if_neg (Nat.ne_of_lt old), typeName]
  memberName _ _ := rfl
  libraryName _ _ := rfl

theorem preserves_addLibrary (name : String) (readOnly : Bool) (docs : DocumentationProvider) :
    Preserves c (c.addLibrary name readOnly docs).2 where
  extent := extent_le_run c (.addLibrary name readOnly docs)
  typeName u old := by
    rw [typeName, type_addLibrary, if_neg (Nat.ne_of_lt old), typeName]
  memberName _ _ := rfl
  libraryName k old := by
    rw [library_addLibrary, if_neg (Nat.ne_of_lt old)]

/-- Noting references writes a list in the entries of types, and nothing else. -/
theorem preserves_addReferences (ts : List TypeId) : Preserves c (c.addReferences ts m) := by
  have note (c : Catalog) (t : TypeId) : Preserves c (noteReference m c t) :=
    preserves_modifyType c t fun _ => rfl
  have one (c : Catalog) (t : TypeId) : Preserves c (c.addReference t m) :=
    related_foldl .refl .trans note _ c
  exact related_foldl .refl .trans one ts c

theorem preserves_pushMember (a : Member) : Preserves c (c.pushMember a t).2 := by
  -- first the entry of the member, then the notes at the types that it mentions
  let pushed : Catalog := { c with members := c.members.push { a with owner := some t } }
  have created : Preserves c pushed := by
    refine ⟨⟨Nat.le_refl _, ?_, Nat.le_refl _⟩, fun _ _ => rfl, fun k old => ?_, fun _ _ => rfl⟩
    · show c.members.size ≤ (c.members.push _).size
      rw [Array.size_push]
      exact Nat.le_succ _
    · simp [Catalog.member, pushed, Array.getElem?_push, Nat.ne_of_lt old]
  exact created.trans (preserves_addReferences pushed ⟨c.members.size⟩ _)

theorem preserves_detach (replaced : Option MemberId) : Preserves c (c.detach replaced) := by
  cases replaced with
  | none => exact .refl c
  | some k => exact preserves_modifyMember c k fun _ => rfl

end Doors

/-! ## What calls keep

Every call is put together from these few changes. -/

theorem preserves_enter (table : Table) (c : Catalog) (t : TypeId) (a : Member) :
    Preserves c (enter table c t a).2 := by
  -- the member is pushed, enters the table, and takes the owner from the member it replaces
  refine (preserves_pushMember c (c.storage t) a).trans ?_
  refine (preserves_modifyType _ (c.storage t) fun node => ?_).trans (preserves_detach _ _)
  cases table <;> rfl

theorem preserves_setSuperType (c : Catalog) (t u : TypeId) : Preserves c (c.setSuperType t u) := by
  have given : Preserves c (c.modifyType t fun node => { node with superType := some u }) :=
    preserves_modifyType c t fun _ => rfl
  rw [setSuperType]
  split
  · exact given.trans (preserves_modifyType _ u fun _ => rfl)
  · exact given

theorem preserves_addPlaceholder (c : Catalog) (name : String) :
    Preserves c (c.addPlaceholder name).2 := by
  rw [addPlaceholder]
  split
  · exact .refl c
  · exact (preserves_pushType c _).trans (preserves_modifyLibrary _ hidden rfl)

theorem preserves_addType (ok : c.addType l t = .ok d) : Preserves c d := by
  obtain ⟨entered, -, after, rfl⟩ := addType_eq_ok ok
  exact (preserves_modifyLibrary c l after.name).trans (preserves_modifyType _ t fun _ => rfl)

theorem preserves_deleteType (c : Catalog) (t : TypeId) : Preserves c (c.deleteType t) := by
  rw [deleteType]
  split
  · exact .refl c
  · next l owned =>
    have disowned : Preserves c (c.modifyType t fun node => { node with library := none }) :=
      preserves_modifyType c t fun _ => rfl
    exact disowned.trans (preserves_modifyLibrary _ l (name_erase _ _ _))

theorem preserves_mergeOperation (c : Catalog) (m : MemberId) (a : Member) :
    Preserves c (c.mergeOperation m a) := by
  refine (preserves_modifyMember c m fun b => ?_).trans (preserves_addReferences _ m _)
  rw [Member.withParameters]
  split <;> rfl

/-- No call takes a number away or gives another name to what it stands for. -/
theorem preserves_run (c : Catalog) (call : Call) : Preserves c (call.run c) := by
  cases call with
  | addLibrary name readOnly docs => exact preserves_addLibrary c name readOnly docs
  | removeLibrary l =>
    have unregistered (c : Catalog) : Preserves c (c.unregister l) :=
      ⟨.refl _, fun _ _ => rfl, fun _ _ => rfl, fun _ _ => rfl⟩
    -- the library is taken out of the list, and then types are passed on one by one
    exact related_removeLibrary .refl .trans unregistered
      (fun c t _ => preserves_modifyType c t fun _ => rfl) c
  | newType name kind | newSynthesized name kind superType => exact preserves_pushType c _
  | addPlaceholder name => exact preserves_addPlaceholder c name
  | addType l t =>
    rw [Call.run]
    split
    · next ok => exact preserves_addType ok
    · exact .refl c
  | deleteType t => exact preserves_deleteType c t
  | setKind t _ | addModifiers t _ | addLiteral t _ | setIterable t _ | pushTypeArgument t _ =>
    exact preserves_modifyType c t fun _ => rfl
  | setSuperType t u => exact preserves_setSuperType c t u
  | addImplements t u =>
    have argument : Preserves c (c.pushTypeArgument t u) := preserves_modifyType c t fun _ => rfl
    exact argument.trans (preserves_modifyType _ u fun _ => rfl)
  | addProperty t a => exact preserves_enter .properties c t a
  | addOperation t a => exact preserves_enter .operations c t a
  | addConstructor t a =>
    exact (preserves_pushMember c t _).trans (preserves_modifyType _ t fun _ => rfl)
  | mergeOperation m a => exact preserves_mergeOperation c m a
  | addReference t m => exact preserves_addReferences c m [t]
  | document l artifact =>
    cases artifact with
    | library _ => exact .refl c
    | type t => exact preserves_modifyType c t fun _ => rfl
    | member m => exact preserves_modifyMember c m fun _ => rfl

/-- A chain of calls keeps what each of its calls keeps. -/
theorem preserves_made {calls : List Call} (made : Made c calls d) : Preserves c d := by
  induction made with
  | start => exact .refl c
  | call _ _ ih => exact ih.trans (preserves_run _ _)

end Catalog

open Catalog

/-! ## Requests

What a request does is said by calls alone, so the results about chains of calls hold for requests.
-/

variable {c d : Catalog} {requests more : List Request} {request : Request}

theorem Used.closed (used : Used requests c) : c.Closed := by
  obtain ⟨calls, unfolds⟩ := used.unfolds
  exact unfolds.closed

/-- A request comes to calls whose numbers are in range where they are made. -/
theorem Request.made (closed : c.Closed) (inRange : request.InRange c) :
    ∃ calls, Made c calls (request.serve c) := by
  cases request with
  | call call => exact ⟨[call], .one inRange⟩
  | ingest l source => exact ingest_made ⟨closed, inRange⟩ source

/-- The last request is made in the catalog that the others lead to. -/
theorem used_concat :
    Used (requests ++ [request]) d ↔
      ∃ c, Used requests c ∧ request.InRange c ∧ d = request.serve c := by
  constructor
  · intro used
    generalize whole : requests ++ [request] = all at used
    cases used with
    | start => simp at whole
    | request before last inRange =>
      obtain ⟨rfl, same⟩ := List.append_inj' whole rfl
      cases same
      exact ⟨_, before, inRange, rfl⟩
  · rintro ⟨c, used, inRange, rfl⟩
    exact used.request request inRange

/-- Requests determine the catalog that they lead to. -/
theorem Used.eq_foldl (used : Used requests c) : c = requests.foldl Request.serve initial := by
  induction used with
  | start => rfl
  | request _ _ _ ih => rw [List.foldl_append, ← ih]; rfl

/-- Numbers and names of a catalog that was reached are kept by all that is asked later. -/
theorem Used.preserves (used : Used requests c) (later : Used (requests ++ more) d) :
    c.Preserves d := by
  -- on the later requests, the last one first
  induction more using List.reverseRecOn generalizing d with
  | nil =>
    rw [List.append_nil] at later
    rw [later.eq_foldl, ← used.eq_foldl]
    exact .refl c
  | append_singleton more request ih =>
    rw [← List.append_assoc] at later
    obtain ⟨e, before, inRange, rfl⟩ := used_concat.1 later
    obtain ⟨calls, made⟩ := Request.made before.closed inRange
    exact (ih before).trans (preserves_made made)

/-! ## The main statement

The parts are those of one catalog, those of one further request, and those of all further ones. -/

/-- Whatever was asked of a catalog, every number that it stores anywhere is in range, and so is what
it answers and what it gives out. What is asked next comes to calls whose numbers are in range, also
where a reading fails halfway, and keeps all numbers valid, with the names of what they stand for;
and so does all that is asked later. -/
theorem numbers_stay_valid (used : Used requests c) :
    c.Closed ∧ c.AnswersWithin ∧ (∀ call : Call, call.GivesWithin c) ∧
      (∀ request : Request, request.InRange c →
        (∃ calls, Made c calls (request.serve c)) ∧ c.Preserves (request.serve c)) ∧
      ∀ more d, Used (requests ++ more) d → c.Preserves d := by
  have closed := used.closed
  refine ⟨closed, closed.answersWithin, closed.givesWithin, fun request inRange => ?_,
    fun more d => used.preserves⟩
  obtain ⟨calls, made⟩ := Request.made closed inRange
  exact ⟨⟨calls, made⟩, preserves_made made⟩

/-- A reading fails within a type that has a super type by then. Removing the library afterwards
takes nothing away. -/
theorem numbers_stay_valid_failing :
    let added := (Request.call (.addLibrary "dom" false .silent)).serve initial
    let source := "interface A : B \x7b attribute C c; \x7d; interface D : A \x7b attribute long"
    let c := (Request.ingest ⟨2⟩ source).serve added
    let d := (Request.call (.removeLibrary ⟨2⟩)).serve c
    (added.ingest ⟨2⟩ source).outcome.isOk = false ∧
      c.Closed ∧ c.AnswersWithin ∧ (c.type ⟨24⟩).superType = some ⟨21⟩ ∧
      (∃ calls, Made added calls c) ∧ added.Preserves c ∧
      d.typeName ⟨24⟩ = "D" ∧ (d.member ⟨0⟩).name = "c" ∧ (d.library ⟨2⟩).name = "dom" := by
  intro added source c d
  have first : Used [.call (.addLibrary "dom" false .silent)] added :=
    Used.start.request (.call (.addLibrary "dom" false .silent)) (by decide +kernel)
  have readable : (Request.ingest ⟨2⟩ source).InRange added := by decide +kernel
  have second := first.request (.ingest ⟨2⟩ source) readable
  have third := second.request (.call (.removeLibrary ⟨2⟩)) (by decide +kernel)
  obtain ⟨-, -, -, step, -⟩ := numbers_stay_valid first
  obtain ⟨closed, within, -, -, later⟩ := numbers_stay_valid second
  have facts : (added.ingest ⟨2⟩ source).outcome.isOk = false ∧
      (c.type ⟨24⟩).superType = some ⟨21⟩ ∧ 24 < c.types.size ∧ 0 < c.members.size ∧
      2 < c.libraries.size ∧ c.typeName ⟨24⟩ = "D" ∧ (c.member ⟨0⟩).name = "c" ∧
      (c.library ⟨2⟩).name = "dom" := by
    decide +kernel
  obtain ⟨fails, superType, types, members, libraries, typeName, memberName, libraryName⟩ := facts
  have kept : c.Preserves d := later [.call (.removeLibrary ⟨2⟩)] d third
  refine ⟨fails, closed, within, superType, (step _ readable).1, (step _ readable).2, ?_, ?_, ?_⟩
  · exact (kept.typeName ⟨24⟩ types).trans typeName
  · exact (kept.memberName ⟨0⟩ members).trans memberName
  · exact (kept.libraryName ⟨2⟩ libraries).trans libraryName

end IdlCatalog
