/-
# IdlCatalog.Proofs.Grammar.Filing — what a step does to members

No step of a reading takes a name out of a table, and what is in a table goes on to belong to its
type. A type that was there before has another super type afterwards only if a declaration said so,
which is an event of the step.

`Files` is what all steps have in common as far as members go. It is weak on purpose: it does not
say which member a step adds, only that tables grow, that owners are kept or given up, and that
super types change with an event. What a step adds is read off its events, `.attached` and
`.merged`, in the second part.
-/
import IdlCatalog.Proofs.Catalog.Tables
import IdlCatalog.Proofs.Grammar.Steps

namespace IdlCatalog

open Catalog

variable {c d : Catalog} {s t u : TypeId} {m : MemberId} {l : LibraryId} {name : String}
  {kind : Kind} {es : List Event} {h : History} {a : Member}

/-- What a step leaves of members and super types. -/
structure Files (c : Catalog) (es : List Event) (d : Catalog) : Prop where
  grows : Extends c d
  superType : ∀ s, s.index < c.types.size → (d.type s).superType = (c.type s).superType ∨
    ∃ u, .extended s u ∈ es
  owner : ∀ m : MemberId, m.index < c.members.size →
    (d.member m).owner = (c.member m).owner ∨ (d.member m).owner = none

/-- A step that leaves members and super types as they are. -/
theorem Files.of_same (same : SameContents c d) : Files c es d :=
  ⟨same.toExtends, fun s _ => .inl (same.superType s), fun m bound => .inl (same.owner m bound)⟩

/-- A step that files one member. -/
theorem Files.of_filed (filed : Filed c a m d) : Files c es d :=
  ⟨filed.grows, fun s _ => .inl (filed.superType s), filed.owner⟩

/-- A composite has no members. -/
theorem Catalog.Composite.bare {node : TypeNode} (composite : c.Composite node) (table : Table) :
    table.of node = ∅ := by
  cases composite <;> cases table <;> rfl

/-- A composite has no constructors. -/
theorem Catalog.Composite.constructors {node : TypeNode} (composite : c.Composite node) :
    node.constructors = #[] := by
  cases composite <;> rfl

/-- A member that was filed stays so while its documentation is asked for. -/
theorem filed_documentMember (l : LibraryId) (t : TypeId) {added : MemberId × Catalog}
    (filed : Filed c a added.1 added.2) : Filed c a added.1 (documentMember l t added).2 :=
  filed.trans (sameContents_document added.2 l (.member added.1))

/-- What an edit leaves of members. -/
theorem Edit.files (edit : Edit l c es d) : Files c es d := by
  cases edit with
  | nothing => exact .of_same (.refl c)
  | parameter => exact .of_same (.refl c)
  | compose composite =>
    refine ⟨extends_pushType c _ composite.bare composite.constructors, fun s bound => .inl ?_,
      fun _ _ => .inl rfl⟩
    rw [type_pushType, if_neg (Nat.ne_of_lt bound)]
  | @superType t u =>
    obtain ⟨grows, -, others⟩ := extends_setSuperType c t u
    refine ⟨grows, fun s _ => ?_, fun m _ => .inl (by rw [member_setSuperType])⟩
    by_cases here : s = t
    · exact .inr ⟨u, by rw [here]; exact List.mem_cons_self⟩
    · exact .inl (others s here)
  | literal => exact .of_same (sameContents_modifyType c _ fun _ => rfl)
  | modifiers => exact .of_same (sameContents_modifyType c _ fun _ => rfl)
  | mixin => exact .of_same (sameContents_addImplements c _ _)
  | property _ _ body =>
    exact .of_filed (filed_documentMember l _ (filed_enter .properties c _ body).1)
  | operation _ _ body =>
    exact .of_filed (filed_documentMember l _ (filed_enter .operations c _ body).1)
  | constructor owned =>
    exact .of_filed (filed_documentMember l _ (filed_addConstructor c _ owned.bound).1)
  | merged => exact .of_same (sameContents_mergeOperation c _ _)

/-- The type that reopens another one has it as its super type. -/
theorem files_reopened {u : TypeId} (inside : l.index < c.libraries.size)
    (free : (c.library l).types[name]? = none)
    (entered : (c.newType name .reopening).2.addType l ⟨c.types.size⟩ = .ok d) :
    (∀ es, Files c es ((d.document l (.type ⟨c.types.size⟩)).setSuperType ⟨c.types.size⟩ u)) ∧
      (((d.document l (.type ⟨c.types.size⟩)).setSuperType ⟨c.types.size⟩ u).type
        ⟨c.types.size⟩).superType = some u := by
  have introduced := (introduced_newType inside free entered).trans_quiet
    (quiet_document d l (.type ⟨c.types.size⟩))
  have same : SameContents c (d.document l (.type ⟨c.types.size⟩)) :=
    ((sameContents_newType c name .reopening).trans (sameContents_addType entered)).trans
      (sameContents_document d l _)
  generalize d.document l (.type ⟨c.types.size⟩) = e at introduced same
  obtain ⟨grows, given, others⟩ := extends_setSuperType e ⟨c.types.size⟩ u
  refine ⟨fun _ => ⟨same.toExtends.trans grows, fun s bound => .inl ?_, fun m bound => .inl ?_⟩,
    given introduced.bound⟩
  · rw [others s fun here => absurd (here ▸ bound) (Nat.lt_irrefl _), same.superType]
  · rw [member_setSuperType, same.owner m bound]

/-- A declaration attaches no member; only the type that reopens another one is given a super
type. -/
theorem Declaration.files {reopens : Bool} {answer : Except (Failure Fault) TypeId}
    (readable : c.Readable l) (declaration : Declaration l kind name c reopens answer es d) :
    Files c es d := by
  cases declaration with
  | again => exact .of_same (.refl c)
  | reopened _ _ free entered => exact (files_reopened readable.inside free entered).1 _
  | refused => exact .of_same (sameContents_newType c _ _)
  | @upgraded t _ _ _ entered =>
    have kind : SameContents c (c.setKind t kind) := sameContents_modifyType c t fun _ => rfl
    exact .of_same ((kind.trans (sameContents_addType entered)).trans (sameContents_document _ _ _))
  | created _ entered =>
    exact .of_same (((sameContents_newType c _ _).trans (sameContents_addType entered)).trans
      (sameContents_document _ _ _))

/-- What a step leaves of members. -/
theorem Step.files (readable : c.Readable l) (step : Step l c es d) : Files c es d := by
  cases step with
  | edit edit => exact edit.files
  | reference _ reference =>
    cases reference with
    | own | tier => exact .of_same (.refl c)
    | placeholder => exact .of_same (sameContents_addPlaceholder c _)
  | declaration _ _ declaration => exact declaration.files readable

/-! ## Members that a step attaches

The events carry the type that the member was declared for and the id of the member. The type that
stores it is found from these: it is the type itself, or the one that it reopens. -/

/-- The one event of an attached member names it. -/
theorem eq_of_attached {added : MemberId × Catalog}
    (inside : .attached s m ∈ (documentMember l t added).1) : s = t ∧ m = added.1 := by
  simpa [documentMember] using inside

/-- A member that a step attaches to a type enters a table, or it becomes a constructor of the
type. -/
theorem Step.of_attached (step : Step l c es d) (inside : .attached s m ∈ es) :
    ∃ a, c.Owned l s ∧
      ((∃ table : Table, table.Holds a ∧ m = (enter table c s a).1 ∧
          d = (documentMember l s (enter table c s a)).2) ∨
        a.IsOperation ∧ m = (c.addConstructor s a).1 ∧
          d = (documentMember l s (c.addConstructor s a)).2) := by
  cases step with
  | edit edit =>
    cases edit with
    | @property t a owned _ body =>
      obtain ⟨rfl, rfl⟩ := eq_of_attached inside
      exact ⟨a, owned, .inl ⟨.properties, body, rfl, rfl⟩⟩
    | @operation t a owned _ body =>
      obtain ⟨rfl, rfl⟩ := eq_of_attached inside
      exact ⟨a, owned, .inl ⟨.operations, body, rfl, rfl⟩⟩
    | @constructor t a owned _ body =>
      obtain ⟨rfl, rfl⟩ := eq_of_attached inside
      exact ⟨a, owned, .inr ⟨body, rfl, rfl⟩⟩
    | _ => simp at inside
  | reference => simp at inside
  | declaration _ _ declaration => cases declaration <;> simp [introducedEvents] at inside

/-- What a step folds an overload into is found under the name of the overload. -/
theorem Step.of_merged (step : Step l c es d) (inside : .merged s m ∈ es) :
    ∃ a, c.Owned l s ∧ (c.type (c.storage s)).operations[a.name]? = some m ∧
      d = c.mergeOperation m a := by
  cases step with
  | edit edit =>
    cases edit with
    | @merged t k a owned _ _ known =>
      simp only [List.mem_singleton, Event.merged.injEq] at inside
      obtain ⟨rfl, rfl⟩ := inside
      exact ⟨a, owned, known, rfl⟩
    | property | operation | constructor => simp [documentMember] at inside
    | _ => simp at inside
  | reference => simp at inside
  | declaration _ _ declaration => cases declaration <;> simp [introducedEvents] at inside

/-- A member that a step attaches to a type is in the table of the type that stores it, unless it is
a constructor. -/
theorem Step.attached (step : Step l c es d) (inside : .attached s m ∈ es) :
    c.Owned l s ∧ m.index < d.members.size ∧
      ((c.storage s).index < c.types.size → ∀ table : Table, table.Holds (d.member m) →
        (table = .operations → m ∉ (d.type s).constructors) →
          (d.member m).name ∈ table.of (d.type (c.storage s))) := by
  obtain ⟨a, owned, ⟨table, holds, rfl, rfl⟩ | ⟨body, rfl, rfl⟩⟩ := step.of_attached inside
  · obtain ⟨filed, entered⟩ := filed_enter table c s holds
    have settled := sameContents_document (enter table c s a).2 l (.member (enter table c s a).1)
    have final := filed_documentMember l s filed
    refine ⟨owned, final.bound, fun bound other held _ => ?_⟩
    -- a member belongs into one table only
    obtain rfl := Table.eq_of_holds _ _ ((final.alike.holds other).1 held) holds
    rw [final.alike.name, documentMember, settled.of]
    exact entered bound
  · obtain ⟨filed, listed⟩ := filed_addConstructor c a owned.bound
    have final := filed_documentMember l s filed
    refine ⟨owned, final.bound, fun _ table held unlisted => ?_⟩
    obtain rfl := Table.eq_of_holds _ .operations ((final.alike.holds table).1 held) body
    refine absurd ?_ (unlisted rfl)
    exact (sameContents_document _ l _).toExtends.constructors s _ listed

/-- A member that a step attaches belongs to the type that stores it, unless it is a constructor. -/
theorem Step.attached_owner (tables : c.Tables) (step : Step l c es d)
    (inside : .attached s m ∈ es) :
    m ∈ (d.type s).constructors ∨ (d.member m).owner = some (c.storage s) := by
  obtain ⟨a, owned, ⟨table, -, rfl, rfl⟩ | ⟨-, rfl, rfl⟩⟩ := step.of_attached inside
  · have placed := placed_enter table c s a
    have settled := sameContents_document (enter table c s a).2 l (.member (enter table c s a).1)
    refine .inr ((settled.owner _ ?_).trans (placed.owner fun taken => ?_))
    · rw [placed.size]
      exact Nat.lt_succ_self _
    · exact absurd (tables _ _ _ _ taken).1 (Nat.lt_irrefl _)
  · have listed := (filed_addConstructor c a owned.bound).2
    exact .inl ((sameContents_document _ l _).toExtends.constructors s _ listed)

/-- An operation that a step folds an overload into is in the table of the type that stores it. -/
theorem Step.merged (tables : c.Tables) (step : Step l c es d) (inside : .merged s m ∈ es) :
    c.Owned l s ∧ m.index < d.members.size ∧
      (d.member m).name ∈ Table.operations.of (d.type (c.storage s)) := by
  obtain ⟨a, owned, known, rfl⟩ := step.of_merged inside
  have same := sameContents_mergeOperation c m a
  obtain ⟨bound, -, named, -⟩ := tables .operations (c.storage s) a.name m known
  refine ⟨owned, Nat.lt_of_lt_of_le bound same.size_le, ?_⟩
  rw [(same.member m bound).name, same.of, named, Std.TreeMap.mem_iff_isSome_getElem?]
  exact Option.isSome_iff_exists.2 ⟨m, known⟩

/-- What an overload is folded into is an operation of the type that stores it. -/
theorem Step.merged_owner (tables : c.Tables) (step : Step l c es d) (inside : .merged s m ∈ es) :
    (d.member m).owner = some (c.storage s) ∧ (d.member m).IsOperation := by
  obtain ⟨a, -, known, rfl⟩ := step.of_merged inside
  have same := sameContents_mergeOperation c m a
  obtain ⟨bound, owner, -, holds⟩ := tables .operations (c.storage s) a.name m known
  exact ⟨(same.owner m bound).trans owner, ((same.member m bound).holds .operations).2 holds⟩

/-! ## Along a reading

By induction on the chain, with the fact about one step. -/

/-- Tables grow along a reading. -/
theorem Reading.grows (readable : c.Readable l) (reading : Reading l c h d) : Extends c d := by
  induction reading with
  | start => exact .refl c
  | step reading step ih => exact ih.trans (step.files (reading.readable readable)).grows

end IdlCatalog
