/-
# IdlCatalog.Proofs.Verdict — the verdict on a description is its own

What a description comes to, and which names it registers, depends on nothing that was read before.
Two catalogs may differ in every type that they hold. But a reading for a library that was just
added asks a catalog only three questions that could change its course, and both catalogs answer
alike: whether a type iterates, since no registered type does; how a declared type is called; and
whether a name is taken by a type of another owner, since a fresh library owns all its entries.

The relation between the two catalogs is the coupling `parallel`.

## The coupling

Two readings of the same text run side by side. The stores may have nothing in common but the
registries of the two libraries; types that take the same place in the two readings correspond, and
all that is asked of them is that they iterate alike. Declared types have the same name on both
sides as well.

What remains is to see that each action on the catalog keeps this. An action takes a step in either
catalog, and how steps change registries and types is known from their descriptions; no action is
looked into here.
-/
import IdlCatalog.Proofs.Session

namespace IdlCatalog

open Grammar Catalog

variable {α : Type} {w : Stores} {n : Nat} {l l₁ l₂ : LibraryId} {c c₁ c₂ d : Catalog}
  {name : String} {kind : Kind}

/-! ## Two readings for fresh libraries

A library is fresh if it owns exactly what it lists. It is so when it was just added, and readings
for it keep it so. -/

/-- A reading for a library that owns exactly what it has entries for. -/
structure Catalog.Fresh (c : Catalog) (l : LibraryId) : Prop where
  readable : c.Readable l
  owns : OwnsEntries c l

/-- The two libraries have the same name and entries for the same names. -/
structure SameRegistry (c₁ : Catalog) (l₁ : LibraryId) (c₂ : Catalog) (l₂ : LibraryId) :
    Prop where
  name : (c₁.library l₁).name = (c₂.library l₂).name
  entries : ∀ n : String, (c₁.library l₁).types[n]?.isSome = (c₂.library l₂).types[n]?.isSome

/-- Two readings for fresh libraries with the same registry. Types correspond if both or neither
iterate, and declared types if they have the same name. No failure but a fault ends the readings. -/
def parallel (l₁ l₂ : LibraryId) : Coupling where
  lib₁ := l₁
  lib₂ := l₂
  holds w := w.first.catalog.Fresh l₁ ∧ w.second.catalog.Fresh l₂ ∧
    SameRegistry w.first.catalog l₁ w.second.catalog l₂
  type w t u := t.index < w.first.catalog.types.size ∧ u.index < w.second.catalog.types.size ∧
    (w.first.catalog.type t).iterable.isSome = (w.second.catalog.type u).iterable.isSome
  named w t u := w.first.catalog.Owned l₁ t ∧ w.second.catalog.Owned l₂ u ∧
    w.first.catalog.typeName t = w.second.catalog.typeName u
  refuses _ := False

theorem SameRegistry.of_libraries {d₁ d₂ : Catalog} (same : SameRegistry c₁ l₁ c₂ l₂)
    (left : d₁.library l₁ = c₁.library l₁) (right : d₂.library l₂ = c₂.library l₂) :
    SameRegistry d₁ l₁ d₂ l₂ := by
  refine ⟨?_, ?_⟩
  · rw [left, right]
    exact same.name
  · intro n
    rw [left, right]
    exact same.entries n

/-- A step of its reading leaves a library fresh. -/
theorem Step.fresh {es : List Event} (h : c.Fresh l) (step : Step l c es d) : d.Fresh l :=
  ⟨step.readable h.readable, step.ownsEntries h.readable h.owns⟩

namespace Parallel

/-- Two actions that take a step each, keep the registries alike and come to answers that
correspond keep the coupling. -/
theorem keeps {p q : Parser α} {V : Stores → α → α → Prop}
    {P Q : Store → Except (Failure Fault) α → List Event → Catalog → Prop}
    (hp : ∀ x : Store, ∀ y : Store, (parallel l₁ l₂).Later w ⟨x, y⟩ → x.catalog.Fresh l₁ →
      p.Performs l₁ x.catalog fun answer es d => Step l₁ x.catalog es d ∧ P x answer es d)
    (hq : ∀ x : Store, ∀ y : Store, (parallel l₁ l₂).Later w ⟨x, y⟩ → y.catalog.Fresh l₂ →
      q.Performs l₂ y.catalog fun answer es d => Step l₂ y.catalog es d ∧ Q y answer es d)
    (join : ∀ x y : Store, (parallel l₁ l₂).holds ⟨x, y⟩ →
      ∀ answer₁ es₁ d₁ answer₂ es₂ d₂, P x answer₁ es₁ d₁ → Q y answer₂ es₂ d₂ →
        SameRegistry d₁ l₁ d₂ l₂ ∧ ∃ a b, answer₁ = .ok a ∧ answer₂ = .ok b ∧
          ∀ x' y' : Store, x'.catalog = d₁ → y'.catalog = d₂ → V ⟨x', y'⟩ a b) :
    (parallel l₁ l₂).Keeps w n V p q := by
  intro s₁ s₂ _ _ _ holds later
  obtain ⟨fresh₁, fresh₂, same⟩ := holds
  obtain ⟨answer₁, es₁, x, run₁, -, step₁, hP⟩ := hp s₁.store s₂.store later fresh₁ s₁ rfl
  obtain ⟨answer₂, es₂, y, run₂, -, step₂, hQ⟩ := hq s₁.store s₂.store later fresh₂ s₂ rfl
  obtain ⟨same', a, b, rfl, rfl, related⟩ :=
    join s₁.store s₂.store ⟨fresh₁, fresh₂, same⟩ _ _ _ _ _ _ hP hQ
  -- whether types iterate and how they are called is settled when they are created
  have grown : (parallel l₁ l₂).Later (.of s₁ s₂) (.of (s₁.put x) (s₂.put y)) := by
    refine ⟨?_, ?_⟩
    · rintro t u ⟨bound₁, bound₂, iterable⟩
      refine ⟨Nat.lt_of_lt_of_le bound₁ (step₁.types_size_le fresh₁.readable),
        Nat.lt_of_lt_of_le bound₂ (step₂.types_size_le fresh₂.readable), ?_⟩
      show (x.catalog.type t).iterable.isSome = (y.catalog.type u).iterable.isSome
      rw [step₁.iterable fresh₁.readable bound₁, step₂.iterable fresh₂.readable bound₂]
      exact iterable
    · rintro t u ⟨owned₁, owned₂, named⟩
      refine ⟨step₁.owned fresh₁.readable owned₁, step₂.owned fresh₂.readable owned₂, ?_⟩
      show x.catalog.typeName t = y.catalog.typeName u
      rw [step₁.typeName fresh₁.readable owned₁.bound, step₂.typeName fresh₂.readable owned₂.bound]
      exact named
  show (parallel l₁ l₂).Outcome s₁ s₂ _ V (p l₁ s₁) (q l₂ s₂)
  rw [run₁, run₂]
  exact .ok (ReadState.put_after s₁ x) (ReadState.put_after s₂ y) (Nat.zero_le _)
    ⟨step₁.fresh fresh₁, step₂.fresh fresh₂, same'⟩ grown (related x y rfl rfl)

/-- Two edits keep the coupling. -/
theorem keeps_of_edits {p q : Parser Unit} {us₁ us₂ : List TypeId}
    (hp : ∀ x y : Store, (parallel l₁ l₂).Later w ⟨x, y⟩ → p.Edits l₁ x.catalog us₁)
    (hq : ∀ x y : Store, (parallel l₁ l₂).Later w ⟨x, y⟩ → q.Edits l₂ y.catalog us₂) :
    (parallel l₁ l₂).Keeps w n Coupling.anything p q := by
  refine keeps (P := fun x answer es d => answer = .ok () ∧ Edit l₁ x.catalog es d)
    (Q := fun y answer es d => answer = .ok () ∧ Edit l₂ y.catalog es d) ?_ ?_ ?_
  · exact fun x y later _ => (hp x y later).imp fun _ _ _ h => ⟨.edit h.2.1, h.1, h.2.1⟩
  · exact fun x y later _ => (hq x y later).imp fun _ _ _ h => ⟨.edit h.2.1, h.1, h.2.1⟩
  · rintro x y ⟨-, -, same⟩ _ _ _ _ _ _ ⟨rfl, edit₁⟩ ⟨rfl, edit₂⟩
    exact ⟨same.of_libraries (edit₁.lookup l₁) (edit₂.lookup l₂), (), (), rfl, rfl,
      fun _ _ _ _ => trivial⟩

/-- Two actions that create a composite each keep the coupling if both composites iterate or
neither does. -/
theorem keeps_of_creates {p q : Parser TypeId} {node₁ node₂ : Catalog → TypeNode}
    (hp : ∀ c, p.Creates l₁ c (node₁ c)) (hq : ∀ c, q.Creates l₂ c (node₂ c))
    (composite : ∀ x y : Store, (parallel l₁ l₂).Later w ⟨x, y⟩ →
      x.catalog.Composite (node₁ x.catalog) ∧ y.catalog.Composite (node₂ y.catalog))
    (iterable : ∀ c d, (node₁ c).iterable.isSome = (node₂ d).iterable.isSome) :
    (parallel l₁ l₂).Keeps w n (parallel l₁ l₂).type p q := by
  refine keeps
    (P := fun x answer _ d => answer = .ok ⟨x.catalog.types.size⟩ ∧
      d = (x.catalog.pushType (node₁ x.catalog)).2)
    (Q := fun y answer _ d => answer = .ok ⟨y.catalog.types.size⟩ ∧
      d = (y.catalog.pushType (node₂ y.catalog)).2) ?_ ?_ ?_
  · intro x y later _
    refine (hp x.catalog).imp ?_
    rintro _ _ _ ⟨rfl, rfl, rfl⟩
    exact ⟨.edit (.compose (composite x y later).1), rfl, rfl⟩
  · intro x y later _
    refine (hq y.catalog).imp ?_
    rintro _ _ _ ⟨rfl, rfl, rfl⟩
    exact ⟨.edit (.compose (composite x y later).2), rfl, rfl⟩
  · rintro x y ⟨-, -, same⟩ _ _ _ _ _ _ ⟨rfl, rfl⟩ ⟨rfl, rfl⟩
    refine ⟨same.of_libraries rfl rfl, _, _, rfl, rfl, ?_⟩
    intro x' y' eq₁ eq₂
    refine ⟨?_, ?_, ?_⟩
    · rw [eq₁, types_size_pushType]
      exact Nat.lt_succ_self _
    · rw [eq₂, types_size_pushType]
      exact Nat.lt_succ_self _
    · rw [eq₁, eq₂, type_pushType, type_pushType, if_pos rfl, if_pos rfl]
      exact iterable _ _

/-! ### Actions on names

A reference may create a placeholder on one side and not on the other: what a name stands for may
differ, and only whether it iterates counts. -/

theorem resolve_keeps (plain : name ≠ globalsName) :
    (parallel l₁ l₂).Keeps w n (parallel l₁ l₂).type (resolve name) (resolve name) := by
  refine keeps (P := fun x answer _ d => ∃ t, answer = .ok t ∧ Reference l₁ name x.catalog t d)
    (Q := fun y answer _ d => ∃ t, answer = .ok t ∧ Reference l₂ name y.catalog t d) ?_ ?_ ?_
  · intro x y _ _
    refine (resolve_performs plain).imp ?_
    rintro _ _ _ ⟨t, rfl, rfl, reference⟩
    exact ⟨.reference plain reference, t, rfl, reference⟩
  · intro x y _ _
    refine (resolve_performs plain).imp ?_
    rintro _ _ _ ⟨t, rfl, rfl, reference⟩
    exact ⟨.reference plain reference, t, rfl, reference⟩
  · rintro x y ⟨fresh₁, fresh₂, same⟩ _ _ _ _ _ _ ⟨t, rfl, reference₁⟩ ⟨u, rfl, reference₂⟩
    have step₁ : Step l₁ x.catalog _ _ := .reference plain reference₁
    have step₂ : Step l₂ y.catalog _ _ := .reference plain reference₂
    refine ⟨⟨?_, ?_⟩, t, u, rfl, rfl, ?_⟩
    · rw [step₁.libraryName fresh₁.readable, step₂.libraryName fresh₂.readable]
      exact same.name
    · intro n
      rw [reference₁.lookup fresh₁.readable.registry plain fresh₁.readable.ne_hidden,
        reference₂.lookup fresh₂.readable.registry plain fresh₂.readable.ne_hidden]
      exact same.entries n
    · rintro _ _ rfl rfl
      have entry₁ := reference₁.isEntry fresh₁.readable.registry
      have entry₂ := reference₂.isEntry fresh₂.readable.registry
      refine ⟨entry₁.bound, entry₂.bound, ?_⟩
      rw [entry₁.iterable, entry₂.iterable]

theorem declareNamed_keeps (reopens : Bool) (declared : kind.IsDeclared)
    (plain : name ≠ globalsName) :
    (parallel l₁ l₂).Keeps w n (parallel l₁ l₂).named (declareNamed kind reopens name)
      (declareNamed kind reopens name) := by
  refine keeps (P := fun x answer es d => Declaration l₁ kind name x.catalog reopens answer es d)
    (Q := fun y answer es d => Declaration l₂ kind name y.catalog reopens answer es d) ?_ ?_ ?_
  · intro x y _ fresh
    exact (declareNamed_performs fresh.readable plain reopens).imp fun _ _ _ declaration =>
      ⟨.declaration plain declared declaration, declaration⟩
  · intro x y _ fresh
    exact (declareNamed_performs fresh.readable plain reopens).imp fun _ _ _ declaration =>
      ⟨.declaration plain declared declaration, declaration⟩
  -- a fresh library owns its entries, so neither declaration can be refused
  · rintro x y ⟨fresh₁, fresh₂, same⟩ _ _ _ _ _ _ declaration₁ declaration₂
    obtain ⟨⟨t, rfl, entry₁, named₁⟩, others₁⟩ :=
      declaration₁.declares fresh₁.readable fresh₁.owns plain declared
    obtain ⟨⟨u, rfl, entry₂, named₂⟩, others₂⟩ :=
      declaration₂.declares fresh₂.readable fresh₂.owns plain declared
    have step₁ : Step l₁ x.catalog _ _ := .declaration plain declared declaration₁
    have step₂ : Step l₂ y.catalog _ _ := .declaration plain declared declaration₂
    refine ⟨⟨?_, ?_⟩, t, u, rfl, rfl, ?_⟩
    · rw [step₁.libraryName fresh₁.readable, step₂.libraryName fresh₂.readable]
      exact same.name
    · intro n
      by_cases here : n = name
      · rw [here, entry₁, entry₂]
        rfl
      · rw [others₁ n here, others₂ n here]
        exact same.entries n
    · rintro _ _ rfl rfl
      exact ⟨declaration_owned fresh₁.readable plain declared declaration₁,
        declaration_owned fresh₂.readable plain declared declaration₂, named₁.trans named₂.symm⟩

/-! ### Actions on members

Members are attached to types that correspond. Where they are stored may differ, since one of the
types may be a reopening and the other not. -/

/-- A way to attach members keeps the coupling if it makes edits. -/
theorem attach_keeps {t u : TypeId} {a b : Member} {attach : TypeId → Member → Parser Unit}
    (tu : (parallel l₁ l₂).named w t u)
    (ab : Member.Corresponds ((parallel l₁ l₂).type w) a b)
    (left : ∀ d : Catalog, d.Owned l₁ t → a.Ready d → (attach t a).Edits l₁ d [])
    (right : ∀ d : Catalog, d.Owned l₂ u → b.Ready d → (attach u b).Edits l₂ d []) :
    (parallel l₁ l₂).Keeps w n Coupling.anything (attach t a) (attach u b) := by
  exact keeps_of_edits
    (fun x _ later =>
      left x.catalog (later.named tu).1 ((ab.imp later.type).ready_left fun tu => tu.1))
    fun _ y later =>
      right y.catalog (later.named tu).2.1 ((ab.imp later.type).ready_right fun tu => tu.2.1)

end Parallel

theorem iterableOf_isSome {R : TypeId → TypeId → Prop} {ts us : List TypeId}
    (related : List.Forall₂ R ts us) : (iterableOf ts).isSome = (iterableOf us).isSome := by
  cases related <;> rfl

theorem parallel_lawfulTypes : (parallel l₁ l₂).LawfulTypes where
  resolve plain := Parallel.resolve_keeps plain
  wrap wrapper tu :=
    Parallel.keeps_of_creates (fun c => wrap_creates _ _ _) (fun c => wrap_creates _ _ _)
      (fun _ _ later => ⟨.wrapper wrapper (later.type tu).1, .wrapper wrapper (later.type tu).2.1⟩)
      fun _ _ => rfl
  genericOf name related := by
    refine Parallel.keeps_of_creates (fun c => genericOf_creates name _)
      (fun c => genericOf_creates name _) (fun _ _ later => ⟨?_, ?_⟩) fun c d => ?_
    · exact .generic name (forall_left related fun tu => (later.type tu).1)
    · exact .generic name (forall_right related fun tu => (later.type tu).2.1)
    · rw [genericNode, genericNode]
      split
      · exact iterableOf_isSome related
      · rfl
  unionOf related := by
    refine Parallel.keeps_of_creates (fun c => unionOf_creates _) (fun c => unionOf_creates _)
      (fun _ _ later => ⟨?_, ?_⟩) fun _ _ => rfl
    · exact .union (forall_left related fun tu => (later.type tu).1)
    · exact .union (forall_right related fun tu => (later.type tu).2.1)

/-- Readings for fresh libraries with the same registry go the same way. -/
theorem parallel_lawful (l₁ l₂ : LibraryId) : (parallel l₁ l₂).Lawful where
  toLawfulTypes := parallel_lawfulTypes
  iterable _ tu := tu.2.2
  typeName _ tu := tu.2.2
  globals {w} holds := by
    obtain ⟨fresh₁, fresh₂, -⟩ := holds
    refine ⟨globals_owned fresh₁.readable, globals_owned fresh₂.readable, ?_⟩
    have left := (fresh₁.readable.registry.globals fresh₁.readable.inside).name
    have right := (fresh₂.readable.registry.globals fresh₂.readable.inside).name
    exact left.trans right.symm
  declareNamed reopens declared plain := Parallel.declareNamed_keeps reopens declared plain
  setTarget tu targets :=
    Parallel.keeps_of_edits
      (fun _ _ later => setTarget_edits (later.named tu).1 (later.type targets).1)
      fun _ _ later => setTarget_edits (later.named tu).2.1 (later.type targets).2.1
  giveSuperType tu targets :=
    Parallel.keeps_of_edits
      (fun _ _ later => giveSuperType_edits (later.named tu).1 (later.type targets).1)
      fun _ _ later => giveSuperType_edits (later.named tu).2.1 (later.type targets).2.1
  addLiteral literal tu :=
    Parallel.keeps_of_edits (fun _ _ later => modify_edits (.literal (later.named tu).1 literal))
      fun _ _ later => modify_edits (.literal (later.named tu).2.1 literal)
  addImplements {w n t u base₁ base₂} tu bases := by
    have bounds {w'} (later : (parallel l₁ l₂).Later w w') :
        t.index < w'.first.catalog.types.size ∧ u.index < w'.second.catalog.types.size := by
      rcases tu with type | named
      · exact ⟨(later.type type).1, (later.type type).2.1⟩
      · exact ⟨(later.named named).1.bound, (later.named named).2.1.bound⟩
    exact Parallel.keeps_of_edits
      (fun _ _ later => modify_edits (.mixin (bounds later).1 (later.type bases).1))
      fun _ _ later => modify_edits (.mixin (bounds later).2 (later.type bases).2.1)
  addModifiers modifiers tu :=
    Parallel.keeps_of_edits
      (fun _ _ later => modify_edits (.modifiers (later.named tu).1 modifiers))
      fun _ _ later => modify_edits (.modifiers (later.named tu).2.1 modifiers)
  noteParameter pq :=
    Parallel.keeps_of_edits (fun _ _ later => noteParameter_edits (later.type pq.type).1)
      fun _ _ later => noteParameter_edits (later.type pq.type).2.1
  attachProperty tu ab body := Parallel.attach_keeps tu ab
    (fun _ owned ready => attachProperty_edits owned ready body)
    fun _ owned ready => attachProperty_edits owned ready (ab.isProperty body)
  attachOperation tu ab body := Parallel.attach_keeps tu ab
    (fun _ owned ready => attachOperation_edits owned ready body)
    fun _ owned ready => attachOperation_edits owned ready (ab.isOperation body)
  attachConstructor tu ab body := Parallel.attach_keeps tu ab
    (fun _ owned ready => attachConstructor_edits owned ready body)
    fun _ owned ready => attachConstructor_edits owned ready (ab.isOperation body)
  attachOverload tu ab body := Parallel.attach_keeps tu ab
    (fun _ owned ready => attachOverload_edits owned ready body)
    fun _ owned ready => attachOverload_edits owned ready (ab.isOperation body)

/-! ## Whole descriptions

Both libraries start with no entries and the same name. -/

/-- The library that was just added to a sound catalog is fresh. -/
theorem fresh_addLibrary (h : Registry c) (name : String) (readOnly : Bool)
    (docs : DocumentationProvider) :
    (c.addLibrary name readOnly docs).2.Fresh (c.addLibrary name readOnly docs).1 :=
  ⟨readable_addLibrary h name readOnly docs, ownsEntries_addLibrary h name readOnly docs⟩

/-- Two libraries of one name that were just added have no entries. -/
theorem sameRegistry_addLibrary (c₁ c₂ : Catalog) (name : String) (readOnly₁ readOnly₂ : Bool)
    (docs₁ docs₂ : DocumentationProvider) :
    SameRegistry (c₁.addLibrary name readOnly₁ docs₁).2 (c₁.addLibrary name readOnly₁ docs₁).1
      (c₂.addLibrary name readOnly₂ docs₂).2 (c₂.addLibrary name readOnly₂ docs₂).1 := by
  refine ⟨?_, ?_⟩
  · rw [library_addLibrary, library_addLibrary, addLibrary_fst, addLibrary_fst, if_pos rfl,
      if_pos rfl]
  · intro n
    rw [library_addLibrary, library_addLibrary, addLibrary_fst, addLibrary_fst, if_pos rfl,
      if_pos rfl]

/-- Fresh libraries with the same registry come to the same outcome, which is no failure but a
fault in the description, and their registries are alike afterwards. -/
theorem ingest_parallel (fresh₁ : c₁.Fresh l₁) (fresh₂ : c₂.Fresh l₂)
    (same : SameRegistry c₁ l₁ c₂ l₂) (source : String) :
    (c₁.ingest l₁ source).outcome = (c₂.ingest l₂ source).outcome ∧
      ((c₁.ingest l₁ source).outcome = .ok () ∨
        ∃ e, (c₁.ingest l₁ source).outcome = .error (.malformed e)) ∧
      SameRegistry (c₁.ingest l₁ source).catalog l₁ (c₂.ingest l₂ source).catalog l₂ := by
  have outcome := (Coupling.description_keeps (parallel_lawful l₁ l₂)).outcome
    (ReadState.start_sameTokens _ c₁ c₂) (ReadState.start_plain source.toList c₁)
    ⟨fresh₁, fresh₂, same⟩
  rw [ingest_eq, ingest_eq]
  change (parallel l₁ l₂).Outcome _ _ _ _ (description l₁ _) (description l₂ _) at outcome
  generalize description l₁ (ReadState.start (Lexer.tokens source.toList) c₁) = run₁ at outcome
  generalize description l₂ (ReadState.start (Lexer.tokens source.toList) c₂) = run₂ at outcome
  -- either both are accepted or both end with the same fault
  cases outcome with
  | ok _ _ _ holds => exact ⟨rfl, .inl rfl, holds.2.2⟩
  | @error failure s₁ s₂ _ _ _ refused holds =>
    have same := holds.2.2
    cases refused with
    | other refuses => exact absurd refuses id
    | @malformed fault =>
      -- of the catalog only the name of the library enters an error
      have located : s₁.catalog.locateFailure l₁ source.toList (.malformed fault) =
          s₂.catalog.locateFailure l₂ source.toList (.malformed fault) := by
        have name : (s₁.catalog.library l₁).name = (s₂.catalog.library l₂).name := same.name
        rw [locateFailure, locateFailure, name]
      exact ⟨congrArg Except.error located, .inr ⟨_, rfl⟩, same⟩

/-- The verdict on a description depends on the description and the name of the library alone.
Whatever was added, read and removed before, a library that was just added comes to the same
outcome, with the same error in every field, and then registers the same names. It never happens
that the library would give one name to two types. -/
theorem verdict_independent (commands₁ commands₂ : List Command) (name : String)
    (readOnly₁ readOnly₂ : Bool) (docs₁ docs₂ : DocumentationProvider) (source : String) :
    let a := (after commands₁).addLibrary name readOnly₁ docs₁
    let b := (after commands₂).addLibrary name readOnly₂ docs₂
    let first := a.2.ingest a.1 source
    let second := b.2.ingest b.1 source
    first.outcome = second.outcome ∧
      (first.outcome = .ok () ∨ ∃ e : SyntaxError, first.outcome = .error (.malformed e)) ∧
      ∀ n : String, (first.catalog.library a.1).types[n]?.isSome =
        (second.catalog.library b.1).types[n]?.isSome := by
  intro a b first second
  have registry₁ := registry_after commands₁
  have registry₂ := registry_after commands₂
  obtain ⟨outcomes, verdict, same⟩ :=
    ingest_parallel (fresh_addLibrary registry₁ name readOnly₁ docs₁)
      (fresh_addLibrary registry₂ name readOnly₂ docs₂)
      (sameRegistry_addLibrary _ _ name readOnly₁ readOnly₂ docs₁ docs₂) source
  exact ⟨outcomes, verdict, same.entries⟩

end IdlCatalog
