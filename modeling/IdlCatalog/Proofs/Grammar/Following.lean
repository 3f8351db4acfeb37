/-
# IdlCatalog.Proofs.Grammar.Following — every reading is a chain of steps

Each action of the grammar on the catalog performs one step of `Step`. A reading therefore follows
a chain of steps, which is a coupling of the reading with itself: `following`. The grammar keeps it,
whether the reading comes to its end or fails, so `Catalog.ingest` is such a chain as well.

This is where the productions meet the catalog. Above this module a reading is a run of the grammar;
below it, in the results, it is a list of steps. The passage is one coupling. Its `holds` says that
both stores are the same and that a chain of steps leads to the catalog, with the journal of the
reading as its events; whatever keeps `Stands` in one action keeps it in the grammar.
-/
import IdlCatalog.Proofs.Grammar.Steps

namespace IdlCatalog

open Grammar Catalog

variable {α : Type} {c d : Catalog} {t u : TypeId} {l : LibraryId} {name : String} {kind : Kind}

/-! ## What actions perform

`Performs` describes a parser from one catalog on: which answer it gives, which events it notes and
which catalog it leaves, whatever the tokens are. The statements about actions below are of this
form, and each names the step that is taken. -/

/-- On `c` the action reads nothing and comes to an answer, events and a catalog as `Q` says. -/
def Parser.Performs (p : Parser α) (l : LibraryId) (c : Catalog)
    (Q : Except (Failure Fault) α → List Event → Catalog → Prop) : Prop :=
  ∀ s : ReadState, s.catalog = c → ∃ answer es x, p l s = (answer, s.put x) ∧
    x.journal.toList = s.journal.toList ++ es ∧ Q answer es x.catalog

/-- What is performed may be described more loosely. -/
theorem Parser.Performs.imp {p : Parser α}
    {Q Q' : Except (Failure Fault) α → List Event → Catalog → Prop} (h : p.Performs l c Q)
    (imp : ∀ answer es d, Q answer es d → Q' answer es d) : p.Performs l c Q' := by
  intro s eq
  obtain ⟨answer, es, x, run, journal, q⟩ := h s eq
  exact ⟨answer, es, x, run, journal, imp _ _ _ q⟩

/-- What a reference comes to. -/
def refer (l : LibraryId) (name : String) (c : Catalog) : TypeId × Catalog :=
  match ((c.library l).get? name).filter fun t => !c.isReopening t with
  | some t => (t, c)
  | none =>
    match c.resolve? name with
    | some t => (t, c)
    | none => c.addPlaceholder name

/-- To look a name up is a step. -/
theorem refer_reference (plain : name ≠ globalsName) :
    Reference l name c (refer l name c).1 (refer l name c).2 := by
  have passed (none : ((c.library l).types[name]?.filter fun t => !c.isReopening t) = none) (u) :
      (c.library l).types[name]? = some u → c.isReopening u = true := by
    intro entry
    simpa [entry] using none
  rw [refer, Registry.get?_eq plain]
  split
  · next t own =>
    obtain ⟨entry, stands⟩ := Option.filter_eq_some_iff.1 own
    exact .own entry (by simpa using stands)
  · next none =>
    split
    · next t found => exact .tier (passed none) found
    · next unknown => exact .placeholder (passed none) unknown

/-- A mention answers with the type that it looked up and notes the mention. -/
theorem resolve_performs (plain : name ≠ globalsName) :
    (resolve name).Performs l c fun answer es d =>
      ∃ t, answer = .ok t ∧ es = [.referenced name t] ∧ Reference l name c t d := by
  rintro s rfl
  let found := refer l name s.catalog
  refine ⟨.ok found.1, [.referenced name found.1],
    ⟨found.2, s.journal.push (.referenced name found.1)⟩, rfl, by simp, ?_⟩
  exact ⟨found.1, rfl, rfl, refer_reference plain⟩

/-! ### Composites

Types that are made of others are pushed at the end of the types and then completed. The entry that
results is written down at once as a node, so that the step is a single one. -/

theorem pushType_modifyType (c : Catalog) (node : TypeNode) (f : TypeNode → TypeNode) :
    (c.pushType node).2.modifyType ⟨c.types.size⟩ f = (c.pushType (f node)).2 := by
  have types : (c.types.push node).modify c.types.size f = c.types.push (f node) := by
    refine Array.ext (by simp) fun i lt _ => ?_
    rw [Array.getElem_modify, Array.getElem_push, Array.getElem_push]
    simp only [Array.size_modify, Array.size_push] at lt
    by_cases last : c.types.size = i
    · subst last
      simp
    · have inside : i < c.types.size := by omega
      simp [last, inside]
  simp only [pushType, modifyType, types]

/-- Creating a composite with its arguments creates one entry that holds them. -/
theorem foldl_pushTypeArgument (c : Catalog) (node : TypeNode) (arguments : List TypeId) :
    arguments.foldl (fun d argument => d.pushTypeArgument ⟨c.types.size⟩ argument)
        (c.pushType node).2 =
      (c.pushType { node with types := node.types ++ arguments.toArray }).2 := by
  induction arguments generalizing node with
  | nil => simp
  | cons argument arguments ih =>
    rw [List.foldl_cons, pushTypeArgument, pushType_modifyType, ih]
    simp

/-- The action creates the entry, and its number is the answer. -/
abbrev Parser.Creates (p : Parser TypeId) (l : LibraryId) (c : Catalog) (node : TypeNode) : Prop :=
  p.Performs l c fun answer es d =>
    answer = .ok ⟨c.types.size⟩ ∧ es = [] ∧ d = (c.pushType node).2

theorem creates_of_apply {p : Parser TypeId} {node : TypeNode}
    (run : ∀ s : ReadState, s.catalog = c →
      p l s = (.ok ⟨c.types.size⟩, s.put ⟨(c.pushType node).2, s.journal⟩)) :
    p.Creates l c node := by
  intro s eq
  exact ⟨_, [], _, run s eq, by simp, rfl, rfl, rfl⟩

/-- A wrapper around a type creates one entry. -/
theorem wrap_creates (kind : Kind) (rendered : String → String) (t : TypeId) :
    (wrap kind rendered t).Creates l c (c.wrapperNode kind rendered t) := by
  refine creates_of_apply ?_
  rintro s rfl
  rfl

theorem newWithArguments_apply (kind : Kind) (superType : Option TypeId) (arguments : List TypeId)
    (rendered : List String → String) (s : ReadState) :
    newWithArguments kind superType arguments rendered l s =
      (.ok ⟨s.catalog.types.size⟩, s.put ⟨(s.catalog.pushType
        { TypeNode.new (rendered (arguments.map s.catalog.typeName)) kind with
          library := some Catalog.hidden, superType, types := arguments.toArray }).2,
        s.journal⟩) := by
  have fold := foldl_pushTypeArgument s.catalog
    { TypeNode.new (rendered (arguments.map s.catalog.typeName)) kind with
      library := some Catalog.hidden, superType } arguments
  simp only [TypeNode.new, Array.empty_append] at fold
  simp only [newWithArguments, Parser.change, newSynthesized, TypeNode.new, ReadState.put, ← fold]
  rfl

/-- A union creates one entry. -/
theorem unionOf_creates (branches : List TypeId) :
    (unionOf branches).Creates l c (c.unionNode branches) := by
  refine creates_of_apply ?_
  rintro s rfl
  exact newWithArguments_apply .union none branches _ s

/-- A generic type creates one entry. -/
theorem genericOf_creates (name : String) (arguments : List TypeId) :
    (genericOf name arguments).Creates l c (c.genericNode name arguments) := by
  refine creates_of_apply ?_
  rintro s rfl
  rw [genericOf, Parser.bind_apply, newWithArguments_apply, genericNode]
  by_cases iterable : name = "iterable"
  · simp only [iterable, if_true]
    cases pair : iterableOf arguments with
    | none => rfl
    | some entry =>
      -- setting what is iterated over is part of creating the entry
      have set := pushType_modifyType s.catalog
        { TypeNode.new ("iterable" ++ "<" ++ ", ".intercalate (arguments.map s.catalog.typeName) ++
            ">") .generic with
          library := some Catalog.hidden, superType := arguments.getLast?,
          types := arguments.toArray } fun node => { node with iterable := some entry }
      rw [← set]
      rfl
  · simp only [iterable, if_false]
    rfl

/-! ### Declarations

`introduce` enters a type into the library and asks for its documentation. The three ways to declare
a name differ in the type they enter; the two errors, a name that the library has for a type of
another one, come from `addType` alone. -/

/-- The store after a type was introduced. -/
def introducedStore (s : ReadState) (l : LibraryId) (name : String) (t : TypeId) (reopens : Bool)
    (d : Catalog) : Store :=
  ⟨d.document l (.type t), (s.journal.push (.declared name t reopens)).push
    (.asked l (.type t) (d.artifactPath (.type t)))⟩

theorem journal_introducedStore (s : ReadState) (l : LibraryId) (name : String) (t : TypeId)
    (reopens : Bool) (d : Catalog) :
    (introducedStore s l name t reopens d).journal.toList =
      s.journal.toList ++ introducedEvents l name t reopens d := by
  simp [introducedStore, introducedEvents]

/-- A type that can be entered is entered and asked about. -/
theorem introduce_apply {s : ReadState} (entered : c.addType l t = .ok d) (here : s.catalog = c)
    (reopens : Bool) :
    introduce name t reopens l s = (.ok (), s.put (introducedStore s l name t reopens d)) := by
  subst here
  rw [introduce, Parser.bind_apply, Parser.register, entered]
  rfl

/-- A type that cannot be entered leaves the state as it was. -/
theorem introduce_apply_error {s : ReadState} {e : DuplicateType}
    (refused : c.addType l t = .error e) (here : s.catalog = c) (reopens : Bool) :
    introduce name t reopens l s = (.error (.duplicate e), s) := by
  subst here
  rw [introduce, Parser.bind_apply, Parser.register, refused]

/-- A new type can be entered under a name that the library has no entry for. -/
theorem addType_newType (kind : Kind) (inside : l.index < c.libraries.size)
    (free : (c.library l).types[name]? = none) :
    ∃ d, (c.newType name kind).2.addType l ⟨c.types.size⟩ = .ok d := by
  have entry : ((c.newType name kind).2.library l).types[
      (c.newType name kind).2.typeName ⟨c.types.size⟩]? = none := by
    rw [typeName_newType]
    exact free
  obtain ⟨d, ok, -⟩ := addType_ok (c := (c.newType name kind).2) (t := ⟨c.types.size⟩) inside
    (.inl entry)
  exact ⟨d, ok⟩

/-- A type that is known can be entered again under its name. -/
theorem addType_setKind (kind : Kind) (inside : l.index < c.libraries.size)
    (entry : c.IsEntry name t)
    (free : (c.library l).types[name]? = none ∨ (c.library l).types[name]? = some t) :
    ∃ d, (c.setKind t kind).addType l t = .ok d := by
  have same : (c.setKind t kind).typeName t = name := by
    rw [typeName_setKind]
    exact entry.name
  obtain ⟨d, ok, -⟩ := addType_ok (c := c.setKind t kind) (t := t) inside (same.symm ▸ free)
  exact ⟨d, ok⟩

/-- What is known under a name leaves the name free in the library, or is what the library has. -/
theorem existing?_free (plain : name ≠ globalsName) (known : existing? l name c = some t) :
    (c.library l).types[name]? = none ∨ (c.library l).types[name]? = some t := by
  rw [existing?_eq plain, Option.or_eq_some_iff] at known
  exact known.symm.imp And.left id

/-- A new type is made and entered. -/
theorem createNamed_apply {s : ReadState} (reopens : Bool)
    (ok : (s.catalog.newType name kind).2.addType l ⟨s.catalog.types.size⟩ = .ok d) :
    createNamed kind reopens name l s =
      (.ok ⟨s.catalog.types.size⟩,
        s.put (introducedStore s l name ⟨s.catalog.types.size⟩ reopens d)) := by
  let new : TypeId := ⟨s.catalog.types.size⟩
  show (introduce name new reopens >>= fun _ => (pure new : Parser TypeId)) l
    { s with catalog := (s.catalog.newType name kind).2 } = _
  rw [Parser.bind_apply, introduce_apply ok rfl]
  rfl

/-- A type that was known gets its kind and is entered. -/
theorem upgradeNamed_apply {s : ReadState} (reopens : Bool)
    (ok : (s.catalog.setKind t kind).addType l t = .ok d) :
    upgradeNamed kind reopens name t l s =
      (.ok t, s.put (introducedStore s l name t reopens d)) := by
  show (introduce name t reopens >>= fun _ => (pure t : Parser TypeId)) l
    { s with catalog := s.catalog.setKind t kind } = _
  rw [Parser.bind_apply, introduce_apply ok rfl]
  rfl

/-- To reopen a type of another library makes a type for this one, or is refused where the library
still has an entry of that name. -/
theorem reopenNamed_performs (kind : Kind) (readable : c.Readable l) (plain : name ≠ globalsName)
    (known : existing? l name c = some t) (other : (c.type t).library ≠ some l) :
    (reopenNamed true name t).Performs l c fun answer es d =>
      Declaration l kind name c true answer es d := by
  rintro s rfl
  let new : TypeId := ⟨s.catalog.types.size⟩
  have unfolded : reopenNamed true name t l s =
      (introduce name new true >>= fun _ => Parser.modify (·.setSuperType new t) >>= fun _ =>
        pure new) l { s with catalog := (s.catalog.newType name .reopening).2 } := rfl
  rw [unfolded, Parser.bind_apply]
  rcases existing?_free plain known with free | taken
  · obtain ⟨d, ok⟩ := addType_newType .reopening readable.inside free
    rw [introduce_apply ok rfl]
    let final : Store := ⟨(d.document l (.type new)).setSuperType new t,
      (introducedStore s l name new true d).journal⟩
    exact ⟨.ok new, introducedEvents l name new true d, final, rfl,
      journal_introducedStore s l name new true d, .reopened known other free ok⟩
  -- the entry of another owner stays, and the new type is left without a library
  · have taken_new : ((s.catalog.newType name .reopening).2.library l).types[
        (s.catalog.newType name .reopening).2.typeName new]? = some t := by
      rw [typeName_newType]
      exact taken
    have different : t ≠ new := by
      rintro rfl
      exact absurd (readable.registry.entry taken).bound (Nat.lt_irrefl _)
    have error := addType_error taken_new different
    rw [typeName_newType] at error
    rw [introduce_apply_error error rfl]
    exact ⟨_, [], ⟨(s.catalog.newType name .reopening).2, s.journal⟩, rfl, by simp,
      .refused known other taken⟩

/-- A declaration takes one of the steps of `Declaration`. -/
theorem declareNamed_performs (readable : c.Readable l) (plain : name ≠ globalsName)
    (reopens : Bool) :
    (declareNamed kind reopens name).Performs l c fun answer es d =>
      Declaration l kind name c reopens answer es d := by
  rintro s rfl
  have inside := readable.inside
  have unfolded : declareNamed kind reopens name l s =
      declareOver l kind reopens name (existing? l name s.catalog) l s := rfl
  rw [unfolded]
  cases known : existing? l name s.catalog with
  | none =>
    obtain ⟨d, ok⟩ := addType_newType kind inside (existing?_eq_none plain known).1
    refine ⟨_, _, _, ?_, journal_introducedStore s l name _ reopens d, .created known ok⟩
    cases reopens <;> exact createNamed_apply _ ok
  | some t =>
    cases reopens with
    | false =>
      have free := existing?_free plain known
      obtain ⟨d, ok⟩ := addType_setKind kind inside
        (existing?_isEntry readable.registry plain known) free
      exact ⟨_, _, _, upgradeNamed_apply false ok, journal_introducedStore s l name t false d,
        .upgraded known free ok⟩
    | true =>
      by_cases own : (s.catalog.type t).library = some l
      · refine ⟨.ok t, _, ⟨s.catalog, s.journal.push (.declared name t true)⟩, ?_, by simp,
          .again known own⟩
        simp only [declareOver, Parser.bind_apply, Parser.view, own, if_true]
        rfl
      · have reopened := reopenNamed_performs kind readable plain known own s rfl
        simp only [declareOver, Parser.bind_apply, Parser.view, own, if_false]
        exact reopened

/-! ### Edits

The actions that write into a type. What each requires, an owner, a bound, a body of the right sort,
is what the grammar has established by then. -/

/-- An action without an answer that makes one edit, and gives no super types but the listed
ones. -/
abbrev Parser.Edits (p : Parser Unit) (l : LibraryId) (c : Catalog) (superTypes : List TypeId) :
    Prop :=
  p.Performs l c fun answer es d => answer = .ok () ∧ Edit l c es d ∧
    ∀ t u, .extended t u ∈ es → u ∈ superTypes

theorem modify_edits {f : Catalog → Catalog} (edit : Edit l c [] (f c)) :
    (Parser.modify f).Edits l c [] := by
  rintro s rfl
  exact ⟨_, [], ⟨f s.catalog, s.journal⟩, rfl, by simp, rfl, edit, nofun⟩

/-- A type is given its super type. -/
theorem giveSuperType_edits (owned : c.Owned l t) (bound : u.index < c.types.size) :
    (giveSuperType t u).Edits l c [u] := by
  rintro s rfl
  exact ⟨_, [.extended t u], ⟨s.catalog.setSuperType t u, s.journal.push (.extended t u)⟩, rfl,
    by simp, rfl, .superType owned bound, by simp⟩

/-- A type is given what it stands for, unless this is the type itself. -/
theorem setTarget_edits (owned : c.Owned l t) (bound : u.index < c.types.size) :
    (setTarget t u).Edits l c [u] := by
  rintro s rfl
  by_cases same : u = t
  · refine ⟨.ok (), [], s.store, ?_, by simp [ReadState.store], rfl, .nothing, nofun⟩
    rw [setTarget, if_neg (not_not.2 same)]
    rfl
  · rw [setTarget, if_pos same]
    exact giveSuperType_edits owned bound s rfl

theorem noteParameter_edits {p : Parameter} (bound : p.type.index < c.types.size) :
    (Parser.note (.parameter p)).Edits l c [] := by
  rintro s rfl
  exact ⟨_, [.parameter p], ⟨s.catalog, s.journal.push (.parameter p)⟩, rfl, by simp, rfl,
    .parameter bound, by simp⟩

/-- The store after a member was attached. -/
def attachedStore (s : ReadState) (l : LibraryId) (t : TypeId) (added : MemberId × Catalog) :
    Store :=
  ⟨(documentMember l t added).2, (s.journal.push (.attached t added.1)).push
    (.asked l (.member added.1) (added.2.artifactPath (.member added.1)))⟩

theorem journal_attachedStore (s : ReadState) (l : LibraryId) (t : TypeId)
    (added : MemberId × Catalog) : (attachedStore s l t added).journal.toList =
      s.journal.toList ++ (documentMember l t added).1 := by
  simp [attachedStore, documentMember]

variable {a : Member}

/-- A property is attached and its documentation asked for. -/
theorem attachProperty_edits (owned : c.Owned l t) (ready : a.Ready c) (body : a.IsProperty) :
    (attachProperty t a).Edits l c [] := by
  rintro s rfl
  exact ⟨_, _, attachedStore s l t (s.catalog.addProperty t a), rfl, journal_attachedStore _ _ _ _,
    rfl, .property owned ready body, by simp [documentMember]⟩

/-- An operation is attached and its documentation asked for. -/
theorem attachOperation_edits (owned : c.Owned l t) (ready : a.Ready c) (body : a.IsOperation) :
    (attachOperation t a).Edits l c [] := by
  rintro s rfl
  exact ⟨_, _, attachedStore s l t (s.catalog.addOperation t a), rfl, journal_attachedStore _ _ _ _,
    rfl, .operation owned ready body, by simp [documentMember]⟩

/-- A constructor is attached and its documentation asked for. -/
theorem attachConstructor_edits (owned : c.Owned l t) (ready : a.Ready c) (body : a.IsOperation) :
    (attachConstructor t a).Edits l c [] := by
  rintro s rfl
  exact ⟨_, _, attachedStore s l t (s.catalog.addConstructor t a), rfl,
    journal_attachedStore _ _ _ _, rfl, .constructor owned ready body, by simp [documentMember]⟩

/-- An overload is merged into the operation of its name, or attached where there is none. -/
theorem attachOverload_edits (owned : c.Owned l t) (ready : a.Ready c) (body : a.IsOperation) :
    (attachOverload t a).Edits l c [] := by
  intro s eq
  cases known : c.operation? t a.name with
  | none =>
    have same : attachOverload t a l s = attachOperation t a l s := by
      rw [attachOverload, Parser.bind_apply, Parser.view, eq, known]
    rw [same]
    exact attachOperation_edits owned ready body s eq
  | some m =>
    subst eq
    refine ⟨.ok (), [.merged t m],
      ⟨s.catalog.mergeOperation m a, s.journal.push (.merged t m)⟩, ?_, by simp, rfl,
      .merged owned ready body known, by simp⟩
    rw [attachOverload, Parser.bind_apply, Parser.view, known]
    rfl

/-! ## The coupling of a reading with itself

Types that references stand for exist. Declared types are owned by the library, which is what the
edits require. Both relations survive further steps, since types are not taken away and the library
keeps what it owns. -/

/-- Twice the same store. -/
def Stores.twice (x : Store) : Stores := ⟨x, x⟩

/-- No declaration gives a super type that only reopens another type. -/
def History.Stands (h : History) : Prop :=
  ∀ es d, (es, d) ∈ h → ∀ t u, .extended t u ∈ es → d.isReopening u = false

/-- Both readings are the same one, and it followed a chain of steps from `c`. What its references
stand for does not reopen another type. -/
def following (l : LibraryId) (c : Catalog) : Coupling where
  lib₁ := l
  lib₂ := l
  holds w := w.first = w.second ∧
    ∃ h, Reading l c h w.first.catalog ∧ w.first.journal.toList = History.events h ∧ h.Stands
  type w t u := t = u ∧ t.index < w.first.catalog.types.size ∧
    w.first.catalog.isReopening t = false
  named w t u := t = u ∧ w.first.catalog.Owned l t
  refuses failure := ∃ e, failure = .duplicate e

namespace Following

variable {w : Stores} {n : Nat}

theorem types_eq {ts us : List TypeId} (h : List.Forall₂ ((following l c).type w) ts us) :
    ts = us ∧ ∀ t ∈ ts, t.index < w.first.catalog.types.size :=
  ⟨eq_of_related h fun tu => tu.1, forall_left h fun tu => tu.2.1⟩

/-- Members that correspond are the same, and as they were read. -/
theorem member_eq {a b : Member} (h : Member.Corresponds ((following l c).type w) a b) :
    a = b ∧ a.Ready w.first.catalog :=
  ⟨h.eq fun tu => tu.1, h.ready_left fun tu => tu.2.1⟩

/-- An action that performs a step keeps the coupling. -/
theorem keeps {p : Parser α} {V : Stores → α → α → Prop} (start : c.Readable l)
    (h : ∀ x : Store, (following l c).Later w (.twice x) → x.catalog.Readable l →
      p.Performs l x.catalog fun answer es d => Step l x.catalog es d ∧
        (∀ t u, .extended t u ∈ es → d.isReopening u = false) ∧
        (∀ a, answer = .ok a → ∀ y : Store, y.catalog = d → V (.twice y) a a) ∧
        ∀ e, answer = .error e → ∃ duplicate, e = .duplicate duplicate) :
    (following l c).Keeps w n V p p := by
  intro s₁ s₂ tokens _ _ holds later
  obtain ⟨same, history, reading, events, stands⟩ := holds
  -- same tokens and same store: there is one state only
  obtain rfl := tokens.eq same
  have readable := reading.readable start
  obtain ⟨answer, es, x, run, journal, step, given, answers, errors⟩ :=
    h s₁.store later readable s₁ rfl
  have after := ReadState.put_after s₁ x
  have further : Reading l c (history ++ [(es, x.catalog)]) x.catalog := reading.step step
  have holds : (following l c).holds (.of (s₁.put x) (s₁.put x)) := by
    refine ⟨rfl, _, further, ?_, ?_⟩
    · rw [History.events_append, ← events]
      exact journal
    · intro fs e inside
      rcases List.mem_append.1 inside with earlier | now
      · exact stands fs e earlier
      · cases List.mem_singleton.1 now
        exact given
  have grown : (following l c).Later (.of s₁ s₁) (.of (s₁.put x) (s₁.put x)) := by
    refine ⟨?_, ?_⟩
    · rintro t _ ⟨rfl, bound, stands⟩
      exact ⟨rfl, Nat.lt_of_lt_of_le bound (step.types_size_le readable),
        step.stands readable bound stands⟩
    · rintro t _ ⟨rfl, owned⟩
      exact ⟨rfl, step.owned readable owned⟩
  show (following l c).Outcome s₁ s₁ _ V (p l s₁) (p l s₁)
  rw [run]
  cases answer with
  | ok a => exact .ok after after (Nat.zero_le _) holds grown (answers a rfl x rfl)
  | error e => exact .error after after (.other (errors e rfl)) holds

/-- An action that makes an edit keeps the coupling, if references stand for the super types that it
gives. -/
theorem keeps_of_edits {p : Parser Unit} {superTypes : List TypeId} (start : c.Readable l)
    (given : ∀ u ∈ superTypes, (following l c).type w u u)
    (h : ∀ x : Store, (following l c).Later w (.twice x) → x.catalog.Readable l →
      p.Edits l x.catalog superTypes) :
    (following l c).Keeps w n Coupling.anything p p := by
  refine keeps start fun x later readable => (h x later readable).imp ?_
  rintro _ es d ⟨rfl, edit, extended⟩
  refine ⟨.edit edit, fun t u inside => ?_, fun _ _ _ _ => trivial, fun _ error => by cases error⟩
  obtain ⟨-, bound, stands⟩ := later.type (given u (extended t u inside))
  exact (edit.quiet.old u bound).isReopening.trans stands

end Following

/-- What a reference comes to is an entry of some library, and so does not iterate. -/
theorem Reference.isEntry {t : TypeId} (registry : Registry c)
    (reference : Reference l name c t d) : d.IsEntry name t := by
  cases reference with
  | own entry => exact registry.entry entry
  | tier _ found => exact resolve?_isEntry registry found
  | placeholder _ unknown =>
    have introduced := introduced_addPlaceholder registry.hidden_lt (registry.hidden_free unknown)
    exact ⟨introduced.bound, introduced.name, introduced.kind.isSynthesized.trans rfl,
      introduced.iterable⟩

/-- What a mention stands for reopens no other type. -/
theorem Reference.stands {t : TypeId} (registry : Registry c)
    (reference : Reference l name c t d) : d.isReopening t = false := by
  cases reference with
  | own _ stands => exact stands
  | tier _ found => exact (resolve?_entry registry found).2
  | placeholder _ unknown =>
    exact (introduced_addPlaceholder registry.hidden_lt (registry.hidden_free unknown)).stands nofun

theorem declaration_owned {reopens : Bool} {es : List Event} (readable : c.Readable l)
    (plain : name ≠ globalsName) (declared : kind.IsDeclared)
    (declaration : Declaration l kind name c reopens (.ok t) es d) : d.Owned l t := by
  rcases declaration.naming readable.registry readable.inside plain declared with
    ⟨_, same, rfl, known, own⟩ | ⟨_, _, same, introduces⟩ | ⟨_, _, refused, -⟩
  · cases same
    have entry := existing?_isEntry readable.registry plain known
    exact ⟨own, entry.declared, entry.iterable⟩
  · cases same
    exact ⟨introduces.introduced.library,
      introduces.introduced.kind.isSynthesized.trans introduces.declared,
      introduces.introduced.iterable⟩
  · cases refused

theorem declaration_refused {reopens : Bool} {es : List Event} {e : Failure Fault}
    (declaration : Declaration l kind name c reopens (.error e) es d) :
    ∃ duplicate, e = .duplicate duplicate := by
  cases declaration
  exact ⟨_, rfl⟩

/-- Globals belong to the library of the reading. -/
theorem globals_owned (readable : c.Readable l) : c.Owned l (c.library l).globals := by
  have globals := readable.registry.globals readable.inside
  exact ⟨readable.registry.globals_owner readable.inside, globals.declared, globals.iterable⟩

namespace Following

variable {w : Stores} {n : Nat}

/-- An action that creates a composite keeps the coupling. -/
theorem composite_keeps {p : Parser TypeId} (start : c.Readable l)
    (h : ∀ x : Store, (following l c).Later w (.twice x) →
      ∃ node, x.catalog.Composite node ∧ p.Creates l x.catalog node) :
    (following l c).Keeps w n (following l c).type p p := by
  refine keeps start fun x later _ => ?_
  obtain ⟨node, composite, creates⟩ := h x later
  refine creates.imp ?_
  rintro _ _ _ ⟨rfl, rfl, rfl⟩
  refine ⟨.edit (.compose composite), nofun, ?_, fun _ error => by cases error⟩
  rintro _ ⟨rfl⟩ y eq
  refine ⟨rfl, ?_, ?_⟩
  · show x.catalog.types.size < y.catalog.types.size
    rw [eq, types_size_pushType]
    exact Nat.lt_succ_self _
  · show y.catalog.isReopening ⟨x.catalog.types.size⟩ = false
    rw [eq, isReopening, type_pushType, if_pos rfl]
    exact decide_eq_false composite.stands

/-- A mention keeps the coupling. -/
theorem resolve_keeps (start : c.Readable l) (plain : name ≠ globalsName) :
    (following l c).Keeps w n (following l c).type (resolve name) (resolve name) := by
  refine keeps start fun x _ readable => (resolve_performs plain).imp ?_
  rintro _ _ d ⟨t, rfl, rfl, reference⟩
  refine ⟨.reference plain reference, by simp, ?_, fun _ error => by cases error⟩
  rintro _ ⟨rfl⟩ y rfl
  exact ⟨rfl, (reference.isEntry readable.registry).bound, reference.stands readable.registry⟩

/-- A declaration keeps the coupling. -/
theorem declareNamed_keeps (start : c.Readable l) (reopens : Bool) (declared : kind.IsDeclared)
    (plain : name ≠ globalsName) : (following l c).Keeps w n (following l c).named
      (declareNamed kind reopens name) (declareNamed kind reopens name) := by
  refine keeps start fun x _ readable => (declareNamed_performs readable plain reopens).imp ?_
  intro answer es d declaration
  refine ⟨.declaration plain declared declaration, ?_, ?_, ?_⟩
  · cases declaration <;> simp [introducedEvents]
  · rintro t rfl y rfl
    exact ⟨rfl, declaration_owned readable plain declared declaration⟩
  · rintro e rfl
    exact declaration_refused declaration

/-- A function on catalogs that is an edit keeps the coupling. -/
theorem modify_keeps (start : c.Readable l) (f : Catalog → Catalog)
    (edit : ∀ x : Store, (following l c).Later w (.twice x) →
      Edit l x.catalog [] (f x.catalog)) :
    (following l c).Keeps w n Coupling.anything (Parser.modify f) (Parser.modify f) :=
  keeps_of_edits start (List.forall_mem_nil _) fun x later _ => modify_edits (edit x later)

/-- A way to attach members keeps the coupling if it makes edits. -/
theorem attach_keeps {t u : TypeId} {a b : Member} {attach : TypeId → Member → Parser Unit}
    (start : c.Readable l) (tu : (following l c).named w t u)
    (ab : Member.Corresponds ((following l c).type w) a b)
    (edits : ∀ d : Catalog, d.Owned l t → a.Ready d → (attach t a).Edits l d []) :
    (following l c).Keeps w n Coupling.anything (attach t a) (attach u b) := by
  obtain ⟨rfl, owned⟩ := tu
  obtain ⟨rfl, -⟩ := member_eq ab
  exact keeps_of_edits start (List.forall_mem_nil _) fun x later _ =>
    edits x.catalog (later.named ⟨rfl, owned⟩).2 (member_eq (ab.imp later.type)).2

end Following

theorem following_lawfulTypes (start : c.Readable l) : (following l c).LawfulTypes where
  resolve plain := Following.resolve_keeps start plain
  wrap {w n t u kind rendered} wrapper tu := by
    obtain rfl := tu.1
    exact Following.composite_keeps start fun x later =>
      ⟨_, .wrapper wrapper (later.type tu).2.1, wrap_creates kind rendered t⟩
  genericOf {w n ts us} name related := by
    obtain ⟨rfl, -⟩ := Following.types_eq related
    exact Following.composite_keeps start fun x later =>
      ⟨_, .generic name (Following.types_eq (related.imp fun _ _ => later.type)).2,
        genericOf_creates name ts⟩
  unionOf {w n ts us} related := by
    obtain ⟨rfl, -⟩ := Following.types_eq related
    exact Following.composite_keeps start fun x later =>
      ⟨_, .union (Following.types_eq (related.imp fun _ _ => later.type)).2,
        unionOf_creates ts⟩

/-- A reading in a sound catalog follows a chain of steps. -/
theorem following_lawful (start : c.Readable l) : (following l c).Lawful where
  toLawfulTypes := following_lawfulTypes start
  iterable holds tu := by
    obtain ⟨same, -⟩ := holds
    rw [tu.1, same]
  typeName holds tu := by
    obtain ⟨same, -⟩ := holds
    rw [tu.1, same]
  globals {w} holds := by
    obtain ⟨same, _, reading, -⟩ := holds
    have equal : (w.first.catalog.library l).globals = (w.second.catalog.library l).globals := by
      rw [same]
    exact ⟨equal, globals_owned (reading.readable start)⟩
  declareNamed reopens declared plain := Following.declareNamed_keeps start reopens declared plain
  setTarget {w n t u target₁ target₂} tu targets := by
    obtain rfl := tu.1
    obtain rfl := targets.1
    exact Following.keeps_of_edits start (by simpa using targets) fun x later _ =>
      setTarget_edits (later.named tu).2 (later.type targets).2.1
  giveSuperType {w n t u target₁ target₂} tu targets := by
    obtain rfl := tu.1
    obtain rfl := targets.1
    exact Following.keeps_of_edits start (by simpa using targets) fun x later _ =>
      giveSuperType_edits (later.named tu).2 (later.type targets).2.1
  addLiteral {w n t u} literal tu := by
    obtain ⟨rfl, owned⟩ := tu
    exact Following.modify_keeps start (·.addLiteral t literal) fun _ later =>
      .literal (later.named ⟨rfl, owned⟩).2 literal
  addImplements {w n t u base₁ base₂} tu bases := by
    obtain rfl := tu.elim And.left And.left
    obtain rfl := bases.1
    refine Following.modify_keeps start (·.addImplements t base₁) fun _ later =>
      .mixin ?_ (later.type bases).2.1
    rcases tu with type | named
    · exact (later.type type).2.1
    · exact (later.named named).2.bound
  addModifiers {w n t u} modifiers tu := by
    obtain ⟨rfl, owned⟩ := tu
    exact Following.modify_keeps start (·.addModifiers t modifiers) fun _ later =>
      .modifiers (later.named ⟨rfl, owned⟩).2 modifiers
  noteParameter {w n p q} pq := by
    obtain rfl := pq.eq fun tu => tu.1
    exact Following.keeps_of_edits start (List.forall_mem_nil _) fun x later _ =>
      noteParameter_edits (later.type pq.type).2.1
  attachProperty tu ab body := Following.attach_keeps start tu ab fun _ owned ready =>
    attachProperty_edits owned ready body
  attachOperation tu ab body := Following.attach_keeps start tu ab fun _ owned ready =>
    attachOperation_edits owned ready body
  attachConstructor tu ab body := Following.attach_keeps start tu ab fun _ owned ready =>
    attachConstructor_edits owned ready body
  attachOverload tu ab body := Following.attach_keeps start tu ab fun _ owned ready =>
    attachOverload_edits owned ready body

/-! ## Whole descriptions

From the coupling to a statement about `ingest`: there is a chain of steps to the catalog that it
leaves, and its events are the events of the reading. This holds for sources that are refused as
well, with the steps up to the refusal. -/

/-- Reading a description follows a chain of steps from the first token on. -/
theorem description_following (start : c.Readable l) (text : List Char) :
    (following l c).Outcome (ReadState.start (Lexer.tokens text) c)
      (ReadState.start (Lexer.tokens text) c) (fun _ => 0) Coupling.anything
      (description l (ReadState.start (Lexer.tokens text) c))
      (description l (ReadState.start (Lexer.tokens text) c)) :=
  (Coupling.description_keeps (following_lawful start)).outcome (ReadState.start_sameTokens _ c c)
    (ReadState.start_plain text c) ⟨rfl, [], .start, rfl, nofun⟩

/-- Ingesting a description is a chain of steps, whose events are the events of the report. -/
theorem ingest_history (start : c.Readable l) (source : String) :
    ∃ h, Reading l c h (c.ingest l source).catalog ∧ h.events = (c.ingest l source).events ∧
      h.Stands := by
  have outcome := description_following start source.toList
  rw [ingest_eq]
  generalize description l (ReadState.start (Lexer.tokens source.toList) c) = run at outcome
  obtain ⟨answer, s⟩ := run
  cases outcome with
  | ok _ _ _ holds =>
    obtain ⟨-, h, reading, events, stands⟩ := holds
    exact ⟨h, reading, events.symm, stands⟩
  | error _ _ _ holds =>
    obtain ⟨-, h, reading, events, stands⟩ := holds
    exact ⟨h, reading, events.symm, stands⟩

/-- A source is read by a chain of steps, accepted or not. -/
theorem ingest_reading (start : c.Readable l) (source : String) :
    ∃ h, Reading l c h (c.ingest l source).catalog ∧ h.events = (c.ingest l source).events := by
  obtain ⟨h, reading, events, -⟩ := ingest_history start source
  exact ⟨h, reading, events⟩

/-- A catalog is readable after a source as it was before. -/
theorem ingest_readable (start : c.Readable l) (source : String) :
    (c.ingest l source).catalog.Readable l := by
  obtain ⟨h, reading, -⟩ := ingest_reading start source
  exact reading.readable start

end IdlCatalog
