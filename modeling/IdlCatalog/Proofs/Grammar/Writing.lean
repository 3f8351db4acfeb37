/-
# IdlCatalog.Proofs.Grammar.Writing — all operations of a catalog can be written down

An operation is attached where it was read, and so it can be written down then. It stays so: types
keep their names, and an overload that is folded in joins names of parameters to words and lets
types give way to `any`. `Catalog.Written` says so of all operations but constructors, and every
reading keeps it, whether it comes to its end or fails.

For most actions it is enough what they do to the catalog. Not so where an operation is attached:
there the coupling needs to know that the operation was read just before. So `writing` is a coupling
which the grammar keeps as one of readings, and not one of single actions.

Constructors are left out. They are shown without a result type, so the line of a constructor is not
one from which an operation is read.
-/
import IdlCatalog.Proofs.Grammar.Declaring
import IdlCatalog.Proofs.Grammar.Following
import IdlCatalog.Proofs.Grammar.MemberOutcome

namespace IdlCatalog

open Grammar Catalog Lexer IdlCatalog.Parser

variable {α β : Type} {c d : Catalog} {l : LibraryId} {s : ReadState} {t : TypeId}
  {es : List Event} {a b : Member} {p q : Parameter} {ps qs : List Parameter}

/-! ## Overloads

Two operations of a name are folded into one by uniting their parameters place by place. A parameter
with two names gets both, joined by an underscore, unless one is part of the other; what is joined
is a word again and never `long`. A parameter with two types gets the type `any`, which takes no
further word along. -/

/-- What a union lacks its parts lack. -/
theorem Modifiers.lacks_left {a b others : Modifiers} (h : (a ||| others).contains b = false) :
    a.contains b = false :=
  Bool.eq_false_iff.2 fun has => Bool.eq_false_iff.1 h (contains_or_left has others)

/-- A name that was joined from two words. -/
theorem spells_joined {first second : String} (h : Spells .word first.toList)
    (h' : Spells .word second.toList) : Spells .word (first ++ "_" ++ second).toList := by
  obtain ⟨x, xs, eq, start, parts⟩ := h.word_head
  obtain ⟨-, -, -, -, parts'⟩ := h'.word_head
  refine spells_word ?_ (List.all_eq_true.2 fun y inside => ?_)
  · simpa [eq] using start
  · rw [String.toList_append, String.toList_append, List.mem_append, List.mem_append] at inside
    rcases inside with (inside | inside) | inside
    · exact parts y inside
    · obtain rfl : y = '_' := by simpa using inside
      decide
    · exact parts' y inside

/-- No joined name is `long`. -/
theorem joined_ne_long (first second : String) : first ++ "_" ++ second ≠ "long" := by
  intro eq
  have inside : '_' ∈ (first ++ "_" ++ second).toList := by simp
  rw [eq] at inside
  exact absurd inside (by decide)

/-- The type to which types that differ give way has a name that takes no further word along. -/
def Catalog.NamesAny (c : Catalog) : Prop := ∃ e, c.WrittenAs e any ∧ ¬e.TakesLong

/-- The name of `any` lasts. -/
theorem Catalog.NamesAny.later (h : c.NamesAny) (keeps : KeepsNames c d) : d.NamesAny := by
  obtain ⟨e, writtenAs, short⟩ := h
  exact ⟨e, writtenAs.later keeps, short⟩

namespace Parameter.Written

/-- A parameter that may be absent can be written down. -/
theorem orAbsent (h : p.Written c) : p.orAbsent.Written c := by
  obtain ⟨e, writtenAs, apart⟩ := h.type
  exact ⟨h.spelled, e, writtenAs, fun fixed => apart (Modifiers.lacks_left fixed)⟩

/-- Two parameters in one place can be written down as one. -/
theorem unify (names : c.NamesAny) (h : p.Written c) (h' : q.Written c) :
    (Parameter.unify any p q).Written c where
  spelled := by
    rw [Parameter.unify]
    dsimp only
    split
    · exact h.spelled
    · exact spells_joined h.spelled h'.spelled
  type := by
    by_cases same : p.type = q.type
    · obtain ⟨e, writtenAs, apart⟩ := h.type
      refine ⟨e, ?_, fun fixed named => apart (Modifiers.lacks_left fixed) ?_⟩
      · rwa [Parameter.unify, if_pos same]
      -- joined names have an underscore in them
      · rw [Parameter.unify] at named
        dsimp only at named
        split at named
        · exact named
        · exact absurd named (joined_ne_long _ _)
    · obtain ⟨e, writtenAs, short⟩ := names
      refine ⟨e, ?_, fun _ _ => short⟩
      rwa [Parameter.unify, if_neg same]

/-- The parameters of two operations can be written down as one row. -/
theorem merge (names : c.NamesAny) (h : ∀ p ∈ ps, p.Written c) (h' : ∀ q ∈ qs, q.Written c) :
    ∀ p ∈ Parameter.merge any ps qs, p.Written c := by
  fun_induction Parameter.merge any ps qs with
  | case1 p ps q qs ih =>
    obtain ⟨first, others⟩ := List.forall_mem_cons.1 h
    obtain ⟨first', others'⟩ := List.forall_mem_cons.1 h'
    exact List.forall_mem_cons.2 ⟨first.unify names first', ih others others'⟩
  | case2 ps => simpa using fun p inside => (h p inside).orAbsent
  | case3 qs => simpa using fun q inside => (h' q inside).orAbsent

end Parameter.Written

/-- Two operations that can be written down can be as one. -/
theorem Member.Written.overloaded (names : c.NamesAny) (body : a.IsOperation) (h : a.Written c)
    (h' : b.Written c) : (a.overloaded b).Written c where
  type := by
    obtain ⟨ps, specials, eq⟩ := body
    rw [Member.overloaded, Member.withParameters, eq]
    exact h.type
  parameters := by
    rw [Member.overloaded, (parameters_withParameters body _).1]
    exact .merge names h.parameters h'.parameters

/-! ## Catalogs

What each operation of the catalog does to the invariant. A member that enters must be one that can
be written down; the others keep what they find. -/

/-- If the member is an operation and no constructor, it can be written down. -/
def Member.Stated (c : Catalog) (a : Member) : Prop :=
  a.IsOperation → a.isConstructor = false → a.Written c

/-- A member stays as it can be stated. -/
theorem Member.Stated.later (h : a.Stated c) (keeps : KeepsNames c d) : a.Stated d :=
  fun body ordinary => (h body ordinary).later keeps

/-- Owner and documentation do not matter. -/
theorem Member.Stated.of_bare (h : a.Stated c) (same : b.bare = a.bare) : b.Stated c := by
  obtain ⟨-, type, modifiers, body⟩ : b.name = a.name ∧ b.type = a.type ∧
      b.modifiers = a.modifiers ∧ b.body = a.body := by simpa [Member.bare] using same
  intro isOperation ordinary
  have written : a.Written c := h (by rwa [Member.IsOperation, ← body])
    (by rwa [Member.isConstructor, ← modifiers])
  refine ⟨type ▸ written.type, ?_⟩
  rw [Member.parameters, body]
  exact written.parameters

/-- An operation with one more overload can be stated. -/
theorem Member.Stated.overloaded (names : c.NamesAny) (h : a.Stated c) (h' : b.Written c) :
    (a.overloaded b).Stated c := by
  intro isOperation ordinary
  cases body : a.body with
  | property initial =>
    have same : a.overloaded b = a := by rw [Member.overloaded, Member.withParameters, body]
    rw [same] at isOperation ordinary ⊢
    exact h isOperation ordinary
  | operation ps specials =>
    have modifiers : (a.overloaded b).modifiers = a.modifiers := by
      rw [Member.overloaded, Member.withParameters, body]
    rw [Member.isConstructor, modifiers] at ordinary
    have isOperation : a.IsOperation := ⟨ps, specials, body⟩
    exact (h isOperation ordinary).overloaded names isOperation h'

namespace Catalog

/-- All operations but constructors can be written down. -/
structure Written (c : Catalog) : Prop where
  members : ∀ m, (c.member m).Stated c
  names : c.NamesAny

namespace Written

variable (h : c.Written)

include h

/-- Types keep their names, and members are as they were or can be written down. -/
theorem later (keeps : KeepsNames c d)
    (members : ∀ m, (d.member m).bare = (c.member m).bare ∨ (d.member m).Stated d) :
    d.Written where
  names := h.names.later keeps
  members m := (members m).elim (((h.members m).later keeps).of_bare ·) id

/-- Members stay as they are. -/
theorem same (keeps : KeepsNames c d) (same : SameMembers c d) : d.Written :=
  h.later keeps fun m => .inl (congrArg Member.bare (same.member m))

/-- Changes that touch neither names nor members. -/
theorem quiet (quiet : Quiet c d) (same : SameMembers c d) : d.Written :=
  h.same quiet.keepsNames same

/-- Documentation is no part of what is written. -/
theorem document (l : LibraryId) (artifact : Artifact) : (c.document l artifact).Written := by
  refine h.later (quiet_document c l artifact).keepsNames fun m => .inl ?_
  cases artifact with
  | library | type => rfl
  | member k => exact member_modifyMember_of_eq c k m Member.bare fun _ => rfl

/-- A new member, which can be written down if it is an operation. -/
theorem enter (table : Table) (t : TypeId) (stated : a.Stated c) :
    (enter table c t a).2.Written := by
  have keeps := (quiet_enter table c t a).keepsNames
  refine h.later keeps fun m => ?_
  have bare := bare_enter table c t a m
  by_cases new : m.index = c.members.size
  · exact .inr ((stated.later keeps).of_bare (bare.trans (if_pos new)))
  · exact .inl (bare.trans (if_neg new))

/-- Constructors are not written down as operations. -/
theorem addConstructor (t : TypeId) (a : Member) : (c.addConstructor t a).2.Written := by
  refine h.later (quiet_addConstructor c t a).keepsNames fun m => ?_
  let member : Member := { a with modifiers := a.modifiers ||| Modifiers.constructor }
  have bare : ((c.addConstructor t a).2.member m).bare =
      if m.index = c.members.size then member.bare else (c.member m).bare :=
    bare_pushMember c member t m
  by_cases new : m.index = c.members.size
  · -- what is added is a constructor
    rw [if_pos new] at bare
    refine .inr fun _ ordinary => ?_
    have constructor : ((c.addConstructor t a).2.member m).bare.isConstructor = true := by
      rw [bare]
      exact Modifiers.contains_or_right _ _
    exact Bool.noConfusion (ordinary.symm.trans constructor)
  · exact .inl (bare.trans (if_neg new))

/-- An overload that can be written down may be folded in. -/
theorem mergeOperation (m : MemberId) (written : a.Written c) :
    (c.mergeOperation m a).Written := by
  have keeps := (quiet_mergeOperation c m a).keepsNames
  refine h.later keeps fun k => ?_
  have bare := bare_mergeOperation c m a k
  by_cases here : k = m ∧ m.index < c.members.size
  · rw [if_pos here, ← Member.bare_overloaded] at bare
    exact .inr ((((h.members k).overloaded h.names written).later keeps).of_bare bare)
  · exact .inl (bare.trans (if_neg here))

/-- A library that is added brings no operations. -/
theorem addLibrary (name : String) (readOnly : Bool) (docs : DocumentationProvider) :
    (c.addLibrary name readOnly docs).2.Written := by
  have type {t : TypeId} (bound : t.index < c.types.size) :
      (c.addLibrary name readOnly docs).2.type t = c.type t := by
    rw [type_addLibrary, if_neg (Nat.ne_of_lt bound)]
  refine h.same ⟨?_, fun bound => ?_, fun bound => ?_⟩ (sameMembers_addLibrary c name readOnly docs)
  · rw [types_size_addLibrary]
    exact Nat.le_succ _
  · exact congrArg TypeNode.name (type bound)
  · exact congrArg TypeNode.iterable (type bound)

/-- Removing a library changes no operation. -/
theorem removeLibrary (l : LibraryId) : (c.removeLibrary l).2.Written := by
  have moved := moved_removeLibrary c l
  have type (t : TypeId) : ((c.removeLibrary l).2.type t).name = (c.type t).name ∧
      ((c.removeLibrary l).2.type t).iterable = (c.type t).iterable := by
    obtain ⟨owner, same, -⟩ := moved.type t
    rw [same]
    exact ⟨rfl, rfl⟩
  exact h.same ⟨Nat.le_of_eq moved.types_size.symm, fun _ => (type _).1, fun _ => (type _).2⟩
    (sameMembers_removeLibrary c l)

end Written

/-- There are no operations to begin with. -/
theorem written_initial : initial.Written where
  members m := by
    have none : initial.members = #[] := sameMembers_initial.members
    intro body
    rw [member, none] at body
    obtain ⟨_, _, eq⟩ := body
    cases eq
  names := by
    let name : TypeName := ⟨⟨none, "any", false⟩, TypeWords.isName_word
      (spells_word (by decide) (by decide)) fun q => by cases q <;> decide, by decide⟩
    refine ⟨.named name false false false (by simp),
      ⟨by decide +kernel, by decide +kernel, False.elim⟩, ?_⟩
    rintro ⟨-, -, takes⟩
    exact absurd takes (by decide)

end Catalog

/-! ## Couplings with an invariant

`within` restricts a coupling to catalogs with a property. A parser that is in step under the
coupling and keeps the property is in step under the restricted one, so the lemmas of `following`
need not be proved again. -/

namespace Coupling

variable {K : Coupling} {P : Catalog → Prop} {w : Stores} {n : Nat} {r : α → Nat}
  {V : Stores → α → α → Prop} {W : Stores → β → β → Prop} {f g : α → Parser β}

/-- The coupling of those readings whose first catalog is as `P` says. -/
def within (K : Coupling) (P : Catalog → Prop) : Coupling :=
  { K with holds := fun w => K.holds w ∧ P w.first.catalog }

/-- An outcome, with the property kept. -/
theorem Outcome.within {s₁ s₂ : ReadState} {x y : Except (Failure Fault) α × ReadState}
    (h : K.Outcome s₁ s₂ r V x y) (kept : P x.2.catalog) :
    (K.within P).Outcome s₁ s₂ r V x y := by
  cases h with
  | ok after₁ after₂ reads holds later answers =>
    exact .ok after₁ after₂ reads ⟨holds, kept⟩ ⟨later.type, later.named⟩ answers
  | error after₁ after₂ refused holds =>
    refine .error after₁ after₂ ?_ ⟨holds, kept⟩
    cases refused with
    | malformed shown => exact .malformed shown
    | other refuses => exact .other refuses

namespace Sim

variable {p q : Parser α}

theorem within (h : K.Sim w n r V p q) (kept : ∀ s₁ s₂ : ReadState, K.holds (.of s₁ s₂) →
      P s₁.catalog → P (p K.lib₁ s₁).2.catalog) : (K.within P).Sim w n r V p q := by
  intro s₁ s₂ tokens plain left holds later
  have outcome := h s₁ s₂ tokens plain left holds.1 ⟨later.type, later.named⟩
  exact outcome.within (kept s₁ s₂ holds.1 holds.2)

/-- Sequencing where more is known of the state to which the first parser comes. -/
theorem bind_yields {R : α → ReadState → Prop} (hp : K.Reads w n V p q)
    (yields : ∀ s₁ s₂ : ReadState, s₁.Plain → K.holds (.of s₁ s₂) → p.Yields K.lib₁ s₁ R)
    (hf : ∀ a b (t₁ t₂ : ReadState), t₁.SameTokens t₂ → t₁.Plain → K.holds (.of t₁ t₂) →
      K.Later w (.of t₁ t₂) → V (.of t₁ t₂) a b → R a t₁ →
      K.Outcome t₁ t₂ (fun _ => 0) W (f a K.lib₁ t₁) (g b K.lib₂ t₂)) :
    K.Reads w n W (p >>= f) (q >>= g) := by
  intro s₁ s₂ tokens plain left holds later
  refine .bind (hp s₁ s₂ tokens plain left holds later) ?_
  intro a b t₁ t₂ count run after₁ after₂ read holds' later' ab
  have yielded := yields s₁ s₂ plain holds a t₁ run
  have second := hf a b t₁ t₂ (after₁.sameTokens after₂ tokens) (after₁.plain plain) holds'
    (later.trans later') ab yielded.2
  exact second.fewer fun _ => Nat.le_of_eq (Nat.sub_eq_zero_of_le read)

end Sim

end Coupling

/-! ## What actions keep

The actions of the grammar one by one, from the steps that they take. Only the two that attach an
operation ask for something. -/

/-- What is performed ends in a catalog as described. -/
theorem Parser.Performs.catalog {p : Parser α}
    {Q : Except (Failure Fault) α → List Event → Catalog → Prop} (h : p.Performs l s.catalog Q) :
    ∃ answer es, Q answer es (p l s).2.catalog := by
  obtain ⟨answer, es, x, run, -, q⟩ := h s rfl
  rw [run]
  exact ⟨answer, es, q⟩

/-- A step keeps names of types. -/
theorem Step.keepsNames (readable : c.Readable l) (step : Step l c es d) : KeepsNames c d :=
  ⟨step.types_size_le readable, step.typeName readable, step.iterable readable⟩

namespace Catalog.Written

variable (h : s.catalog.Written)

include h

theorem resolve {name : String} (readable : s.catalog.Readable l) (plain : name ≠ globalsName) :
    (resolve name l s).2.catalog.Written := by
  obtain ⟨_, _, t, -, -, reference⟩ := (resolve_performs plain).catalog (l := l) (s := s)
  have step := Step.reference plain reference
  exact h.same (step.keepsNames readable) reference.sameMembers

theorem declareNamed {name : String} {kind : Kind} (readable : s.catalog.Readable l)
    (reopens : Bool) (declared : kind.IsDeclared) (plain : name ≠ globalsName) :
    (declareNamed kind reopens name l s).2.catalog.Written := by
  have performs : (Grammar.declareNamed kind reopens name).Performs l s.catalog
      fun answer es d => Declaration l kind name s.catalog reopens answer es d :=
    declareNamed_performs readable plain reopens
  obtain ⟨_, _, declaration⟩ := performs.catalog
  have step := Step.declaration plain declared declaration
  exact h.same (step.keepsNames readable) declaration.sameMembers

theorem creates {p : Parser TypeId} {node : TypeNode} (composite : node.library = some hidden)
    (blank : node.referencedBy = ∅ ∧ node.operations = ∅) (creates : p.Creates l s.catalog node) :
    (p l s).2.catalog.Written := by
  obtain ⟨_, _, -, -, eq⟩ := creates.catalog
  rw [eq]
  exact h.quiet (quiet_pushType _ node (.inr composite)) (sameMembers_pushType _ _ blank.1 blank.2)

theorem giveSuperType (t u : TypeId) : (giveSuperType t u l s).2.catalog.Written :=
  h.quiet (quiet_setSuperType s.catalog t u) (sameMembers_setSuperType s.catalog t u)

theorem setTarget (t u : TypeId) : (setTarget t u l s).2.catalog.Written := by
  rw [Grammar.setTarget]
  split
  · exact h.giveSuperType t u
  · exact h

/-- A member that can be stated may be attached. -/
theorem attach (stated : a.Stated s.catalog) (table : Table) (t : TypeId) :
    (documentMember l t (Catalog.enter table s.catalog t a)).2.Written :=
  (h.enter table t stated).document l (.member (Catalog.enter table s.catalog t a).1)

/-- An operation that can be written down may be attached as an overload. -/
theorem attachOverload (written : a.Written s.catalog) (t : TypeId) :
    (attachOverload t a l s).2.catalog.Written := by
  cases known : s.catalog.operation? t a.name with
  | none =>
    have run : Grammar.attachOverload t a l s = attachOperation t a l s := by
      rw [Grammar.attachOverload, Parser.bind_apply, Parser.view, known]
    rw [run]
    exact h.attach (fun _ _ => written) .operations t
  | some m =>
    have run : (Grammar.attachOverload t a l s).2.catalog = s.catalog.mergeOperation m a := by
      rw [Grammar.attachOverload, Parser.bind_apply, Parser.view, known]
      rfl
    rw [run]
    exact h.mergeOperation m written

end Catalog.Written

/-! ## The coupling of a reading with itself

In a body the operation that is attached was yielded by the parser just before, in the catalog of
that moment. `bind_yields` hands this on to the action. -/

/-- Both readings are the same one, as for `following`, and the operations of its catalog can be
written down. -/
def writing (l : LibraryId) (c : Catalog) : Coupling := (following l c).within Catalog.Written

section Readings

variable {w : Stores} {n : Nat} {u : TypeId}

/-- An action in step with itself, which keeps what the invariant says in sound catalogs. -/
theorem writing_of_following {r : α → Nat} {V : Stores → α → α → Prop} {p q : Parser α}
    (start : c.Readable l) (sim : (following l c).Sim w n r V p q)
    (kept : ∀ s : ReadState, s.catalog.Readable l → s.catalog.Written →
      (p l s).2.catalog.Written) : (writing l c).Sim w n r V p q := by
  refine sim.within fun s _ holds written => kept s ?_ written
  obtain ⟨-, _, reading, -⟩ := holds
  exact reading.readable start

theorem writing_lawfulActions (start : c.Readable l) : (writing l c).LawfulActions where
  resolve plain := writing_of_following start ((following_lawful start).resolve plain)
    fun _ readable h => h.resolve readable plain
  wrap wrapper tu := writing_of_following start ((following_lawful start).wrap wrapper tu)
    fun _ _ h => h.creates rfl ⟨rfl, rfl⟩ (wrap_creates _ _ _)
  genericOf name related := writing_of_following start
    ((following_lawful start).genericOf name related)
    fun _ _ h => h.creates rfl ⟨rfl, rfl⟩ (genericOf_creates name _)
  unionOf related := writing_of_following start ((following_lawful start).unionOf related)
    fun _ _ h => h.creates rfl ⟨rfl, rfl⟩ (unionOf_creates _)
  iterable holds tu := (following_lawful start).iterable holds.1 tu
  typeName holds tu := (following_lawful start).typeName holds.1 tu
  globals holds := (following_lawful start).globals holds.1
  declareNamed reopens declared plain := writing_of_following start
    ((following_lawful start).declareNamed reopens declared plain)
    fun _ readable h => h.declareNamed readable reopens declared plain
  setTarget tu targets := writing_of_following start
    ((following_lawful start).setTarget tu targets) fun _ _ h => h.setTarget _ _
  giveSuperType tu targets := writing_of_following start
    ((following_lawful start).giveSuperType tu targets) fun _ _ h => h.giveSuperType _ _
  addLiteral literal tu := writing_of_following start
    ((following_lawful start).addLiteral literal tu) fun _ _ h =>
      h.quiet (quiet_addLiteral _ _ _) (sameMembers_modifyType _ _ (fun _ => rfl) fun _ => rfl)
  addImplements tu bases := writing_of_following start
    ((following_lawful start).addImplements tu bases) fun _ _ h =>
      h.quiet (quiet_addImplements _ _ _) (sameMembers_addImplements _ _ _)
  addModifiers modifiers tu := writing_of_following start
    ((following_lawful start).addModifiers modifiers tu) fun _ _ h =>
      h.quiet (quiet_addModifiers _ _ _) (sameMembers_modifyType _ _ (fun _ => rfl) fun _ => rfl)
  noteParameter pq := writing_of_following start
    ((following_lawful start).noteParameter pq) fun _ _ h => h
  attachProperty tu ab body := writing_of_following start
    ((following_lawful start).attachProperty tu ab body) fun _ _ h => by
      refine h.attach (fun isOperation => ?_) .properties _
      obtain ⟨_, property⟩ := body
      obtain ⟨_, _, operation⟩ := isOperation
      exact MemberBody.noConfusion (property.symm.trans operation)
  attachConstructor {_ _ t _ a _} tu ab body := writing_of_following start
    ((following_lawful start).attachConstructor tu ab body) fun s _ h =>
      (h.addConstructor t a).document l (.member (s.catalog.addConstructor t a).1)

theorem writing_sound {s₁ s₂ : ReadState} (start : c.Readable l) (plain : s₁.Plain)
    (holds : (writing l c).holds (.of s₁ s₂)) : s₁.Sound := by
  obtain ⟨⟨-, _, reading, -⟩, -⟩ := holds
  exact ⟨plain, (reading.readable start).registry⟩

/-- An operation is attached as it was read just before. -/
theorem overload_writing (start : c.Readable l) (modifiers : Modifiers)
    (tu : (writing l c).named w t u) : (writing l c).Reads w n Coupling.anything
      (operation modifiers >>= attachIfAny t) (operation modifiers >>= attachIfAny u) := by
  have read := Coupling.operation_reads (w := w) (n := n) (writing_lawfulActions start) modifiers
  refine read.bind_yields (fun _ _ plain holds =>
    operation_yields (writing_sound start plain holds) modifiers) ?_
  rintro _ _ t₁ t₂ tokens plain holds later (@⟨a, b, ab⟩ | _) yielded
  · have attached := ((following_lawful start).attachOverload (later.named tu) ab.1 ab.2).outcome
      tokens plain holds.1
    exact attached.within (holds.2.attachOverload (yielded a rfl) t)
  · exact .of_here holds rfl trivial

theorem callback_writing (start : c.Readable l) (tu : (writing l c).named w t u) :
    (writing l c).Reads w n (writing l c).named (callbackBody t) (callbackBody u) := by
  have read := Coupling.callbackOperation_reads (n := n) (writing_lawfulActions start) tu
  refine read.bind_yields (fun _ _ plain holds =>
    callbackOperation_yields (writing_sound start plain holds) t) ?_
  rintro a b t₁ t₂ tokens plain holds later ab written
  have named : (following l c).named (.of t₁ t₂) t u := later.named tu
  have sim : (following l c).Keeps (.of t₁ t₂) (t₁.left + 1) (following l c).named
      (do attachOperation t a; return t) (do attachOperation u b; return u) :=
    ((following_lawful start).attachOperation named ab.1 ab.2).bind fun _ _ _ later' _ =>
      .pure fun _ later'' => later''.named (later'.named named)
  exact (sim.outcome tokens plain holds.1).within
    (holds.2.attach (fun _ _ => written) .operations t)

theorem writing_lawful (start : c.Readable l) : (writing l c).LawfulReadings where
  toLawfulActions := writing_lawfulActions start
  overload modifiers tu := overload_writing start modifiers tu
  callback tu := callback_writing start tu

end Readings

/-- After a reading the operations can be written down, if they could before. -/
theorem ingest_written (start : c.Readable l) (written : c.Written) (source : String) :
    (c.ingest l source).catalog.Written := by
  have outcome := (Coupling.description_reads (writing_lawful start)).outcome
    (ReadState.start_sameTokens _ c c) (ReadState.start_plain source.toList c)
    ⟨⟨rfl, [], .start, rfl, nofun⟩, written⟩
  change (writing l c).Outcome _ _ _ _ (description l _) (description l _) at outcome
  rw [ingest_eq]
  generalize description l (ReadState.start (Lexer.tokens source.toList) c) = run at outcome
  cases outcome with
  | ok _ _ _ holds => exact holds.2
  | error _ _ _ holds => exact holds.2

end IdlCatalog
