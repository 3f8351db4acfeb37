/-
# IdlCatalog.Proofs.Grammar.Replaying — a reading beside itself

The actions of the grammar on the catalog leave the tokens alone, and a name given twice is the only
failure that they know. This holds in every catalog, sound or not. So every reading keeps the
coupling with itself, `replaying`, which tells what a reading does with its tokens: it reads them
from the front, and when it fails, then at a token that it shows, or at a duplicate name.

Nothing is assumed of the catalog here, which is what sets this coupling apart from the others: it
holds from the empty catalog, from one that a session has come to, and from one that no session
comes to. Progress, the tokens that errors show and the bound on the tokens that are taken all come
from it.
-/
import IdlCatalog.Proofs.Catalog.Naming
import IdlCatalog.Proofs.Grammar.Lockstep

namespace IdlCatalog

open Grammar

variable {α β : Type}

/-! ## Actions that leave the tokens alone

`Neutral` says so of a parser: what it does depends on the catalog alone, changes the catalog and
the journal alone, and can only fail at a duplicate name. Libraries keep their names, which the
message of a duplicate shows. Sequences and choices of neutral parsers are neutral, so the actions
of the grammar follow from the operations of the catalog that they call. -/

/-- Leaves the tokens alone, does the same to a catalog wherever it stands, fails at duplicate names
only, and gives no library another name. -/
def Parser.Neutral (p : Parser α) : Prop :=
  ∀ l (c : Catalog), ∃ answer d,
    (∀ s : ReadState, s.catalog = c → ∃ j, p l s = (answer, s.put ⟨d, j⟩)) ∧
    (∀ e, answer = .error e → ∃ duplicate, e = .duplicate duplicate) ∧ c.SameNames d

namespace Parser.Neutral

/-- An action on the catalog that answers. -/
theorem of_ok {p : Parser α} (answer : LibraryId → Catalog → α × Catalog)
    (run : ∀ l (s : ReadState), ∃ j,
      p l s = (.ok (answer l s.catalog).1, s.put ⟨(answer l s.catalog).2, j⟩))
    (names : ∀ l (c : Catalog), c.SameNames (answer l c).2) : p.Neutral := by
  refine fun l c => ⟨.ok (answer l c).1, (answer l c).2, ?_, fun _ error => (by cases error),
    names l c⟩
  rintro s rfl
  exact run l s

/-- An answer without any action. -/
theorem of_view {p : Parser α} (answer : LibraryId → Catalog → α)
    (run : ∀ l s, p l s = (.ok (answer l s.catalog), s)) : p.Neutral :=
  of_ok (fun l c => (answer l c, c)) (fun l s => ⟨s.journal, run l s⟩) fun _ c => .refl c

/-- An answer alone is neutral. -/
theorem pure (a : α) : (Pure.pure a : Parser α).Neutral :=
  of_view (fun _ _ => a) fun _ _ => rfl

/-- A sequence of neutral parsers is neutral. -/
theorem bind {p : Parser α} {f : α → Parser β} (hp : p.Neutral) (hf : ∀ a, (f a).Neutral) :
    (p >>= f).Neutral := by
  intro l c
  obtain ⟨answer, d, run, errors, names⟩ := hp l c
  cases answer with
  | error e =>
    refine ⟨.error e, d, fun s same => ?_, fun _ error => errors _ (by cases error; rfl), names⟩
    obtain ⟨j, run⟩ := run s same
    exact ⟨j, by rw [Parser.bind_apply, run]⟩
  | ok a =>
    obtain ⟨answer', d', run', errors', names'⟩ := hf a l d
    refine ⟨answer', d', fun s same => ?_, errors', names.trans names'⟩
    obtain ⟨j, run⟩ := run s same
    obtain ⟨j', run'⟩ := run' (s.put ⟨d, j⟩) rfl
    exact ⟨j', by rw [Parser.bind_apply, run]; exact run'⟩

/-- A choice between neutral parsers is neutral. -/
theorem ite {c : Prop} [Decidable c] {p q : Parser α} (hp : p.Neutral) (hq : q.Neutral) :
    (if c then p else q).Neutral := by
  split
  · exact hp
  · exact hq

theorem library : Parser.library.Neutral :=
  of_view (fun l _ => l) fun _ _ => rfl

/-- A question about the catalog is neutral. -/
theorem view (f : Catalog → α) : (Parser.view f).Neutral :=
  of_view (fun _ c => f c) fun _ _ => rfl

/-- An operation of the catalog is neutral if libraries keep their names. -/
theorem change {f : Catalog → α × Catalog} (names : ∀ c : Catalog, c.SameNames (f c).2) :
    (Parser.change f).Neutral :=
  of_ok (fun _ c => f c) (fun _ s => ⟨s.journal, rfl⟩) fun _ => names

theorem modify {f : Catalog → Catalog} (names : ∀ c : Catalog, c.SameNames (f c)) :
    (Parser.modify f).Neutral :=
  of_ok (fun _ c => ((), f c)) (fun _ s => ⟨s.journal, rfl⟩) fun _ => names

/-- An event is put at the end of the journal. -/
theorem note (event : Event) : (Parser.note event).Neutral :=
  of_ok (fun _ c => ((), c)) (fun _ s => ⟨s.journal.push event, rfl⟩) fun _ c => .refl c

/-- A type is entered into the library at hand, or its name is refused as a duplicate. -/
theorem register (t : TypeId) : (Parser.register t).Neutral := by
  intro l c
  cases added : c.addType l t with
  | ok d =>
    refine ⟨.ok (), d, ?_, fun _ error => (by cases error), Catalog.sameNames_addType added⟩
    rintro s rfl
    exact ⟨s.journal, by rw [Parser.register, added]; rfl⟩
  | error e =>
    refine ⟨.error (.duplicate e), c, ?_, fun _ error => ⟨e, by cases error; rfl⟩, .refl c⟩
    rintro s rfl
    exact ⟨s.journal, by rw [Parser.register, added]; rfl⟩

/-- A question to the documentation changes the artifacts and the journal only. -/
theorem document (artifact : Artifact) : (Parser.document artifact).Neutral :=
  .bind .library fun l => .bind (.view _) fun _ => .bind (.note _) fun _ =>
    .modify fun c => (Catalog.quiet_document c l artifact).sameNames

/-! ### The actions of the grammar

Everything that a production does to the catalog is one of these. They are listed one by one since
each is built from other parts; none needs more than the rules above. -/

theorem resolve (name : String) : (resolve name).Neutral := by
  refine .bind .library fun l => .bind (.change fun c => ?_) fun t => .bind (.note _) fun _ =>
    .pure t
  split
  · exact .refl c
  split
  · exact .refl c
  · exact Catalog.sameNames_addPlaceholder c name

theorem newWithArguments (kind : Kind) (superType : Option TypeId) (arguments : List TypeId)
    (rendered : List String → String) :
    (newWithArguments kind superType arguments rendered).Neutral := by
  refine .change fun c => ?_
  have one (c : Catalog) (t argument : TypeId) : c.SameNames (c.pushTypeArgument t argument) :=
    fun _ => rfl
  exact Catalog.related_foldl .refl .trans (fun c a => one c _ a) arguments (c.newSynthesized ..).2

theorem genericOf (name : String) (arguments : List TypeId) :
    (genericOf name arguments).Neutral := by
  refine .bind (.newWithArguments _ _ _ _) fun t => .ite ?_ (.pure t)
  cases iterableOf arguments with
  | none => exact .pure t
  | some iterable => exact .bind (.modify fun _ _ => rfl) fun _ => .pure t

theorem wrap (kind : Kind) (rendered : String → String) (t : TypeId) :
    (wrap kind rendered t).Neutral :=
  .change fun _ _ => rfl

theorem unionOf (branches : List TypeId) : (unionOf branches).Neutral :=
  .newWithArguments _ _ _ _

theorem introduce (name : String) (t : TypeId) (reopens : Bool) :
    (introduce name t reopens).Neutral :=
  .bind (.register t) fun _ => .bind (.note _) fun _ => .document _

theorem createNamed (kind : Kind) (reopens : Bool) (name : String) :
    (createNamed kind reopens name).Neutral :=
  .bind (.change fun _ _ => rfl) fun t => .bind (introduce name t reopens) fun _ => .pure t

theorem upgradeNamed (kind : Kind) (reopens : Bool) (name : String) (t : TypeId) :
    (upgradeNamed kind reopens name t).Neutral :=
  .bind (.modify fun _ _ => rfl) fun _ => .bind (introduce name t reopens) fun _ => .pure t

theorem setSuperType (t superType : TypeId) :
    (Parser.modify (·.setSuperType t superType)).Neutral :=
  .modify fun c => (Catalog.quiet_setSuperType c t superType).sameNames

theorem reopenNamed (reopens : Bool) (name : String) (target : TypeId) :
    (reopenNamed reopens name target).Neutral :=
  .bind (.change fun _ _ => rfl) fun t => .bind (introduce name t reopens) fun _ =>
    .bind (.setSuperType t target) fun _ => .pure t

theorem declareNamed (kind : Kind) (reopens : Bool) (name : String) :
    (declareNamed kind reopens name).Neutral := by
  refine .bind .library fun l => .bind (.view _) fun existing => ?_
  cases existing with
  | none => cases reopens <;> exact createNamed kind _ name
  | some target =>
    cases reopens with
    | false => exact upgradeNamed kind false name target
    | true =>
      exact .bind (.view _) fun node =>
        .ite (.bind (.note _) fun _ => .pure target) (reopenNamed true name target)

theorem giveSuperType (t superType : TypeId) : (giveSuperType t superType).Neutral :=
  .bind (.setSuperType t superType) fun _ => .note _

theorem setTarget (t target : TypeId) : (setTarget t target).Neutral :=
  .ite (.giveSuperType t target) (.pure ())

theorem attachProperty (t : TypeId) (a : Member) : (attachProperty t a).Neutral :=
  .bind (.change fun c => (Catalog.quiet_addProperty c t a).sameNames) fun _ =>
    .bind (.note _) fun _ => .document _

theorem attachOperation (t : TypeId) (a : Member) : (attachOperation t a).Neutral :=
  .bind (.change fun c => (Catalog.quiet_addOperation c t a).sameNames) fun _ =>
    .bind (.note _) fun _ => .document _

theorem attachConstructor (t : TypeId) (a : Member) : (attachConstructor t a).Neutral :=
  .bind (.change fun c => (Catalog.quiet_addConstructor c t a).sameNames) fun _ =>
    .bind (.note _) fun _ => .document _

theorem attachOverload (t : TypeId) (a : Member) : (attachOverload t a).Neutral := by
  refine .bind (.view _) fun known => ?_
  cases known with
  | none => exact attachOperation t a
  | some m =>
    exact .bind (.modify fun c => (Catalog.quiet_mergeOperation c m a).sameNames) fun _ => .note _

theorem attachConstructors (t : TypeId) (members : List Member) :
    (attachConstructors t members).Neutral := by
  induction members with
  | nil => exact .pure ()
  | cons member rest ih =>
    exact .bind (.view _) fun _ => .bind (.attachConstructor t _) fun _ => ih

theorem applyAttributes (attributes : DeclarationAttributes) (t : TypeId) :
    (applyAttributes attributes t).Neutral :=
  .bind (.attachConstructors t _) fun _ => .ite (.modify fun _ _ => rfl) (.pure ())

theorem addLiteral (t : TypeId) (literal : String) :
    (Parser.modify (·.addLiteral t literal)).Neutral :=
  .modify fun _ _ => rfl

theorem addImplements (t base : TypeId) : (Parser.modify (·.addImplements t base)).Neutral :=
  .modify fun _ _ => rfl

end Parser.Neutral

/-! ## The coupling

The two readings are the same one. What `replaying` holds is that both stores are equal; types
correspond if they are the same; a duplicate name may end the reading. -/

/-- Both readings are the same one, of whatever catalog. -/
def replaying (l : LibraryId) : Coupling where
  lib₁ := l
  lib₂ := l
  holds w := w.first = w.second
  type _ t u := t = u
  named _ t u := t = u
  refuses e := ∃ duplicate, e = .duplicate duplicate

namespace Replaying

variable {l : LibraryId} {w : Stores} {n : Nat}

/-- An action that leaves the tokens alone keeps the coupling. -/
theorem keeps {p : Parser α} {V : Stores → α → α → Prop} (neutral : p.Neutral)
    (answers : ∀ w' a, V w' a a) : (replaying l).Keeps w n V p p := by
  intro s₁ s₂ tokens _ _ holds _
  obtain rfl := tokens.eq holds
  obtain ⟨answer, d, run, errors, -⟩ := neutral l s₁.catalog
  obtain ⟨j, run⟩ := run s₁ rfl
  have after := ReadState.put_after s₁ ⟨d, j⟩
  show (replaying l).Outcome s₁ s₁ _ V (p l s₁) (p l s₁)
  rw [run]
  cases answer with
  | ok a => exact .ok after after (Nat.zero_le _) rfl ⟨id, id⟩ (answers _ a)
  | error e => exact .error after after (.other (errors e rfl)) rfl

/-- Attaching a member keeps the coupling. -/
theorem attach_keeps {t u : TypeId} {a b : Member} {attach : TypeId → Member → Parser Unit}
    (neutral : ∀ t a, (attach t a).Neutral) (tu : t = u)
    (ab : Member.Corresponds ((replaying l).type w) a b) :
    (replaying l).Keeps w n Coupling.anything (attach t a) (attach u b) := by
  obtain rfl := tu
  obtain rfl := ab.eq fun tu => tu
  exact keeps (neutral t a) fun _ _ => trivial

end Replaying

open Replaying in
/-- Every reading, in whatever catalog, keeps the coupling with itself. -/
theorem replaying_lawful (l : LibraryId) : (replaying l).Lawful where
  resolve _ := keeps (.resolve _) fun _ _ => rfl
  wrap _ tu := by
    obtain rfl := tu
    exact keeps (.wrap _ _ _) fun _ _ => rfl
  genericOf name related := by
    obtain rfl := eq_of_related related fun tu => tu
    exact keeps (.genericOf name _) fun _ _ => rfl
  unionOf related := by
    obtain rfl := eq_of_related related fun tu => tu
    exact keeps (.unionOf _) fun _ _ => rfl
  iterable {w t u} holds tu := by
    have same : w.first = w.second := holds
    have equal : t = u := tu
    rw [same, equal]
  typeName {w t u} holds tu := by
    have same : w.first = w.second := holds
    have equal : t = u := tu
    rw [same, equal]
  globals {w} holds := by
    have same : w.first = w.second := holds
    show (w.first.catalog.library l).globals = (w.second.catalog.library l).globals
    rw [same]
  declareNamed reopens _ _ := keeps (.declareNamed _ reopens _) fun _ _ => rfl
  setTarget tu targets := by
    obtain rfl := tu
    obtain rfl := targets
    exact keeps (.setTarget _ _) fun _ _ => trivial
  giveSuperType tu targets := by
    obtain rfl := tu
    obtain rfl := targets
    exact keeps (.giveSuperType _ _) fun _ _ => trivial
  addLiteral literal tu := by
    obtain rfl := tu
    exact keeps (.addLiteral _ _) fun _ _ => trivial
  addImplements tu bases := by
    obtain rfl := tu.elim id id
    obtain rfl := bases
    exact keeps (.addImplements _ _) fun _ _ => trivial
  addModifiers modifiers tu := by
    obtain rfl := tu
    exact keeps (.modify fun _ _ => rfl) fun _ _ => trivial
  noteParameter pq := by
    obtain rfl := pq.eq fun tu => tu
    exact keeps (.note _) fun _ _ => trivial
  attachProperty tu ab _ := attach_keeps .attachProperty tu ab
  attachOperation tu ab _ := attach_keeps .attachOperation tu ab
  attachConstructor tu ab _ := attach_keeps .attachConstructor tu ab
  attachOverload tu ab _ := attach_keeps .attachOverload tu ab

/-! ## How far a reading comes

What the coupling says of one run: from a state with the first token next, the state at the end
stands a number of tokens after it, and a failure shows one of the tokens in between. -/

/-- What a reading comes to. The coupling itself says nothing here; what it says of the tokens is
the point. -/
theorem Replaying.outcome {l : LibraryId} {s : ReadState} {p : Parser α} {r : α → Nat}
    {V : Stores → α → α → Prop} (sim : ∀ {w n}, (replaying l).Sim w n r V p p) (plain : s.Plain) :
    (replaying l).Outcome s s r V (p l s) (p l s) :=
  sim.outcome ⟨rfl, rfl⟩ plain rfl

/-- Declarations are read from the front of the tokens. -/
theorem declarations_after {l : LibraryId} {text : List Char} {c : Catalog} {u : ReadState}
    (run : declarations l (ReadState.start (Lexer.tokens text) c) = (.ok (), u)) :
    ∃ count, (ReadState.start (Lexer.tokens text) c).After count u := by
  have outcome := Replaying.outcome (Coupling.declarations_keeps (replaying_lawful l).readings)
    (ReadState.start_plain text c)
  rw [run] at outcome
  cases outcome with
  | ok after => exact ⟨_, after⟩

/-- A description is accepted where its declarations end with the input. -/
theorem description_accepts {l : LibraryId} {s t : ReadState}
    (run : description l s = (.ok (), t)) :
    ∃ u, declarations l s = (.ok (), u) ∧ u.peek.category = .eof ∧ t = u.advance := by
  rw [description, Parser.bind_apply] at run
  generalize declarations l s = inner at run
  obtain ⟨answer, u⟩ := inner
  cases answer with
  | error e => cases run
  | ok =>
    simp only [Parser.bind_apply, Parser.require] at run
    split at run
    · next eof =>
      split at eof
      · next ends =>
        cases eof
        cases run
        exact ⟨u, rfl, ends, rfl⟩
      · cases eof
    · cases run

end IdlCatalog
