/-
# IdlCatalog.Proofs.Grammar.Calling — every reading is a chain of calls

Whatever a reading does to the catalog, it does by calling its functions, and its events are noted
between the calls. `Parser.Makes` says so of an action, `calling` of two equal readings, and the
grammar keeps it. Unlike a chain of steps, a chain of moves asks for nothing but numbers in range,
so descriptions may be read into any library of any catalog that was reached by calls, the
primitives and the hidden library included.

## Why not steps

`Steps` describes a reading by what it does for names, and asks that the registry of the catalog is
sound and the library was added. Users may spoil both: they may enter a composite into a library, or
read a description into the hidden one. What is left then is that the grammar goes through the
functions of the catalog, with numbers that are in range. This is weak, but it holds everywhere, and
it is enough for what is said of arbitrary sequences of requests.
-/
import IdlCatalog.Proofs.Grammar.Deeds
import IdlCatalog.Proofs.Grammar.Following

namespace IdlCatalog

open Grammar Catalog

variable {α β : Type} {c d : Catalog} {t u : TypeId} {l : LibraryId} {name : String} {kind : Kind}
  {a : Member}

/-! ## Where descriptions can be read

A catalog serves a library if its numbers are in range and the library exists. -/

/-- The library exists, and every number in the catalog is in range. -/
structure Catalog.Serves (c : Catalog) (l : LibraryId) : Prop where
  closed : c.Closed
  inside : l.index < c.libraries.size

/-- What calls keep, readings can be started from. -/
theorem Catalog.Serves.made {calls : List Call} (h : c.Serves l) (made : Made c calls d) :
    d.Serves l :=
  ⟨h.closed.made made, Nat.lt_of_lt_of_le h.inside (extent_le_made made).libraries⟩

/-- And so can they after moves. -/
theorem Catalog.Serves.moves {deeds : List Deed} (h : c.Serves l) (moves : Moves l c deeds d) :
    d.Serves l :=
  h.made moves.made

/-! ## Actions that make calls

`Makes l c Q` says of an action what it comes to from the catalog `c`: a chain of moves with the
events that it notes, and an answer of which `Q` holds. Sequences of actions make sequences of
calls. -/

/-- What an action comes to: an answer as `Q` says, or a name given twice. -/
inductive Answers (Q : α → Prop) : Except (Failure Fault) α → Prop
  | ok {a : α} (holds : Q a) : Answers Q (.ok a)
  | duplicate (e : DuplicateType) : Answers Q (.error (.duplicate e))

/-- The action reads no token and makes moves, and `Q` says what it answers. -/
def Parser.Makes (p : Parser α) (l : LibraryId) (c : Catalog) (Q : Catalog → α → Prop) : Prop :=
  ∀ s : ReadState, s.catalog = c → ∃ answer x deeds, p l s = (answer, s.put x) ∧
    Moves l c deeds x.catalog ∧ x.journal.toList = s.journal.toList ++ Deed.notes deeds ∧
    Answers (Q x.catalog) answer

/-- Whatever is answered. -/
def anyAnswer : Catalog → α → Prop := fun _ _ => True

/-- A number of a type of the catalog. -/
def typeInRange : Catalog → TypeId → Prop := fun c t => t.index < c.types.size

namespace Parser.Makes

variable {p : Parser α} {f : α → Parser β} {Q : Catalog → α → Prop} {R : Catalog → β → Prop}

/-- An answer takes no call. -/
theorem pure {a : α} (holds : Q c a) : (Pure.pure a : Parser α).Makes l c Q := by
  rintro s rfl
  exact ⟨_, s.store, [], rfl, .start, (List.append_nil _).symm, .ok holds⟩

/-- The second action goes on in a catalog that has grown. -/
theorem bind (h : p.Makes l c Q)
    (h' : ∀ d a, c.extent.Le d.extent → (c.Serves l → d.Serves l) → Q d a → (f a).Makes l d R) :
    (p >>= f).Makes l c R := by
  intro s eq
  obtain ⟨answer, x, deeds, run, moves, noted, answers⟩ := h s eq
  rw [Parser.bind_apply, run]
  cases answers with
  | duplicate e => exact ⟨_, x, deeds, rfl, moves, noted, .duplicate e⟩
  | @ok a holds =>
    obtain ⟨answer, y, more, run', moves', noted', answers'⟩ :=
      h' x.catalog a (extent_le_made moves.made) (fun serves => serves.moves moves) holds
        (s.put x) rfl
    have whole : y.journal.toList = s.journal.toList ++ Deed.notes (deeds ++ more) := by
      rw [noted', Deed.notes_append, ← List.append_assoc, ← noted]
      rfl
    exact ⟨answer, y, deeds ++ more, run', moves.trans moves', whole, answers'⟩

/-- What holds of the answers may be weakened. -/
theorem imp {Q' : Catalog → α → Prop} (h : p.Makes l c Q) (imp : ∀ d a, Q d a → Q' d a) :
    p.Makes l c Q' := by
  intro s eq
  obtain ⟨answer, x, deeds, run, moves, noted, answers⟩ := h s eq
  refine ⟨answer, x, deeds, run, moves, noted, ?_⟩
  cases answers with
  | duplicate e => exact .duplicate e
  | ok holds => exact .ok (imp _ _ holds)

theorem ite {q : Parser α} {b : Prop} [Decidable b] (yes : b → p.Makes l c Q)
    (no : ¬b → q.Makes l c Q) : (if b then p else q).Makes l c Q := by
  split
  · exact yes ‹_›
  · exact no ‹_›

theorem library : Parser.library.Makes l c fun _ k => k = l := by
  rintro s rfl
  exact ⟨_, s.store, [], rfl, .start, (List.append_nil _).symm, .ok rfl⟩

/-- Reading something off the catalog takes no call. -/
theorem view (f : Catalog → α) : (Parser.view f).Makes l c fun d a => d = c ∧ a = f c := by
  rintro s rfl
  exact ⟨_, s.store, [], rfl, .start, (List.append_nil _).symm, .ok ⟨rfl, rfl⟩⟩

/-- A note is a move if it is a plain one; the others belong to calls. -/
theorem note {event : Event} (plain : event.IsPlain) :
    (Parser.note event).Makes l c fun d _ => d = c := by
  rintro s rfl
  exact ⟨_, ⟨s.catalog, s.journal.push event⟩, _, rfl, .one (.note plain), Array.toList_push,
    .ok rfl⟩

/-- A change that comes to the same as moves without an event. -/
theorem change {f : Catalog → α × Catalog} {deeds : List Deed} (moves : Moves l c deeds (f c).2)
    (unnoted : Deed.notes deeds = []) (holds : Q (f c).2 (f c).1) :
    (Parser.change f).Makes l c Q := by
  rintro s rfl
  refine ⟨_, ⟨(f s.catalog).2, s.journal⟩, deeds, rfl, moves, ?_, .ok holds⟩
  rw [unnoted, List.append_nil]

/-- A change is a call. -/
theorem modify (call : Call) (plain : call.IsPlain) (inRange : call.InRange c) :
    (Parser.modify (call.run ·)).Makes l c fun d _ => d = call.run c := by
  rintro s rfl
  exact ⟨_, ⟨call.run s.catalog, s.journal⟩, _, rfl, .plain plain inRange,
    (List.append_nil _).symm, .ok rfl⟩

end Parser.Makes

open IdlCatalog.Parser (Makes)

/-! ## Types

A resolved name is an entry, so it is in range; a composite is created around types that are in
range. -/

theorem inRange_pair {n : Nat} (bound : t.index < n) (bound' : u.index < n) :
    ∀ v ∈ [t, u], v.index < n :=
  List.forall_mem_cons.2 ⟨bound, List.forall_mem_singleton.2 bound'⟩

/-- What a library has under a name exists. -/
theorem Catalog.Closed.get?_lt (h : c.Closed) (found : (c.library l).get? name = some t) :
    t.index < c.types.size := by
  rw [Library.get?] at found
  split at found
  · cases found
    exact (h.library l).globals
  · exact (h.library l).entry name t found

/-- So does what a name stands for. -/
theorem Catalog.Closed.resolve?_lt (h : c.Closed) (found : c.resolve? name = some t) :
    t.index < c.types.size := by
  rw [resolve?] at found
  split at found
  · next entry =>
    cases found
    exact (h.library primitives).entry name _ entry
  · obtain ⟨l, -, declared⟩ := List.exists_of_findSome?_eq_some found
    exact (h.library l).entry name t (Option.filter_eq_some_iff.1 declared).1

/-- And so does a placeholder, whether it was there or is created. -/
theorem addPlaceholder_lt (h : c.Closed) (name : String) :
    (c.addPlaceholder name).1.index < (c.addPlaceholder name).2.types.size := by
  rw [addPlaceholder]
  split
  · next entry => exact (h.library Catalog.hidden).entry name _ entry
  · show c.types.size < (c.pushType _).2.types.size
    rw [types_size_pushType]
    exact Nat.lt_succ_self _

/-- Looking a name up may create its placeholder and does nothing else. -/
theorem refer_moves (h : c.Closed) (l : LibraryId) (name : String) :
    ∃ deeds, Moves l c deeds (refer l name c).2 ∧ Deed.notes deeds = [] ∧
      (refer l name c).1.index < (refer l name c).2.types.size := by
  rw [refer]
  split
  · next t found =>
    exact ⟨[], .start, rfl, h.get?_lt (Option.filter_eq_some_iff.1 found).1⟩
  · split
    · next t found => exact ⟨[], .start, rfl, h.resolve?_lt found⟩
    · have moves : Moves l c [.call (.addPlaceholder name)] (c.addPlaceholder name).2 :=
        .plain trivial ⟨List.forall_mem_nil _, List.forall_mem_nil _, List.forall_mem_nil _⟩
      exact ⟨_, moves, rfl, addPlaceholder_lt h name⟩

/-- So a name is resolved to a type that exists. -/
theorem resolve_makes (serves : c.Serves l) : (resolve name).Makes l c typeInRange := by
  refine .bind .library fun d k _ serves' eq => ?_
  subst eq
  obtain ⟨deeds, moves, unnoted, bound⟩ := refer_moves (serves' serves).closed k name
  refine .bind (Q := typeInRange) (.change moves unnoted bound) fun e t le _ bound => ?_
  refine .bind (.note nofun) fun _ _ _ _ eq => ?_
  exact .pure (eq ▸ bound)

/-- A type that was created exists. -/
theorem pushed_lt (c : Catalog) (node : TypeNode) :
    typeInRange (c.pushType node).2 (c.pushType node).1 := by
  show c.types.size < (c.pushType node).2.types.size
  rw [types_size_pushType]
  exact Nat.lt_succ_self _

/-- A composite is created by one call. -/
theorem wrap_makes (bound : t.index < c.types.size) (kind : Kind) (rendered : String → String) :
    (wrap kind rendered t).Makes l c typeInRange := by
  have moves : Moves l c [.call (.newSynthesized (rendered (c.typeName t)) kind (some t))]
      (c.newSynthesized (rendered (c.typeName t)) kind (some t)).2 :=
    .plain trivial ⟨List.forall_mem_singleton.2 bound, nofun, nofun⟩
  exact .change moves rfl (pushed_lt c _)

theorem pushTypeArguments_moves {arguments : List TypeId} (bound : t.index < c.types.size)
    (mentioned : ∀ u ∈ arguments, u.index < c.types.size) :
    ∃ deeds, Moves l c deeds (arguments.foldl (fun c u => c.pushTypeArgument t u) c) ∧
      Deed.notes deeds = [] ∧
      (arguments.foldl (fun c u => c.pushTypeArgument t u) c).types.size = c.types.size := by
  induction arguments generalizing c with
  | nil => exact ⟨[], .start, rfl, rfl⟩
  | cons u arguments ih =>
    have one : Moves l c [.call (.pushTypeArgument t u)] (c.pushTypeArgument t u) :=
      .plain trivial ⟨inRange_pair bound (mentioned u List.mem_cons_self), nofun, nofun⟩
    have size : (c.pushTypeArgument t u).types.size = c.types.size := types_size_modifyType c t _
    obtain ⟨deeds, moves, unnoted, size'⟩ := ih (by rwa [size]) fun v inside => by
      rw [size]
      exact mentioned v (List.mem_cons_of_mem _ inside)
    exact ⟨_, one.trans moves, unnoted, size'.trans size⟩

/-- A composite with arguments takes one more for each argument. -/
theorem newWithArguments_makes {superType : Option TypeId} {arguments : List TypeId}
    (superTypes : ∀ u, superType = some u → u.index < c.types.size)
    (mentioned : ∀ u ∈ arguments, u.index < c.types.size) (kind : Kind)
    (rendered : List String → String) :
    (newWithArguments kind superType arguments rendered).Makes l c typeInRange := by
  let created := (c.newSynthesized (rendered (arguments.map c.typeName)) kind superType).2
  have one : Moves l c
      [.call (.newSynthesized (rendered (arguments.map c.typeName)) kind superType)] created :=
    .plain trivial ⟨fun u inside => superTypes u (Option.mem_toList.1 inside), nofun, nofun⟩
  have size : created.types.size = c.types.size + 1 := types_size_pushType c _
  obtain ⟨deeds, moves, unnoted, size'⟩ := pushTypeArguments_moves (l := l) (c := created)
    (t := ⟨c.types.size⟩) (by rw [size]; exact Nat.lt_succ_self _) fun u inside => by
      rw [size]
      exact Nat.lt_succ_of_lt (mentioned u inside)
  have bound : c.types.size < (arguments.foldl
      (fun d u => d.pushTypeArgument ⟨c.types.size⟩ u) created).types.size := by
    rw [size', size]
    exact Nat.lt_succ_self _
  exact .change (one.trans moves) unnoted bound

/-- A generic type may be made iterable by a further call. -/
theorem genericOf_makes {arguments : List TypeId}
    (mentioned : ∀ u ∈ arguments, u.index < c.types.size) (name : String) :
    (genericOf name arguments).Makes l c typeInRange := by
  refine .bind (newWithArguments_makes (fun u last => mentioned u (List.mem_of_getLast? last))
    mentioned _ _) fun d t le _ bound => ?_
  have rest {e : Catalog} (le : d.extent.Le e.extent) :
      (pure t : Parser TypeId).Makes l e typeInRange :=
    .pure (Nat.lt_of_lt_of_le bound le.types)
  refine .ite (fun _ => ?_) fun _ => rest (.refl _)
  cases pair : iterableOf arguments with
  | none => exact rest (.refl _)
  | some iterable =>
    have parts : ∀ u ∈ iterable.key :: iterable.value.toList, u.index < d.types.size := by
      cases arguments with
      | nil => cases pair
      | cons key others =>
        cases pair
        intro u inside
        refine Nat.lt_of_lt_of_le (mentioned u ?_) le.types
        rcases List.mem_cons.1 inside with rfl | value
        · exact List.mem_cons_self
        · exact List.mem_cons_of_mem _ (List.mem_of_mem_head? (Option.mem_toList.1 value))
    refine .bind (.modify (.setIterable t iterable) trivial
      ⟨List.forall_mem_cons.2 ⟨bound, parts⟩, nofun, nofun⟩) fun e _ le' _ _ => rest le'

/-! ## Declarations

Declaring a name is entering a type, after creating it or after setting its kind. -/

/-- Introducing a type enters it and asks for its documentation. It fails if the name is taken. -/
theorem introduce_makes (serves : c.Serves l) (bound : t.index < c.types.size) (reopens : Bool) :
    (introduce name t reopens).Makes l c anyAnswer := by
  rintro s rfl
  cases entered : s.catalog.addType l t with
  | error e =>
    exact ⟨_, s.store, [], introduce_apply_error entered rfl reopens, .start,
      (List.append_nil _).symm, .duplicate e⟩
  | ok d =>
    have moves : Moves l s.catalog _ (((Call.addType l t).run s.catalog).document l (.type t)) :=
      .one (.introduce name reopens bound serves.inside entered)
    rw [run_addType entered] at moves
    exact ⟨_, _, _, introduce_apply entered rfl reopens, moves, journal_introducedStore ..,
      .ok trivial⟩

/-- A type that was just created is introduced. -/
theorem newType_makes {f : TypeId → Parser β} {R : Catalog → β → Prop} (kind : Kind)
    (h : ∀ d t, c.extent.Le d.extent → (c.Serves l → d.Serves l) → t.index < d.types.size →
      (f t).Makes l d R) :
    (Parser.change (·.newType name kind) >>= f).Makes l c R := by
  have moves : Moves l c [.call (.newType name kind)] (c.newType name kind).2 :=
    .plain trivial ⟨nofun, nofun, nofun⟩
  exact .bind (Q := typeInRange) (.change moves rfl (pushed_lt c _)) h

/-- A new name takes two calls. -/
theorem createNamed_makes (serves : c.Serves l) (reopens : Bool) :
    (createNamed kind reopens name).Makes l c typeInRange := by
  refine newType_makes kind fun d t _ serves' bound => ?_
  refine .bind (introduce_makes (serves' serves) bound reopens) fun e _ le _ _ => ?_
  exact .pure (Nat.lt_of_lt_of_le bound le.types)

/-- A known name gets its kind before it is entered. -/
theorem upgradeNamed_makes (serves : c.Serves l) (bound : t.index < c.types.size)
    (reopens : Bool) : (upgradeNamed kind reopens name t).Makes l c typeInRange := by
  refine .bind (.modify (.setKind t kind) trivial ⟨List.forall_mem_singleton.2 bound, nofun, nofun⟩)
    fun d _ le serves' _ => ?_
  have bound : t.index < d.types.size := Nat.lt_of_lt_of_le bound le.types
  refine .bind (introduce_makes (serves' serves) bound reopens) fun e _ le _ _ => ?_
  exact .pure (Nat.lt_of_lt_of_le bound le.types)

/-- A type that reopens another one gets it as super type after it was entered. -/
theorem reopenNamed_makes (serves : c.Serves l) (target : u.index < c.types.size)
    (reopens : Bool) : (reopenNamed reopens name u).Makes l c typeInRange := by
  refine newType_makes .reopening fun d t le serves' bound => ?_
  refine .bind (introduce_makes (serves' serves) bound reopens) fun e _ le' _ _ => ?_
  have bound : t.index < e.types.size := Nat.lt_of_lt_of_le bound le'.types
  have target : u.index < e.types.size := Nat.lt_of_lt_of_le target (le.trans le').types
  refine .bind (.modify (.setSuperType t u) trivial ⟨inRange_pair bound target, nofun,
    nofun⟩) fun e _ le _ _ => ?_
  exact .pure (Nat.lt_of_lt_of_le bound le.types)

/-- What a declaration finds under its name exists. -/
theorem existing?_lt (h : c.Closed) (known : existing? l name c = some t) :
    t.index < c.types.size := by
  rw [existing?, Option.or_eq_some_iff] at known
  rcases known with own | ⟨-, found⟩
  · exact h.get?_lt own
  · exact h.resolve?_lt found

/-- So whatever a declaration does with its name is made of calls. -/
theorem declareNamed_makes (serves : c.Serves l) (reopens : Bool) :
    (declareNamed kind reopens name).Makes l c typeInRange := by
  refine .bind .library fun d k _ serves' eq => ?_
  subst eq
  refine .bind (.view _) fun e existing _ _ view => ?_
  obtain ⟨rfl, rfl⟩ := view
  have serves := serves' serves
  cases known : existing? k name e with
  | none => cases reopens <;> exact createNamed_makes serves _
  | some t =>
    have bound := existing?_lt serves.closed known
    cases reopens with
    | false => exact upgradeNamed_makes serves bound false
    | true =>
      refine .bind (.view _) fun e node _ _ view => ?_
      obtain ⟨rfl, rfl⟩ := view
      refine .ite (fun _ => ?_) fun _ => reopenNamed_makes serves bound true
      refine .bind (.note nofun) fun _ _ _ _ eq => ?_
      exact .pure (eq ▸ bound)

/-! ## Edges and members

Attaching is one call, one note and an inquiry, whatever is attached. -/

/-- A super type is given by one call and noted. -/
theorem giveSuperType_makes (bound : t.index < c.types.size) (target : u.index < c.types.size) :
    (giveSuperType t u).Makes l c anyAnswer := by
  refine .bind (.modify (.setSuperType t u) trivial ⟨inRange_pair bound target, nofun,
    nofun⟩) fun d _ _ _ _ => ?_
  have noted : (Parser.note (.extended t u)).Makes l d _ := .note nofun
  exact noted.imp fun _ _ _ => trivial

theorem setTarget_makes (bound : t.index < c.types.size) (target : u.index < c.types.size) :
    (setTarget t u).Makes l c anyAnswer :=
  .ite (fun _ => giveSuperType_makes bound target) fun _ => .pure trivial

/-- A call that attaches a member, and what is noted about the member. -/
theorem attach_makes (serves : c.Serves l) {attach : Catalog → MemberId × Catalog} {call : Call}
    (attaches : call.Attaches t) (inRange : call.InRange c)
    (same : attach c = (⟨c.members.size⟩, call.run c)) :
    (do
      let m ← Parser.change attach
      Parser.note (.attached t m)
      Parser.document (.member m) : Parser Unit).Makes l c anyAnswer := by
  rintro s rfl
  obtain ⟨deeds, moves, noted⟩ : ∃ deeds,
      Moves l s.catalog deeds (documentMember l t (attach s.catalog)).2 ∧
        Deed.notes deeds = (documentMember l t (attach s.catalog)).1 := by
    rw [documentMember, same]
    exact ⟨_, .one (.attach attaches inRange serves.inside), rfl⟩
  refine ⟨_, attachedStore s l t (attach s.catalog), deeds, rfl, moves, ?_, .ok trivial⟩
  rw [journal_attachedStore, noted]

section Attaching

variable (serves : c.Serves l) (bound : t.index < c.types.size)
  (mentioned : ∀ u ∈ a.referencedTypes, u.index < c.types.size)

include serves bound mentioned

/-- A property is attached by a call and documented. -/
theorem attachProperty_makes : (attachProperty t a).Makes l c anyAnswer :=
  attach_makes serves (.property a) ⟨List.forall_mem_cons.2 ⟨bound, mentioned⟩, nofun, nofun⟩ rfl

theorem attachOperation_makes : (attachOperation t a).Makes l c anyAnswer :=
  attach_makes serves (.operation a) ⟨List.forall_mem_cons.2 ⟨bound, mentioned⟩, nofun, nofun⟩ rfl

theorem attachConstructor_makes : (attachConstructor t a).Makes l c anyAnswer :=
  attach_makes serves (.constructor a) ⟨List.forall_mem_cons.2 ⟨bound, mentioned⟩, nofun, nofun⟩
    rfl

/-- An overload is attached, or folded in by a call that asks for nothing. -/
theorem attachOverload_makes : (attachOverload t a).Makes l c anyAnswer := by
  refine .bind (.view _) fun d known _ _ view => ?_
  obtain ⟨rfl, rfl⟩ := view
  cases found : d.operation? t a.name with
  | none => exact attachOperation_makes serves bound mentioned
  | some m =>
    have inside : m.index < d.members.size :=
      (serves.closed.type (d.storage t)).operations a.name m found
    refine .bind (.modify (.mergeOperation m a) trivial
      ⟨mentioned, List.forall_mem_singleton.2 inside, nofun⟩) fun e _ _ _ _ => ?_
    have noted : (Parser.note (.merged t m)).Makes l e _ := .note nofun
    exact noted.imp fun _ _ _ => trivial

end Attaching

/-! ## The coupling of a reading with itself

The relation is between equal states, so it says nothing about two readings. It says that whatever
was done so far was done by moves, and that types at hand are in range. -/

/-- Both readings are the same one, and what it did are moves. References and declarations are
about types that exist. -/
def calling (l : LibraryId) (c : Catalog) : Coupling where
  lib₁ := l
  lib₂ := l
  holds w := w.first = w.second ∧ ∃ deeds, Moves l c deeds w.first.catalog ∧
    w.first.journal.toList = Deed.notes deeds
  type w t u := t = u ∧ t.index < w.first.catalog.types.size
  named w t u := t = u ∧ t.index < w.first.catalog.types.size
  refuses failure := ∃ e, failure = .duplicate e

namespace Calling

variable {w : Stores} {n : Nat}

/-- An action that makes calls keeps the coupling. -/
theorem keeps {p : Parser α} {Q : Catalog → α → Prop} {V : Stores → α → α → Prop}
    (start : c.Serves l)
    (h : ∀ x : Store, (calling l c).Later w (.twice x) → x.catalog.Serves l →
      p.Makes l x.catalog Q)
    (answers : ∀ x a, Q x.catalog a → V (.twice x) a a) : (calling l c).Keeps w n V p p := by
  intro s₁ s₂ tokens _ _ holds later
  obtain ⟨same, deeds, moves, noted⟩ := holds
  obtain rfl := tokens.eq same
  obtain ⟨answer, x, more, run, moves', noted', answered⟩ :=
    h s₁.store later (start.moves moves) s₁ rfl
  have after := ReadState.put_after s₁ x
  have whole : x.journal.toList = Deed.notes (deeds ++ more) := by
    rw [noted', Deed.notes_append, ← noted]
    rfl
  have holds : (calling l c).holds (.of (s₁.put x) (s₁.put x)) :=
    ⟨rfl, deeds ++ more, moves.trans moves', whole⟩
  have grown : (calling l c).Later (.of s₁ s₁) (.of (s₁.put x) (s₁.put x)) := by
    have le := (extent_le_made moves'.made).types
    refine ⟨?_, ?_⟩ <;>
    · rintro t _ ⟨rfl, bound⟩
      exact ⟨rfl, Nat.lt_of_lt_of_le bound le⟩
  show (calling l c).Outcome s₁ s₁ _ V (p l s₁) (p l s₁)
  rw [run]
  cases answered with
  | ok q => exact .ok after after (Nat.zero_le _) holds grown (answers x _ q)
  | duplicate e => exact .error after after (.other ⟨e, rfl⟩) holds

/-- An action that answers a type keeps the coupling if it makes calls. -/
theorem types_keeps {p : Parser TypeId} (start : c.Serves l)
    (h : ∀ x : Store, (calling l c).Later w (.twice x) → x.catalog.Serves l →
      p.Makes l x.catalog typeInRange) : (calling l c).Keeps w n (calling l c).type p p :=
  keeps start h fun _ _ bound => ⟨rfl, bound⟩

/-- So does an action without an answer. -/
theorem action_keeps {p : Parser Unit} (start : c.Serves l)
    (h : ∀ x : Store, (calling l c).Later w (.twice x) → x.catalog.Serves l →
      p.Makes l x.catalog anyAnswer) : (calling l c).Keeps w n Coupling.anything p p :=
  keeps start h fun _ _ _ => trivial

/-- And so does a single call. -/
theorem modify_keeps (start : c.Serves l) (call : Call) (plain : call.IsPlain)
    (h : ∀ x : Store, (calling l c).Later w (.twice x) → call.InRange x.catalog) :
    (calling l c).Keeps w n Coupling.anything (Parser.modify (call.run ·))
      (Parser.modify (call.run ·)) :=
  action_keeps start fun x later _ =>
    (Makes.modify call plain (h x later)).imp fun _ _ _ => trivial

/-- Lists of types that correspond are equal, with all types in range. -/
theorem types_eq {ts us : List TypeId} (h : List.Forall₂ ((calling l c).type w) ts us) :
    ts = us ∧ ∀ t ∈ ts, t.index < w.first.catalog.types.size :=
  ⟨eq_of_related h fun tu => tu.1, forall_left h fun tu => tu.2⟩

/-- Attaching corresponding members keeps the coupling if it makes calls. -/
theorem attach_keeps {b : Member} {attach : TypeId → Member → Parser Unit} (start : c.Serves l)
    (tu : (calling l c).named w t u) (ab : Member.Corresponds ((calling l c).type w) a b)
    (makes : ∀ d : Catalog, d.Serves l → t.index < d.types.size →
      (∀ v ∈ a.referencedTypes, v.index < d.types.size) → (attach t a).Makes l d anyAnswer) :
    (calling l c).Keeps w n Coupling.anything (attach t a) (attach u b) := by
  obtain rfl := tu.1
  obtain rfl := ab.eq fun tu => tu.1
  exact action_keeps start fun x later serves => makes x.catalog serves (later.named tu).2
    (forall_left (ab.imp later.type).referencedTypes fun tu => tu.2)

end Calling

/-- What type references do to the catalog is made of calls. -/
theorem calling_lawfulTypes (start : c.Serves l) : (calling l c).LawfulTypes where
  resolve _ := Calling.types_keeps start fun _ _ serves => resolve_makes serves
  wrap {w n t u kind rendered} _ tu := by
    obtain rfl := tu.1
    exact Calling.types_keeps start fun x later _ => wrap_makes (later.type tu).2 kind rendered
  genericOf {w n ts us} name related := by
    obtain ⟨rfl, -⟩ := Calling.types_eq related
    exact Calling.types_keeps start fun x later _ =>
      genericOf_makes (Calling.types_eq (related.imp fun _ _ => later.type)).2 name
  unionOf {w n ts us} related := by
    obtain ⟨rfl, -⟩ := Calling.types_eq related
    exact Calling.types_keeps start fun x later _ =>
      newWithArguments_makes (fun _ none => by cases none)
        (Calling.types_eq (related.imp fun _ _ => later.type)).2 _ _

/-- A reading in a catalog with numbers in range makes calls. -/
theorem calling_lawful (start : c.Serves l) : (calling l c).Lawful where
  toLawfulTypes := calling_lawfulTypes start
  iterable holds tu := by
    rw [tu.1, holds.1]
  typeName holds tu := by
    rw [tu.1, holds.1]
  globals {w} holds := by
    obtain ⟨same, deeds, moves, -⟩ := holds
    have equal : (w.first.catalog.library l).globals = (w.second.catalog.library l).globals := by
      rw [same]
    exact ⟨equal, ((start.moves moves).closed.library l).globals⟩
  declareNamed {w n kind name} reopens _ _ := Calling.keeps start
    (fun _ _ serves => declareNamed_makes serves reopens) fun _ _ bound => ⟨rfl, bound⟩
  setTarget {w n t u target₁ target₂} tu targets := by
    obtain rfl := tu.1
    obtain rfl := targets.1
    exact Calling.action_keeps start fun x later _ =>
      setTarget_makes (later.named tu).2 (later.type targets).2
  giveSuperType {w n t u target₁ target₂} tu targets := by
    obtain rfl := tu.1
    obtain rfl := targets.1
    exact Calling.action_keeps start fun x later _ =>
      giveSuperType_makes (later.named tu).2 (later.type targets).2
  addLiteral {w n t u} literal tu := by
    obtain rfl := tu.1
    exact Calling.modify_keeps start (.addLiteral t literal) trivial fun x later =>
      ⟨List.forall_mem_singleton.2 (later.named tu).2, nofun, nofun⟩
  addImplements {w n t u base₁ base₂} tu bases := by
    obtain rfl := tu.elim And.left And.left
    obtain rfl := bases.1
    refine Calling.modify_keeps start (.addImplements t base₁) trivial fun x later =>
      ⟨?_, nofun, nofun⟩
    have bound : t.index < x.catalog.types.size :=
      tu.elim (fun type => (later.type type).2) fun named => (later.named named).2
    exact inRange_pair bound (later.type bases).2
  addModifiers {w n t u} modifiers tu := by
    obtain rfl := tu.1
    exact Calling.modify_keeps start (.addModifiers t modifiers) trivial fun x later =>
      ⟨List.forall_mem_singleton.2 (later.named tu).2, nofun, nofun⟩
  noteParameter {w n p q} pq := by
    obtain rfl := pq.eq fun tu => tu.1
    have noted (d : Catalog) : (Parser.note (.parameter p)).Makes l d _ := .note nofun
    exact Calling.action_keeps start fun x _ _ => (noted x.catalog).imp fun _ _ _ => trivial
  attachProperty tu ab _ := Calling.attach_keeps start tu ab fun _ serves bound mentioned =>
    attachProperty_makes serves bound mentioned
  attachOperation tu ab _ := Calling.attach_keeps start tu ab fun _ serves bound mentioned =>
    attachOperation_makes serves bound mentioned
  attachConstructor tu ab _ := Calling.attach_keeps start tu ab fun _ serves bound mentioned =>
    attachConstructor_makes serves bound mentioned
  attachOverload tu ab _ := Calling.attach_keeps start tu ab fun _ serves bound mentioned =>
    attachOverload_makes serves bound mentioned

/-- Ingesting a description makes moves, whether it comes to its end or fails, and what it notes on
the way are its events. -/
theorem ingest_moves (start : c.Serves l) (source : String) :
    ∃ deeds, Moves l c deeds (c.ingest l source).catalog ∧
      (c.ingest l source).events = Deed.notes deeds := by
  let text := source.toList
  have outcome : (calling l c).Outcome (ReadState.start (Lexer.tokens text) c)
      (ReadState.start (Lexer.tokens text) c) (fun _ => 0) Coupling.anything
      (description l (ReadState.start (Lexer.tokens text) c))
      (description l (ReadState.start (Lexer.tokens text) c)) :=
    (Coupling.description_keeps (calling_lawful start)).outcome
      (ReadState.start_sameTokens _ c c) (ReadState.start_plain text c) ⟨rfl, [], .start, rfl⟩
  rw [ingest_eq]
  generalize description l (ReadState.start (Lexer.tokens text) c) = run at outcome
  obtain ⟨answer, s⟩ := run
  cases outcome with
  | ok _ _ _ holds => exact holds.2
  | error _ _ _ holds => exact holds.2

/-- A reading leaves a catalog that calls alone can come to. -/
theorem ingest_made (start : c.Serves l) (source : String) :
    ∃ calls, Made c calls (c.ingest l source).catalog := by
  obtain ⟨deeds, moves, -⟩ := ingest_moves start source
  exact ⟨_, moves.made⟩

/-! ## What a user may do

A request is a call or a reading. `Used` lists what can be reached by requests, and every such
catalog is reached by calls alone. -/

/-- What a user may ask a catalog for: one of its functions, or to read a description. -/
inductive Request
  | call (call : Call)
  | ingest (l : LibraryId) (source : String)

namespace Request

/-- The arguments are numbers of the catalog. -/
def InRange (c : Catalog) : Request → Prop
  | call made => made.InRange c
  | ingest l _ => l.index < c.libraries.size

instance (c : Catalog) : (request : Request) → Decidable (request.InRange c)
  | call made => inferInstanceAs (Decidable (made.InRange c))
  | ingest l _ => inferInstanceAs (Decidable (l.index < c.libraries.size))

/-- The catalog after a request, whether a description was accepted or not. -/
def serve (c : Catalog) : Request → Catalog
  | call made => made.run c
  | ingest l source => (c.ingest l source).catalog

end Request

/-- The catalogs that requests lead to, from the first one on. -/
inductive Used : List Request → Catalog → Prop
  | start : Used [] initial
  | request {requests : List Request} {c : Catalog} (used : Used requests c) (request : Request)
      (inRange : request.InRange c) : Used (requests ++ [request]) (request.serve c)

/-- The calls that requests come to, with those that readings make. -/
inductive Unfolds : List Request → List Call → Catalog → Prop
  | start : Unfolds [] [] initial
  | call {requests : List Request} {calls : List Call} {c : Catalog}
      (unfolds : Unfolds requests calls c) {call : Call} (inRange : call.InRange c) :
      Unfolds (requests ++ [.call call]) (calls ++ [call]) (call.run c)
  | ingest {requests : List Request} {calls more : List Call} {c : Catalog}
      (unfolds : Unfolds requests calls c) {l : LibraryId} (inside : l.index < c.libraries.size)
      {source : String} (made : Made c more (c.ingest l source).catalog) :
      Unfolds (requests ++ [.ingest l source]) (calls ++ more) (c.ingest l source).catalog

section Requests

variable {requests : List Request} {calls : List Call}

/-- Requests unfold into calls. -/
theorem Unfolds.made (h : Unfolds requests calls c) : Made initial calls c := by
  induction h with
  | start => exact .start
  | call _ inRange ih => exact ih.call inRange
  | ingest _ _ made ih => exact ih.trans made

/-- So whatever a user does keeps numbers in range. -/
theorem Unfolds.closed (h : Unfolds requests calls c) : c.Closed := closed_initial.made h.made

/-- Every catalog that is reached by requests is reached by calls. -/
theorem Used.unfolds (h : Used requests c) : ∃ calls, Unfolds requests calls c := by
  induction h with
  | start => exact ⟨[], .start⟩
  | request _ request inRange ih =>
    obtain ⟨calls, unfolds⟩ := ih
    cases request with
    | call call => exact ⟨_, unfolds.call inRange⟩
    | ingest l source =>
      obtain ⟨more, made⟩ := ingest_made ⟨unfolds.closed, inRange⟩ source
      exact ⟨_, unfolds.ingest inRange made⟩

/-- What holds at first and is kept by every call holds of all catalogs that are reached. -/
theorem Used.invariant {P : Catalog → Prop} (h : Used requests c) (start : P initial)
    (keeps : ∀ (d : Catalog) (call : Call), d.Closed → call.InRange d → P d → P (call.run d)) :
    P c := by
  obtain ⟨calls, unfolds⟩ := h.unfolds
  have made := unfolds.made
  clear h unfolds
  induction made with
  | start => exact start
  | call made inRange ih => exact keeps _ _ (closed_initial.made made) inRange ih

end Requests

end IdlCatalog
