/-
# IdlCatalog.Proofs.Meeting — what is written in two bodies is found in one type

`Reopening` finds in one type what two readings note in their events. Here the two descriptions are
written down: an interface with members of any kind, and a partial interface of the same name with
further ones. The events of such a reading are known. They tell that the name is declared once, and
of each member in the body that it was attached to the type of the declaration or folded into an
operation there; they tell of no super type.

So in whatever order two libraries read the two descriptions, both are accepted, and each name that
is written in one of the bodies is found in the type that the first library has for the name.

What is written down is a tree for each member, so that every member has a name and a table before
anything is read. Reading turns each tree into one event, and the event into an entry of the table
of the type. The entry need not be the member itself, for the same reason as in `Proofs.Reopening`:
what is found under the name may be a later property or an earlier operation.
-/
import IdlCatalog.Proofs.Folding
import IdlCatalog.Proofs.Reopening

namespace IdlCatalog

open Grammar Catalog Lexer IdlCatalog.Parser

variable {c d e : Catalog} {l l₁ l₂ : LibraryId} {s : ReadState} {t : TypeId} {n : String}
  {es : List Event} {ms ms₁ ms₂ : List MemberSyntax} {reopens : Bool} {source : String}

/-! ## Declarations that are written down

The tokens of an interface and of a partial one differ in one word. `TellsOfBody` is the form of the
events of such a declaration, apart from references and questions: first the declaration, then what
its body tells of. -/

/-- The tokens of an interface with these members, or of a partial one. -/
def declarationTokens (reopens : Bool) (n : String) (ms : List MemberSyntax) : List Token :=
  BodyForm.interface.start reopens n ++ (ms.flatMap MemberSyntax.tokens ++ bodyEnd)

theorem declarationTokens_isToken (spelled : Spells .word n.toList) {t : Token}
    (inside : t ∈ declarationTokens reopens n ms) : IsToken t := by
  cases reopens with
  | false => exact interfaceTokens_isToken spelled ms inside
  | true =>
    rcases List.mem_cons.1 inside with rfl | inside
    · exact isToken_word (spells_word (by decide) (by decide))
    · exact interfaceTokens_isToken spelled ms inside

/-- The events tell that the name is declared for the type, and then of what its body holds; each
member is among it. -/
structure TellsOfBody (reopens : Bool) (n : String) (ms : List MemberSyntax) (t : TypeId)
    (es : List Event) (d : Catalog) : Prop where
  told : ∃ body, Event.told es = .declared n t reopens :: body ∧ ∀ e ∈ body, e.IsOfBody
  members : ∀ m ∈ ms, ∃ e ∈ es, d.Notes t m.table m.name e

namespace TellsOfBody

variable (tells : TellsOfBody reopens n ms t es d)

include tells

theorem declared : .declared n t reopens ∈ es := by
  obtain ⟨body, told, -⟩ := tells.told
  have inside : .declared n t reopens ∈ Event.told es := told ▸ List.mem_cons_self
  exact (List.mem_filter.1 inside).1

/-- The name is declared once. -/
theorem only {u : TypeId} {r : Bool} (inside : .declared n u r ∈ es) : r = reopens := by
  obtain ⟨body, told, ofBody⟩ := tells.told
  have inside : .declared n u r ∈ Event.told es := List.mem_filter.2 ⟨inside, rfl⟩
  rw [told] at inside
  rcases List.mem_cons.1 inside with same | other
  · exact (Event.declared.inj same).2.2
  · exact (ofBody _ other).elim

/-- The declaration gives no super type. -/
theorem bare : Event.Bare n es := by
  intro u r v _ extended
  obtain ⟨body, told, ofBody⟩ := tells.told
  have inside : .extended u v ∈ Event.told es := List.mem_filter.2 ⟨extended, rfl⟩
  rw [told] at inside
  rcases List.mem_cons.1 inside with same | other
  · cases same
  · exact (ofBody _ other).elim

/-- What is noted of the members stays so. -/
theorem later (grows : Extends d e) : TellsOfBody reopens n ms t es e where
  told := tells.told
  members m listed := by
    obtain ⟨e, inside, notes⟩ := tells.members m listed
    exact ⟨e, inside, notes.later grows⟩

end TellsOfBody

/-! ## Reading one of them

The name is free in the library, so the declaration is accepted, whichever of its cases it is. The
body is read from the catalog that it leaves, about which no more is known than that names and
tables are in order. -/

/-- A declaration of a name that the library has no entry for is not refused. -/
theorem Declaration.accepted_of_free {kind : Kind} {answer : Except (Failure Fault) TypeId}
    (declaration : Declaration l kind n c reopens answer es d)
    (free : reopens = true → (c.library l).types[n]? = none) : ∃ t, answer = .ok t := by
  cases declaration with
  | refused known other taken =>
    rw [free rfl] at taken
    cases taken
  | _ => exact ⟨_, rfl⟩

/-- A declaration tells of itself, and of nothing else. -/
theorem Declaration.told {kind : Kind}
    (declaration : Declaration l kind n c reopens (.ok t) es d) :
    Event.told es = [.declared n t reopens] := by
  cases declaration <;> rfl

theorem Catalog.Orderly.declaration {kind : Kind} {answer : Except (Failure Fault) TypeId}
    (orderly : c.Orderly) (readable : c.Readable l) (plain : n ≠ globalsName)
    (declared : kind.IsDeclared) (declaration : Declaration l kind n c reopens answer es d) :
    d.Orderly := by
  have step : Step l c es d := .declaration plain declared declaration
  exact orderly.later (step.files readable).grows (step.readable readable).registry

theorem Event.told_told (es : List Event) : told (told es) = told es := by
  rw [told, told, List.filter_filter]
  simp

/-- The members of the body are noted, whatever the type has so far. -/
theorem body_noted (orderly : s.catalog.Orderly)
    (stands : s.rest = ms.flatMap MemberSyntax.tokens ++ bodyEnd ++ [Token.endOfInput]) :
    (BodyForm.interface.body t).Tells l s [Token.endOfInput] fun _ noted d =>
      (∀ e ∈ noted, e.IsOfBody) ∧ ∀ m ∈ ms, ∃ e ∈ noted, d.Notes t m.table m.name e := by
  rw [List.append_assoc] at stands
  refine (bodyOf_noted orderly stands).bind ?_
  rintro _ noted u left ⟨ofBody, notes, -⟩
  obtain ⟨peek, left⟩ := ReadState.peek_of_rest left
  have semicolon : (accept .semicolon).Takes u true := fun _ => if_pos (by rw [peek])
  rw [← u.catalog_advance] at notes
  refine semicolon.tells ⟨(), [], u.advance, rfl, left, (List.append_nil _).symm, ?_⟩
  dsimp only
  rw [List.append_nil]
  exact ⟨ofBody, notes⟩

theorem Event.told_of_body (ofBody : ∀ e ∈ es, e.IsOfBody) : told es = es := by
  refine List.filter_eq_self.2 fun e inside => ?_
  have ofBody := ofBody e inside
  cases e with
  | referenced | asked => exact ofBody.elim
  | _ => rfl

/-- The declaration is read to its end, whatever the type of the name has so far. -/
theorem declaration_tells (readable : s.catalog.Readable l) (orderly : s.catalog.Orderly)
    (plain : n ≠ globalsName) (other : n ≠ "mixin")
    (free : reopens = true → (s.catalog.library l).types[n]? = none)
    (stands : s.rest = declarationTokens reopens n ms ++ [Token.endOfInput]) :
    (declarationWith declarations).Tells l s [Token.endOfInput] fun _ noted d =>
      ∃ t, TellsOfBody reopens n ms t noted d := by
  rw [declarationTokens, List.append_assoc, List.append_assoc] at stands
  obtain ⟨u, rest, store, run⟩ :=
    declaration_apply (l := l) .interface reopens declarations stands fun _ => other
  have catalog : u.catalog = s.catalog := congrArg Store.catalog store
  rw [← catalog] at readable orderly free
  have performs : (declareNamed .interface reopens n).Performs l u.catalog fun answer es d =>
      Declaration l .interface n u.catalog reopens answer es d :=
    declareNamed_performs readable plain reopens
  obtain ⟨answer, es, x, declared, journal, declaration⟩ := performs u rfl
  obtain ⟨t, rfl⟩ := declaration.accepted_of_free free
  obtain ⟨v, rest, same, named⟩ := named_apply (b := .interface) rest declared
  have orderly : v.catalog.Orderly := by
    rw [show v.catalog = x.catalog from congrArg Store.catalog same]
    exact orderly.declaration readable plain (by decide) declaration
  -- before the body only the declaration is told of
  have before : v.told = s.told ++ [.declared n t reopens] := by
    have journals : v.journal = x.journal := congrArg Store.journal same
    rw [ReadState.told, journals, journal, Event.told_append, declaration.told]
    exact congrArg (· ++ _) (ReadState.told_congr store)
  rw [← List.append_assoc] at rest
  obtain ⟨_, noted, w, ended, left, told, ofBody, notes⟩ := body_noted (l := l) (t := t) orderly rest
  refine ⟨(), .declared n t reopens :: noted, w, (run.trans named).trans ended, left, ?_, t,
    ⟨noted, congrArg (_ :: ·) (Event.told_of_body ofBody), ofBody⟩, fun m listed => ?_⟩
  · rw [told, before, List.append_assoc]
    rfl
  · obtain ⟨e, inside, notes⟩ := notes m listed
    exact ⟨e, List.mem_cons_of_mem _ inside, notes⟩

/-- A description that is such a declaration is accepted, and its events tell of the body. -/
theorem ingest_tells (readable : c.Readable l) (orderly : c.Orderly)
    (spelled : Spells .word n.toList) (other : n ≠ "mixin")
    (laid : LaidOut (declarationTokens reopens n ms) source.toList)
    (free : reopens = true → (c.library l).types[n]? = none) :
    (c.ingest l source).outcome = .ok () ∧
      ∃ t, TellsOfBody reopens n ms t (c.ingest l source).events (c.ingest l source).catalog := by
  have stands : tokens source.toList = declarationTokens reopens n ms ++ [Token.endOfInput] :=
    tokens_of_laidOut laid fun t inside => declarationTokens_isToken spelled inside
  let s := ReadState.start (tokens source.toList) c
  have start : s.rest = BodyForm.interface.start reopens n ++
      (ms.flatMap MemberSyntax.tokens ++ bodyEnd ++ [Token.endOfInput]) :=
    stands.trans (by rw [declarationTokens, List.append_assoc])
  have some_left : 1 < s.left := by
    have longer := BodyForm.start_left start
    refine Nat.lt_of_le_of_lt ?_ longer
    rw [List.length_append]
    exact Nat.le_add_left _ _
  have first := declaration_tells (l := l) (s := s) readable orderly
    (word_ne_globalsName spelled) other free stands
  obtain ⟨_, noted, u, run, -, told, t, tells⟩ :=
    description_tells (BodyForm.start_not_atLast start) some_left first
  have whole : (c.ingest l source).events = u.journal.toList := by
    rw [Catalog.ingest_eq, run]
  obtain ⟨outcome, catalog⟩ := ingest_of_read run
  have same : Event.told (c.ingest l source).events = noted := by
    rw [whole]
    exact told
  refine ⟨outcome, t, ?_, fun m listed => ?_⟩
  · obtain ⟨body, split, ofBody⟩ := tells.told
    rw [← same, Event.told_told] at split
    exact ⟨body, split, ofBody⟩
  · obtain ⟨e, inside, notes⟩ := tells.members m listed
    rw [← same] at inside
    exact ⟨e, (List.mem_filter.1 inside).1, catalog ▸ notes⟩

/-! ## Both of them

The events of the two readings are of the form that `ReadBoth.met` asks for, in either order; and
what is found for the events is found for the members that are written. -/

/-- After every session names and tables are in order. -/
theorem orderly_after (commands : List Command) : (after commands).Orderly := by
  have start : initial.Orderly := by
    refine ⟨registry_initial, tables_initial, fun u m listed => ?_⟩
    rw [sameContents_initial.constructors, type_of_size_le _ u (Nat.zero_le _)] at listed
    exact absurd listed (Array.not_mem_empty m)
  refine after_induction (P := Catalog.Orderly) start ?_ ?_ ?_ commands
  · intro c registry _ orderly name readOnly docs
    exact orderly.later (sameContents_addLibrary c name readOnly docs).toExtends
      (registry.addLibrary name readOnly docs)
  · intro c registry _ orderly l
    exact orderly.later (sameContents_removeLibrary c l).toExtends (registry.removeLibrary l)
  · intro c l readable orderly source
    obtain ⟨h, reading, -⟩ := ingest_reading readable source
    exact orderly.later (reading.grows readable) (reading.readable readable).registry

/-- What the type has in the table under the name. -/
def Catalog.entry? (c : Catalog) : Table → TypeId → String → Option MemberId
  | .properties, t, name => c.property? t name
  | .operations, t, name => c.operation? t name

/-- A member that is noted for a declared type is found. -/
theorem BodiesFound.entry {m : MemberSyntax} {u : TypeId} (found : BodiesFound d n t es)
    (tells : TellsOfBody reopens n ms u es d) (written : m ∈ ms) :
    ∃ k, d.entry? m.table t m.name = some k ∧ (d.member k).owner = some t := by
  obtain ⟨e, inside, notes⟩ := tells.members m written
  generalize m.table = table, m.name = name at notes ⊢
  cases notes with
  | attached _ named holds unlisted =>
    rw [← named]
    cases table with
    | properties => exact found.property tells.declared inside holds
    | operations => exact found.operation tells.declared inside holds unlisted
  | merged home _ named =>
    subst home
    rw [← named]
    exact found.overload tells.declared inside

/-- An interface with any members is written in one description, and a partial interface of its name
with any members in another one. After every session in which no added library has an entry for the
name, two libraries accept the descriptions, in whatever order they are read; the name stands for the
type that the first library has for it; and every name that is written in one of the two bodies is
found in this type, which owns what is found. -/
theorem written_members_meet (commands : List Command)
    (registered₁ : l₁ ∈ (after commands).registered)
    (registered₂ : l₂ ∈ (after commands).registered) (different : l₁ ≠ l₂)
    (fresh : ∀ k : LibraryId, 2 ≤ k.index → ((after commands).library k).types[n]? = none)
    (spelled : Spells .word n.toList) (other : n ≠ "mixin") {source₁ source₂ : String}
    (laid₁ : LaidOut (declarationTokens false n ms₁) source₁.toList)
    (laid₂ : LaidOut (declarationTokens true n ms₂) source₂.toList) {r₁ r₂ : Report Unit}
    (both : ReadBoth (after commands) l₁ source₁ l₂ source₂ r₁ r₂ d) :
    r₁.outcome = .ok () ∧ r₂.outcome = .ok () ∧
      ∃ t, (d.library l₁).types[n]? = some t ∧ d.resolve? n = some t ∧
        ∀ m ∈ ms₁ ++ ms₂, ∃ k, d.entry? m.table t m.name = some k ∧
          (d.member k).owner = some t := by
  have readable₁ := readable_after registered₁
  have readable₂ := readable_after registered₂
  have plain := word_ne_globalsName spelled
  have start : (after commands).Gathered n l₂ :=
    (owners_after commands).gathered (registry_after commands) fresh
  -- what is told of either reading at the end of both
  have told : r₁.outcome = .ok () ∧ r₂.outcome = .ok () ∧
      (∃ u, TellsOfBody false n ms₁ u r₁.events d) ∧
      ∃ u, TellsOfBody true n ms₂ u r₂.events d := by
    cases both with
    | forward =>
      have first := prepared_after registered₁ start
      have readable := readable_ingest registered₁ registered₂ source₁
      obtain ⟨accepted₁, u, tells₁⟩ :=
        ingest_tells readable₁ (orderly_after commands) spelled other laid₁ nofun
      obtain ⟨h, reading, events⟩ := ingest_reading readable₁ source₁
      have whole (t) : .declared n t true ∉ h.events := by
        rw [events]
        intro inside
        cases tells₁.only inside
      obtain ⟨-, same, -⟩ :=
        reading.declaring first different readable₂.two_le plain (.nil n l₂ _) whole
      have orderly := orderly_after (commands ++ [.ingest l₁ source₁])
      rw [← ingest_after registered₁] at orderly
      obtain ⟨accepted₂, v, tells₂⟩ := ingest_tells readable orderly spelled other laid₂
        fun _ => same.trans (fresh l₂ readable₂.two_le)
      obtain ⟨_, later, -⟩ := ingest_reading readable source₂
      exact ⟨accepted₁, accepted₂, ⟨u, tells₁.later (later.grows readable)⟩, v, tells₂⟩
    | backward =>
      have readable := readable_ingest registered₂ registered₁ source₂
      obtain ⟨accepted₂, v, tells₂⟩ := ingest_tells readable₂ (orderly_after commands) spelled
        other laid₂ fun _ => fresh l₂ readable₂.two_le
      have orderly := orderly_after (commands ++ [.ingest l₂ source₂])
      rw [← ingest_after registered₂] at orderly
      obtain ⟨accepted₁, u, tells₁⟩ :=
        ingest_tells readable orderly spelled other laid₁ nofun
      obtain ⟨_, later, -⟩ := ingest_reading readable source₁
      exact ⟨accepted₁, accepted₂, ⟨u, tells₁⟩, v, tells₂.later (later.grows readable)⟩
  obtain ⟨accepted₁, accepted₂, ⟨u, tells₁⟩, v, tells₂⟩ := told
  have whole (t) : .declared n t true ∉ r₁.events := by
    intro inside
    cases tells₁.only inside
  have part (t) : .declared n t false ∉ r₂.events := by
    intro inside
    cases tells₂.only inside
  obtain ⟨es, met, sub₁, sub₂⟩ :=
    both.met registered₁ registered₂ different fresh tells₁.declared whole part tells₂.bare
  obtain ⟨resolved, found⟩ := met.found different
  refine ⟨accepted₁, accepted₂, u, met.entry, resolved, fun m written => ?_⟩
  rcases List.mem_append.1 written with first | second
  · exact (found _ sub₁).entry tells₁ first
  · exact (found _ sub₂).entry tells₂ second

end IdlCatalog
