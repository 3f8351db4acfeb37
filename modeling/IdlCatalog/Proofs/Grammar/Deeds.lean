/-
# IdlCatalog.Proofs.Grammar.Deeds — what a reading does, one thing after the other

A reading calls functions of the catalog and notes events. `Deed` is one of either, so a list of
deeds says in which order both happened, and at each of its places the catalog of that moment is the
replay of the deeds before.

Deeds come in moves. Most moves are a single deed. But where a type is entered into the library, or
a member is attached, the provider is asked about it at once, under the path that it has then: such
a move has four deeds, and nothing comes between them.

The calls of a reading are known from `Proofs.Catalog.Calls`, and its events from the journal.
Neither says how the two interleave. This matters for documentation: the path under which the
provider is asked is computed from the catalog of the moment, and the kept answer has to be the
answer to that question.
-/
import IdlCatalog.Grammar.Parser
import IdlCatalog.Proofs.Catalog.Calls

namespace IdlCatalog

open Catalog

/-! ## Deeds

A list of deeds is read three ways: `replay` runs its calls, `notes` picks its events, `calls` its
calls. All three go over the concatenation of lists. -/

/-- One thing that a reading does. -/
inductive Deed
  | call (call : Call)
  | note (event : Event)

namespace Deed

/-- The catalog after a deed. -/
def run (c : Catalog) : Deed → Catalog
  | call made => made.run c
  | note _ => c

/-- The catalog after some deeds. -/
def replay (c : Catalog) (deeds : List Deed) : Catalog := deeds.foldl run c

/-- The events that are noted. -/
def notes (deeds : List Deed) : List Event :=
  deeds.filterMap fun
    | call _ => none
    | note event => some event

/-- The calls that are made. -/
def calls (deeds : List Deed) : List Call :=
  deeds.filterMap fun
    | call made => some made
    | note _ => none

/-- The provider of the library is asked about an entry, under its path in the catalog, and the
answer is kept with the entry. -/
def inquiry (l : LibraryId) (c : Catalog) (artifact : Artifact) : List Deed :=
  [.note (.asked l artifact (c.artifactPath artifact)), .call (.document l artifact)]

/-- The deed asks the provider of the library about the entry, or notes that it was asked. -/
inductive Consults (k : LibraryId) (artifact : Artifact) : Deed → Prop
  | call : Consults k artifact (.call (.document k artifact))
  | note (path : ArtifactPath) : Consults k artifact (.note (.asked k artifact path))

/-- An inquiry is about one entry, and goes to one provider. -/
theorem Consults.of_inquiry {k l : LibraryId} {c : Catalog} {artifact about : Artifact}
    {deed : Deed} (consults : deed.Consults k artifact) (inside : deed ∈ inquiry l c about) :
    k = l ∧ artifact = about := by
  rcases List.mem_pair.1 inside with rfl | rfl
  · cases consults with
    | note => exact ⟨rfl, rfl⟩
  · cases consults with
    | call => exact ⟨rfl, rfl⟩

@[simp] theorem replay_nil (c : Catalog) : replay c [] = c := rfl

@[simp] theorem replay_append (c : Catalog) (deeds more : List Deed) :
    replay c (deeds ++ more) = replay (replay c deeds) more := List.foldl_append

@[simp] theorem notes_append (deeds more : List Deed) :
    notes (deeds ++ more) = notes deeds ++ notes more := List.filterMap_append

@[simp] theorem calls_append (deeds more : List Deed) :
    calls (deeds ++ more) = calls deeds ++ calls more := List.filterMap_append

/-- What is noted is among the deeds. -/
theorem mem_notes {deeds : List Deed} {event : Event} :
    event ∈ notes deeds ↔ .note event ∈ deeds := by
  rw [notes, List.mem_filterMap]
  constructor
  · rintro ⟨_ | _, inside, eq⟩
    · cases eq
    · obtain rfl := Option.some.inj eq
      exact inside
  · exact fun inside => ⟨_, inside, rfl⟩

end Deed

/-! ## Moves

A move happens at one go, and moves can be put one after the other. A plain call is one that neither
attaches, nor enters a type, nor documents. The inquiry at the end of the other two moves is stated
with the catalog after the first call, since that is where the path comes from. -/

/-- The calls that attach no member, enter no type into the library of a reading, and document
nothing. -/
def Call.IsPlain : Call → Prop
  | addPlaceholder _ | newType _ _ | newSynthesized _ _ _ | setKind _ _ | addModifiers _ _
  | setSuperType _ _ | addImplements _ _ | pushTypeArgument _ _ | addLiteral _ _
  | setIterable _ _ | mergeOperation _ _ => True
  | _ => False

/-- The calls that attach a member to the type. -/
inductive Call.Attaches (t : TypeId) : Call → Prop
  | property (member : Member) : Attaches t (.addProperty t member)
  | operation (member : Member) : Attaches t (.addOperation t member)
  | constructor (member : Member) : Attaches t (.addConstructor t member)

/-- The events that ask no provider. -/
def Event.IsPlain (event : Event) : Prop := ∀ k artifact path, event ≠ .asked k artifact path

/-- What a reading for the library does at one go. -/
inductive Move (l : LibraryId) (c : Catalog) : List Deed → Prop
  | call {call : Call} (plain : call.IsPlain) (inRange : call.InRange c) : Move l c [.call call]
  | note {event : Event} (plain : event.IsPlain) : Move l c [.note event]
  | introduce {t : TypeId} {d : Catalog} (name : String) (reopens : Bool)
      (bound : t.index < c.types.size) (inside : l.index < c.libraries.size)
      (entered : c.addType l t = .ok d) :
      Move l c (.call (.addType l t) :: .note (.declared name t reopens) ::
        Deed.inquiry l d (.type t))
  | attach {t : TypeId} {call : Call} (attaches : call.Attaches t) (inRange : call.InRange c)
      (inside : l.index < c.libraries.size) :
      Move l c (.call call :: .note (.attached t ⟨c.members.size⟩) ::
        Deed.inquiry l (call.run c) (.member ⟨c.members.size⟩))

/-- A chain of moves. -/
inductive Moves (l : LibraryId) (c : Catalog) : List Deed → Catalog → Prop
  | start : Moves l c [] c
  | move {deeds more : List Deed} {d : Catalog} (moves : Moves l c deeds d)
      (move : Move l d more) : Moves l c (deeds ++ more) (Deed.replay d more)

variable {b c d : Catalog} {l : LibraryId} {t : TypeId} {deeds more : List Deed}

/-- A type that can be entered is entered by the call. -/
theorem run_addType (entered : c.addType l t = .ok d) : (Call.addType l t).run c = d := by
  rw [Call.run, entered]

/-- A call that attaches a member creates one. -/
theorem Call.Attaches.members_size {call : Call} (attaches : call.Attaches t) :
    (call.run c).members.size = c.members.size + 1 := by
  cases attaches with
  | property member => exact (placed_enter .properties c t member).size
  | operation member => exact (placed_enter .operations c t member).size
  | constructor member => exact (created_pushMember c _ t).size

/-- The calls of a move are in range, each in the catalog that the ones before it leave. -/
theorem Move.made (move : Move l c more) : Made c (Deed.calls more) (Deed.replay c more) := by
  cases move with
  | call _ inRange => exact .one inRange
  | note => exact .start
  | @introduce t d name reopens bound inside entered =>
    have first : (Call.addType l t).InRange c :=
      ⟨List.forall_mem_singleton.2 bound, nofun, List.forall_mem_singleton.2 inside⟩
    have le := extent_le_run c (.addType l t)
    have second : (Call.document l (.type t)).InRange ((Call.addType l t).run c) :=
      ⟨List.forall_mem_singleton.2 (Nat.lt_of_lt_of_le bound le.types), nofun,
        List.forall_mem_singleton.2 (Nat.lt_of_lt_of_le inside le.libraries)⟩
    exact (Made.one first).call second
  | @attach t call attaches inRange inside =>
    have le := extent_le_run c call
    have bound : c.members.size < (call.run c).members.size := by
      rw [attaches.members_size]
      exact Nat.lt_succ_self _
    have second : (Call.document l (.member ⟨c.members.size⟩)).InRange (call.run c) :=
      ⟨nofun, List.forall_mem_singleton.2 bound,
        List.forall_mem_singleton.2 (Nat.lt_of_lt_of_le inside le.libraries)⟩
    exact (Made.one inRange).call second

namespace Moves

/-- A move is a chain. -/
theorem one (move : Move l c more) : Moves l c more (Deed.replay c more) := Moves.start.move move

/-- Chains of moves in a row are a chain. -/
theorem trans (h : Moves l b deeds c) (h' : Moves l c more d) : Moves l b (deeds ++ more) d := by
  induction h' with
  | start => rwa [List.append_nil]
  | move _ move ih =>
    rw [← List.append_assoc]
    exact ih.move move

/-- A chain of moves is a chain of calls. -/
theorem made (h : Moves l c deeds d) : Made c (Deed.calls deeds) d := by
  induction h with
  | start => exact .start
  | move _ move ih =>
    rw [Deed.calls_append]
    exact ih.trans move.made

/-- The catalog at the end of a chain is the replay of its deeds. -/
theorem replay_eq (h : Moves l c deeds d) : Deed.replay c deeds = d := by
  induction h with
  | start => rfl
  | move _ _ ih => rw [Deed.replay_append, ih]

/-- A plain call is a chain of one move. -/
theorem plain {call : Call} (plain : call.IsPlain) (inRange : call.InRange c) :
    Moves l c [.call call] (call.run c) :=
  .one (.call plain inRange)

end Moves

end IdlCatalog
