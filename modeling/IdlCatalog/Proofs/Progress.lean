/-
# IdlCatalog.Proofs.Progress — every reading ends, after one way through its tokens

A description is read in one way through its tokens. The tokens that are taken are the first ones of
the stream, in order and each of them once, and the end of the input is the last one of them, if it
is taken at all. The reading always comes to an end: a production never calls itself without taking
a token in between.

For loops this means that a round after which the loop goes on takes a token. `Loop` lists the loops
of the grammar with their rounds.

## What is said of loops

Recursion in the grammar is of two kinds. A production that contains itself, as types contain types,
calls itself on fewer tokens, and a call on as many tokens would be refused as stalled; the first
result is that this never happens. A loop goes round until its answer says that it ends. For loops
the result is sharper: each round but the last takes at least one token, so the number of rounds is
bounded by the number of tokens that are left.
-/
import IdlCatalog.Proofs.Influence
import IdlCatalog.Proofs.Grammar.Taking

namespace IdlCatalog

open Catalog Lexer

variable {α β : Type}

/-! ## Loops

The rounds are named as parsers of their own, so that a loop can be compared with its round. A list
with separators has rounds that end behind the separator. -/

namespace Grammar

open IdlCatalog.Parser

/-- A round of a list: an item, and whether another one follows. -/
def followed (item : Parser α) (more : Parser Bool) : Parser (α × Bool) := do
  let a ← item
  return (a, ← more)

/-- The loops of the grammar, each with its round and with the answers of the round after which the
loop goes on. -/
inductive Loop : {α β : Type} → (loop : Parser β) → (round : Parser α) → (goesOn : α → Bool) → Prop
  | declarations : Loop declarations (declarationRound declarations) id
  | interfaceBody (t : TypeId) :
      Loop (bodyOf (interfaceMember t)) (bodyRound (interfaceMember t)) id
  | dictionaryBody (t : TypeId) :
      Loop (bodyOf (dictionaryEntry t)) (bodyRound (dictionaryEntry t)) id
  | exceptionBody (t : TypeId) : Loop (repeatWhile (exceptionRound t)) (exceptionRound t) id
  | enumerationBody (t : TypeId) :
      Loop (repeatWhile (enumerationLiteral t)) (enumerationLiteral t) id
  | mixins (t : TypeId) : Loop (repeatWhile (listedMixin t)) (listedMixin t) id
  | attributeBlocks : Loop (collect attributeBlock) attributeBlock Option.isSome
  | attributes :
      Loop (sepBy namedAttribute (accept .comma)) (followed namedAttribute (accept .comma)) Prod.snd
  | attributeNames :
      Loop (sepBy identifier (accept .comma)) (followed identifier (accept .comma)) Prod.snd
  | attributeValues :
      Loop (sepBy skipValue acceptValueSign) (followed skipValue acceptValueSign) Prod.snd
  | memberBlocks : Loop (collect memberAttributeBlock) memberAttributeBlock Option.isSome
  | memberAttributes : Loop (collect memberAttribute) memberAttribute Option.isSome
  | skippedBlocks : Loop skipAttributes skippedBlock id
  | parameters : Loop (collect listedParameter) listedParameter Option.isSome
  | specials : Loop (collect specialKeyword) specialKeyword Option.isSome
  | nameSegments : Loop scopedName (followed nameSegment (accept .colonColon)) Prod.snd
  | typeArguments :
      Loop (sepBy typeReference (accept .comma)) (followed typeReference (accept .comma)) Prod.snd
  | unionBranches :
      Loop (sepBy typeReference (acceptKeyword "or")) (followed typeReference (acceptKeyword "or"))
        Prod.snd
  | value : Loop rawUntilSemicolon valueToken Option.isSome
  | brackets (stops : List Category) (depth : Nat) :
      Loop (skipFrom stops depth) (bracketToken stops depth) Option.isSome

end Grammar

open Grammar IdlCatalog.Parser

/-! ### A loop starts with its round

Loops are written in few shapes. Each of them is unrolled once: what follows a round depends on the
answer of the round. -/

/-- The loop starts with its round, and ends where the answer does not say that it goes on. -/
def Parser.StartsWith (loop : Parser β) (round : Parser α) (goesOn : α → Bool) (l : LibraryId)
    (s : ReadState) : Prop :=
  ∃ f : α → Parser β, loop l s = (round >>= f) l s ∧ ∀ a, goesOn a = false → ∃ b, f a = pure b

section Starts

variable {l : LibraryId} {s : ReadState}

/-- A loop that repeats while its round answers so. -/
theorem repeatWhile_startsWith (step : Parser Bool) :
    StartsWith (repeatWhile step) step id l s := by
  refine ⟨fun more => if more then below s.left (repeatWhile step) else pure (), ?_, ?_⟩
  · rw [repeatWhile, fix_apply]
  · rintro _ rfl
    exact ⟨(), rfl⟩

/-- A loop that gathers what its rounds answer. -/
theorem collect_startsWith (step : Parser (Option α)) :
    StartsWith (collect step) step Option.isSome l s := by
  refine ⟨fun a => a.elim (pure []) fun a => do return a :: (← below s.left (collect step)), ?_, ?_⟩
  · rw [collect, fix_apply]
    exact Parser.bind_congr fun a _ _ => by cases a <;> rfl
  · rintro (_ | a) none
    · exact ⟨[], rfl⟩
    · cases none

/-- A list with separators. -/
theorem sepBy_startsWith (item : Parser α) (more : Parser Bool) :
    StartsWith (sepBy item more) (followed item more) Prod.snd l s := by
  refine ⟨fun x => if x.2 then do return x.1 :: (← below s.left (sepBy item more))
    else pure [x.1], ?_, ?_⟩
  · rw [sepBy, fix_apply]
    simp only [followed, bind_assoc, pure_bind]
  · rintro ⟨a, _⟩ rfl
    exact ⟨[a], rfl⟩

/-- A name goes on after two colons. -/
theorem scopedName_startsWith :
    StartsWith scopedName (followed nameSegment (accept .colonColon)) Prod.snd l s := by
  refine ⟨fun x => if x.2 then below s.left scopedName else pure x.1, ?_, ?_⟩
  · rw [scopedName, fix_apply]
    simp only [followed, bind_assoc, pure_bind]
  · rintro ⟨name, _⟩ rfl
    exact ⟨name, rfl⟩

theorem declarations_startsWith :
    StartsWith declarations (declarationRound declarations) id l s := by
  refine ⟨fun more => if more then below s.left declarations else pure (), ?_, ?_⟩
  · rw [declarations_apply, declarationRound_bind_apply]
  · rintro _ rfl
    exact ⟨(), rfl⟩

theorem rawUntilSemicolon_startsWith :
    StartsWith rawUntilSemicolon valueToken Option.isSome l s := by
  obtain ⟨f, starts, leaves⟩ := collect_startsWith (l := l) (s := s) valueToken
  refine ⟨fun word => f word >>= fun words => pure (" ".intercalate words), ?_, ?_⟩
  · rw [rawUntilSemicolon_eq, Parser.bind_apply, starts]
    exact congrFun (congrFun (bind_assoc valueToken f _) l) s
  · intro word none
    obtain ⟨words, eq⟩ := leaves word none
    refine ⟨" ".intercalate words, ?_⟩
    dsimp only
    rw [eq, pure_bind]

theorem skipFrom_startsWith (stops : List Category) (depth : Nat) :
    StartsWith (skipFrom stops depth) (bracketToken stops depth) Option.isSome l s := by
  refine ⟨fun next => next.elim (pure ()) (skipFrom stops), by rw [← skipFrom_eq], ?_⟩
  rintro (_ | next) none
  · exact ⟨(), rfl⟩
  · cases none

/-- Every loop of the grammar starts with its round. -/
theorem Grammar.Loop.startsWith {loop : Parser β} {round : Parser α} {goesOn : α → Bool}
    (isLoop : Loop loop round goesOn) : loop.StartsWith round goesOn l s := by
  cases isLoop with
  | declarations => exact declarations_startsWith
  | interfaceBody | dictionaryBody | exceptionBody | enumerationBody | mixins | skippedBlocks =>
    exact repeatWhile_startsWith _
  | attributeBlocks | memberBlocks | memberAttributes | parameters | specials =>
    exact collect_startsWith _
  | attributes | attributeNames | attributeValues | typeArguments | unionBranches =>
    exact sepBy_startsWith _ _
  | nameSegments => exact scopedName_startsWith
  | value => exact rawUntilSemicolon_startsWith
  | brackets => exact skipFrom_startsWith _ _

end Starts

/-! ### Where a loop goes on, it has taken a token

The couplings count what a parser reads at least. A round that answers that the loop goes on reads
one token or more; read with itself, it is a round of one stream. -/

section Rounds

variable {l : LibraryId} {s t : ReadState} {round : Parser α} {goesOn : α → Bool} {a : α}

/-- A round that is in step with itself. -/
theorem taken_of_sim {V : Stores → α → α → Prop} (plain : s.Plain)
    (run : round l s = (.ok a, t)) (on : goesOn a = true)
    (sim : ∀ {w n}, (replaying l).Sim w n (fun a => (goesOn a).toNat) V round round) :
    ∃ count, 0 < count ∧ s.After count t := by
  -- the replaying coupling compares the round with itself on the same stream
  have outcome := Replaying.outcome sim plain
  rw [run] at outcome
  cases outcome with
  | ok after _ reads => exact ⟨_, Nat.lt_of_lt_of_le (by rw [on]; decide) reads, after⟩

/-- A round that is one token. -/
theorem taken_of_atToken {f : Token → Except Expectation (α × Bool)}
    (run : Parser.atToken f l s = (.ok a, t)) (on : goesOn a = true)
    (takes : ∀ token b read, f token = .ok (b, read) → goesOn b = true →
      read = true ∧ token.category ≠ .eof) : ∃ count, 0 < count ∧ s.After count t := by
  rw [Parser.atToken] at run
  split at run
  · next found =>
    cases run
    have other := (takes _ _ _ found on).2
    exact ⟨1, Nat.one_pos, ReadState.advance_after (ReadState.rest_ne_nil_of_category other)⟩
  · next found =>
    cases run
    exact absurd (takes _ _ _ found on).1 Bool.false_ne_true
  · cases run

/-- An item and a separator read the separator, where there is one. -/
theorem followed_sim {K : Coupling} {w : Stores} {n : Nat} {V : Stores → α → α → Prop}
    {item : Parser α} {more : Parser Bool} {r : α → Nat} (first : K.Sim w n r V item item)
    (second : ∀ {w'}, K.Sim w' n Bool.toNat Coupling.same more more) :
    K.Sim w n (fun x => x.2.toNat) Coupling.anything (followed item more) (followed item more) := by
  refine first.bind fun _ _ _ _ _ => second.bind_reads ?_
  rintro _ more _ _ rfl
  exact .answer (Nat.sub_self _) fun _ _ => trivial

theorem valueToken_takes {token : Token} {word : Option String} {read : Bool}
    (found : (if continuesValue token then .ok (some token.text, true) else .ok (none, false) :
      Except Expectation (Option String × Bool)) = .ok (word, read)) (on : word.isSome = true) :
    read = true ∧ token.category ≠ .eof := by
  by_cases continues : continuesValue token = true
  · rw [if_pos continues] at found
    cases found
    simp only [continuesValue, decide_not, Bool.and_eq_true] at continues
    exact ⟨rfl, by simpa using continues.2⟩
  · rw [if_neg continues] at found
    cases found
    cases on

/-- A token after which the skipping goes on is taken, and it is not the end of the input. -/
theorem bracketStep_takes {stops : List Category} {depth : Nat} {token : Token}
    {next : Option Nat} {read : Bool} (found : bracketStep stops depth token = .ok (next, read))
    (on : next.isSome = true) : read = true ∧ token.category ≠ .eof := by
  rw [bracketStep] at found
  by_cases stop : (depth = 0 && stops.contains token.category) = true
  · rw [if_pos stop] at found
    cases found
    cases on
  rw [if_neg stop] at found
  by_cases eof : token.category = .eof
  · rw [if_pos eof] at found
    cases found
  rw [if_neg eof] at found
  refine ⟨?_, eof⟩
  split at found
  · cases found
    rfl
  split at found
  · split at found
    · cases found
    · cases found
      rfl
  · cases found
    rfl

/-- A round after which a loop goes on has taken a token. -/
theorem Grammar.Loop.takes {loop : Parser β} (isLoop : Loop loop round goesOn) (plain : s.Plain)
    (run : round l s = (.ok a, t)) (on : goesOn a = true) :
    ∃ count, 0 < count ∧ s.After count t := by
  have law := (replaying_lawful l).toLawfulActions
  have readings := (replaying_lawful l).readings
  cases isLoop with
  | declarations =>
    exact taken_of_sim plain run on
      (Coupling.declarationRound_sim readings fun _ => Coupling.declarations_keeps readings)
  | interfaceBody u =>
    exact taken_of_sim plain run on
      (Coupling.bodyRound_sim fun _ => Coupling.interfaceMember_reads readings rfl)
  | dictionaryBody u =>
    exact taken_of_sim plain run on
      (Coupling.bodyRound_sim fun _ => Coupling.dictionaryEntry_reads law rfl)
  | exceptionBody u => exact taken_of_sim plain run on (Coupling.exceptionRound_sim law rfl)
  | enumerationBody u => exact taken_of_sim plain run on (Coupling.enumerationLiteral_sim law rfl)
  | mixins u => exact taken_of_sim plain run on (Coupling.listedMixin_sim law rfl)
  | attributeBlocks =>
    exact taken_of_sim plain run on (Coupling.attributeBlock_sim law.toLawfulParameters)
  | attributes =>
    exact taken_of_sim plain run on
      (followed_sim (Coupling.namedAttribute_keeps law.toLawfulParameters) (.accept (by decide)))
  | attributeNames =>
    exact taken_of_sim plain run on (followed_sim .identifier (.accept (by decide)))
  | attributeValues =>
    exact taken_of_sim plain run on (followed_sim Coupling.skipValue_keeps
      (.either (.accept (by decide)) (.accept (by decide))))
  | memberBlocks => exact taken_of_sim plain run on Coupling.memberAttributeBlock_sim
  | memberAttributes => exact taken_of_sim plain run on Coupling.memberAttribute_sim
  | skippedBlocks => exact taken_of_sim plain run on Coupling.skippedBlock_sim
  | parameters =>
    exact taken_of_sim plain run on (Coupling.listedParameter_sim law.toLawfulParameters)
  | specials => exact taken_of_sim plain run on Coupling.specialKeyword_sim
  | nameSegments =>
    exact taken_of_sim plain run on
      (followed_sim Coupling.nameSegment_reads (.accept (by decide)))
  | typeArguments =>
    exact taken_of_sim plain run on (followed_sim
      (Coupling.typeReference_reads law.toLawfulTypes) (.accept (by decide)))
  | unionBranches =>
    exact taken_of_sim plain run on (followed_sim
      (Coupling.typeReference_reads law.toLawfulTypes) (.acceptKeyword _))
  | value => exact taken_of_atToken run on fun _ _ _ => valueToken_takes
  | brackets => exact taken_of_atToken run on fun _ _ _ => bracketStep_takes

end Rounds

/-- A round of a loop takes tokens, or else it is the last one: the loop comes to an answer where
the round does. A round that fails is the last one as well. -/
structure Grammar.Advances (loop : Parser β) (round : Parser α) (l : LibraryId)
    (s : ReadState) : Prop where
  ok : ∀ {a t}, round l s = (.ok a, t) →
    (∃ ts, ts ≠ [] ∧ s.rest = ts ++ t.rest) ∨ ∃ b, loop l s = (.ok b, t)
  error : ∀ {x t}, round l s = (.error x, t) → loop l s = (.error x, t)

/-- The rounds of every loop take tokens or end it. -/
theorem Grammar.Loop.advances {loop : Parser β} {round : Parser α} {goesOn : α → Bool}
    (isLoop : Loop loop round goesOn) (l : LibraryId) {s : ReadState} (plain : s.Plain) :
    Advances loop round l s := by
  obtain ⟨f, starts, leaves⟩ := isLoop.startsWith (l := l) (s := s)
  refine ⟨fun {a t} run => ?_, fun run => by rw [starts, Parser.bind_apply, run]⟩
  cases on : goesOn a with
  | true =>
    obtain ⟨count, some, after⟩ := isLoop.takes plain run on
    -- what was taken are the first tokens of the stream
    refine .inl ⟨s.rest.take count, ?_, by rw [after.rest, List.take_append_drop]⟩
    rw [← List.length_pos_iff, List.length_take_of_le after.count_le]
    exact some
  | false =>
    obtain ⟨b, eq⟩ := leaves a on
    refine .inr ⟨b, ?_⟩
    rw [starts, Parser.bind_apply, run]
    exact congrFun (congrFun eq l) t

/-! ## Descriptions

The whole description, as a loop over declarations and the end of the input behind it. -/

/-- A production never calls itself without taking a token in between. -/
theorem description_not_stalled (l : LibraryId) {s : ReadState} (plain : s.Plain) :
    (description l s).1 ≠ .error .stalled := by
  have outcome := Replaying.outcome (Coupling.description_keeps (replaying_lawful l)) plain
  generalize description l s = r at outcome
  -- the coupling allows for faults and for duplicates only
  intro stalled
  cases outcome with
  | ok => cases stalled
  | error _ _ refused =>
    obtain rfl := Except.error.inj stalled
    cases refused with
    | other refuses => obtain ⟨_, eq⟩ := refuses; cases eq

/-- The tokens that a description takes are those before the ones that are left. -/
theorem description_takes {l : LibraryId} {s : ReadState} (ends : s.HasEnd) (plain : s.Plain) :
    ∃ taken, Consumes l description s taken (description l s) ∧
      s.rest = taken ++ (description l s).2.rest := by
  have alive := description_not_stalled l plain
  -- which tokens the declarations take, if they do not stall
  have inside := Congruence.Rel.declarations (R := takingCongruence) l s
  have left := List.length_pos_iff.1 ((declarations_onward l s).leads.ends ends).rest_length
  rw [description_apply] at alive ⊢
  generalize declarations l s = r at alive inside left
  obtain ⟨x | _, u⟩ := r
  · obtain ⟨ts, takes⟩ := inside alive
    exact ⟨ts, .stop takes, takes.split left⟩
  obtain ⟨ts, takes⟩ := inside nofun
  have split : s.rest = ts ++ u.rest := takes.split left
  dsimp only
  by_cases last : u.peek.category = .eof
  · rw [if_pos last]
    have end' : Consumes l (require .eof) u [u.peek] (.ok u.peek, u.advance) := by
      rw [require_eq]
      exact .take (if_pos last)
    refine ⟨ts ++ [u.peek], .both takes (.both end' (.act (.pure ()))), ?_⟩
    rw [split, ReadState.rest_eq_cons left, List.append_assoc]
    rfl
  · rw [if_neg last]
    -- a token that cannot start a declaration is seen and not taken
    have refused : Consumes l (require .eof) u [] (expected (.token .eof) l u) := by
      rw [require_eq]
      exact .reject (if_neg last)
    exact ⟨ts ++ [], .both takes (.stop refused), by rw [List.append_nil]; exact split⟩

/-- Every reading ends, after one way through its tokens. In whatever catalog and for whatever
library a text is read, no production calls itself without taking a token in between. The tokens
that are taken are the first ones of the stream, in order and each of them once, so that the stream
is asked for a token at most once more than it has tokens: for the first one, and for the next one
whenever one is taken. The end of the input is the last one of the stream and nowhere before. And
wherever in the stream a loop stands, its round takes tokens or is the last one. -/
theorem ingest_progress (c : Catalog) (l : LibraryId) (source : String) :
    let stream := tokens source.toList
    let start := ReadState.start stream c
    (c.ingest l source).outcome ≠ .error .stalled ∧
      (∃ taken, Consumes l description start taken (description l start) ∧
        stream = taken ++ (description l start).2.rest ∧ taken.length + 1 ≤ stream.length + 1) ∧
      (∃ front last, stream = front ++ [last] ∧ last.category = .eof ∧
        ∀ t ∈ front, t.category ≠ .eof) ∧
      ∀ {α β : Type} {loop : Parser β} {round : Parser α} {goesOn : α → Bool},
        Loop loop round goesOn → ∀ s : ReadState, s.rest <:+ stream →
          Advances loop round l s := by
  intro stream start
  have plain : start.Plain := ReadState.start_plain source.toList c
  refine ⟨?_, ?_, tokens_eof_last source.toList, fun isLoop s inside => ?_⟩
  · have alive := description_not_stalled l plain
    rw [ingest_eq]
    generalize description l start = r at alive
    obtain ⟨x | _, t⟩ := r
    · cases x with
      | malformed | duplicate => nofun
      | stalled => exact absurd rfl alive
    · nofun
  · obtain ⟨taken, takes, split⟩ := description_takes (start_hasEnd source.toList c) plain
    have first : taken <+: stream := ⟨_, split.symm⟩
    exact ⟨taken, takes, split, Nat.succ_le_succ first.length_le⟩
  · exact isLoop.advances l fun t inRest => plain t (inside.mem inRest)

/-- A text that breaks off in a parameter list is refused. The list goes on after the parameter that
is there, and its round has taken the three tokens of it. -/
theorem ingest_progress_truncated :
    let c := initial.addLibrary "x" false .silent
    let source := "interface A \x7b void f(long a, "
    let stream := tokens source.toList
    let start := ReadState.start stream c.2
    let inList := start.drop 6
    (description c.1 start).2.rest = [⟨.eof, ""⟩] ∧
      (∃ taken, Consumes c.1 description start taken (description c.1 start) ∧
        stream = taken ++ [⟨.eof, ""⟩]) ∧
      inList.rest = [⟨.word, "long"⟩, ⟨.word, "a"⟩, ⟨.comma, ","⟩, ⟨.eof, ""⟩] ∧
      (listedParameter c.1 inList).2.rest = [⟨.eof, ""⟩] ∧
      Advances (collect listedParameter) listedParameter c.1 inList := by
  intro c source stream start inList
  have ends : (description c.1 start).2.rest = [⟨.eof, ""⟩] := by decide +kernel
  have here : inList.rest = [⟨.word, "long"⟩, ⟨.word, "a"⟩, ⟨.comma, ","⟩, ⟨.eof, ""⟩] := by
    decide +kernel
  have after : (listedParameter c.1 inList).2.rest = [⟨.eof, ""⟩] := by decide +kernel
  have inside : inList.rest <:+ stream := by decide +kernel
  obtain ⟨-, ⟨taken, takes, split, -⟩, -, loops⟩ := ingest_progress c.2 c.1 source
  rw [ends] at split
  exact ⟨ends, ⟨taken, takes, split⟩, here, after, loops .parameters inList inside⟩

end IdlCatalog
