/-
# IdlCatalog.Grammar.Parser — reading tokens into a catalog

A parser reads tokens from the front of a stream, changes the catalog as it recognises
declarations, and answers a value or fails. It looks one token ahead and never goes back. A failure
keeps the state in which it arose: nothing is undone.

Recursion goes through `Parser.fix` alone. A recursive call counts only if a token was read since
the call before it, so every parser is a total function, and `Parser.fix_apply` gives its equation
without any bound in sight.
-/
import IdlCatalog.Catalog.Attach
import IdlCatalog.Catalog.Document
import IdlCatalog.Failure

namespace IdlCatalog

/-! ## State -/

/-- What a reading did, in the order in which it did it. -/
inductive Event
  /-- A type reference with this name stands for this type. -/
  | referenced (name : String) (type : TypeId)
  /-- A declaration of this name is about this type; `reopens` says that it is a partial one. -/
  | declared (name : String) (type : TypeId) (reopens : Bool)
  /-- A parameter was read. -/
  | parameter (parameter : Parameter)
  /-- A member declared for this type became this member. -/
  | attached (type : TypeId) (member : MemberId)
  /-- An operation declared for this type was folded into this member. -/
  | merged (type : TypeId) (member : MemberId)
  /-- A declaration gave this type this super type. -/
  | extended (type superType : TypeId)
  /-- The provider of this library was asked about this entry, which had this path then. -/
  | asked (library : LibraryId) (artifact : Artifact) (path : ArtifactPath)
deriving DecidableEq, Repr

/-- The parameters among the events. -/
def Event.parameters (events : List Event) : List Parameter :=
  events.filterMap fun
    | .parameter p => some p
    | _ => none

/-- Where a reading stands. -/
structure ReadState where
  /-- The tokens not read so far. After the last one there are only ends of input. -/
  rest : List Token
  /-- How many tokens are not read so far. -/
  left : Nat
  left_eq : left = rest.length
  /-- How many tokens of the stream were read. -/
  position : Nat
  catalog : Catalog
  journal : Array Event

namespace ReadState

/-- The state before the first token of a stream. -/
def start (tokens : List Token) (c : Catalog) : ReadState where
  rest := tokens
  left := tokens.length
  left_eq := rfl
  position := 0
  catalog := c
  journal := #[]

/-- The token to be read next. -/
def peek (s : ReadState) : Token := s.rest.head?.getD Token.endOfInput

/-- The state after one further token. After the stream nothing changes any more. -/
def advance (s : ReadState) : ReadState :=
  match h : s.rest with
  | [] => s
  | _ :: rest =>
    { s with
      rest
      left := s.left - 1
      left_eq := by simp [s.left_eq, h]
      position := s.position + 1 }

/-- The state after `count` further tokens. -/
def drop (s : ReadState) : (count : Nat) → ReadState
  | 0 => s
  | count + 1 => s.advance.drop count

end ReadState

/-! ## Parsers -/

/-- A parser for a library: from the state before to an answer and the state after. -/
def Parser (α : Type) : Type :=
  LibraryId → ReadState → Except (Failure Fault) α × ReadState

namespace Parser

variable {α β : Type}

/-- Runs `p`, then what `f` makes of its answer; a failure of `p` is the last thing that
happens. -/
protected def bind (p : Parser α) (f : α → Parser β) : Parser β := fun l s =>
  match p l s with
  | (.ok a, s) => f a l s
  | (.error e, s) => (.error e, s)

instance : Monad Parser where
  pure a := fun _ s => (.ok a, s)
  bind := Parser.bind

theorem pure_apply (a : α) (l : LibraryId) (s : ReadState) :
    (pure a : Parser α) l s = (.ok a, s) := rfl

theorem bind_apply (p : Parser α) (f : α → Parser β) (l : LibraryId) (s : ReadState) :
    (p >>= f) l s =
      match p l s with
      | (.ok a, t) => f a l t
      | (.error e, t) => (.error e, t) := rfl

instance : LawfulMonad Parser :=
  LawfulMonad.mk' Parser
    (fun p => by
      funext l s
      change (p >>= fun a => pure a) l s = _
      rw [bind_apply]
      split <;> simp_all [pure_apply])
    (fun _ _ => rfl)
    (fun p f g => by
      funext l s
      simp only [bind_apply]
      cases h : p l s with
      | mk outcome t => cases outcome <;> rfl)

/-- Ends the reading. -/
def refuse (failure : Failure Fault) : Parser α := fun _ s => (.error failure, s)

instance : Inhabited (Parser α) := ⟨refuse .stalled⟩

/-! ## Recursion -/

/-- Runs `p` where fewer than `limit` tokens are left, and nowhere else. -/
def below (limit : Nat) (p : Parser α) : Parser α := fun l s =>
  if s.left < limit then p l s else (.error .stalled, s)

/-- Unrolls a recursion `count` times. Each call from within has to read a token first. -/
def unroll (body : Parser α → Parser α) : (count : Nat) → Parser α
  | 0 => refuse .stalled
  | count + 1 => fun l s => body (below s.left (unroll body count)) l s

/-- The parser that may call itself through the argument of `body`, provided that it reads a token
before it does. -/
def fix (body : Parser α → Parser α) : Parser α := fun l s =>
  unroll body (s.left + 1) l s

theorem below_congr {limit : Nat} {p q : Parser α}
    (h : ∀ l s, s.left < limit → p l s = q l s) : below limit p = below limit q := by
  funext l s
  unfold below
  split
  · exact h l s ‹_›
  · rfl

/-- Unrolling further than there are tokens left changes nothing. -/
theorem unroll_eq_fix (body : Parser α → Parser α) (count : Nat) (l : LibraryId) (s : ReadState)
    (h : s.left < count) : unroll body count l s = fix body l s := by
  induction count using Nat.strongRecOn generalizing l s with
  | _ count ih =>
    match count, h with
    | count + 1, h =>
      change body (below s.left (unroll body count)) l s =
        body (below s.left (unroll body s.left)) l s
      have calls : below s.left (unroll body count) =
          below s.left (unroll body s.left) :=
        below_congr fun l t ht => by
          rw [ih count (by omega) l t (by omega), ih s.left h l t ht]
      rw [calls]

/-- The equation of `fix`: a call to itself is a call where fewer tokens are left. -/
theorem fix_apply (body : Parser α → Parser α) (l : LibraryId) (s : ReadState) :
    fix body l s = body (below s.left (fix body)) l s := by
  have calls : below s.left (unroll body s.left) =
      below s.left (fix body) :=
    below_congr fun l t ht => unroll_eq_fix body _ l t ht
  rw [← calls]
  rfl

/-- Repeats `step` until it answers `false`. A step that answers `true` has to read a token. -/
def repeatWhile (step : Parser Bool) : Parser Unit :=
  fix fun again => do
    if ← step then again

/-- The answers of `step` until it gives none. A step that gives one has to read a token. -/
def collect (step : Parser (Option α)) : Parser (List α) :=
  fix fun again => do
    match ← step with
    | some a => return a :: (← again)
    | none => return []

/-- One or more items; after each of them `more` decides whether another one follows. -/
def sepBy (item : Parser α) (more : Parser Bool) : Parser (List α) :=
  fix fun again => do
    let a ← item
    if ← more then return a :: (← again)
    return [a]

/-! ## Tokens -/

/-- The token to be read next. -/
def peek : Parser Token := fun _ s => (.ok s.peek, s)

/-- The category of the token to be read next. -/
def peekCategory : Parser Category := fun _ s => (.ok s.peek.category, s)

/-- How many tokens were read so far: the number of the token to be read next. -/
def position : Parser Nat := fun _ s => (.ok s.position, s)

/-- Reads a token. -/
def next : Parser Token := fun _ s => (.ok s.peek, s.advance)

/-- Fails at the token to be read next. -/
def expected (expectation : Expectation) : Parser α := fun _ s =>
  (.error (.malformed ⟨expectation, s.position, s.peek⟩), s)

/-- Reads a token if it is of the category. -/
def accept (category : Category) : Parser Bool := fun _ s =>
  if s.peek.category = category then (.ok true, s.advance) else (.ok false, s)

/-- Reads a token of the category. -/
def require (category : Category) : Parser Token := fun l s =>
  if s.peek.category = category then next l s else expected (.token category) l s

/-- Whether the next token is the keyword. -/
def atKeyword (keyword : String) : Parser Bool := fun _ s => (.ok (s.peek.isKeyword keyword), s)

/-- Whether the next token is one of the keywords. -/
def atAnyKeyword (keywords : List String) : Parser Bool := fun _ s =>
  (.ok (keywords.any s.peek.isKeyword), s)

/-- Reads the keyword if it stands here. -/
def acceptKeyword (keyword : String) : Parser Bool := fun _ s =>
  if s.peek.isKeyword keyword then (.ok true, s.advance) else (.ok false, s)

/-- Reads the keyword. -/
def requireKeyword (keyword : String) : Parser Unit := fun l s =>
  if s.peek.isKeyword keyword then (.ok (), s.advance) else expected (.keyword keyword) l s

/-- Reads any word; keywords are words. -/
def identifier : Parser String := do
  return (← require .word).text

/-! ## Skipping -/

/-- Whether a value goes on with the token: it ends before a semicolon and at the end of input. -/
def continuesValue (t : Token) : Bool :=
  t.category ≠ .semicolon && t.category ≠ .eof

/-- Reads the tokens before the next semicolon and joins their texts by single spaces. -/
def rawUntilSemicolon : Parser String := fun _ s =>
  let value := s.rest.takeWhile continuesValue
  (.ok (" ".intercalate (value.map (·.text))), s.drop value.length)

/-- How many tokens come before the first of `stops` outside any bracket, `depth` brackets being
open. If there is no such token, the number of tokens before the one that shows it, with what was
expected there: a bracket that closes nothing, or the end of the input. -/
def balancedRun (stops : List Category) : (depth : Nat) → List Token → Nat × Option Expectation
  | depth, [] =>
    (0, if depth = 0 && stops.contains .eof then none
      else some (.phrase "end of bracketed section"))
  | depth, t :: rest =>
    let goOn (depth : Nat) : Nat × Option Expectation :=
      let run := balancedRun stops depth rest
      (run.1 + 1, run.2)
    if depth = 0 && stops.contains t.category then (0, none)
    else if t.category = .eof then (0, some (.phrase "end of bracketed section"))
    else if t.category.opensGroup then goOn (depth + 1)
    else if t.category.closesGroup then
      match depth with
      | 0 => (0, some (.phrase "balanced brackets"))
      | depth + 1 => goOn depth
    else goOn depth

/-- Reads the tokens before the first of `stops` outside any bracket. -/
def skipBalanced (stops : List Category) : Parser Unit := fun l s =>
  match balancedRun stops 0 s.rest with
  | (count, none) => (.ok (), s.drop count)
  | (count, some expectation) => expected expectation l (s.drop count)

/-- Reads a group in parentheses. -/
def skipParenthesized : Parser Unit := do
  let _ ← require .parenthesisOpen
  skipBalanced [.parenthesisClose]
  let _ ← require .parenthesisClose

/-! ## The catalog -/

/-- The library for which tokens are read. -/
def library : Parser LibraryId := fun l s => (.ok l, s)

/-- Reads something off the catalog. -/
def view (f : Catalog → α) : Parser α := fun _ s => (.ok (f s.catalog), s)

/-- Changes the catalog, with an answer. -/
def change (f : Catalog → α × Catalog) : Parser α := fun _ s =>
  let changed := f s.catalog
  (.ok changed.1, { s with catalog := changed.2 })

/-- Changes the catalog. -/
def modify (f : Catalog → Catalog) : Parser Unit := fun _ s =>
  (.ok (), { s with catalog := f s.catalog })

/-- Notes an event. -/
def note (event : Event) : Parser Unit := fun _ s =>
  (.ok (), { s with journal := s.journal.push event })

/-- Enters a type into the library. -/
def register (t : TypeId) : Parser Unit := fun l s =>
  match s.catalog.addType l t with
  | .ok c => (.ok (), { s with catalog := c })
  | .error e => (.error (.duplicate e), s)

/-- Asks the provider of the library about an entry. -/
def document (artifact : Artifact) : Parser Unit := do
  let l ← library
  note (.asked l artifact (← view (·.artifactPath artifact)))
  modify (·.document l artifact)

end Parser

end IdlCatalog
