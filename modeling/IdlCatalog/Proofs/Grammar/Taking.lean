/-
# IdlCatalog.Proofs.Grammar.Taking — the tokens that a reading takes, one by one

`Consumes` says how a reading goes: which tokens it takes, in their order, and what it comes to. A
token is taken where it is the next one; the parts of a sequence take theirs one after the other,
each from where the one before it has stopped; and a recursion calls itself only after a token was
taken. There is no way back among the clauses. So what is taken on the way to a token that is still
to be read are all the tokens before it, each of them once.

Every parser of the grammar takes its tokens so, unless it would call itself without taking one.
Values and groups in brackets, which are skipped at once, are taken token by token as well.

The relation is inductive because the point is what a reading cannot do. A function from states to
states may do anything with its tokens; a derivation of `Consumes` takes them from the front or not
at all. `split` reads off the list of what was taken: in front of a token that is still to be read
stand the tokens that were taken, and none of them twice.
-/
import IdlCatalog.Proofs.Grammar.Productions

namespace IdlCatalog

variable {α β : Type}

/-! ## Skipping token by token

The grammar skips values and groups by a function on the list of tokens. Here the same runs are put
together from single tokens: each round takes one token, with the number of open brackets as its
state, and the last round stops in front of a token or refuses it. The equations say that the two
agree, so the clauses of `Consumes` need no case of their own for skipped runs. -/

namespace Parser

/-- A token of a value, unless the value ends. -/
def valueToken : Parser (Option String) :=
  atToken fun t => if continuesValue t then .ok (some t.text, true) else .ok (none, false)

/-- A value is collected token by token. -/
theorem rawUntilSemicolon_eq :
    rawUntilSemicolon = collect valueToken >>= fun words => pure (" ".intercalate words) := by
  have collected (l : LibraryId) (s : ReadState) : collect valueToken l s =
      (.ok ((s.rest.takeWhile continuesValue).map (·.text)),
        s.drop (s.rest.takeWhile continuesValue).length) := by
    -- on the tokens that are left
    induction h : s.rest generalizing s with
    | nil =>
      rw [collect, fix_apply, Parser.bind_apply, valueToken, atToken, ReadState.peek, h]
      rfl
    | cons t rest ih =>
      have peek : s.peek = t := by simp [ReadState.peek, h]
      rw [collect, fix_apply, Parser.bind_apply, valueToken, atToken, peek]
      cases continues : continuesValue t with
      | false => simp [continues, Parser.pure_apply, ReadState.drop]
      | true =>
        have after : s.After 1 s.advance := ReadState.advance_after (by simp [h])
        have fewer : s.advance.left < s.left := by have := after.left; omega
        have later := ih s.advance (by rw [after.rest, h]; rfl)
        rw [collect, valueToken] at later
        simp only [if_true, Parser.bind_apply, below, if_pos fewer, later,
          List.takeWhile_cons_of_pos continues]
        rfl
  funext l s
  rw [Parser.bind_apply, collected]
  rfl

/-- What is done at a token within brackets, `depth` of them being open: the section ends, or it
goes on with so many brackets open. -/
def bracketStep (stops : List Category) (depth : Nat) (t : Token) :
    Except Expectation (Option Nat × Bool) :=
  if depth = 0 && stops.contains t.category then .ok (none, false)
  else if t.category = .eof then .error (.phrase "end of bracketed section")
  else if t.category.opensGroup then .ok (some (depth + 1), true)
  else if t.category.closesGroup then
    if depth = 0 then .error (.phrase "balanced brackets") else .ok (some (depth - 1), true)
  else .ok (some depth, true)

/-- A token within brackets, unless the section ends. -/
def bracketToken (stops : List Category) (depth : Nat) : Parser (Option Nat) :=
  atToken (bracketStep stops depth)

/-- Skips the tokens before the first of `stops` outside any bracket, `depth` of them being open. -/
def skipFrom (stops : List Category) (depth : Nat) : Parser Unit := fun l s =>
  let run := balancedRun stops depth s.rest
  run.2.elim (pure ()) expected l (s.drop run.1)

theorem skipBalanced_eq (stops : List Category) : skipBalanced stops = skipFrom stops 0 := by
  funext l s
  rw [skipBalanced, skipFrom]
  generalize balancedRun stops 0 s.rest = run
  obtain ⟨count, _ | expectation⟩ := run
  · rfl
  · rfl

/-- What a run does at its first token: it stops there, is refused there, or takes it and goes on as
a run of its own. -/
theorem balancedRun_step (stops : List Category) (depth : Nat) (s : ReadState) :
    (bracketStep stops depth s.peek = .ok (none, false) ∧
        balancedRun stops depth s.rest = (0, none)) ∨
      (∃ expectation, bracketStep stops depth s.peek = .error expectation ∧
        balancedRun stops depth s.rest = (0, some expectation)) ∨
      ∃ next, bracketStep stops depth s.peek = .ok (some next, true) ∧ s.peek.category ≠ .eof ∧
        balancedRun stops depth s.rest =
          ((balancedRun stops next s.advance.rest).1 + 1,
            (balancedRun stops next s.advance.rest).2) := by
  cases rest : s.rest with
  | nil =>
    have peek : s.peek = Token.endOfInput := by rw [ReadState.peek, rest]; rfl
    rw [peek]
    simp only [bracketStep, balancedRun]
    by_cases stop : (depth = 0 && stops.contains .eof) = true
    · exact .inl ⟨if_pos stop, by rw [if_pos stop]⟩
    · exact .inr (.inl ⟨_, if_neg stop, by rw [if_neg stop]⟩)
  | cons t tokens =>
    have peek : s.peek = t := by rw [ReadState.peek, rest]; rfl
    have later : s.advance.rest = tokens := by rw [ReadState.rest_advance, rest, List.tail_cons]
    rw [peek, later]
    simp only [bracketStep, balancedRun]
    by_cases stop : (depth = 0 && stops.contains t.category) = true
    · exact .inl ⟨if_pos stop, if_pos stop⟩
    simp only [if_neg stop]
    by_cases eof : t.category = .eof
    · exact .inr (.inl ⟨_, if_pos eof, if_pos eof⟩)
    simp only [if_neg eof]
    by_cases opens : t.category.opensGroup = true
    · exact .inr (.inr ⟨_, if_pos opens, eof, if_pos opens⟩)
    simp only [if_neg opens]
    by_cases closes : t.category.closesGroup = true
    · simp only [if_pos closes]
      cases depth with
      | zero => exact .inr (.inl ⟨_, rfl, rfl⟩)
      | succ depth => exact .inr (.inr ⟨depth, rfl, eof, rfl⟩)
    · exact .inr (.inr ⟨_, if_neg closes, eof, if_neg closes⟩)

/-- Tokens within brackets are skipped one by one. -/
theorem skipFrom_eq (stops : List Category) (depth : Nat) :
    skipFrom stops depth =
      bracketToken stops depth >>= fun next => next.elim (pure ()) (skipFrom stops) := by
  funext l s
  rw [Parser.bind_apply, bracketToken, atToken]
  rcases balancedRun_step stops depth s with
    ⟨step, run⟩ | ⟨expectation, step, run⟩ | ⟨next, step, -, run⟩
  · rw [step, skipFrom, run]
    rfl
  · rw [step, skipFrom, run]
    rfl
  · rw [step, skipFrom, run]
    rfl

end Parser

/-! ## What is taken

One clause for each way to put parsers together, and one for each thing that is done at a token.
Only `take` adds a token to the list, and only it moves on. -/

/-- Reading for the library `l`, a parser takes these tokens from a state on, in this order, and
comes to this. -/
inductive Parser.Consumes (l : LibraryId) : {α : Type} → Parser α → ReadState → List Token →
    Except (Failure Fault) α × ReadState → Prop
  /-- What is done to the catalog takes no token. -/
  | act {α : Type} {p : Parser α} {s : ReadState} (neutral : p.Neutral) : Consumes l p s [] (p l s)
  | place {s : ReadState} : Consumes l Parser.position s [] (.ok s.position, s)
  /-- The next token is looked at, taken or refused. -/
  | look {α : Type} {f : Token → Except Expectation (α × Bool)} {s : ReadState} {a : α}
      (found : f s.peek = .ok (a, false)) : Consumes l (Parser.atToken f) s [] (.ok a, s)
  | take {α : Type} {f : Token → Except Expectation (α × Bool)} {s : ReadState} {a : α}
      (found : f s.peek = .ok (a, true)) :
      Consumes l (Parser.atToken f) s [s.peek] (.ok a, s.advance)
  | reject {α : Type} {f : Token → Except Expectation (α × Bool)} {s : ReadState}
      {expectation : Expectation} (refused : f s.peek = .error expectation) :
      Consumes l (Parser.atToken f) s [] (Parser.expected expectation l s)
  | refuse {α : Type} {x : Failure Fault} {s : ReadState} :
      Consumes l (Parser.refuse x : Parser α) s [] (.error x, s)
  /-- The second part of a sequence goes on from where the first one has stopped. -/
  | both {α β : Type} {p : Parser α} {f : α → Parser β} {s t : ReadState} {a : α}
      {ts us : List Token} {r : Except (Failure Fault) β × ReadState}
      (first : Consumes l p s ts (.ok a, t)) (second : Consumes l (f a) t us r) :
      Consumes l (p >>= f) s (ts ++ us) r
  | stop {α β : Type} {p : Parser α} {f : α → Parser β} {s t : ReadState} {x : Failure Fault}
      {ts : List Token} (first : Consumes l p s ts (.error x, t)) :
      Consumes l (p >>= f) s ts (.error x, t)
  /-- A recursion calls itself only where fewer tokens are left than where it was called. -/
  | call {α : Type} {body : Parser α → Parser α} {s : ReadState} {ts : List Token}
      {r : Except (Failure Fault) α × ReadState}
      (inner : Consumes l (body (Parser.below s.left (Parser.fix body))) s ts r) :
      Consumes l (Parser.fix body) s ts r
  | again {α : Type} {p : Parser α} {limit : Nat} {s : ReadState} {ts : List Token}
      {r : Except (Failure Fault) α × ReadState} (fewer : s.left < limit)
      (inner : Consumes l p s ts r) : Consumes l (Parser.below limit p) s ts r

namespace Parser.Consumes

variable {l : LibraryId} {p : Parser α} {s : ReadState} {ts : List Token}
  {r : Except (Failure Fault) α × ReadState}

/-- As long as a token is left, the tokens that were taken are those before it. -/
theorem split (h : Consumes l p s ts r) (more : r.2.rest ≠ []) : s.rest = ts ++ r.2.rest := by
  induction h with
  | @act _ p s neutral =>
    obtain ⟨answer, d, run, -⟩ := neutral l s.catalog
    obtain ⟨j, run⟩ := run s rfl
    rw [run]
    rfl
  | place | look | reject | refuse => rfl
  | @take _ f s =>
    refine ReadState.rest_eq_cons fun nil => more ?_
    show s.advance.rest = []
    rw [ReadState.rest_advance, nil, List.tail_nil]
  | both first second ih ih' =>
    -- the second part leaves a token, so the first part left one as well and its share is known
    have later := ih' more
    have here := ih (by rw [later]; exact List.append_ne_nil_of_right_ne_nil _ more)
    rw [here, later, List.append_assoc]
  | stop first ih => exact ih more
  | call inner ih => exact ih more
  | again fewer inner ih => exact ih more

end Parser.Consumes

/-! ## The grammar

A parser takes its tokens one by one if it consumes some list of tokens from every state, or else
would call itself without having taken one. This goes from parts to the whole, so it is a
congruence, and all productions have it. -/

namespace Parser

/-- Takes its tokens one by one, unless it calls itself without taking one. -/
def TakesTokens (p : Parser α) : Prop :=
  ∀ l s, (p l s).1 ≠ .error .stalled → ∃ ts, Consumes l p s ts (p l s)

namespace TakesTokens

/-- A sequence takes the tokens of its parts, or those of the first part where this fails. -/
theorem bind {p : Parser α} {f : α → Parser β} (hp : p.TakesTokens)
    (hf : ∀ a, (f a).TakesTokens) : (p >>= f).TakesTokens := by
  intro l s goesOn
  have first := hp l s
  rw [Parser.bind_apply] at goesOn ⊢
  generalize p l s = r at first goesOn
  obtain ⟨x | a, t⟩ := r
  · obtain ⟨ts, takes⟩ := first fun stalled => goesOn (by cases stalled; rfl)
    exact ⟨ts, .stop takes⟩
  · obtain ⟨ts, takes⟩ := first (by simp)
    obtain ⟨us, takes'⟩ := hf a l t goesOn
    exact ⟨ts ++ us, .both takes takes'⟩

/-- A recursion takes the tokens of its body; the calls take theirs by the induction. -/
theorem fix {body : Parser α → Parser α}
    (h : ∀ {self}, TakesTokens self → TakesTokens (body self)) :
    (Parser.fix body).TakesTokens := by
  have calls : ∀ n, (Parser.below n (Parser.fix body)).TakesTokens := by
    intro n
    -- on the number of tokens: the body calls itself only with fewer tokens left
    induction n using Nat.strongRecOn with
    | _ n ih =>
      intro l s goesOn
      rw [Parser.below] at goesOn ⊢
      by_cases fewer : s.left < n
      · rw [if_pos fewer, fix_apply] at goesOn ⊢
        obtain ⟨ts, takes⟩ := h (ih s.left fewer) l s goesOn
        exact ⟨ts, .again fewer (.call takes)⟩
      · rw [if_neg fewer] at goesOn
        exact absurd rfl goesOn
  intro l s goesOn
  rw [fix_apply] at goesOn ⊢
  obtain ⟨ts, takes⟩ := h (calls s.left) l s goesOn
  exact ⟨ts, .call takes⟩

theorem neutral {p : Parser α} (neutral : p.Neutral) : p.TakesTokens :=
  fun _ _ _ => ⟨[], .act neutral⟩

/-- At a single token there is at most one to take. -/
theorem atToken (f : Token → Except Expectation (α × Bool)) : (atToken f).TakesTokens := by
  intro l s _
  rw [Parser.atToken]
  split
  · next found => exact ⟨_, .take found⟩
  · next found => exact ⟨[], .look found⟩
  · next refused => exact ⟨[], .reject refused⟩

theorem of_orRefused {p q : Parser α} {t : Token}
    (h : OrRefused (fun p _ => TakesTokens p) t p q) : p.TakesTokens := by
  cases h with
  | goOn h => exact h
  | @refuse expectation => exact atToken fun _ => .error expectation

/-- To look takes nothing, and to refuse takes nothing. -/
theorem inspect (f : Token → α) {k k' : α → Parser β}
    (h : ∀ t, OrRefused (fun p _ => TakesTokens p) t (k (f t)) (k' (f t))) :
    (look f >>= k).TakesTokens := by
  intro l s goesOn
  obtain ⟨ts, takes⟩ := of_orRefused (h s.peek) l s goesOn
  rw [look_eq]
  exact ⟨_, .both (.look rfl) takes⟩

theorem accept (category : Category) : (accept category).TakesTokens := by
  rw [accept_eq]
  exact atToken _

theorem require (category : Category) : (require category).TakesTokens := by
  rw [require_eq]
  exact atToken _

theorem ite {c : Prop} [Decidable c] {p q : Parser α} (hp : p.TakesTokens)
    (hq : q.TakesTokens) : (if c then p else q).TakesTokens := by
  split
  · exact hp
  · exact hq

theorem namedAttribute (known : ∀ action, (Grammar.attributeEffect action).TakesTokens) :
    Grammar.namedAttribute.TakesTokens := by
  refine bind (fun _ _ _ => ⟨[], .place⟩) fun index => bind (require .word) fun token => ?_
  cases AttributeAction.ofName? token.text with
  | some action => exact known action
  | none => exact fun _ _ _ => ⟨[], .refuse⟩

theorem rawUntilSemicolon : rawUntilSemicolon.TakesTokens := by
  rw [rawUntilSemicolon_eq]
  refine bind (fix fun calls => bind (atToken _) fun answer => ?_) fun _ => neutral (.pure _)
  cases answer with
  | none => exact neutral (.pure [])
  | some word => exact bind calls fun words => neutral (.pure (word :: words))

theorem skipFrom (stops : List Category) (depth : Nat) : (skipFrom stops depth).TakesTokens := by
  intro l s alive
  -- on the number of tokens: a run that goes on has taken one
  induction h : s.left using Nat.strongRecOn generalizing depth s with
  | _ n ih =>
    rcases balancedRun_step stops depth s with
      ⟨step, run⟩ | ⟨expectation, step, run⟩ | ⟨next, step, other, run⟩
    · have ends : Parser.skipFrom stops depth l s = (.ok (), s) := by rw [Parser.skipFrom, run]; rfl
      rw [ends, skipFrom_eq]
      exact ⟨_, .both (.look step) (.act (.pure ()))⟩
    · have refused : Parser.skipFrom stops depth l s = expected expectation l s := by
        rw [Parser.skipFrom, run]
        rfl
      rw [refused, skipFrom_eq]
      exact ⟨_, .stop (.reject step)⟩
    · have goesOn : Parser.skipFrom stops depth l s = Parser.skipFrom stops next l s.advance := by
        rw [Parser.skipFrom, run]
        rfl
      have after := ReadState.advance_after (ReadState.rest_ne_nil_of_category other)
      have fewer := after.left
      obtain ⟨ts, takes⟩ :=
        ih s.advance.left (by omega) next s.advance (by rwa [← goesOn]) rfl
      rw [goesOn, skipFrom_eq]
      exact ⟨_, .both (.take step) takes⟩

theorem skipBalanced (stops : List Category) : (skipBalanced stops).TakesTokens := by
  rw [skipBalanced_eq]
  exact skipFrom stops 0

end TakesTokens

end Parser

/-- That tokens are taken one by one goes from parts to the whole. -/
def takingCongruence : Parser.Congruence where
  Rel := fun _ _ {_} p _ => p.TakesTokens
  mono h _ := h
  weaken := id
  still := id
  sequence _ := .bind
  finish := .bind
  fix h := .fix fun {self} calls => @h self self calls
  neutral := .neutral
  inspect f _ _ _ h := .inspect f h
  atToken f _ _ := .atToken f
  atTokenClose f _ _ := .atToken f
  next := .atToken fun t => .ok (t, true)
  acceptSemicolon := .accept .semicolon
  choose _ yes no := .bind (.accept _) fun _ => .ite yes no
  namedAttribute := .namedAttribute
  rawUntilSemicolon := .rawUntilSemicolon
  skipBalanced := .skipBalanced

end IdlCatalog
