/-
# IdlCatalog.Proofs.Grammar.Repeating — what is read once is read again elsewhere

An attribute before a declaration ends before a comma or a bracket, and none of the two is a token
with which it could have gone on. So the tokens that were read for it in one place are read for it
in every other one, whatever comes before and after: with the same answer, in the same catalog.

`Parser.Repeats` is the property. A part that ends with a token which has to stand there has it as
soon as it goes the same way on all streams, which the congruences of the grammar say; the other
parts of an attribute look at the token after their end, and only for signs with which they go on.

The converse is not claimed: a part that fails in one place may be read in another, since it may
have failed at what came after it. Only answers are carried from place to place.

A recursion would ask for an induction on its runs. Rows with separators are unfolded by an equation
of their own, `sepBy_eq`; a list of parameters is a whole part, which comes from a congruence: what
has to end with a certain token ends in front of it on every stream.
-/
import IdlCatalog.Proofs.Composition
import IdlCatalog.Proofs.Grammar.Forks
import IdlCatalog.Proofs.Grammar.TypeReading

namespace IdlCatalog

open Grammar

variable {α β : Type}

/-- A sign or word with which an attribute may go on. -/
def Token.GoesOn (t : Token) : Prop :=
  t.category ∈ [.equals, .parenthesisOpen, .ampersand, .bar] ∨ t.isKeyword "raises" = true

instance (t : Token) : Decidable t.GoesOn := inferInstanceAs (Decidable (_ ∨ _))

/-- A token that does not go on is none of the signs. -/
theorem Token.category_ne_of_not_goesOn {t : Token} (ends : ¬t.GoesOn) {category : Category}
    (inside : category ∈ [.equals, .parenthesisOpen, .ampersand, .bar]) :
    t.category ≠ category := by
  rintro rfl
  exact ends (.inl inside)

namespace Parser

/-- What is read from the state on is read in every other place, if there comes the same token after
it or one with which nothing goes on. -/
structure RepeatsFrom (p : Parser α) (s : ReadState) : Prop where
  suffix : ∀ {l : LibraryId} {u : ReadState} {a : α}, p l s = (.ok a, u) → u.rest <:+ s.rest
  again : ∀ {l : LibraryId} {u s' : ReadState} {a : α} {front rest : List Token},
    p l s = (.ok a, u) → s.rest = front ++ u.rest → s'.catalog = s.catalog →
      s'.rest = front ++ rest →
        (nextToken rest = nextToken u.rest ∨ ¬(nextToken rest).GoesOn) →
          ∃ u' : ReadState, p l s' = (.ok a, u') ∧ u'.rest = rest ∧ u'.catalog = u.catalog

/-- What is read in one place is read in every other one. -/
def Repeats (p : Parser α) : Prop := ∀ s, p.RepeatsFrom s

/-- What comes first in a sequence that answers, and what comes then. -/
theorem bind_ok {p : Parser α} {f : α → Parser β} {l : LibraryId} {s u : ReadState} {b : β}
    (run : (p >>= f) l s = (.ok b, u)) : ∃ a t, p l s = (.ok a, t) ∧ f a l t = (.ok b, u) := by
  rw [Parser.bind_apply] at run
  cases first : p l s with
  | mk answer t =>
    rw [first] at run
    cases answer with
    | ok a => exact ⟨a, t, rfl, run⟩
    | error => cases run

/-- What an accepted category says of the token. -/
theorem accept_true {category : Category} {l : LibraryId} {s u : ReadState}
    (run : accept category l s = (.ok true, u)) : s.peek.category = category ∧ u = s.advance := by
  rw [accept] at run
  split at run
  · next here =>
    cases run
    exact ⟨here, rfl⟩
  · cases run

/-- What a category that was not accepted says of the token. -/
theorem accept_false {category : Category} {l : LibraryId} {s u : ReadState}
    (run : accept category l s = (.ok false, u)) : s.peek.category ≠ category ∧ u = s := by
  rw [accept] at run
  split at run
  · cases run
  · next away =>
    cases run
    exact ⟨away, rfl⟩

/-- To accept adds no token. -/
theorem accept_left_le {category : Category} {found : Bool} {l : LibraryId} {s u : ReadState}
    (run : accept category l s = (.ok found, u)) : u.left ≤ s.left := by
  cases found with
  | false => rw [(accept_false run).2]
  | true =>
    rw [(accept_true run).2, s.advance.left_eq, s.left_eq, ReadState.rest_advance]
    exact (List.tail_suffix _).length_le

/-- What a required category says of the token. -/
theorem require_ok {category : Category} {l : LibraryId} {s u : ReadState} {t : Token}
    (run : require category l s = (.ok t, u)) : s.peek.category = category ∧ u = s.advance := by
  rw [require] at run
  split at run
  · next here =>
    cases run
    exact ⟨here, rfl⟩
  · cases run

/-- Separated items: one is read, and the others where another one follows. -/
theorem sepBy_eq {item : Parser α} {more : Parser Bool}
    (fewer : ∀ {l s t v a}, item l s = (.ok a, t) → more l t = (.ok true, v) → v.left < s.left) :
    sepBy item more = item >>= fun a => more >>= fun goesOn =>
      if goesOn then sepBy item more >>= fun as => Pure.pure (a :: as) else Pure.pure [a] := by
  funext l s
  rw [sepBy, fix_apply]
  refine bind_congr fun a t first => bind_congr fun goesOn v second => ?_
  cases goesOn with
  | false => rfl
  | true =>
    rw [if_pos rfl, if_pos rfl, Parser.bind_apply, Parser.bind_apply, below,
      if_pos (fewer first second)]

/-- A list of items reads a token if each item does. -/
theorem sepBy_fewer {item : Parser α} {more : Parser Bool}
    (fewer : ∀ {l s t a}, item l s = (.ok a, t) → t.left < s.left)
    (le : ∀ {l s t goesOn}, more l s = (.ok goesOn, t) → t.left ≤ s.left) {l : LibraryId}
    {s u : ReadState} {as : List α} (run : sepBy item more l s = (.ok as, u)) :
    u.left < s.left := by
  -- on the number of tokens that are left, which each item makes fewer
  induction measure : s.left using Nat.strongRecOn generalizing s as with
  | _ n ih =>
    rw [sepBy_eq fun first second => Nat.lt_of_le_of_lt (le second) (fewer first)] at run
    obtain ⟨a, t, first, after⟩ := bind_ok run
    obtain ⟨goesOn, v, second, last⟩ := bind_ok after
    have less : v.left < n := measure ▸ Nat.lt_of_le_of_lt (le second) (fewer first)
    cases goesOn with
    | false =>
      cases last
      exact less
    | true =>
      obtain ⟨others, w, next, answer⟩ := bind_ok last
      cases answer
      exact Nat.lt_trans (ih _ less next rfl) less

/-- A loop: its step is taken, and the loop goes on where the step has an answer. -/
theorem collect_eq {step : Parser (Option α)}
    (fewer : ∀ {l s t a}, step l s = (.ok (some a), t) → t.left < s.left) :
    collect step = step >>= fun
      | some a => collect step >>= fun as => Pure.pure (a :: as)
      | none => Pure.pure [] := by
  funext l s
  rw [collect, fix_apply]
  refine bind_congr fun found t first => ?_
  cases found with
  | none => rfl
  | some a =>
    dsimp only
    rw [Parser.bind_apply, Parser.bind_apply, below, if_pos (fewer first)]

/-- What is read up to a token that has to stand there. -/
def upTo (p : Parser α) (category : Category) : Parser α := do
  let a ← p
  let _ ← require category
  return a

/-! ## Whole parts

A parser that every congruence relates to itself goes the same way on two streams up to where they
part. If it is followed by a token that has to be there, and the token is the same on both, then it
has come to its end before the fork. -/

section Whole

variable {p : Parser α} {l : LibraryId} {s t s' : ReadState} {a : α}

/-- What the productions read they read from the front. -/
theorem suffix_of_congruence (h : ∀ R : Congruence, R.Rel false .looking p p)
    (run : p l s = (.ok a, t)) : t.rest <:+ s.rest := by
  have onward := onward_of_related h l s s.stands_false
  rw [run] at onward
  obtain ⟨count, after⟩ := onward.leads.after
  exact after.suffix

/-- It does not matter where in a stream the tokens stand. -/
theorem run_elsewhere (h : ∀ R : Congruence, R.Rel false .looking p p)
    (run : p l s = (.ok a, t)) (rest : s'.rest = s.rest) (catalog : s'.catalog = s.catalog) :
    ∃ t' : ReadState, p l s' = (.ok a, t') ∧ t'.rest = t.rest ∧ t'.catalog = t.catalog := by
  have rel : Tails.none.Rel s s' :=
    ⟨catalog.symm, s.rest, (List.append_nil _).symm, rest.trans (List.append_nil _).symm⟩
  have joint := (h Tails.none.congruence).joint l s s' rel
  rw [run] at joint
  generalize p l s' = r at joint
  cases joint with
  | ok rel =>
    obtain ⟨front, left, left'⟩ := rel.rest
    exact ⟨_, rfl, left'.trans left.symm, rel.catalog.symm⟩
  | missed apart => exact absurd Tails.none_same apart

/-- Up to where two streams part, both readings are the same. -/
theorem run_before (h : ∀ R : Congruence, R.Rel false .looking p p) (run : p l s = (.ok a, t))
    {front tail tail' : List Token} (stands : s.rest = front ++ tail)
    (stands' : s'.rest = front ++ tail') (catalog : s'.catalog = s.catalog)
    (before : tail.length < t.rest.length) :
    ∃ (t' : ReadState) (between : List Token), p l s' = (.ok a, t') ∧ t.rest = between ++ tail ∧
      t'.rest = between ++ tail' ∧ t'.catalog = t.catalog := by
  let K : Fork := ⟨tail, tail', s.position + front.length⟩
  let s'' : ReadState := { s' with position := s.position }
  have rel : K.Rel s s'' := ⟨catalog.symm, rfl, front, stands, stands', rfl⟩
  have joint := (h K.congruence).joint l s s'' s.stands_false rel
  have onward := (h K.congruence).onward l s s.stands_false
  rw [run] at joint onward
  generalize there : p l s'' = r at joint
  cases joint with
  | past past =>
    -- the first reading has more tokens left than there are behind the fork
    obtain ⟨count, after⟩ : ∃ count, s.After count t := onward.leads.after
    have far : s.position + front.length ≤ t.position := past.position
    have left := congrArg List.length after.rest
    have whole := congrArg List.length stands
    have := after.position
    rw [List.length_drop] at left
    rw [List.length_append] at whole
    omega
  | @ok _ _ t'' rel =>
    obtain ⟨between, left, left'', -⟩ := rel.rest
    obtain ⟨t', run', rest, catalog'⟩ := run_elsewhere h there (rfl : s'.rest = s''.rest) rfl
    exact ⟨t', between, run', left, rest.trans left'', catalog'.trans rel.catalog.symm⟩

/-- Up to a token that has to stand there it does not matter what comes after it. -/
theorem Repeats.upTo {category : Category} (h : ∀ R : Congruence, R.Rel false .looking p p)
    (other : category ≠ .eof) : (Parser.upTo p category).Repeats := by
  refine fun s => ⟨fun run => ?_, fun {l u s' a front rest} run stands catalog stands' _ => ?_⟩
  · obtain ⟨a, t, first, run⟩ := bind_ok run
    obtain ⟨_, v, last, run⟩ := bind_ok run
    cases run
    obtain ⟨-, rfl⟩ := require_ok last
    rw [ReadState.rest_advance]
    exact (List.tail_suffix _).trans (suffix_of_congruence h first)
  · obtain ⟨a, t, first, run⟩ := bind_ok run
    obtain ⟨_, v, last, run⟩ := bind_ok run
    cases run
    obtain ⟨here, rfl⟩ := require_ok last
    -- the closing token is there, so that what is before it was read before the end
    have inside : t.rest ≠ [] := ReadState.rest_ne_nil_of_category (here ▸ other)
    have before : t.advance.rest.length < t.rest.length := by
      rw [ReadState.rest_advance, List.length_tail]
      exact Nat.sub_one_lt (List.length_pos_iff.2 inside).ne'
    obtain ⟨t', between, run', left, left', catalog'⟩ :=
      run_before h first stands stands' catalog before
    obtain rfl : between = [t.peek] := by
      rw [ReadState.rest_eq_cons inside] at left
      exact (List.append_cancel_right (show [t.peek] ++ _ = _ from left)).symm
    obtain ⟨peek', rest'⟩ := ReadState.peek_of_rest left'
    have closing : (require category).Takes t' t'.peek := takes_require (by rw [peek', here])
    refine ⟨t'.advance, ?_, rest', ?_⟩
    · rw [Parser.upTo, Parser.bind_apply, run']
      exact closing.bind_apply l
    · rw [ReadState.catalog_advance, ReadState.catalog_advance, catalog']

end Whole

/-! ## Single tokens

A token that is read is the same in both places, for the rest behind it is not empty or is known not
to go on. -/

namespace RepeatsFrom

variable {p q : Parser α} {f : α → Parser β} {s : ReadState}

/-- One token is read. -/
theorem of_advance (inside : s.rest ≠ []) {a : α}
    (run : ∀ s' : ReadState, s'.peek = s.peek → ∀ l, p l s' = (.ok a, s'.advance)) :
    p.RepeatsFrom s := by
  refine ⟨fun here => ?_, fun {l u s' a' front rest} here stands catalog stands' _ => ?_⟩
  · cases (run s rfl _).symm.trans here
    rw [ReadState.rest_advance]
    exact List.tail_suffix _
  · cases (run s rfl _).symm.trans here
    obtain rfl : front = [s.peek] := by
      rw [ReadState.rest_eq_cons inside] at stands
      exact (List.append_cancel_right (show [s.peek] ++ _ = _ from stands)).symm
    obtain ⟨peek', rest'⟩ := ReadState.peek_of_rest stands'
    refine ⟨s'.advance, run s' peek' l, rest', ?_⟩
    rw [ReadState.catalog_advance, ReadState.catalog_advance, catalog]

/-- No token is read, here and before each token with which nothing goes on. -/
theorem of_stay {a : α} (run : ∀ s' : ReadState, s'.peek = s.peek ∨ ¬s'.peek.GoesOn →
    ∀ l, p l s' = (.ok a, s')) : p.RepeatsFrom s := by
  refine ⟨fun here => ?_, fun {l u s' a' front rest} here stands catalog stands' ends => ?_⟩
  · cases (run s (.inl rfl) _).symm.trans here
    exact List.suffix_refl _
  · cases (run s (.inl rfl) _).symm.trans here
    obtain rfl : front = [] := List.self_eq_append_left.1 stands
    have peek' : s'.peek = nextToken rest := ReadState.peek_eq stands'
    exact ⟨s', run s' (peek' ▸ ends) l, stands', catalog⟩

/-- Nothing is answered. -/
theorem of_fails (fails : ∀ l, p.Fails l s) : p.RepeatsFrom s := by
  refine ⟨fun {l _ _} run => ?_, fun {l _ _ _ _ _} run => ?_⟩
  all_goals
    obtain ⟨e, v, failed⟩ := fails l
    cases failed.symm.trans run

theorem bind (hp : p.RepeatsFrom s)
    (hf : ∀ {l a t}, p l s = (.ok a, t) → (f a).RepeatsFrom t) : (p >>= f).RepeatsFrom s := by
  refine ⟨fun run => ?_, fun {l u s' b front rest} run stands catalog stands' ends => ?_⟩
  · obtain ⟨a, t, first, second⟩ := bind_ok run
    exact ((hf first).suffix second).trans (hp.suffix first)
  · obtain ⟨a, t, first, second⟩ := bind_ok run
    obtain ⟨front₁, split₁⟩ := hp.suffix first
    obtain ⟨front₂, split₂⟩ := (hf first).suffix second
    obtain rfl : front = front₁ ++ front₂ := by
      rw [← split₁, ← split₂, ← List.append_assoc] at stands
      exact (List.append_cancel_right stands).symm
    rw [List.append_assoc] at stands'
    -- what follows the first part starts with the second one, or is what follows both
    have between : nextToken (front₂ ++ rest) = nextToken t.rest ∨
        ¬(nextToken (front₂ ++ rest)).GoesOn := by
      rw [← split₂]
      cases front₂ with
      | nil => exact ends
      | cons x front₂ => exact .inl rfl
    obtain ⟨t', run', rest', catalog'⟩ := hp.again first split₁.symm catalog stands' between
    obtain ⟨u', run'', rest'', catalog''⟩ :=
      (hf first).again second split₂.symm catalog' rest' ends
    refine ⟨u', ?_, rest'', catalog''⟩
    rw [Parser.bind_apply, run']
    exact run''

end RepeatsFrom

namespace Repeats

variable {p q : Parser α} {f : α → Parser β}

/-- What is done at a token: it is read or not, and none with which something goes on is waited for
in vain. -/
theorem of_atToken (f : Token → Except Expectation (α × Bool))
    (reads : ∀ t a, f t = .ok (a, true) → t.category ≠ .eof)
    (stays : ∀ t t' a, f t = .ok (a, false) → ¬t'.GoesOn → f t' = .ok (a, false)) :
    (atToken f).Repeats := by
  intro s
  cases found : f s.peek with
  | error expectation =>
    exact .of_fails fun l => ⟨_, s, by rw [atToken, found]; rfl⟩
  | ok answer =>
    obtain ⟨a, _ | _⟩ := answer
    · refine .of_stay (a := a) fun s' ends l => ?_
      have found' : f s'.peek = .ok (a, false) := by
        rcases ends with same | ends
        · rw [same, found]
        · exact stays _ _ _ found ends
      rw [atToken, found']
    · have more := ReadState.rest_ne_nil_of_category (reads _ _ found)
      refine .of_advance (a := a) more fun s' same l => ?_
      rw [atToken, same, found]

/-- A token that has to stand there. -/
theorem require {category : Category} (other : category ≠ .eof) :
    (Parser.require category).Repeats := by
  rw [require_eq]
  refine of_atToken _ (fun t a found => ?_) fun t t' a found => ?_
  · split at found
    · next here => exact here ▸ other
    · cases found
  · split at found <;> cases found

/-- A sign with which attributes go on. -/
theorem accept {category : Category}
    (inside : category ∈ [.equals, .parenthesisOpen, .ampersand, .bar]) :
    (Parser.accept category).Repeats := by
  rw [accept_eq]
  refine of_atToken _ (fun t a found => ?_) fun t t' a found ends => ?_
  · obtain ⟨-, here⟩ := Prod.mk.inj (Except.ok.inj found)
    rw [of_decide_eq_true here]
    rintro rfl
    exact absurd inside (by decide)
  · obtain ⟨rfl, -⟩ := Prod.mk.inj (Except.ok.inj found)
    have away : decide (t'.category = category) = false :=
      decide_eq_false (t'.category_ne_of_not_goesOn ends inside)
    simp_all

/-- The word for exceptions. -/
theorem acceptRaises : (Parser.acceptKeyword "raises").Repeats := by
  rw [acceptKeyword_eq]
  refine of_atToken _ (fun t a found => ?_) fun t t' a found ends => ?_
  · obtain ⟨-, here⟩ := Prod.mk.inj (Except.ok.inj found)
    exact category_of_isKeyword here
  · obtain ⟨rfl, here⟩ := Prod.mk.inj (Except.ok.inj found)
    have away : t'.isKeyword "raises" = false := Bool.eq_false_iff.2 fun word => ends (.inr word)
    rw [away, here]

/-! ## Sequences

The place of the second part is where the first has ended, so the property is passed along a
sequence from state to state: `RepeatsFrom` is about one state, `Repeats` about all. -/

/-- An answer alone. -/
theorem pure (a : α) : (Pure.pure a : Parser α).Repeats := fun _ => .of_stay fun _ _ _ => rfl

/-- A sequence repeats if its parts do. -/
theorem bind (hp : p.Repeats) (hf : ∀ a, (f a).Repeats) : (p >>= f).Repeats :=
  fun s => (hp s).bind fun {_ a t} _ => hf a t

/-- A choice repeats if both ways do. -/
theorem ite {c : Prop} [Decidable c] (yes : c → p.Repeats) (no : ¬c → q.Repeats) :
    (if c then p else q).Repeats := by
  split
  · exact yes ‹_›
  · exact no ‹_›

/-- Two parsers that give the same answers repeat alike. -/
theorem of_ok_iff (same : ∀ {l : LibraryId} {s u : ReadState} {a : α},
    p l s = (.ok a, u) ↔ q l s = (.ok a, u)) (hq : q.Repeats) : p.Repeats := by
  refine fun s => ⟨fun run => (hq s).suffix (same.1 run), fun run stands catalog stands' ends => ?_⟩
  obtain ⟨u', run', after⟩ := (hq s).again (same.1 run) stands catalog stands' ends
  exact ⟨u', same.2 run', after⟩

theorem identifier : Parser.identifier.Repeats :=
  (require (by decide)).bind fun t => .pure t.text

/-- What a question decides that reads a sign where the answer is yes. -/
theorem choose {category : Category}
    (inside : category ∈ [.equals, .parenthesisOpen, .ampersand, .bar]) (yes : p.Repeats)
    (no : q.Repeats) :
    (Parser.accept category >>= fun found => if found then p else q).Repeats :=
  (accept inside).bind fun _ => .ite (fun _ => yes) fun _ => no

/-- A list of items which have a token at least each. -/
theorem sepBy {more : Parser Bool} (hp : p.Repeats) (hm : more.Repeats)
    (reads : ∀ {l : LibraryId} {s u : ReadState} {a : α}, p l s = (.ok a, u) → u.left < s.left) :
    (Parser.sepBy p more).Repeats := by
  have fewer {l l' : LibraryId} {s t v : ReadState} {a : α} {goesOn : Bool}
      (first : p l s = (.ok a, t)) (second : more l' t = (.ok goesOn, v)) : v.left < s.left := by
    have le := ((hm t).suffix second).length_le
    rw [← v.left_eq, ← t.left_eq] at le
    exact Nat.lt_of_le_of_lt le (reads first)
  -- on the number of tokens: the list goes on where fewer are left
  have from_left (n : Nat) : ∀ s : ReadState, s.left = n → (Parser.sepBy p more).RepeatsFrom s := by
    induction n using Nat.strongRecOn with
    | _ n ih =>
      rintro s rfl
      rw [sepBy_eq fewer]
      refine (hp s).bind fun {l a t} first => (hm t).bind fun {l' goesOn v} second => ?_
      cases goesOn with
      | false => exact pure [a] v
      | true =>
        have calls : (Parser.sepBy p more).RepeatsFrom v := ih v.left (fewer first second) v rfl
        exact calls.bind fun {_ as w} _ => pure (a :: as) w
  exact fun s => from_left s.left s rfl

end Repeats

/-! ## Attributes before a declaration

The parsers of attributes are split where they first look at a token: what comes after a parenthesis
is a whole part and ends with the closing one. -/

section Attributes

open Congruence

/-- Where a parenthesis is waited for it may as well be asked for. -/
theorem ifParenthesis_eq (p : Parser α) (q : Parser α) :
    (peekCategory >>= fun category =>
        if category = .parenthesisOpen then Parser.require .parenthesisOpen >>= fun _ => p else q) =
      Parser.accept .parenthesisOpen >>= fun found => if found then p else q := by
  funext l s
  rw [Parser.bind_apply, Parser.bind_apply, peekCategory, Parser.accept]
  by_cases here : s.peek.category = .parenthesisOpen
  · rw [if_pos here]
    dsimp only
    rw [if_pos here, if_pos rfl, Parser.bind_apply, Parser.require, if_pos here]
    rfl
  · rw [if_neg here]
    dsimp only
    rw [if_neg here, if_neg Bool.false_ne_true]

/-- A group in parentheses, after the first of them. -/
def groupRest : Parser Unit := upTo (skipBalanced [.parenthesisClose]) .parenthesisClose

/-- A group after its parenthesis is read again. -/
theorem repeats_groupRest : groupRest.Repeats :=
  .upTo (fun R => Rel.skipBalanced (R := R) _) (by decide)

theorem skipParenthesized_eq :
    skipParenthesized = require .parenthesisOpen >>= fun _ => groupRest := rfl

/-- A parameter list after its first parenthesis, with the exceptions after it. -/
def parametersRest : Parser (List Parameter) := do
  let parameters ← upTo (collect listedParameter) .parenthesisClose
  if ← acceptKeyword "raises" then
    let _ ← upTo (require .parenthesisOpen >>= fun _ => typeReference) .parenthesisClose
  return parameters

/-- A parameter list after its parenthesis is read again. -/
theorem repeats_parametersRest : parametersRest.Repeats := by
  have list : (upTo (collect listedParameter) .parenthesisClose).Repeats :=
    .upTo (fun R => Rel.collect (R := R) .listedParameter) (by decide)
  have exceptions :
      (upTo (require .parenthesisOpen >>= fun _ => typeReference) .parenthesisClose).Repeats :=
    .upTo (fun R => Rel.bind (R := R) (.require (by decide)) fun _ => .typeReference) (by decide)
  exact list.bind fun parameters => Repeats.acceptRaises.bind fun _ =>
    .ite (fun _ => exceptions.bind fun _ => .pure parameters) fun _ => .pure parameters

theorem parameterList_eq :
    parameterList = require .parenthesisOpen >>= fun _ => parametersRest := by
  rw [parameterList, parametersRest]
  simp only [upTo, bind_assoc, pure_bind]

theorem repeats_parameterListIfAny : parameterListIfAny.Repeats := by
  rw [parameterListIfAny, parameterList_eq, ifParenthesis_eq]
  exact .choose (by decide) repeats_parametersRest (.pure [])

/-- Names are skipped again. -/
theorem repeats_skipNames : skipNames.Repeats := by
  have names : (upTo (sepBy identifier (accept .comma)) .parenthesisClose).Repeats :=
    .upTo (fun R => Rel.sepBy (R := R) .identifier (.accept (by decide))) (by decide)
  have group := names.bind fun _ => Repeats.pure ()
  simp only [upTo, bind_assoc, pure_bind] at group
  exact .choose (by decide) group (Repeats.identifier.bind fun _ => .pure ())

/-- A value that is not a group. -/
def singleValue : Parser Unit :=
  atToken fun t =>
    if t.category ∈ [.word, .string, .number] then .ok ((), true)
    else .error (.phrase "extended attribute value")

/-- A value is a group in parentheses or one token. -/
theorem skipValue_eq :
    skipValue = Parser.accept .parenthesisOpen >>= fun found =>
      if found then groupRest else singleValue := by
  funext l s
  rw [Parser.bind_apply, Parser.accept]
  by_cases group : s.peek.category = .parenthesisOpen
  · have opening : (Parser.require .parenthesisOpen).Takes s s.peek := takes_require group
    rw [if_pos group, skipValue, Parser.bind_apply, peekCategory, group]
    dsimp only
    rw [skipParenthesized_eq, opening.bind_apply, if_pos rfl]
  · rw [if_neg group, skipValue, Parser.bind_apply, peekCategory]
    dsimp only
    rw [if_neg Bool.false_ne_true, singleValue, atToken]
    cases known : s.peek.category <;> first
      | exact absurd known group
      | rfl

/-- Exactly the tokens that are values are read. -/
theorem singleValue_ok {t : Token} {a : Unit} {reads : Bool}
    (value : (if t.category ∈ [.word, .string, .number] then .ok ((), true)
      else .error (.phrase "extended attribute value") : Except Expectation (Unit × Bool)) =
        .ok (a, reads)) : reads = true ∧ t.category ≠ .eof := by
  split at value
  · next inside =>
    cases value
    refine ⟨rfl, ?_⟩
    rintro eof
    rw [eof] at inside
    exact absurd inside (by decide)
  · cases value

/-- A value is skipped again. -/
theorem repeats_skipValue : skipValue.Repeats := by
  rw [skipValue_eq]
  refine .choose (by decide) repeats_groupRest (.of_atToken _ ?_ ?_)
  · exact fun _ _ value => (singleValue_ok value).2
  · exact fun _ _ _ value => absurd (singleValue_ok value).1 Bool.false_ne_true

/-- A value has a token at least. -/
theorem skipValue_fewer {l : LibraryId} {s u : ReadState} {a : Unit}
    (run : skipValue l s = (.ok a, u)) : u.left < s.left := by
  -- a value is one token or a group in parentheses
  rw [skipValue_eq] at run
  obtain ⟨found, t, opening, inside⟩ := bind_ok run
  rw [Parser.accept] at opening
  split at opening
  · next group =>
    cases opening
    have nonempty : s.rest ≠ [] := ReadState.rest_ne_nil_of_category (by rw [group]; decide)
    have fewer := (ReadState.advance_after nonempty).left
    have le := ((repeats_groupRest s.advance).suffix inside).length_le
    rw [← u.left_eq, ← s.advance.left_eq] at le
    omega
  · cases opening
    have value : singleValue l s = (.ok a, u) := inside
    rw [singleValue, atToken] at value
    split at value
    · next known =>
      cases value
      have nonempty : s.rest ≠ [] := ReadState.rest_ne_nil_of_category (singleValue_ok known).2
      have fewer := (ReadState.advance_after nonempty).left
      omega
    · next known => exact absurd (singleValue_ok known).1 Bool.false_ne_true
    · cases value

theorem repeats_acceptValueSign : acceptValueSign.Repeats :=
  (Repeats.accept (by decide)).bind fun _ =>
    .ite (fun _ => .pure true) fun _ => .accept (by decide)

/-- What follows the name of an attribute is read again. -/
theorem repeats_attributeEffect (action : AttributeAction) : (attributeEffect action).Repeats := by
  have constructor (name : String) : (parameterListIfAny >>= fun parameters =>
      Pure.pure (AttributeEffect.constructor (Member.ofConstructor name parameters))).Repeats :=
    repeats_parameterListIfAny.bind fun _ => .pure _
  have equals : (Parser.require .equals).Repeats := .require (by decide)
  have mark : (Parser.accept .equals).Repeats := .accept (by decide)
  cases action with
  | modifier | noInterfaceObject | ignore => exact .pure _
  | global primary =>
    exact mark.bind fun _ =>
      .ite (fun _ => repeats_skipNames.bind fun _ => .pure _) fun _ => .pure _
  | constructor => exact constructor ""
  | namedConstructor => exact equals.bind fun _ => Repeats.identifier.bind constructor
  | exposed => exact equals.bind fun _ => repeats_skipNames.bind fun _ => .pure _
  | ignoreWithValue =>
    have values : (sepBy skipValue acceptValueSign).Repeats :=
      repeats_skipValue.sepBy repeats_acceptValueSign skipValue_fewer
    exact mark.bind fun _ => .ite (fun _ => values.bind fun _ => .pure _) fun _ => .pure _
  | ignoreWithArguments =>
    have arguments : (groupRest >>= fun _ => Pure.pure AttributeEffect.nothing).Repeats :=
      repeats_groupRest.bind fun _ => .pure _
    have parenthesis :
        .parenthesisOpen ∈ [Category.equals, .parenthesisOpen, .ampersand, .bar] := by
      decide
    have choice := Repeats.choose parenthesis arguments (.pure AttributeEffect.nothing)
    rw [← ifParenthesis_eq] at choice
    rw [attributeEffect, skipParenthesized_eq]
    simpa only [bind_assoc] using choice

/-- What an attribute asks for, by its name; where it stands is not told. -/
def attributeNamed (name : String) : Parser AttributeEffect :=
  match AttributeAction.ofName? name with
  | some action => attributeEffect action
  | none => refuse .stalled

/-- Where an attribute is read, its name is a word and the rest is read by its meaning. -/
theorem namedAttribute_ok_iff {l : LibraryId} {s u : ReadState} {effect : AttributeEffect} :
    namedAttribute l s = (.ok effect, u) ↔
      (identifier >>= attributeNamed) l s = (.ok effect, u) := by
  by_cases word : s.peek.category = .word
  · rw [(takes_identifier word).bind_apply, attributeNamed]
    cases known : AttributeAction.ofName? s.peek.text with
    | some action => rw [Coupling.namedAttribute_known word known]
    | none =>
      rw [Coupling.namedAttribute_unknown word known]
      exact iff_of_false (fun run => by cases run) fun run => by cases run
  · obtain ⟨e, fails⟩ := (refuses_identifier word).bind (f := attributeNamed)
    rw [Coupling.namedAttribute_other word, fails]
    exact iff_of_false (fun run => by cases run) fun run => by cases run

/-- What follows a name is read again. -/
theorem repeats_attributeNamed (name : String) : (attributeNamed name).Repeats := by
  rw [attributeNamed]
  split
  · exact repeats_attributeEffect _
  · exact fun s => .of_fails fun l => ⟨_, s, rfl⟩

/-- An attribute is read again wherever its tokens stand. -/
theorem repeats_namedAttribute : namedAttribute.Repeats :=
  .of_ok_iff namedAttribute_ok_iff (Repeats.identifier.bind repeats_attributeNamed)

end Attributes

end Parser

end IdlCatalog
