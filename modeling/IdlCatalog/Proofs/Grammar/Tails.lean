/-
# IdlCatalog.Proofs.Grammar.Tails — two streams that start alike

A reading looks one token ahead and never goes back. So it does not matter for what it has read so
far how its tokens go on, but for the one token that it looks at. This module says so of two streams
with a common front: as long as the first reading does not come to its end, the second one goes the
same way. It also says that what is read does not depend on where in a text it stands; that is the
case of two streams that are equal.

`Parser.Local` is the property; it is closed under the ways to put parsers together. What stands
within a declaration may look at the token after its end. A declaration itself does not: it ends
with a brace or a semicolon that it reads, and of the semicolon that may follow an interface it only
asks whether it is there.

The first stream is what a text has on its own: its front and the end of input, as often as it is
asked for. The second is the same front inside a longer text. Nothing is said of the first reading
once it stands at its end; everything is said up to there. For a description that is accepted this
is enough: its declarations are closed, so they were read before the end was seen.
-/
import IdlCatalog.Proofs.Grammar.Productions

namespace IdlCatalog

variable {α β : Type}

/-! ## Failures apart from their places

Two readings that go the same way fail for the same reason, at positions that differ by where the
front stands. So failures are compared without their positions. -/

/-- What was expected and what was found there instead. -/
def Failure.what (e : Failure Fault) : Failure (Expectation × Token) :=
  e.map fun fault => (fault.expectation, fault.found)

/-! ## The end of a stream

A state is at its end when nothing but ends of input are left. From there the first reading may do
what it likes; the statements below exempt it. -/

/-- There is nothing left to be read but ends of the input. -/
def ReadState.AtEnd (s : ReadState) : Prop := ∀ t ∈ s.rest, t.category = .eof

namespace ReadState

variable {s : ReadState}

/-- At the end the next token is the end of the input. -/
theorem AtEnd.peek (h : s.AtEnd) : s.peek.category = .eof := by
  cases eq : s.rest with
  | nil => simp [ReadState.peek, eq, Token.endOfInput]
  | cons t rest =>
    have inside : t ∈ s.rest := by simp [eq]
    simpa [ReadState.peek, eq] using h t inside

/-- Once at the end, always at the end. -/
theorem AtEnd.drop (h : s.AtEnd) (count : Nat) : (s.drop count).AtEnd := by
  intro t inside
  rw [rest_drop] at inside
  exact h t (List.mem_of_mem_drop inside)

theorem AtEnd.advance (h : s.AtEnd) : s.advance.AtEnd := h.drop 1

end ReadState

/-! ## Streams with a common front

`Rel` says that two states stand before their tails with the same front still to be read and the
same catalog. Two equal streams, `Same`, are the case of one text at two places: then no end of the
front has to be exempt. -/

/-- How two streams go on after a common front: the first one only ends, and the second one does not
start with a semicolon, which would belong to an interface before it. -/
structure Tails where
  first : List Token
  second : List Token
  ends : ∀ t ∈ first, t.category = .eof
  other : (second.head?.getD Token.endOfInput).category ≠ .semicolon

namespace Tails

/-- The two streams are the same. -/
def Same (K : Tails) : Prop := K.first = [] ∧ K.second = []

/-- Two readings stand at the same place before their tails, with the same catalog. -/
structure Rel (K : Tails) (s s' : ReadState) : Prop where
  catalog : s.catalog = s'.catalog
  rest : ∃ front, s.rest = front ++ K.first ∧ s'.rest = front ++ K.second

variable {K : Tails} {s s' : ReadState}

/-- Either the next token is the same, or the first reading has come to its end. -/
theorem Rel.next (h : K.Rel s s') :
    (s.peek = s'.peek ∧ K.Rel s.advance s'.advance) ∨ (¬K.Same ∧ s.AtEnd) := by
  obtain ⟨front, rest, rest'⟩ := h.rest
  have catalog : s.advance.catalog = s'.advance.catalog := by
    rw [ReadState.catalog_advance, ReadState.catalog_advance, h.catalog]
  cases front with
  | cons t front =>
    refine .inl ⟨by simp [ReadState.peek, rest, rest'], catalog, front, ?_, ?_⟩
    · rw [ReadState.rest_advance, rest]
      rfl
    · rw [ReadState.rest_advance, rest']
      rfl
  | nil =>
    rw [List.nil_append] at rest rest'
    -- behind the front the streams are equal, or the first one has ended
    by_cases same : K.Same
    · refine .inl ⟨by simp [ReadState.peek, rest, rest', same.1, same.2], catalog, [], ?_, ?_⟩
      · rw [ReadState.rest_advance, rest, same.1]
        rfl
      · rw [ReadState.rest_advance, rest', same.2]
        rfl
    · exact .inr ⟨same, fun t inside => K.ends t (rest ▸ inside)⟩

/-- Tokens of the common front are skipped. -/
theorem Rel.drop {front : List Token} {count : Nat} (catalog : s.catalog = s'.catalog)
    (rest : s.rest = front ++ K.first) (rest' : s'.rest = front ++ K.second)
    (inside : count ≤ front.length) : K.Rel (s.drop count) (s'.drop count) := by
  refine ⟨?_, front.drop count, ?_, ?_⟩
  · rw [ReadState.catalog_drop, ReadState.catalog_drop, catalog]
  · rw [ReadState.rest_drop, rest, List.drop_append_of_le_length inside]
  · rw [ReadState.rest_drop, rest', List.drop_append_of_le_length inside]

/-- The front and more is skipped. -/
theorem atEnd_drop {front : List Token} {count : Nat} (rest : s.rest = front ++ K.first)
    (outside : front.length ≤ count) : (s.drop count).AtEnd := by
  intro t inside
  rw [ReadState.rest_drop, rest, List.drop_append, List.drop_of_length_le outside,
    List.nil_append] at inside
  exact K.ends t (List.mem_of_mem_drop inside)

/-- The two readings have equally many tokens left, but for their tails. -/
theorem Rel.left (h : K.Rel s s') : s'.left = s.left + K.second.length - K.first.length := by
  obtain ⟨front, rest, rest'⟩ := h.rest
  exact ReadState.left_of_front rest rest'

/-- Bounds on the tokens that are left say the same of both, moved by the tails. -/
theorem Rel.left_lt_iff (h : K.Rel s s') {n : Nat} :
    s.left < n ↔ s'.left < n + K.second.length - K.first.length := by
  obtain ⟨front, rest, rest'⟩ := h.rest
  exact ReadState.left_lt_iff_of_front rest rest'

/-- A semicolon comes next in both or in neither. -/
theorem Rel.semicolon (h : K.Rel s s') :
    (s.peek = s'.peek ∧ K.Rel s.advance s'.advance) ∨
      (s.peek.category ≠ .semicolon ∧ s'.peek.category ≠ .semicolon) := by
  rcases h.next with same | ⟨-, atEnd⟩
  · exact .inl same
  obtain ⟨front, rest, rest'⟩ := h.rest
  cases front with
  | cons t front =>
    refine .inr ?_
    have peek : s.peek = t ∧ s'.peek = t := by simp [ReadState.peek, rest, rest']
    have eof := atEnd.peek
    rw [peek.1] at eof
    rw [peek.1, peek.2, eof]
    exact ⟨by decide, by decide⟩
  | nil =>
    refine .inr ⟨?_, ?_⟩
    · rw [atEnd.peek]
      decide
    · rw [List.nil_append] at rest'
      rw [ReadState.peek, rest']
      exact K.other

end Tails

/-! ## Local parsers

What two readings come to is `Joint`: the same answer in states that are related again, the same
failure, or the first one at its end. Whether a parser may look at its end decides which of these
remain, and this is why the notion of an `Ending` is needed. -/

/-- What two parsers come to from two states that stand at the same place. Where the streams are not
the same, nothing is said if the first parser fails, or if it comes to the end of its stream and may
have looked there. -/
inductive Tails.Joint (K : Tails) (e : Ending) :
    Except (Failure Fault) α × ReadState → Except (Failure Fault) α × ReadState → Prop
  | ok {a : α} {t t' : ReadState} (rel : K.Rel t t') : Joint K e (.ok a, t) (.ok a, t')
  | error {x x' : Failure Fault} {t t' : ReadState} (same : K.Same) (what : x.what = x'.what)
      (catalog : t.catalog = t'.catalog) : Joint K e (.error x, t) (.error x', t')
  | failed {x : Failure Fault} {t : ReadState} {r : Except (Failure Fault) α × ReadState}
      (apart : ¬K.Same) : Joint K e (.error x, t) r
  | missed {a : α} {t : ReadState} {r : Except (Failure Fault) α × ReadState} (apart : ¬K.Same)
      (looking : e = .looking) (atEnd : t.AtEnd) : Joint K e (.ok a, t) r

/-- Two parsers go the same way on streams with a common front. -/
structure Parser.Local (K : Tails) (e : Ending) (p q : Parser α) : Prop where
  /-- After the end of the input there is nothing to be read. -/
  ends : ∀ l s a t, s.AtEnd → p l s = (.ok a, t) → e ≠ .closing ∧ t.AtEnd
  joint : ∀ l s s', K.Rel s s' → K.Joint e (p l s) (q l s')

namespace Tails.Joint

variable {K : Tails} {e : Ending} {s s' t t' : ReadState} {x x' : Failure Fault}

theorem of_errors (what : x.what = x'.what) (catalog : t.catalog = t'.catalog) :
    K.Joint (α := α) e (.error x, t) (.error x', t') := by
  by_cases same : K.Same
  · exact .error same what catalog
  · exact .failed same

theorem mono {e' : Ending} {r r' : Except (Failure Fault) α × ReadState} (h : K.Joint e r r')
    (looks : e = .looking → e' = .looking) : K.Joint e' r r' := by
  cases h with
  | ok rel => exact .ok rel
  | error same what catalog => exact .error same what catalog
  | failed apart => exact .failed apart
  | missed apart looking atEnd => exact .missed apart (looks looking) atEnd

end Tails.Joint

namespace Parser.Local

open Tails

variable {K : Tails} {e e₁ e₂ : Ending} {p q : Parser α} {f g : α → Parser β}

/-! ### Weakening

Less may be claimed: that the reading looks at the token behind its end, or that it may end without
having read anything. -/

theorem weaken (h : Local K e p q) : Local K .looking p q :=
  ⟨fun l s a t atEnd run => ⟨nofun, (h.ends l s a t atEnd run).2⟩,
    fun l s s' rel => (h.joint l s s' rel).mono fun _ => rfl⟩

theorem still (h : Local K .closing p q) : Local K .still p q :=
  ⟨fun l s a t atEnd run => absurd rfl (h.ends l s a t atEnd run).1,
    fun l s s' rel => (h.joint l s s' rel).mono nofun⟩

/-! ### Sequencing

After a part that has come to the end of its stream nothing is known of the other reading. What
follows has to read a token, and so fails there, or it may look at the end as well. -/

/-- The end of a sequence is the end of its second part. -/
theorem bind_ends (hp : ∀ l s a t, s.AtEnd → p l s = (.ok a, t) → t.AtEnd)
    (hf : ∀ a, Local K e (f a) (g a)) (l : LibraryId) (s : ReadState) (b : β) (u : ReadState)
    (atEnd : s.AtEnd) (run : (p >>= f) l s = (.ok b, u)) : e ≠ .closing ∧ u.AtEnd := by
  rw [Parser.bind_apply] at run
  cases first : p l s with
  | mk answer t =>
    rw [first] at run
    cases answer with
    | error => cases run
    | ok a => exact (hf a).ends l t b u (hp l s a t atEnd first) run

/-- Sequencing, where it does not matter whether the first parser looked ahead: the second one has
to read a token, or it may look ahead itself. -/
theorem bind_joint (hp : Local K e₁ p q) (hf : ∀ a, Local K e (f a) (g a)) (l : LibraryId)
    (s s' : ReadState) (rel : K.Rel s s') (covers : e₁ = .looking → e ≠ .still) :
    K.Joint e ((p >>= f) l s) ((q >>= g) l s') := by
  have first := hp.joint l s s' rel
  rw [Parser.bind_apply, Parser.bind_apply]
  generalize p l s = r at first
  generalize q l s' = r' at first
  cases first with
  | ok rel => exact (hf _).joint l _ _ rel
  | error same what catalog => exact .error same what catalog
  | failed apart => exact .failed apart
  | @missed a t _ apart looking atEnd =>
    -- the first part has seen the end, where the second one has to go on
    show K.Joint e (f a l t) _
    cases second : f a l t with
    | mk answer u =>
      cases answer with
      | error => exact .failed apart
      | ok b =>
        obtain ⟨not_closing, atEnd⟩ := (hf a).ends l t b u atEnd second
        refine .missed apart ?_ atEnd
        cases e with
        | looking => rfl
        | still => exact absurd rfl (covers looking)
        | closing => exact absurd rfl not_closing

/-- If the first part has looked ahead at its end, the second part has to be one that may. -/
theorem sequence (covers : e₁ = .looking → e ≠ .still) (hp : Local K e₁ p q)
    (hf : ∀ a, Local K e (f a) (g a)) : Local K e (p >>= f) (q >>= g) :=
  ⟨bind_ends (fun l s a t atEnd run => (hp.ends l s a t atEnd run).2) hf,
    fun l s s' rel => bind_joint hp hf l s s' rel covers⟩

theorem bind (hp : Local K e₁ p q) (hf : ∀ a, Local K .looking (f a) (g a)) :
    Local K .looking (p >>= f) (q >>= g) :=
  sequence (fun _ => by decide) hp hf

/-- A sequence after whose first part no token is looked at. -/
theorem finish (hp : Local K .closing p q) (hf : ∀ a, Local K .still (f a) (g a)) :
    Local K .closing (p >>= f) (q >>= g) where
  ends l s b u atEnd run := by
    rw [Parser.bind_apply] at run
    cases first : p l s with
    | mk answer t =>
      rw [first] at run
      cases answer with
      | error => cases run
      | ok a => exact absurd rfl (hp.ends l s a t atEnd first).1
  joint l s s' rel := (bind_joint hp hf l s s' rel nofun).mono nofun

/-! ### Actions on the catalog

What does not read tokens does the same in both readings, since the catalogs are equal. -/

/-- An action that leaves the tokens alone. -/
theorem neutral_still {p : Parser α} (neutral : p.Neutral) : Local K .still p p where
  ends l s a t atEnd run := by
    obtain ⟨answer, d, same, -⟩ := neutral l s.catalog
    obtain ⟨j, eq⟩ := same s rfl
    rw [run] at eq
    obtain ⟨-, rfl⟩ := Prod.mk.inj eq
    exact ⟨nofun, atEnd⟩
  joint l s s' rel := by
    obtain ⟨answer, d, same, -⟩ := neutral l s.catalog
    obtain ⟨j, run⟩ := same s rfl
    obtain ⟨j', run'⟩ := same s' rel.catalog.symm
    rw [run, run']
    cases answer with
    | error e => exact .of_errors rfl rfl
    | ok a => exact .ok ⟨rfl, rel.rest⟩

/-! ### Recursion

Both readings have as many tokens left up to a constant, so that a production called on fewer tokens
is so on both sides. -/

/-- Calls where fewer tokens are left. Both readings have as many tokens left, apart from their
tails. -/
theorem below {n : Nat} (h : ∀ l s a t, s.left < n → s.AtEnd → p l s = (.ok a, t) →
      e ≠ .closing ∧ t.AtEnd)
    (h' : ∀ l s s', s.left < n → K.Rel s s' → K.Joint e (p l s) (q l s')) :
    Local K e (Parser.below n p) (Parser.below (n + K.second.length - K.first.length) q) where
  ends l s a t atEnd run := by
    rw [Parser.below] at run
    split at run
    · next fewer => exact h l s a t fewer atEnd run
    · cases run
  joint l s s' rel := by
    rw [Parser.below, Parser.below]
    by_cases fewer : s.left < n
    · rw [if_pos fewer, if_pos (rel.left_lt_iff.1 fewer)]
      exact h' l s s' fewer rel
    · rw [if_neg fewer, if_neg fun fewer' => fewer (rel.left_lt_iff.2 fewer')]
      exact .of_errors rfl rel.catalog

/-- Calls of a recursion are related since both guards let them pass or neither. -/
theorem fix {body₁ body₂ : Parser α → Parser α}
    (h : ∀ {self₁ self₂}, Local K e self₁ self₂ → Local K e (body₁ self₁) (body₂ self₂)) :
    Local K e (Parser.fix body₁) (Parser.fix body₂) := by
  have calls : ∀ n, Local K e (Parser.below n (Parser.fix body₁))
      (Parser.below (n + K.second.length - K.first.length) (Parser.fix body₂)) := by
    intro n
    -- on the number of tokens: the body calls itself only with fewer tokens left
    induction n using Nat.strongRecOn with
    | _ n ih =>
      refine below (fun l s a t fewer atEnd run => ?_) fun l s s' fewer rel => ?_
      · rw [Parser.fix_apply] at run
        exact (h (ih s.left fewer)).ends l s a t atEnd run
      · rw [Parser.fix_apply, Parser.fix_apply, rel.left]
        exact (h (ih s.left fewer)).joint l s s' rel
  refine ⟨fun l s a t atEnd run => ?_, fun l s s' rel => ?_⟩
  · rw [Parser.fix_apply] at run
    exact (h (calls s.left)).ends l s a t atEnd run
  · rw [Parser.fix_apply, Parser.fix_apply, rel.left]
    exact (h (calls s.left)).joint l s s' rel

/-! ### Tokens

A token of the front is the same in both streams; the one behind it is seen only at the end of the
first. -/

theorem atToken_joint (f : Token → Except Expectation (α × Bool)) {s s' : ReadState}
    (rel : K.Rel s s') (same : s.peek = s'.peek ∧ K.Rel s.advance s'.advance) (l : LibraryId) :
    K.Joint e (atToken f l s) (atToken f l s') := by
  rw [atToken, atToken, ← same.1]
  rcases f s.peek with expectation | ⟨a, _ | _⟩
  · refine .of_errors ?_ rel.catalog
    rw [Failure.what, Failure.what, Failure.map, Failure.map, same.1]
  · exact .ok rel
  · exact .ok same.2

theorem of_atToken (f : Token → Except Expectation (α × Bool)) :
    Local K .looking (atToken f) (atToken f) where
  ends l s a t atEnd run := by
    refine ⟨nofun, ?_⟩
    rw [atToken] at run
    split at run
    · cases run
      exact atEnd.advance
    · cases run
      exact atEnd
    · cases run
  joint l s s' rel := by
    rcases rel.next with same | ⟨apart, atEnd⟩
    · exact atToken_joint f rel same l
    · rw [atToken]
      split
      · exact .missed apart rfl atEnd.advance
      · exact .missed apart rfl atEnd
      · exact .failed apart

/-- What is not done at the end of the input. -/
theorem of_atToken_close (f : Token → Except Expectation (α × Bool))
    (refuses : ∀ t, t.category = .eof → ∃ expectation, f t = .error expectation) :
    Local K .closing (atToken f) (atToken f) where
  ends l s a t atEnd run := by
    obtain ⟨expectation, eq⟩ := refuses s.peek atEnd.peek
    rw [atToken, eq] at run
    cases run
  joint l s s' rel := by
    rcases rel.next with same | ⟨apart, atEnd⟩
    · exact atToken_joint f rel same l
    · obtain ⟨expectation, eq⟩ := refuses s.peek atEnd.peek
      rw [atToken, eq]
      exact .failed apart

theorem expected (expectation : Expectation) :
    Local K .closing (Parser.expected expectation : Parser α) (Parser.expected expectation) :=
  of_atToken_close (fun _ => .error expectation) fun _ _ => ⟨_, rfl⟩

/-- What may be done after a look at a token; that it is refused for what it is not does not matter
here. -/
theorem of_orRefused {t : Token} (moves : e ≠ .still) (h : OrRefused (Local K e) t p q) :
    Local K e p q := by
  cases h with
  | goOn h => exact h
  | refuse =>
    cases e with
    | looking => exact (expected _).weaken
    | still => exact absurd rfl moves
    | closing => exact expected _

theorem require (category : Category) :
    Local K .looking (Parser.require category) (Parser.require category) := by
  rw [require_eq]
  exact of_atToken _

/-- What is done after a look at the next token. -/
theorem inspect (f : Token → α) {k k' : α → Parser β} (moves : e ≠ .still)
    (h : ∀ t, Local K e (k (f t)) (k' (f t))) :
    Local K e (Parser.look f >>= k) (Parser.look f >>= k') where
  ends l s a t atEnd run := (h s.peek).ends l s a t atEnd run
  joint l s s' rel := by
    show K.Joint e (k (f s.peek) l s) (k' (f s'.peek) l s')
    rcases rel.next with ⟨same, -⟩ | ⟨apart, atEnd⟩
    · rw [← same]
      exact (h s.peek).joint l s s' rel
    · cases run : k (f s.peek) l s with
      | mk answer t =>
        cases answer with
        | error => exact .failed apart
        | ok a =>
          obtain ⟨reads, atEnd⟩ := (h s.peek).ends l s a t atEnd run
          refine .missed apart ?_ atEnd
          cases e with
          | looking => rfl
          | still => exact absurd rfl moves
          | closing => exact absurd rfl reads

/-- The same refusal, wherever it stands. -/
theorem refuse {x x' : Failure Fault} (what : x.what = x'.what) :
    Local K .closing (Parser.refuse x : Parser α) (Parser.refuse x') where
  ends _ _ _ _ _ run := by cases run
  joint _ _ _ rel := .of_errors what rel.catalog

/-- Where a token stands may only tell where to refuse something. -/
theorem position {f g : Nat → Parser α} (h : ∀ i j, Local K e (f i) (g j)) :
    Local K e (Parser.position >>= f) (Parser.position >>= g) :=
  ⟨fun l s a t atEnd run => (h s.position s.position).ends l s a t atEnd run,
    fun l s s' rel => (h s.position s'.position).joint l s s' rel⟩

/-- The semicolon that may follow an interface is asked for without looking at the tail. -/
theorem acceptSemicolon : Local K .still (Parser.accept .semicolon) (Parser.accept .semicolon) where
  ends l s a t atEnd run := by
    rw [accept_eq] at run
    exact ⟨nofun, ((of_atToken (K := K) _).ends l s a t atEnd run).2⟩
  joint l s s' rel := by
    rcases rel.semicolon with same | ⟨here, here'⟩
    · rw [accept_eq]
      exact atToken_joint _ rel same l
    · rw [Parser.accept, Parser.accept, if_neg here, if_neg here']
      exact .ok rel

/-- A choice that is made by reading a token, or without it by what follows. -/
theorem choose {category : Category} {p' q' : Parser α} (h : category ≠ .eof)
    (yes : Local K .still p q) (no : Local K .closing p' q') :
    Local K .closing (Parser.accept category >>= fun found => if found then p else p')
      (Parser.accept category >>= fun found => if found then q else q') := by
  have run (p p' : Parser α) (l : LibraryId) (s : ReadState) :
      (Parser.accept category >>= fun found => if found then p else p') l s =
        if s.peek.category = category then p l s.advance else p' l s := by
    rw [Parser.bind_apply, Parser.accept]
    by_cases here : s.peek.category = category
    · simp [here]
    · simp [here]
  refine ⟨fun l s a t atEnd ran => ?_, fun l s s' rel => ?_⟩
  · rw [run, if_neg (by rw [atEnd.peek]; exact Ne.symm h)] at ran
    exact no.ends l s a t atEnd ran
  · rw [run, run]
    -- the token that is asked for is not the end of the input
    rcases rel.next with same | ⟨apart, atEnd⟩
    · rw [← same.1]
      split
      · exact (yes.joint l _ _ same.2).mono fun looking => absurd looking (by decide)
      · exact no.joint l s s' rel
    · rw [if_neg (by rw [atEnd.peek]; exact Ne.symm h)]
      cases ran : p' l s with
      | mk answer t =>
        cases answer with
        | error => exact .failed apart
        | ok a => exact absurd rfl (no.ends l s a t atEnd ran).1

/-! ### Skipped tokens

Skipping goes on to a token that is looked for. If it stands in the front, both readings find it; if
it does not, the first one is at its end or fails. -/

theorem rawUntilSemicolon : Local K .looking Parser.rawUntilSemicolon Parser.rawUntilSemicolon where
  ends l s a t atEnd run := by
    rw [Parser.rawUntilSemicolon] at run
    cases run
    exact ⟨by decide, atEnd.drop _⟩
  joint l s s' rel := by
    obtain ⟨front, rest, rest'⟩ := rel.rest
    have long := (List.takeWhile_prefix continuesValue (l := front)).length_le
    -- the value ends within the front, or it takes the whole front
    have value (tail : List Token) : (front ++ tail).takeWhile continuesValue =
        if (front.takeWhile continuesValue).length = front.length then
          front ++ tail.takeWhile continuesValue
        else front.takeWhile continuesValue := List.takeWhile_append
    rw [Parser.rawUntilSemicolon, Parser.rawUntilSemicolon, rest, rest', value, value]
    by_cases whole : (front.takeWhile continuesValue).length = front.length
    · rw [if_pos whole, if_pos whole]
      by_cases same : K.Same
      · rw [same.1, same.2]
        exact .ok (.drop rel.catalog rest rest' (by simp))
      · refine .missed same rfl (atEnd_drop rest ?_)
        rw [List.length_append]
        exact Nat.le_add_right _ _
    · rw [if_neg whole, if_neg whole]
      exact .ok (.drop rel.catalog rest rest' long)

theorem skipBalanced (stops : List Category) :
    Local K .looking (Parser.skipBalanced stops) (Parser.skipBalanced stops) where
  ends l s a t atEnd run := by
    refine ⟨nofun, ?_⟩
    rw [Parser.skipBalanced] at run
    split at run
    · cases run
      exact atEnd.drop _
    · cases run
  joint l s s' rel := by
    obtain ⟨front, rest, rest'⟩ := rel.rest
    have long := balancedRun_le stops 0 s.rest
    have alike (same : balancedRun stops 0 s'.rest = balancedRun stops 0 s.rest)
        (inside : (balancedRun stops 0 s.rest).1 ≤ front.length) :
        K.Joint .looking (Parser.skipBalanced stops l s) (Parser.skipBalanced stops l s') := by
      rw [Parser.skipBalanced, Parser.skipBalanced, same]
      generalize balancedRun stops 0 s.rest = run at inside
      have dropped : K.Rel (s.drop run.1) (s'.drop run.1) := .drop rel.catalog rest rest' inside
      obtain ⟨count, _ | expectation⟩ := run
      · exact .ok dropped
      · exact (expected expectation).weaken.joint l _ _ dropped
    by_cases same : K.Same
    · refine alike (by rw [rest, rest', same.1, same.2]) ?_
      rwa [rest, same.1, List.append_nil] at long ⊢
    by_cases inside : (balancedRun stops 0 s.rest).1 < front.length
    · refine alike ?_ (Nat.le_of_lt inside)
      rw [rest] at inside ⊢
      -- counting brackets has come to an end in the front
      rw [rest', balancedRun_append _ _ inside]
    · rw [Parser.skipBalanced]
      split
      · next count eq =>
        rw [eq] at inside
        exact .missed same rfl (atEnd_drop rest (Nat.not_lt.1 inside))
      · exact .failed same

/-- An unknown attribute is refused at its name, wherever that stands. -/
theorem namedAttribute (known : ∀ action, Local K .looking (Grammar.attributeEffect action)
      (Grammar.attributeEffect action)) :
    Local K .looking Grammar.namedAttribute Grammar.namedAttribute := by
  refine .position fun i j => .bind (require .word) fun token => ?_
  cases AttributeAction.ofName? token.text with
  | some action => exact known action
  | none => exact .weaken (.refuse rfl)

end Parser.Local

/-- Locality goes from parts to the whole. -/
def Tails.congruence (K : Tails) : Parser.Congruence where
  Rel _ e := Parser.Local K e
  mono h _ := h
  weaken := .weaken
  still := .still
  sequence := .sequence
  finish := .finish
  fix := .fix
  neutral := .neutral_still
  inspect f _ _ moves h := .inspect f moves fun t => .of_orRefused moves (h t)
  atToken f _ _ := .of_atToken f
  atTokenClose f refuses _ := .of_atToken_close f refuses
  next := .of_atToken fun t => .ok (t, true)
  acceptSemicolon := .acceptSemicolon
  choose := .choose
  namedAttribute := .namedAttribute
  rawUntilSemicolon := .rawUntilSemicolon
  skipBalanced := .skipBalanced

namespace Parser.Local

open Grammar

variable {K : Tails}

/-! ## Declarations and descriptions

Declarations end with a token of their own, so the loop over them does not look at what follows the
last one but to see whether it is the end. -/

/-- A declaration is closed, whatever the declarations in a module are. -/
theorem declarationWith {body₁ body₂ : Parser Unit} (h : Local K .looking body₁ body₂) :
    Local K .closing (declarationWith body₁) (declarationWith body₂) :=
  Congruence.Rel.declarationWith (R := K.congruence) h

/-- Declarations up to a token that starts none: whether one follows is asked of the token after the
last. -/
theorem declarations : Local K .looking declarations declarations :=
  Congruence.Rel.declarations (R := K.congruence)

/-- A whole description looks at the end of the input, so it is local and not closed. -/
theorem description : Local K .looking description description :=
  declarations.bind fun _ => (require .eof).bind fun _ => weaken (neutral_still (.pure ()))

end Parser.Local

end IdlCatalog
