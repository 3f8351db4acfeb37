/-
# IdlCatalog.Proofs.Grammar.Stream — where a reading stands in its tokens

A reading goes through its tokens from the front and never back. The state after some tokens is
described from the state before: `ReadState.After count s t` says that `t` stands `count` tokens
after `s`. What a reading has made of its tokens is its store; moving on leaves the store alone.

The tokens of a description are fixed before the first production runs, so the place of a state is a
number: how many tokens were dropped. Three facts travel along `After`. A state that is reached has
fewer tokens left by exactly that number, which is what recursions are measured by. Its tokens are a
tail of those before, so the words among them are still spelled like words. And a fault that shows a
token from the later state shows the same token from the earlier one.

A reading may be put beside another one that stands at the same token, `SameTokens`; the two then
differ in their stores only. That is how the couplings of two readings start.
-/
import IdlCatalog.Proofs.Grammar.Brackets
import IdlCatalog.Proofs.Token.Longest

namespace IdlCatalog

/-! ## States apart from tokens

A state has four fields. The remaining tokens and the position say where the reading stands, the
catalog and the journal say what it has come to. Lemmas about the first two never mention the
others, and the other way round. -/

/-- What a reading has made of its tokens so far. -/
structure Store where
  catalog : Catalog
  journal : Array Event

/-- The stores of two readings. -/
structure Stores where
  first : Store
  second : Store

/-- The words among the tokens are spelled like words. -/
def Spelled (tokens : List Token) : Prop :=
  ∀ t ∈ tokens, t.category = .word → Lexer.Spells .word t.text.toList

/-- What is left of a stream is spelled as the stream was. -/
theorem Spelled.suffix {front back : List Token} (h : Spelled front) (suffix : back <:+ front) :
    Spelled back :=
  fun t inside => h t (suffix.subset inside)

namespace ReadState

variable {s t u : ReadState} {count more : Nat}

/-- The part of a state that is not about tokens. -/
def store (s : ReadState) : Store := ⟨s.catalog, s.journal⟩

/-- Two states that stand at the same token of the same stream. -/
structure SameTokens (s t : ReadState) : Prop where
  rest : t.rest = s.rest
  position : t.position = s.position

/-- `t` stands `count` tokens after `s`. -/
structure After (count : Nat) (s t : ReadState) : Prop where
  rest : t.rest = s.rest.drop count
  position : t.position = s.position + count
  count_le : count ≤ s.rest.length

/-- The fault shows a token that is still to be read from `s`, or the end of the input. -/
structure Shows (s : ReadState) (fault : Fault) : Prop where
  position_le : s.position ≤ fault.index
  found : fault.found = (s.rest.drop (fault.index - s.position)).head?.getD Token.endOfInput

/-- The words that are still to be read are spelled like words. -/
def Plain (s : ReadState) : Prop := Spelled s.rest

/-- Two states at the same token have as many tokens left. -/
theorem SameTokens.left (h : s.SameTokens t) : t.left = s.left := by
  rw [t.left_eq, s.left_eq, h.rest]

/-- Two streams with a common front have as many tokens left, apart from how they go on. -/
theorem left_of_front {front first second : List Token} (rest : s.rest = front ++ first)
    (rest' : t.rest = front ++ second) : t.left = s.left + second.length - first.length := by
  rw [s.left_eq, t.left_eq, rest, rest', List.length_append, List.length_append]
  omega

/-- A bound on the tokens that are left carries over to another stream with the same front, if it is
moved by the difference of the tails. -/
theorem left_lt_iff_of_front {front first second : List Token} (rest : s.rest = front ++ first)
    (rest' : t.rest = front ++ second) {n : Nat} :
    s.left < n ↔ t.left < n + second.length - first.length := by
  rw [s.left_eq, t.left_eq, rest, rest', List.length_append, List.length_append]
  omega

theorem SameTokens.peek (h : s.SameTokens t) : t.peek = s.peek := by
  rw [ReadState.peek, ReadState.peek, h.rest]

theorem After.refl (s : ReadState) : s.After 0 s :=
  ⟨rfl, rfl, Nat.zero_le _⟩

/-- Distances in the stream add up. -/
theorem After.trans (h : s.After count t) (h' : t.After more u) : s.After (count + more) u where
  rest := by rw [h'.rest, h.rest, List.drop_drop]
  position := by rw [h'.position, h.position, Nat.add_assoc]
  count_le := by
    have bound := h'.count_le
    rw [h.rest, List.length_drop] at bound
    have := h.count_le
    omega

/-- What was read and what is left make up what there was. -/
theorem After.left (h : s.After count t) : t.left + count = s.left := by
  rw [t.left_eq, s.left_eq, h.rest, List.length_drop]
  have := h.count_le
  omega

theorem After.suffix (h : s.After count t) : t.rest <:+ s.rest := by
  rw [h.rest]
  exact List.drop_suffix count s.rest

theorem After.plain (h : s.After count t) (plain : s.Plain) : t.Plain :=
  Spelled.suffix plain h.suffix

/-- A fault found later is a fault of the whole: positions count from the first token of the stream,
so the distance between the two states cancels. -/
theorem After.shows {fault : Fault} (h : s.After count t) (shown : t.Shows fault) :
    s.Shows fault := by
  obtain ⟨le, found⟩ := shown
  rw [h.position] at le found
  have offset : count + (fault.index - (s.position + count)) = fault.index - s.position := by
    omega
  refine ⟨by omega, ?_⟩
  rw [found, h.rest, List.drop_drop, offset]

/-- A refusal on the spot shows the next token. -/
theorem shows_here (s : ReadState) (expectation : Expectation) :
    s.Shows ⟨expectation, s.position, s.peek⟩ :=
  ⟨Nat.le_refl _, by simp [peek]⟩

/-- Two states that went equally far from the same token stand at the same token. -/
theorem After.sameTokens {s₁ s₂ t₁ t₂ : ReadState} (h₁ : s₁.After count t₁)
    (h₂ : s₂.After count t₂) (h : s₁.SameTokens s₂) : t₁.SameTokens t₂ where
  rest := by rw [h₂.rest, h₁.rest, h.rest]
  position := by rw [h₂.position, h₁.position, h.position]

/-! ### The first token -/

theorem start_plain (text : List Char) (c : Catalog) :
    (start (Lexer.tokens text) c).Plain :=
  fun _ inside word => Lexer.tokens_spells inside word

/-- Two readings of one text start at the same token. -/
theorem start_sameTokens (tokens : List Token) (c d : Catalog) :
    (start tokens c).SameTokens (start tokens d) :=
  ⟨rfl, rfl⟩

/-! ### Actions without tokens -/

/-- The state with another store. -/
def put (s : ReadState) (x : Store) : ReadState :=
  { s with catalog := x.catalog, journal := x.journal }

@[simp] theorem store_put (s : ReadState) (x : Store) : (s.put x).store = x := rfl

theorem put_after (s : ReadState) (x : Store) : s.After 0 (s.put x) :=
  ⟨rfl, rfl, Nat.zero_le _⟩

/-- States at the same token with the same store are the same. -/
theorem SameTokens.eq (h : s.SameTokens t) (store : s.store = t.store) : s = t := by
  have left := h.left
  obtain ⟨_, _, _, _, _, _⟩ := s
  obtain ⟨_, _, _, _, _, _⟩ := t
  cases h.rest
  cases h.position
  cases store
  cases left
  rfl

/-! ### Advancing

To advance drops one token and leaves the store. At the end of the input it does nothing: the end is
read as often as it is asked for, and never counts as a token that was read. -/

theorem advance_after (h : s.rest ≠ []) : s.After 1 s.advance := by
  unfold advance
  split
  · contradiction
  · next rest eq =>
    exact ⟨by simp [eq], rfl, by simp [eq]⟩

/-- At the end of the input nothing is left to advance over. -/
theorem advance_of_rest (h : s.rest = []) : s.advance = s := by
  unfold advance
  split
  · rfl
  · simp_all

@[simp] theorem store_advance (s : ReadState) : s.advance.store = s.store := by
  unfold advance
  split <;> rfl

theorem drop_after (h : count ≤ s.rest.length) : s.After count (s.drop count) := by
  induction count generalizing s with
  | zero => exact .refl s
  | succ count ih =>
    -- `drop` advances before it drops the others
    have first : s.After 1 s.advance := advance_after (by rintro nil; simp [nil] at h)
    have others : s.advance.After count (s.advance.drop count) :=
      ih (by rw [first.rest, List.length_drop]; omega)
    have both := first.trans others
    rw [Nat.add_comm] at both
    exact both

@[simp] theorem store_drop (s : ReadState) : (s.drop count).store = s.store := by
  induction count generalizing s with
  | zero => rfl
  | succ count ih => rw [drop, ih, store_advance]

theorem rest_advance (s : ReadState) : s.advance.rest = s.rest.tail := by
  unfold advance
  split
  · next nil => rw [nil, List.tail_nil]
  · next eq => simp [eq]

theorem advance_suffix (s : ReadState) : s.advance.rest <:+ s.rest := by
  rw [rest_advance]
  exact List.tail_suffix s.rest

/-- Where a token is left, the next one comes first. -/
theorem rest_eq_cons {s : ReadState} (some : s.rest ≠ []) : s.rest = s.peek :: s.advance.rest := by
  obtain ⟨t, rest, eq⟩ := List.exists_cons_of_ne_nil some
  rw [rest_advance, peek, eq]
  rfl

theorem rest_drop (s : ReadState) (count : Nat) : (s.drop count).rest = s.rest.drop count := by
  induction count generalizing s with
  | zero => rfl
  | succ count ih => rw [drop, ih, rest_advance, List.drop_tail]

theorem drop_drop (s : ReadState) (count more : Nat) :
    (s.drop count).drop more = s.drop (count + more) := by
  induction count generalizing s with
  | zero => rw [Nat.zero_add, drop]
  | succ count ih =>
    rw [Nat.add_right_comm]
    exact ih s.advance

/-- The next token after a drop, or the end of the input where nothing is left. -/
theorem peek_drop (s : ReadState) (count : Nat) :
    (s.drop count).peek = (s.rest.drop count).head?.getD Token.endOfInput := by
  rw [peek, rest_drop]

theorem peek_eq {rest : List Token} (left : s.rest = rest) : s.peek = nextToken rest :=
  left ▸ rfl

section Front

variable {front rest : List Token} (stands : s.rest = front ++ rest)

include stands

/-- Where tokens stand at the front, as many can be read. -/
theorem after_front : s.After front.length (s.drop front.length) := by
  refine drop_after ?_
  rw [stands, List.length_append]
  exact Nat.le_add_right _ _

theorem rest_drop_front : (s.drop front.length).rest = rest := by
  rw [rest_drop, stands, List.drop_left]

theorem peek_drop_front : (s.drop front.length).peek = nextToken rest :=
  peek_eq (rest_drop_front stands)

end Front

theorem catalog_advance (s : ReadState) : s.advance.catalog = s.catalog :=
  congrArg Store.catalog (store_advance s)

theorem catalog_drop (s : ReadState) (count : Nat) : (s.drop count).catalog = s.catalog :=
  congrArg Store.catalog (store_drop s)

/-- What is not the end of the input is a token of the stream. -/
theorem rest_ne_nil_of_category (h : s.peek.category ≠ .eof) : s.rest ≠ [] := by
  rintro nil
  simp [peek, nil, Token.endOfInput] at h

theorem rest_ne_nil_of_keyword {keyword : String} (h : s.peek.isKeyword keyword) :
    s.rest ≠ [] := by
  refine rest_ne_nil_of_category ?_
  intro eof
  simp [Token.isKeyword, eof] at h

theorem peek_mem_rest (h : s.rest ≠ []) : s.peek ∈ s.rest := by
  cases eq : s.rest with
  | nil => contradiction
  | cons token rest => simp [peek, eq]

end ReadState

/-- The stores of two states. -/
def Stores.of (s₁ s₂ : ReadState) : Stores := ⟨s₁.store, s₂.store⟩

end IdlCatalog
