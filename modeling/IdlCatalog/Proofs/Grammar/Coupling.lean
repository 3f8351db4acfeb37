/-
# IdlCatalog.Proofs.Grammar.Coupling — two readings of one stream, side by side

The grammar touches the catalog through a dozen actions only. What it does with the tokens never
depends on the numbers of the types at hand, so two readings of the same tokens, for two libraries
in two catalogs, go the same way as long as some relation between the two catalogs survives every
action. A `Coupling` is such a relation; `Coupling.Sim` says of two parsers that they keep it,
consume the same tokens and come to the same kind of outcome.

One reading is the special case of two equal catalogs, so invariants of a single run are couplings
as well. Parsers that only read tokens are in step under every coupling.

Recursion needs a measure: `Sim` speaks of states with fewer than `n` tokens left, and says how many
tokens are read at least. A reading in step never ends because a production called itself without
reading.

## What a coupling may say

The field `holds` is an invariant of both catalogs and both journals. The relations `type` and
`named` depend on the stores at hand and may only grow, which is `Later`: a type that is found to
correspond to another keeps doing so while the readings go on. The two are kept apart because the
grammar uses types in two ways. A type that was referred to is only ever wrapped, resolved or
written into a member; a type that was declared is written to, so a coupling may ask more of it, for
instance that the library at hand owns it.

Failures are equal, not merely related: two readings in step fail at the same token with the same
expectation. What the coupling decides is only whether a name given twice may end them.
-/
import Mathlib.Data.List.Forall2
import IdlCatalog.Proofs.Grammar.Stream

namespace IdlCatalog

/-! ## Couplings

An `Outcome` is stated about the two results and the states they started from; a `Sim` quantifies
over these states. Lemmas about single runs use the first, the rules of composition the second.
Either way the number of tokens read is the same on both sides, which is why one `count` serves for
both. -/

/-- A relation between two readings. -/
structure Coupling where
  /-- The libraries that are read for. -/
  lib₁ : LibraryId
  lib₂ : LibraryId
  /-- What holds of the two stores. -/
  holds : Stores → Prop
  /-- Which types that references stand for correspond to each other. -/
  type : Stores → TypeId → TypeId → Prop
  /-- Which declared types correspond to each other. -/
  named : Stores → TypeId → TypeId → Prop
  /-- The failures that may end both readings, apart from faults in the tokens. -/
  refuses : Failure Fault → Prop

namespace Coupling

variable {K : Coupling} {w w' w₁ w₂ : Stores} {α β : Type}

/-- Types that correspond to each other still do. -/
structure Later (K : Coupling) (w w' : Stores) : Prop where
  type : ∀ {t u}, K.type w t u → K.type w' t u
  named : ∀ {t u}, K.named w t u → K.named w' t u

theorem Later.refl (w : Stores) : K.Later w w := ⟨id, id⟩

theorem Later.trans (h : K.Later w w₁) (h' : K.Later w₁ w₂) : K.Later w w₂ :=
  ⟨h'.type ∘ h.type, h'.named ∘ h.named⟩

/-- What may end both readings after `s`: a fault that shows a token which was to be read, or a
failure that the coupling allows. -/
inductive Refused (K : Coupling) (s : ReadState) : Failure Fault → Prop
  | malformed {fault : Fault} (shown : s.Shows fault) : Refused K s (.malformed fault)
  | other {failure : Failure Fault} (refuses : K.refuses failure) : Refused K s failure

/-- What two parsers that are in step come to from two states: two answers that `V` relates, after
at least as many tokens as `r` says, or the same failure. -/
inductive Outcome (K : Coupling) (s₁ s₂ : ReadState) (r : α → Nat) (V : Stores → α → α → Prop) :
    Except (Failure Fault) α × ReadState → Except (Failure Fault) α × ReadState → Prop
  | ok {a b : α} {t₁ t₂ : ReadState} {count : Nat} (after₁ : s₁.After count t₁)
      (after₂ : s₂.After count t₂) (reads : r a ≤ count) (holds : K.holds (.of t₁ t₂))
      (later : K.Later (.of s₁ s₂) (.of t₁ t₂)) (answers : V (.of t₁ t₂) a b) :
      Outcome K s₁ s₂ r V (.ok a, t₁) (.ok b, t₂)
  | error {failure : Failure Fault} {t₁ t₂ : ReadState} {count : Nat} (after₁ : s₁.After count t₁)
      (after₂ : s₂.After count t₂) (refused : K.Refused s₁ failure)
      (holds : K.holds (.of t₁ t₂)) :
      Outcome K s₁ s₂ r V (.error failure, t₁) (.error failure, t₂)

/-- A refusal after some tokens is a refusal of the whole. -/
theorem Refused.before {s t : ReadState} {count : Nat} {failure : Failure Fault}
    (h : K.Refused t failure) (after : s.After count t) : K.Refused s failure := by
  cases h with
  | malformed shown => exact .malformed (after.shows shown)
  | other refuses => exact .other refuses

/-- An outcome from a later state, seen from an earlier one: the tokens in between count as read. -/
theorem Outcome.from_after {s₁ s₂ t₁ t₂ : ReadState} {count : Nat} {r : α → Nat}
    {V : Stores → α → α → Prop} {x y : Except (Failure Fault) α × ReadState}
    (h : K.Outcome t₁ t₂ r V x y) (after₁ : s₁.After count t₁) (after₂ : s₂.After count t₂)
    (later : K.Later (.of s₁ s₂) (.of t₁ t₂)) :
    K.Outcome s₁ s₂ (fun a => r a + count) V x y := by
  cases h with
  | error more₁ more₂ refused holds =>
    exact .error (after₁.trans more₁) (after₂.trans more₂) (refused.before after₁) holds
  | ok more₁ more₂ reads holds later' answers =>
    exact .ok (after₁.trans more₁) (after₂.trans more₂) (by omega) holds (later.trans later')
      answers

/-- It may be promised that fewer tokens are read. -/
theorem Outcome.fewer {s₁ s₂ : ReadState} {r r' : α → Nat} {V : Stores → α → α → Prop}
    {x y : Except (Failure Fault) α × ReadState} (h : K.Outcome s₁ s₂ r V x y)
    (reads : ∀ a, r' a ≤ r a) : K.Outcome s₁ s₂ r' V x y := by
  cases h with
  | error after₁ after₂ refused holds => exact .error after₁ after₂ refused holds
  | ok after₁ after₂ read holds later answers =>
    exact .ok after₁ after₂ (Nat.le_trans (reads _) read) holds later answers

/-- What two sequences come to, the second parts of which go on from where the first ones end. -/
theorem Outcome.bind {s₁ s₂ : ReadState} {r : α → Nat} {k : β → Nat} {V : Stores → α → α → Prop}
    {W : Stores → β → β → Prop} {p q : Parser α} {f g : α → Parser β}
    (first : K.Outcome s₁ s₂ r V (p K.lib₁ s₁) (q K.lib₂ s₂))
    (next : ∀ {a b : α} {t₁ t₂ : ReadState} {count : Nat}, p K.lib₁ s₁ = (.ok a, t₁) →
      s₁.After count t₁ → s₂.After count t₂ → r a ≤ count → K.holds (.of t₁ t₂) →
      K.Later (.of s₁ s₂) (.of t₁ t₂) → V (.of t₁ t₂) a b →
        K.Outcome t₁ t₂ (fun x => k x - count) W (f a K.lib₁ t₁) (g b K.lib₂ t₂)) :
    K.Outcome s₁ s₂ k W ((p >>= f) K.lib₁ s₁) ((q >>= g) K.lib₂ s₂) := by
  rw [Parser.bind_apply, Parser.bind_apply]
  generalize p K.lib₁ s₁ = x at first next
  generalize q K.lib₂ s₂ = y at first
  cases first with
  | error after₁ after₂ refused holds => exact .error after₁ after₂ refused holds
  | ok after₁ after₂ read holds later ab =>
    have second := next rfl after₁ after₂ read holds later ab
    exact (second.from_after after₁ after₂ later).fewer fun x => by omega

/-- Two parsers are in step from every pair of states that stand at the same token with fewer than
`n` tokens left, whose stores the coupling relates and which come after `w`. -/
def Sim (K : Coupling) (w : Stores) (n : Nat) (r : α → Nat) (V : Stores → α → α → Prop)
    (p q : Parser α) : Prop :=
  ∀ s₁ s₂ : ReadState, s₁.SameTokens s₂ → s₁.Plain → s₁.left < n → K.holds (.of s₁ s₂) →
    K.Later w (.of s₁ s₂) → K.Outcome s₁ s₂ r V (p K.lib₁ s₁) (q K.lib₂ s₂)

/-- Two parsers are in step, however few tokens they read. -/
abbrev Keeps (K : Coupling) (w : Stores) (n : Nat) (V : Stores → α → α → Prop)
    (p q : Parser α) : Prop :=
  K.Sim w n (fun _ => 0) V p q

/-- Two parsers are in step and read a token at least. -/
abbrev Reads (K : Coupling) (w : Stores) (n : Nat) (V : Stores → α → α → Prop)
    (p q : Parser α) : Prop :=
  K.Sim w n (fun _ => 1) V p q

/-- Any two answers correspond. -/
def anything : Stores → α → α → Prop := fun _ _ _ => True

/-- Equal answers correspond. -/
def same : Stores → α → α → Prop := fun _ a b => a = b

/-- Equal names correspond that the globals do not have. -/
def plainName : Stores → String → String → Prop := fun _ a b => a = b ∧ a ≠ globalsName

namespace Sim

variable {n n' : Nat} {r r' : α → Nat} {k : β → Nat} {V V' : Stores → α → α → Prop}
  {W : Stores → β → β → Prop} {p q p' q' : Parser α} {f g : α → Parser β}

/-- What two parsers come to that are in step from a pair of states on. -/
theorem outcome {s₁ s₂ : ReadState} (h : K.Sim (.of s₁ s₂) (s₁.left + 1) r V p q)
    (tokens : s₁.SameTokens s₂) (plain : s₁.Plain) (holds : K.holds (.of s₁ s₂)) :
    K.Outcome s₁ s₂ r V (p K.lib₁ s₁) (q K.lib₂ s₂) :=
  h s₁ s₂ tokens plain (Nat.lt_succ_self _) holds (.refl _)

/-! ### Weakening

The parameters of `Sim` are monotone. It may be asked of fewer tokens, from later stores, with a
smaller promise of tokens read or a weaker relation of answers. -/

/-- Parsers in step are in step where fewer tokens are left. -/
theorem below (h : K.Sim w n r V p q) (le : n' ≤ n) : K.Sim w n' r V p q := by
  intro s₁ s₂ tokens plain left holds later
  exact h s₁ s₂ tokens plain (by omega) holds later

/-- Parsers in step are in step from later stores. -/
theorem after (h : K.Sim w n r V p q) (le : K.Later w w') : K.Sim w' n r V p q := by
  intro s₁ s₂ tokens plain left holds later
  exact h s₁ s₂ tokens plain left holds (le.trans later)

/-- Less may be promised of the tokens and of the answers. -/
theorem mono (h : K.Sim w n r V p q) (reads : ∀ a, r' a ≤ r a)
    (answers : ∀ w' a b, K.Later w w' → V w' a b → V' w' a b) : K.Sim w n r' V' p q := by
  intro s₁ s₂ tokens plain left holds later
  have outcome := h s₁ s₂ tokens plain left holds later
  generalize p K.lib₁ s₁ = x at outcome
  generalize q K.lib₂ s₂ = y at outcome
  cases outcome with
  | ok after₁ after₂ read holds later' ab =>
    exact .ok after₁ after₂ (Nat.le_trans (reads _) read) holds later'
      (answers _ _ _ (later.trans later') ab)
  | error after₁ after₂ refused holds => exact .error after₁ after₂ refused holds

/-- The tokens that are read may be forgotten. -/
theorem unread (h : K.Sim w n r V p q) : K.Keeps w n V p q :=
  h.mono (fun _ => Nat.zero_le _) fun _ _ _ _ => id

/-- The answers may be forgotten. -/
theorem forget (h : K.Sim w n r V p q) : K.Sim w n r anything p q :=
  h.mono (fun _ => Nat.le_refl _) fun _ _ _ _ _ => trivial

/-! ### Sequencing

The second parser starts where the first one has ended. So what it may assume is the stores at that
point, and what it still owes is the promise of the whole less the tokens that were already read. -/

/-- Equal ends: nothing is read, and the answers correspond in whatever stores. -/
theorem answer {a b : α} (reads : r a = 0) (h : ∀ w', K.Later w w' → V w' a b) :
    K.Sim w n r V (Pure.pure a) (Pure.pure b) := by
  intro s₁ s₂ _ _ _ holds later
  exact .ok (.refl s₁) (.refl s₂) (by omega) holds (.refl _) (h _ later)

theorem pure {a b : α} (h : ∀ w', K.Later w w' → V w' a b) :
    K.Keeps w n V (pure a) (pure b) :=
  answer rfl h

/-- Sequencing where the tokens that the first parser reads count. -/
theorem bind_reads (hp : K.Sim w n r V p q)
    (hf : ∀ w' a b, K.Later w w' → V w' a b →
      K.Sim w' (n - r a) (fun x => k x - r a) W (f a) (g b)) :
    K.Sim w n k W (p >>= f) (q >>= g) := by
  intro s₁ s₂ tokens plain left holds later
  refine .bind (hp s₁ s₂ tokens plain left holds later) ?_
  intro a b t₁ t₂ count _ after₁ after₂ read holds later' ab
  -- the second parser stands as many tokens further on as the first has read
  have fewer := after₁.left
  have second := hf _ a b (later.trans later') ab t₁ t₂ (after₁.sameTokens after₂ tokens)
    (after₁.plain plain) (by omega) holds (.refl _)
  exact second.fewer fun x => Nat.sub_le_sub_left read _

/-- Sequencing where only the tokens of the second parser count. -/
theorem bind (hp : K.Sim w n r V p q)
    (hf : ∀ w' a b, K.Later w w' → V w' a b → K.Sim w' n k W (f a) (g b)) :
    K.Sim w n k W (p >>= f) (q >>= g) :=
  hp.unread.bind_reads hf

/-- Sequencing where a token of the first parser is enough. -/
theorem bind_any (hp : K.Reads w n V p q)
    (hf : ∀ w' a b, K.Later w w' → V w' a b → K.Keeps w' n W (f a) (g b)) :
    K.Reads w n W (p >>= f) (q >>= g) :=
  hp.bind_reads fun w' a b later ab => (hf w' a b later ab).below (Nat.sub_le n 1)

/-- Sequencing after a question that reads a token where the answer is yes. -/
theorem bind_if {p q : Parser Bool} {f g : Bool → Parser β} (hp : K.Sim w n Bool.toNat same p q)
    (yes : ∀ w', K.Later w w' → K.Sim w' (n - 1) (fun x => k x - 1) W (f true) (g true))
    (no : ∀ w', K.Later w w' → K.Sim w' n k W (f false) (g false)) :
    K.Sim w n k W (p >>= f) (q >>= g) := by
  refine hp.bind_reads ?_
  rintro w' answer _ later rfl
  cases answer with
  | true => exact yes w' later
  | false => exact no w' later

/-- Nothing is left to read where one token is owed and one was read. -/
theorem toNat_sub_one (b : Bool) : b.toNat - 1 = 0 := by
  cases b <;> rfl

/-- A choice is in step if both ways are. -/
theorem ite {c : Prop} [Decidable c] (yes : c → K.Sim w n r V p q)
    (no : ¬c → K.Sim w n r V p' q') :
    K.Sim w n r V (if c then p else p') (if c then q else q') := by
  split
  · exact yes ‹_›
  · exact no ‹_›

/-- Two questions, the second of which is asked where the first is answered with no. -/
theorem either {p q p' q' : Parser Bool} (hp : K.Sim w n Bool.toNat same p q)
    (hq : K.Sim w n Bool.toNat same p' q') :
    K.Sim w n Bool.toNat same (p >>= fun found => if found then Pure.pure true else p')
      (q >>= fun found => if found then Pure.pure true else q') := by
  refine hp.bind_reads ?_
  rintro _ found _ later rfl
  cases found with
  | true => exact .answer rfl fun _ _ => rfl
  | false => exact hq.after later

/-! ### Recursion

A call is allowed with fewer tokens left than its caller had. The induction is done once, in `fix`;
loops and lists with separators are recursions of this form, with a step that reads a token wherever
it goes on. -/

/-- The guard of a recursion lets both readings pass or neither, as they have equally many tokens
left. -/
theorem below_limit (h : K.Sim w n r V p q) :
    K.Sim w n r V (Parser.below n p) (Parser.below n q) := by
  intro s₁ s₂ tokens plain left holds later
  rw [Parser.below, Parser.below, if_pos left, if_pos (by rw [tokens.left]; exact left)]
  exact h s₁ s₂ tokens plain left holds later

/-- Two recursions are in step if their bodies are, given that the calls are: a call is made where
fewer tokens are left. -/
theorem fix {body₁ body₂ : Parser α → Parser α}
    (h : ∀ m self₁ self₂, m < n → K.Sim w m r V self₁ self₂ →
      K.Sim w (m + 1) r V (body₁ self₁) (body₂ self₂)) :
    K.Sim w n r V (Parser.fix body₁) (Parser.fix body₂) := by
  -- on the number of tokens: `fix` lets its body call itself only with fewer tokens left
  induction n using Nat.strongRecOn with
  | _ n ih =>
    intro s₁ s₂ tokens plain left holds later
    have calls : K.Sim w s₁.left r V (Parser.fix body₁) (Parser.fix body₂) :=
      ih s₁.left left fun m self₁ self₂ lt => h m self₁ self₂ (by omega)
    rw [Parser.fix_apply, Parser.fix_apply, tokens.left]
    exact h s₁.left _ _ left calls.below_limit s₁ s₂ tokens plain (by omega) holds later

/-- A loop is in step if its step is, and reads a token where it goes on. -/
theorem repeatWhile {step₁ step₂ : Parser Bool} (h : K.Sim w n Bool.toNat same step₁ step₂) :
    K.Keeps w n anything (Parser.repeatWhile step₁) (Parser.repeatWhile step₂) := by
  refine fix fun m self₁ self₂ lt calls => (h.below lt).bind_reads ?_
  rintro w' a _ later rfl
  cases a with
  | false => exact .pure fun _ _ => trivial
  | true => exact calls.after later

/-- The answers of two loops correspond if the answers of their steps do. -/
theorem collect {R : Stores → α → α → Prop} {step₁ step₂ : Parser (Option α)}
    (carry : ∀ {w w' a b}, K.Later w w' → R w a b → R w' a b)
    (h : K.Sim w n (fun o => o.isSome.toNat) (fun w' => Option.Rel (R w')) step₁ step₂) :
    K.Keeps w n (fun w' => List.Forall₂ (R w')) (Parser.collect step₁)
      (Parser.collect step₂) := by
  refine fix fun m self₁ self₂ lt calls => (h.below lt).bind_reads ?_
  rintro w' _ _ later (ab | none)
  · refine (calls.after later).bind ?_
    intro w'' as bs later' related
    exact .pure fun _ later'' => .cons (carry (later'.trans later'') ab)
      (related.imp fun _ _ => carry later'')
  · exact .pure fun _ _ => .nil

/-- Two loops whose steps give equal answers give equal answers. -/
theorem collect_same {step₁ step₂ : Parser (Option α)}
    (h : K.Sim w n (fun o => o.isSome.toNat) same step₁ step₂) :
    K.Keeps w n same (Parser.collect step₁) (Parser.collect step₂) := by
  have related : K.Sim w n (fun o => o.isSome.toNat) (fun w' => Option.Rel (same w'))
      step₁ step₂ := by
    refine h.mono (fun _ => Nat.le_refl _) ?_
    rintro _ (_ | a) _ _ rfl
    · exact .none
    · exact .some rfl
  refine (collect (R := same) (fun _ => id) related).mono (fun _ => Nat.le_refl _) ?_
  intro _ as bs _ equal
  have equal : List.Forall₂ (· = ·) as bs := equal
  rwa [List.forall₂_eq_eq_eq] at equal

/-- Separated items correspond if the items do. -/
theorem sepBy {R : Stores → α → α → Prop} {item₁ item₂ : Parser α} {more₁ more₂ : Parser Bool}
    (carry : ∀ {w w' a b}, K.Later w w' → R w a b → R w' a b)
    (hitem : K.Sim w n r R item₁ item₂) (hmore : K.Sim w n Bool.toNat same more₁ more₂) :
    K.Keeps w n (fun w' => List.Forall₂ (R w')) (Parser.sepBy item₁ more₁)
      (Parser.sepBy item₂ more₂) := by
  refine fix fun m self₁ self₂ lt calls => (hitem.below lt).bind ?_
  intro w' a b later ab
  refine ((hmore.below lt).after later).bind_reads ?_
  rintro w'' more _ later' rfl
  cases more with
  | false => exact .pure fun _ later'' => .cons (carry (later'.trans later'') ab) .nil
  | true =>
    refine (calls.after (later.trans later')).bind ?_
    intro _ as bs later'' related
    exact .pure fun _ last =>
      .cons (carry (later'.trans (later''.trans last)) ab) (related.imp fun _ _ => carry last)

end Sim

/-! ## Tokens

The parsers that work on tokens only. They leave the stores as they are, so every coupling holds
after them if it held before, and their answers are equal. How many tokens each of them reads is
part of its statement. -/

section Tokens

variable {n : Nat} {r : α → Nat} {V : Stores → α → α → Prop} {s₁ s₂ t₁ t₂ : ReadState}

/-- Two parsers that only read tokens, with an answer. -/
theorem Outcome.of_tokens {a b : α} {count : Nat} (holds : K.holds (.of s₁ s₂))
    (after₁ : s₁.After count t₁) (after₂ : s₂.After count t₂) (reads : r a ≤ count)
    (store₁ : t₁.store = s₁.store) (store₂ : t₂.store = s₂.store)
    (answers : V (.of s₁ s₂) a b) : K.Outcome s₁ s₂ r V (.ok a, t₁) (.ok b, t₂) := by
  have same : Stores.of t₁ t₂ = .of s₁ s₂ := by rw [Stores.of, Stores.of, store₁, store₂]
  refine .ok after₁ after₂ reads ?_ ?_ ?_
  · rw [same]; exact holds
  · rw [same]; exact .refl _
  · rw [same]; exact answers

/-- Two parsers that read nothing, with an answer. -/
theorem Outcome.of_here {a b : α} (holds : K.holds (.of s₁ s₂)) (reads : r a = 0)
    (answers : V (.of s₁ s₂) a b) : K.Outcome s₁ s₂ r V (.ok a, s₁) (.ok b, s₂) :=
  .of_tokens holds (.refl s₁) (.refl s₂) (by omega) rfl rfl answers

/-- Two parsers that read one token, with an answer. -/
theorem Outcome.of_advance {a b : α} (holds : K.holds (.of s₁ s₂)) (tokens : s₁.SameTokens s₂)
    (inside : s₁.rest ≠ []) (reads : r a ≤ 1) (answers : V (.of s₁ s₂) a b) :
    K.Outcome s₁ s₂ r V (.ok a, s₁.advance) (.ok b, s₂.advance) := by
  have inside₂ : s₂.rest ≠ [] := by rw [tokens.rest]; exact inside
  exact .of_tokens holds (ReadState.advance_after inside) (ReadState.advance_after inside₂) reads
    (ReadState.store_advance s₁) (ReadState.store_advance s₂) answers

/-- Two parsers that drop tokens before they refuse the next one. -/
theorem Outcome.of_drop_expected {count : Nat} (holds : K.holds (.of s₁ s₂))
    (tokens : s₁.SameTokens s₂) (inside : count ≤ s₁.rest.length) (expectation : Expectation)
    (l₁ l₂ : LibraryId) :
    K.Outcome s₁ s₂ r V (Parser.expected expectation l₁ (s₁.drop count))
      (Parser.expected expectation l₂ (s₂.drop count)) := by
  have inside₂ : count ≤ s₂.rest.length := by rw [tokens.rest]; exact inside
  have after₁ := ReadState.drop_after inside
  have after₂ := ReadState.drop_after inside₂
  have later := after₁.sameTokens after₂ tokens
  rw [Parser.expected, Parser.expected, later.position, later.peek]
  refine .error after₁ after₂ (.malformed (after₁.shows (ReadState.shows_here _ _))) ?_
  rw [Stores.of, ReadState.store_drop, ReadState.store_drop]
  exact holds

namespace Sim

/-- Both readings are refused at the same token with the same expectation. -/
theorem expected (expectation : Expectation) :
    K.Sim w n r V (Parser.expected expectation) (Parser.expected expectation) := by
  intro s₁ s₂ tokens _ _ holds _
  exact .of_drop_expected holds tokens (Nat.zero_le _) expectation _ _

theorem peek : K.Keeps w n same Parser.peek Parser.peek := by
  intro s₁ s₂ tokens _ _ holds _
  exact .of_here holds rfl tokens.peek.symm

theorem peekCategory : K.Keeps w n same Parser.peekCategory Parser.peekCategory := by
  intro s₁ s₂ tokens _ _ holds _
  exact .of_here holds rfl (congrArg Token.category tokens.peek.symm)

theorem atKeyword (keyword : String) :
    K.Keeps w n same (Parser.atKeyword keyword) (Parser.atKeyword keyword) := by
  intro s₁ s₂ tokens _ _ holds _
  exact .of_here holds rfl (congrArg (fun t : Token => t.isKeyword keyword) tokens.peek.symm)

theorem atAnyKeyword (keywords : List String) :
    K.Keeps w n same (Parser.atAnyKeyword keywords) (Parser.atAnyKeyword keywords) := by
  intro s₁ s₂ tokens _ _ holds _
  exact .of_here holds rfl (congrArg (fun t : Token => keywords.any t.isKeyword) tokens.peek.symm)

/-- Two readings take the same token; at the end of the input they stay where they are. -/
theorem next : K.Keeps w n same Parser.next Parser.next := by
  intro s₁ s₂ tokens _ _ holds _
  rw [Parser.next, Parser.next, tokens.peek]
  by_cases inside : s₁.rest = []
  · have inside₂ : s₂.rest = [] := by rw [tokens.rest]; exact inside
    rw [ReadState.advance_of_rest inside, ReadState.advance_of_rest inside₂]
    exact .of_here holds rfl rfl
  · exact .of_advance holds tokens inside (Nat.zero_le _) rfl

/-- Two readings accept a token or pass it by together. The end of the input is left out, as it is
not read. -/
theorem accept {category : Category} (h : category ≠ .eof) :
    K.Sim w n Bool.toNat same (Parser.accept category) (Parser.accept category) := by
  intro s₁ s₂ tokens _ _ holds _
  rw [Parser.accept, Parser.accept, tokens.peek]
  by_cases here : s₁.peek.category = category
  · rw [if_pos here, if_pos here]
    have inside : s₁.rest ≠ [] := ReadState.rest_ne_nil_of_category (here ▸ h)
    exact .of_advance holds tokens inside (Nat.le_refl _) rfl
  · rw [if_neg here, if_neg here]
    exact .of_here holds rfl rfl

theorem acceptKeyword (keyword : String) :
    K.Sim w n Bool.toNat same (Parser.acceptKeyword keyword) (Parser.acceptKeyword keyword) := by
  intro s₁ s₂ tokens _ _ holds _
  rw [Parser.acceptKeyword, Parser.acceptKeyword, tokens.peek]
  by_cases here : s₁.peek.isKeyword keyword
  · rw [if_pos here, if_pos here]
    exact .of_advance holds tokens (ReadState.rest_ne_nil_of_keyword here) (Nat.le_refl _) rfl
  · rw [if_neg here, if_neg here]
    exact .of_here holds rfl rfl

theorem requireKeyword (keyword : String) :
    K.Reads w n anything (Parser.requireKeyword keyword) (Parser.requireKeyword keyword) := by
  intro s₁ s₂ tokens plain left holds later
  rw [Parser.requireKeyword, Parser.requireKeyword, tokens.peek]
  by_cases here : s₁.peek.isKeyword keyword
  · rw [if_pos here, if_pos here]
    exact .of_advance holds tokens (ReadState.rest_ne_nil_of_keyword here) (Nat.le_refl _) trivial
  · rw [if_neg here, if_neg here]
    exact expected _ s₁ s₂ tokens plain left holds later

theorem require {category : Category} (h : category ≠ .eof) :
    K.Reads w n same (Parser.require category) (Parser.require category) := by
  intro s₁ s₂ tokens plain left holds later
  rw [Parser.require, Parser.require, tokens.peek]
  by_cases here : s₁.peek.category = category
  · rw [if_pos here, if_pos here, Parser.next, Parser.next, tokens.peek]
    have inside : s₁.rest ≠ [] := ReadState.rest_ne_nil_of_category (here ▸ h)
    exact .of_advance holds tokens inside (Nat.le_refl _) rfl
  · rw [if_neg here, if_neg here]
    exact expected _ s₁ s₂ tokens plain left holds later

/-- A token that is required at the end of a production. -/
theorem require_last {category : Category} (h : category ≠ .eof) :
    K.Keeps w n anything (Parser.require category >>= fun _ => Pure.pure ())
      (Parser.require category >>= fun _ => Pure.pure ()) :=
  (require h).bind fun _ _ _ _ _ => .pure fun _ _ => trivial

/-- The end of the input is required without being read. -/
theorem require_eof : K.Keeps w n anything (Parser.require .eof) (Parser.require .eof) := by
  intro s₁ s₂ tokens plain left holds later
  rw [Parser.require, Parser.require, tokens.peek]
  by_cases here : s₁.peek.category = .eof
  · rw [if_pos here, if_pos here]
    exact next.forget s₁ s₂ tokens plain left holds later
  · rw [if_neg here, if_neg here]
    exact expected _ s₁ s₂ tokens plain left holds later

/-- A name that is read is a word, and no word is spelled like the globals. -/
theorem identifier : K.Reads w n plainName Parser.identifier Parser.identifier := by
  intro s₁ s₂ tokens plain left holds later
  rw [Parser.identifier, Parser.bind_apply, Parser.bind_apply, Parser.require, Parser.require,
    tokens.peek]
  by_cases here : s₁.peek.category = .word
  · have inside : s₁.rest ≠ [] := ReadState.rest_ne_nil_of_category (by rw [here]; decide)
    rw [if_pos here, if_pos here, Parser.next, Parser.next, tokens.peek]
    exact .of_advance holds tokens inside (Nat.le_refl _)
      ⟨rfl, Lexer.word_ne_globalsName (plain _ (ReadState.peek_mem_rest inside) here)⟩
  · rw [if_neg here, if_neg here]
    exact expected _ s₁ s₂ tokens plain left holds later

theorem rawUntilSemicolon :
    K.Keeps w n same Parser.rawUntilSemicolon Parser.rawUntilSemicolon := by
  intro s₁ s₂ tokens _ _ holds _
  rw [Parser.rawUntilSemicolon, Parser.rawUntilSemicolon, tokens.rest]
  have inside := (List.takeWhile_prefix Parser.continuesValue (l := s₁.rest)).length_le
  have inside₂ := inside
  rw [← tokens.rest] at inside₂
  exact .of_tokens holds (ReadState.drop_after inside)
    (ReadState.drop_after (tokens.rest ▸ inside₂)) (Nat.zero_le _)
    (ReadState.store_drop s₁) (ReadState.store_drop s₂) rfl

/-- A run between brackets is skipped equally far; only its length depends on the tokens. -/
theorem skipBalanced (stops : List Category) :
    K.Keeps w n anything (Parser.skipBalanced stops) (Parser.skipBalanced stops) := by
  intro s₁ s₂ tokens _ _ holds _
  have inside := Parser.balancedRun_le stops 0 s₁.rest
  rw [Parser.skipBalanced, Parser.skipBalanced, tokens.rest]
  generalize Parser.balancedRun stops 0 s₁.rest = run at inside
  obtain ⟨count, problem | _⟩ := run
  · exact .of_tokens holds (ReadState.drop_after inside)
      (ReadState.drop_after (by rw [tokens.rest]; exact inside)) (Nat.zero_le _)
      (ReadState.store_drop s₁) (ReadState.store_drop s₂) trivial
  · exact .of_drop_expected holds tokens inside _ _ _

theorem skipParenthesized :
    K.Reads w n anything Parser.skipParenthesized Parser.skipParenthesized :=
  (require (by decide)).bind_any fun _ _ _ _ _ =>
    (skipBalanced _).bind fun _ _ _ _ _ =>
      require_last (by decide)

/-- A question about the catalogs has corresponding answers if the coupling says so. -/
theorem view {f g : Catalog → α} (h : ∀ w', K.Later w w' → K.holds w' →
      V w' (f w'.first.catalog) (g w'.second.catalog)) :
    K.Keeps w n V (Parser.view f) (Parser.view g) := by
  intro s₁ s₂ _ _ _ holds later
  exact .of_here holds rfl (h _ later holds)

end Sim

end Tokens

end Coupling

end IdlCatalog
