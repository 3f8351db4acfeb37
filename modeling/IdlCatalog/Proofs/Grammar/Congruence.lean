/-
# IdlCatalog.Proofs.Grammar.Congruence — relations of parsers that the grammar respects

What a reading does with its tokens is often a property of its smallest steps, which every way to
put parsers together hands on. A `Congruence` is such a property, or a relation of two parsers, with
one clause for each of these ways. The productions are gone through once, for every congruence.

Two indices say what a clause may rely on. A parser may be asked about only where the next token is
not the end of the input; and it matters for some properties whether a parser may have looked at the
token after its end.

A token is refused only where it has been looked at, and only for what it is not: `Unmet` says of
each expectation what that means.

## The two indices

The first, `inside`, marks parsers that may only be asked about where a token is left. A production
that has looked at its first word and found a keyword goes on under this mark, and `ifAt` is the
rule that grants it. The second is the `Ending`. A parser that ends `looking` may ask for the token
after its end. One that ends `still` does not, and need not read anything. One that ends `closing`
does not look either and reads a token at least, so it cannot be cut short before its last token.
Every declaration ends `closing`, and so what it comes to does not depend on what follows it.

Four relations are congruences: to read on from where one stands and refuse a token only for what it
is not; to do the same on two streams up to where they part; to come to the same in front of another
tail; and to take the tokens one by one. Each proves the clauses of the structure and gets every
production.
-/
import IdlCatalog.Proofs.Grammar.Replaying

namespace IdlCatalog

variable {α β : Type}

/-- How a parser ends: it may look at the token after its end, or it does not, or it does not and
has to read a token. -/
inductive Ending
  | looking
  | still
  | closing
deriving DecidableEq

/-! ## Refused tokens

An expectation is a promise to the reader of a message: the token shown is not what was expected.
For a category or a keyword that is plain. The phrases stand for several categories or words at
once, and `Unmet` spells out for each which ones. -/

/-- The words after which a declaration that attributes may stand before is known. -/
def Grammar.attributedWords : List String :=
  ["interface", "class", "callback", "exception", "dictionary"]

/-- The token is not what was expected. The grammar has six phrases for what one token does not
name. -/
inductive Expectation.Unmet (t : Token) : Expectation → Prop
  | token {category : Category} (other : t.category ≠ category) : Unmet t (.token category)
  | keyword {word : String} (other : ¬(t.category = .word ∧ t.text = word)) :
      Unmet t (.keyword word)
  | attribute (word : t.category = .word)
      (unknown : ∀ entry ∈ AttributeAction.table, entry.1 ≠ t.text) : Unmet t .knownAttribute
  | separator (comma : t.category ≠ .comma) (close : t.category ≠ .parenthesisClose) :
      Unmet t (.phrase "`,` or `)`")
  | sectionEnd (ends : t.category = .eof) : Unmet t (.phrase "end of bracketed section")
  | balance (closes : t.category.closesGroup = true) : Unmet t (.phrase "balanced brackets")
  | value (other : t.category ∉ [.parenthesisOpen, .word, .string, .number]) :
      Unmet t (.phrase "extended attribute value")
  | attributed (other : Grammar.attributedWords.any t.isKeyword = false) :
      Unmet t (.phrase "interface, callback, exception or dictionary")
  | declaration (other : t.category ∉ [.word, .bracketOpen]) :
      Unmet t (.phrase
        "dictionary, callback, exception, interface, typedef, valuetype, module or const")

/-- A word that was asked for and is not there. -/
theorem Expectation.Unmet.of_isKeyword {t : Token} {word : String}
    (other : ¬t.isKeyword word = true) : Unmet t (.keyword word) :=
  .keyword (by simpa [Token.isKeyword] using other)

/-- A name that the table has no meaning for is not in it. -/
theorem Expectation.Unmet.of_ofName? {t : Token} (word : t.category = .word)
    (unknown : AttributeAction.ofName? t.text = none) : Unmet t .knownAttribute := by
  refine .attribute word ?_
  rw [AttributeAction.ofName?, Option.map_eq_none_iff, List.find?_eq_none] at unknown
  exact fun entry inside => by simpa using unknown entry inside

namespace Parser

/-- What may be done after a look at a token: something of the relation, or the token is refused
for what it is not. -/
inductive OrRefused (R : Parser α → Parser α → Prop) (t : Token) : Parser α → Parser α → Prop
  | goOn {p q : Parser α} (h : R p q) : OrRefused R t p q
  | refuse {expectation : Expectation} (unmet : expectation.Unmet t) :
      OrRefused R t (expected expectation) (expected expectation)

/-- A choice where either way goes on or refuses. -/
theorem OrRefused.ite {R : Parser α → Parser α → Prop} {t : Token} {c : Prop} [Decidable c]
    {p q p' q' : Parser α} (yes : c → OrRefused R t p q) (no : ¬c → OrRefused R t p' q') :
    OrRefused R t (if c then p else p') (if c then q else q') := by
  split
  · exact yes ‹_›
  · exact no ‹_›

/-! ## Single tokens

All parsers of one token are instances of `atToken`, which looks at the token and then reads it,
leaves it or refuses it. A congruence has one clause for it, and the equations below bring the
parsers of the grammar into that form. -/

/-- What is done at a token: it is read or not, with an answer, or refused. -/
def atToken (f : Token → Except Expectation (α × Bool)) : Parser α := fun l s =>
  match f s.peek with
  | .ok (a, true) => (.ok a, s.advance)
  | .ok (a, false) => (.ok a, s)
  | .error expectation => expected expectation l s

/-- What the next token says. -/
def look (f : Token → α) : Parser α := fun _ s => (.ok (f s.peek), s)

/-- To look is to leave the token. -/
theorem look_eq (f : Token → α) : look f = atToken fun t => .ok (f t, false) := rfl

/-- To accept a keyword is to read the token exactly where it is that word. -/
theorem acceptKeyword_eq (keyword : String) :
    acceptKeyword keyword = atToken fun t => .ok (t.isKeyword keyword, t.isKeyword keyword) := by
  funext l s
  rw [acceptKeyword, atToken]
  split <;> simp_all

/-- To accept a category is to read the token exactly where it is of that category. -/
theorem accept_eq (category : Category) :
    accept category = atToken fun t =>
      .ok (decide (t.category = category), decide (t.category = category)) := by
  funext l s
  rw [accept, atToken]
  by_cases here : s.peek.category = category
  · simp [here]
  · simp [here]

/-- To require a category is to read the token or to refuse it. -/
theorem require_eq (category : Category) :
    require category = atToken fun t =>
      if t.category = category then .ok (t, true) else .error (.token category) := by
  funext l s
  rw [require, atToken]
  by_cases here : s.peek.category = category
  · simp only [here, if_true]
    rfl
  · simp only [here, if_false]

/-- To require a keyword is to read the token or to refuse it. -/
theorem requireKeyword_eq (keyword : String) :
    requireKeyword keyword = atToken fun t =>
      if t.isKeyword keyword then .ok ((), true) else .error (.keyword keyword) := by
  funext l s
  rw [requireKeyword, atToken]
  by_cases here : s.peek.isKeyword keyword = true
  · simp only [here, if_true]
  · simp only [here, if_false, Bool.false_eq_true]

/-- A keyword is not the end of the input. -/
theorem category_of_isKeyword {t : Token} {keyword : String} (h : t.isKeyword keyword = true) :
    t.category ≠ .eof := by
  intro eof
  simp [Token.isKeyword, eof] at h

/-- A run is refused at the token that it stops at: at a bracket that closes nothing, or at the end
of the input. -/
theorem balancedRun_refused (stops : List Category) (depth : Nat) (tokens : List Token)
    {expectation : Expectation} (refused : (balancedRun stops depth tokens).2 = some expectation) :
    expectation.Unmet
      ((tokens.drop (balancedRun stops depth tokens).1).head?.getD Token.endOfInput) := by
  obtain ⟨row, rest, found, rfl, -, ends, run⟩ := balancedRun_spec stops depth tokens
  rw [run] at refused ⊢
  obtain rfl : found = some expectation := refused
  rw [List.drop_left]
  cases ends with
  | unmatched _ _ closes => exact .balance closes
  | endOfInput _ eof => exact .sectionEnd eof

/-! ## Congruences -/

/-- A relation of parsers with the clauses by which it goes from parts to the whole. -/
structure Congruence where
  /-- The relation. `inside` restricts it to states where the next token does not end the input. -/
  Rel : (inside : Bool) → (e : Ending) → {α : Type} → Parser α → Parser α → Prop
  mono : ∀ {inside inside' e} {α : Type} {p q : Parser α}, Rel inside e p q →
    (inside = true → inside' = true) → Rel inside' e p q
  weaken : ∀ {inside e} {α : Type} {p q : Parser α}, Rel inside e p q → Rel inside .looking p q
  still : ∀ {inside} {α : Type} {p q : Parser α}, Rel inside .closing p q → Rel inside .still p q
  /-- If the first part may have looked ahead, the second one may as well, or it reads a token. -/
  sequence : ∀ {inside e₁ e} {α β : Type} {p q : Parser α} {f g : α → Parser β},
    (e₁ = .looking → e ≠ .still) → Rel inside e₁ p q → (∀ a, Rel false e (f a) (g a)) →
      Rel inside e (p >>= f) (q >>= g)
  finish : ∀ {inside} {α β : Type} {p q : Parser α} {f g : α → Parser β},
    Rel inside .closing p q → (∀ a, Rel false .still (f a) (g a)) →
      Rel inside .closing (p >>= f) (q >>= g)
  fix : ∀ {inside e} {α : Type} {body body' : Parser α → Parser α},
    (∀ {self self'}, Rel inside e self self' → Rel inside e (body self) (body' self')) →
      Rel inside e (Parser.fix body) (Parser.fix body')
  neutral : ∀ {α : Type} {p : Parser α}, p.Neutral → Rel false .still p p
  /-- What is done after a look at the next token knows whether it ends the input, and may refuse
  it. -/
  inspect : ∀ {inside e} {α β : Type} (f : Token → α) {k k' : α → Parser β}, e ≠ .still →
    (∀ t, OrRefused (Rel (inside || decide (t.category ≠ .eof)) e) t (k (f t)) (k' (f t))) →
      Rel inside e (look f >>= k) (look f >>= k')
  atToken : ∀ {α : Type} (f : Token → Except Expectation (α × Bool)),
    (∀ t a, f t = .ok (a, true) → t.category ≠ .eof) →
    (∀ t expectation, f t = .error expectation → expectation.Unmet t) →
      Rel false .looking (Parser.atToken f) (Parser.atToken f)
  /-- What is refused at the end of the input and read everywhere else. -/
  atTokenClose : ∀ {α : Type} (f : Token → Except Expectation (α × Bool)),
    (∀ t, t.category = .eof → ∃ expectation, f t = .error expectation) →
    (∀ t expectation, f t = .error expectation → expectation.Unmet t) →
      Rel false .closing (Parser.atToken f) (Parser.atToken f)
  next : Rel true .looking Parser.next Parser.next
  /-- Of the semicolon that may follow an interface it is only asked whether it is there. -/
  acceptSemicolon : Rel false .still (accept .semicolon) (accept .semicolon)
  choose : ∀ {category} {α : Type} {p q p' q' : Parser α}, category ≠ .eof →
    Rel false .still p q → Rel false .closing p' q' →
      Rel false .closing (accept category >>= fun found => if found then p else p')
        (accept category >>= fun found => if found then q else q')
  namedAttribute :
    (∀ action, Rel false .looking (Grammar.attributeEffect action)
      (Grammar.attributeEffect action)) →
    Rel false .looking Grammar.namedAttribute Grammar.namedAttribute
  rawUntilSemicolon : Rel false .looking Parser.rawUntilSemicolon Parser.rawUntilSemicolon
  skipBalanced : ∀ stops,
    Rel false .looking (Parser.skipBalanced stops) (Parser.skipBalanced stops)

namespace Congruence.Rel

variable {R : Congruence} {inside : Bool} {e e₁ : Ending} {p q : Parser α} {f g : α → Parser β}

/-- What holds without a token left holds with one. -/
theorem anywhere (h : R.Rel false e p q) : R.Rel inside e p q := R.mono h nofun

/-- A parser may be thought to have looked at the token after it. -/
theorem weaken (h : R.Rel inside e p q) : R.Rel inside .looking p q := R.weaken h

/-- A parser that ends on its own last token does not look further. -/
theorem still (h : R.Rel inside .closing p q) : R.Rel inside .still p q := R.still h

/-! ### Sequencing

The ending of a sequence is that of its second part, unless this part may do nothing and the first
one has looked ahead already; that is `sequence`. A part that reads a token followed by parts that
stay still is as closed as the first part; that is `finish`. -/

theorem bind (hp : R.Rel inside e₁ p q) (hf : ∀ a, R.Rel false .looking (f a) (g a)) :
    R.Rel inside .looking (p >>= f) (q >>= g) :=
  R.sequence (fun _ => by decide) hp hf

/-- A sequence that ends with a token of its own. -/
theorem close (hp : R.Rel inside e₁ p q) (hf : ∀ a, R.Rel false .closing (f a) (g a)) :
    R.Rel inside .closing (p >>= f) (q >>= g) :=
  R.sequence (fun _ => by decide) hp hf

/-- A sequence after whose first part no token is looked at. -/
theorem finish (hp : R.Rel inside .closing p q) (hf : ∀ a, R.Rel false .still (f a) (g a)) :
    R.Rel inside .closing (p >>= f) (q >>= g) :=
  R.finish hp hf

theorem both (hp : R.Rel inside .still p q) (hf : ∀ a, R.Rel false .still (f a) (g a)) :
    R.Rel inside .still (p >>= f) (q >>= g) :=
  R.sequence (fun looking => absurd looking (by decide)) hp hf

theorem ite {c : Prop} [Decidable c] {p' q' : Parser α} (yes : c → R.Rel inside e p q)
    (no : ¬c → R.Rel inside e p' q') :
    R.Rel inside e (if c then p else p') (if c then q else q') := by
  split
  · exact yes ‹_›
  · exact no ‹_›

/-- A choice that is made by reading a token, or without it by what follows. -/
theorem choose {category : Category} {p' q' : Parser α} (h : category ≠ .eof)
    (yes : R.Rel false .still p q) (no : R.Rel false .closing p' q') :
    R.Rel false .closing (Parser.accept category >>= fun found => if found then p else p')
      (Parser.accept category >>= fun found => if found then q else q') :=
  R.choose h yes no

/-! ### Actions on the catalog

A neutral parser does not touch the tokens. So it is related to itself under every congruence, and
it keeps the ending of what stands before it. -/

theorem neutral_still {p : Parser α} (neutral : p.Neutral) : R.Rel false .still p p :=
  R.neutral neutral

theorem neutral {p : Parser α} (neutral : p.Neutral) : R.Rel false .looking p p :=
  (neutral_still neutral).weaken

theorem pure_still (a : α) : R.Rel false .still (Pure.pure a) (Pure.pure a) :=
  neutral_still (.pure a)

theorem pure (a : α) : R.Rel false .looking (Pure.pure a) (Pure.pure a) := neutral (.pure a)

theorem view (f : Catalog → α) : R.Rel false .looking (Parser.view f) (Parser.view f) :=
  neutral (.view f)

/-! ### Recursion

`fix` is a clause of its own in the structure: to say something of all calls of a recursion takes an
induction on the tokens that are left, and each relation does it its own way. Loops are recursions.
-/

theorem fix {body body' : Parser α → Parser α}
    (h : ∀ {self self'}, R.Rel inside e self self' →
      R.Rel inside e (body self) (body' self')) :
    R.Rel inside e (Parser.fix body) (Parser.fix body') :=
  R.fix h

/-- A loop, as its step. -/
theorem repeatWhile {step step' : Parser Bool} (h : R.Rel false .looking step step') :
    R.Rel false .looking (Parser.repeatWhile step) (Parser.repeatWhile step') :=
  fix fun calls => h.bind fun _ => .ite (fun _ => calls) fun _ => .pure ()

/-- A loop that ends with a token of its own. -/
theorem repeatWhile_close {step step' : Parser Bool} (h : R.Rel false .closing step step') :
    R.Rel false .closing (Parser.repeatWhile step) (Parser.repeatWhile step') :=
  fix fun calls => h.finish fun _ => .ite (fun _ => calls.still) fun _ => .pure_still ()

theorem collect {step : Parser (Option α)} (h : R.Rel false .looking step step) :
    R.Rel false .looking (Parser.collect step) (Parser.collect step) :=
  fix fun calls => h.bind fun answer => by
    cases answer with
    | none => exact .pure []
    | some a => exact calls.bind fun as => .pure (a :: as)

theorem sepBy {item item' : Parser α} {more : Parser Bool} (h : R.Rel false e item item')
    (h' : R.Rel false .looking more more) :
    R.Rel false .looking (Parser.sepBy item more) (Parser.sepBy item' more) :=
  fix fun calls => h.bind fun a => h'.bind fun _ =>
    .ite (fun _ => calls.bind fun as => .pure (a :: as)) fun _ => .pure [a]

/-! ### Tokens -/

theorem look (f : Token → α) : R.Rel false .looking (Parser.look f) (Parser.look f) := by
  rw [look_eq]
  exact R.atToken _ (fun t a eq => by simp at eq) fun t expectation eq => by cases eq

theorem peek : R.Rel false .looking Parser.peek Parser.peek := look id

theorem peekCategory : R.Rel false .looking Parser.peekCategory Parser.peekCategory :=
  look (·.category)

theorem atKeyword (keyword : String) :
    R.Rel false .looking (Parser.atKeyword keyword) (Parser.atKeyword keyword) :=
  look (·.isKeyword keyword)

theorem atAnyKeyword (keywords : List String) :
    R.Rel false .looking (Parser.atAnyKeyword keywords) (Parser.atAnyKeyword keywords) :=
  look fun t => keywords.any t.isKeyword

theorem next (h : inside = true) : R.Rel inside .looking Parser.next Parser.next :=
  R.mono R.next fun _ => h

theorem acceptKeyword (keyword : String) :
    R.Rel false .looking (Parser.acceptKeyword keyword) (Parser.acceptKeyword keyword) := by
  rw [acceptKeyword_eq]
  refine R.atToken _ (fun t a read => ?_) fun t expectation eq => by cases eq
  obtain ⟨-, read⟩ := Prod.mk.inj (Except.ok.inj read)
  exact category_of_isKeyword read

theorem accept {category : Category} (h : category ≠ .eof) :
    R.Rel false .looking (Parser.accept category) (Parser.accept category) := by
  rw [accept_eq]
  refine R.atToken _ (fun t a read => ?_) fun t expectation eq => by cases eq
  obtain ⟨-, read⟩ := Prod.mk.inj (Except.ok.inj read)
  exact of_decide_eq_true read ▸ h

theorem require {category : Category} (h : category ≠ .eof) :
    R.Rel false .closing (Parser.require category) (Parser.require category) := by
  rw [require_eq]
  refine R.atTokenClose _ (fun t eof => ⟨_, if_neg ?_⟩) fun t expectation refused => ?_
  · rw [eof]
    exact Ne.symm h
  · split at refused
    · cases refused
    · next other =>
      cases refused
      exact .token other

theorem requireKeyword (keyword : String) :
    R.Rel false .closing (Parser.requireKeyword keyword) (Parser.requireKeyword keyword) := by
  rw [requireKeyword_eq]
  refine R.atTokenClose _ (fun t eof => ⟨_, if_neg fun word => category_of_isKeyword word eof⟩)
    fun t expectation refused => ?_
  split at refused
  · cases refused
  · next other =>
    cases refused
    exact .of_isKeyword other

theorem identifier : R.Rel false .closing Parser.identifier Parser.identifier :=
  (require (by decide)).finish fun t => .pure_still t.text

/-! ### Looking first

Where a production chooses by its next token, every branch knows what that token is. These rules
hand the knowledge on: the branch of a keyword may use that a token is left, and the last branch, a
refusal, that none of the alternatives was there. -/

/-- After a look at the next token. -/
theorem lookingAt {k k' : Token → Parser β} (h : e ≠ .still)
    (hk : ∀ t, OrRefused (R.Rel (inside || decide (t.category ≠ .eof)) e) t (k t) (k' t)) :
    R.Rel inside e (Parser.peek >>= k) (Parser.peek >>= k') :=
  R.inspect id h hk

/-- After a look at the category of the next token. -/
theorem atCategory {k k' : Category → Parser β} (h : e ≠ .still)
    (hk : ∀ t : Token, OrRefused (R.Rel (inside || decide (t.category ≠ .eof)) e) t
      (k t.category) (k' t.category)) :
    R.Rel inside e (Parser.peekCategory >>= k) (Parser.peekCategory >>= k') :=
  R.inspect (·.category) h hk

/-- After a look for something that is not the end of the input. -/
theorem ifAt {test : Token → Bool} {k k' : Bool → Parser β} (h : e ≠ .still)
    (other : ∀ t, test t = true → t.category ≠ .eof)
    (hk : ∀ found, R.Rel (inside || found) e (k found) (k' found)) :
    R.Rel inside e (Parser.look test >>= k) (Parser.look test >>= k') := by
  refine R.inspect test h fun t => .goOn (R.mono (hk _) fun found => ?_)
  rcases Bool.or_eq_true_iff.1 found with before | here
  · simp [before]
  · simp [other t here]

theorem ifKeyword {keyword : String} {k k' : Bool → Parser β} (h : e ≠ .still)
    (hk : ∀ found, R.Rel (inside || found) e (k found) (k' found)) :
    R.Rel inside e (Parser.atKeyword keyword >>= k) (Parser.atKeyword keyword >>= k') :=
  ifAt h (fun _ => category_of_isKeyword) hk

theorem ifAnyKeyword {keywords : List String} {k k' : Bool → Parser β} (h : e ≠ .still)
    (hk : ∀ found, R.Rel (inside || found) e (k found) (k' found)) :
    R.Rel inside e (Parser.atAnyKeyword keywords >>= k) (Parser.atAnyKeyword keywords >>= k') := by
  have other : ∀ t : Token, keywords.any t.isKeyword = true → t.category ≠ .eof := by
    intro t found
    obtain ⟨keyword, -, word⟩ := List.any_eq_true.1 found
    exact category_of_isKeyword word
  exact ifAt h other hk

/-! ### Skipped tokens

Runs that are skipped without being read as grammar: up to a semicolon, or between brackets. They
are not put together from smaller parsers, for how far they go is found by a function on lists of
tokens. So the structure has a clause for each. -/

theorem acceptSemicolon :
    R.Rel false .still (Parser.accept .semicolon) (Parser.accept .semicolon) :=
  R.acceptSemicolon

theorem rawUntilSemicolon :
    R.Rel false .looking Parser.rawUntilSemicolon Parser.rawUntilSemicolon :=
  R.rawUntilSemicolon

theorem skipBalanced (stops : List Category) :
    R.Rel false .looking (Parser.skipBalanced stops) (Parser.skipBalanced stops) :=
  R.skipBalanced stops

theorem skipParenthesized :
    R.Rel false .closing Parser.skipParenthesized Parser.skipParenthesized :=
  (require (by decide)).close fun _ => (skipBalanced _).close fun _ =>
    (require (by decide)).finish fun _ => .pure_still ()

end Congruence.Rel

end Parser

end IdlCatalog
