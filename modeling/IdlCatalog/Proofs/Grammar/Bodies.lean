/-
# IdlCatalog.Proofs.Grammar.Bodies — entry by entry through a body

A body is read one entry after the other, and each entry is read to its end without a look at what
follows. So entries that are read one by one are read in a row wherever they stand, and the body
goes on after them as if it started there.

No entry starts with a token other than a word, a bracket or a parenthesis; the loop over a body
therefore enters it where an entry stands.

The statements are about single runs, from given states, and not about congruences. A body is
described by its entries because the results that speak of bodies do so: they cut a body in two, put
entries in another order, or write them down one after the other.
-/
import IdlCatalog.Proofs.Grammar.Following
import IdlCatalog.Proofs.Grammar.Meaning
import IdlCatalog.Proofs.Grammar.Tails

namespace IdlCatalog

open Grammar

variable {α β : Type}

/-! ## What is read

A small vocabulary for what a parser does at the next token. `Passes` gives an answer and stays;
`Takes` reads the token; `Refuses` ends the reading there. Sequences of these are computed from the
front, and a run over known tokens comes down to their categories and spellings. -/

/-- The token that is read next, and what is left after it. -/
theorem ReadState.peek_of_rest {s : ReadState} {t : Token} {others : List Token}
    (rest : s.rest = t :: others) : s.peek = t ∧ s.advance.rest = others := by
  rw [ReadState.rest_advance, ReadState.peek, rest]
  exact ⟨rfl, rfl⟩

namespace Parser

/-- Answers without reading or changing anything. -/
def Passes (p : Parser α) (s : ReadState) (a : α) : Prop := ∀ l, p l s = (.ok a, s)

/-- Reads one token, changes nothing and answers. -/
def Takes (p : Parser α) (s : ReadState) (a : α) : Prop := ∀ l, p l s = (.ok a, s.advance)

/-- Fails without reading or changing anything. -/
def Refuses (p : Parser α) (s : ReadState) : Prop := ∃ x, ∀ l, p l s = (.error x, s)

variable {s : ReadState} {a : α} {b : β} {p : Parser α} {f : α → Parser β}

/-- After an answer without a token the rest of the sequence starts at the same place. -/
theorem Passes.bind_apply (h : p.Passes s a) (l : LibraryId) : (p >>= f) l s = f a l s := by
  rw [Parser.bind_apply, h]

theorem Passes.bind (h : p.Passes s a) (hf : (f a).Passes s b) : (p >>= f).Passes s b :=
  fun l => (h.bind_apply l).trans (hf l)

/-- A question comes before a refusal. -/
theorem Passes.refuses (h : p.Passes s a) (hf : (f a).Refuses s) : (p >>= f).Refuses s := by
  obtain ⟨x, run⟩ := hf
  exact ⟨x, fun l => (h.bind_apply l).trans (run l)⟩

/-- Nothing follows a refusal. -/
theorem Refuses.bind (h : p.Refuses s) : (p >>= f).Refuses s := by
  obtain ⟨x, run⟩ := h
  exact ⟨x, fun l => by rw [Parser.bind_apply, run]⟩

theorem Takes.bind_apply (h : p.Takes s a) (l : LibraryId) :
    (p >>= f) l s = f a l s.advance := by
  rw [Parser.bind_apply, h]

/-- The parser comes to no answer. -/
def Fails (p : Parser α) (l : LibraryId) (s : ReadState) : Prop := ∃ e u, p l s = (.error e, u)

/-- What fails in its first part fails. -/
theorem Fails.bind {l : LibraryId} (h : p.Fails l s) : (p >>= f).Fails l s := by
  obtain ⟨e, u, run⟩ := h
  exact ⟨e, u, by rw [Parser.bind_apply, run]⟩

theorem Fails.of_apply {q : Parser α} {l : LibraryId} {u : ReadState} (same : q l u = p l s)
    (h : p.Fails l s) : q.Fails l u := by
  rwa [Fails, same]

theorem Refuses.fails (h : p.Refuses s) (l : LibraryId) : p.Fails l s := by
  obtain ⟨e, run⟩ := h
  exact ⟨e, s, run l⟩

/-- A keyword that is there is read. -/
theorem takes_acceptKeyword {keyword : String} (here : s.peek.isKeyword keyword = true) :
    (acceptKeyword keyword).Takes s true :=
  fun _ => if_pos here

theorem takes_requireKeyword {keyword : String} (here : s.peek.isKeyword keyword = true) :
    (requireKeyword keyword).Takes s () :=
  fun _ => if_pos here

/-- A category that is there is read. -/
theorem takes_require {category : Category} (here : s.peek.category = category) :
    (require category).Takes s s.peek :=
  fun _ => if_pos here

/-- A word is read as a name. -/
theorem takes_identifier (here : s.peek.category = .word) :
    identifier.Takes s s.peek.text :=
  fun l => (takes_require here).bind_apply l

theorem passes_look (test : Token → α) (s : ReadState) : (look test).Passes s (test s.peek) :=
  fun _ => rfl

/-- A category that is not there is passed by. -/
theorem passes_accept {category : Category} (other : s.peek.category ≠ category) :
    (accept category).Passes s false :=
  fun _ => if_neg other

theorem isKeyword_of_category {t : Token} (other : t.category ≠ .word) (keyword : String) :
    t.isKeyword keyword = false := by
  simp [Token.isKeyword, other]

/-- A keyword that is not there is passed by. -/
theorem passes_acceptKeyword {keyword : String} (other : s.peek.isKeyword keyword = false) :
    (acceptKeyword keyword).Passes s false :=
  fun _ => if_neg (by simp [other])

theorem passes_acceptRaises (other : s.peek.category ≠ .word) : acceptRaises.Passes s false :=
  (passes_acceptKeyword (isKeyword_of_category other _)).bind
    (passes_acceptKeyword (isKeyword_of_category other _))

/-- A category that is not there is refused. -/
theorem refuses_require {category : Category} (other : s.peek.category ≠ category) :
    (require category).Refuses s :=
  ⟨_, fun _ => if_neg other⟩

/-- What is no word is no name. -/
theorem refuses_identifier (other : s.peek.category ≠ .word) : identifier.Refuses s :=
  (refuses_require other).bind

/-! ### Rounds of loops -/

section Rounds

variable {l : LibraryId} {u : ReadState} {x : Failure Fault}

section Collect

variable {step : Parser (Option α)}

/-- A loop goes on where its step gives an answer and fewer tokens are left then. -/
theorem collect_some (first : step l s = (.ok (some a), u)) (fewer : u.left < s.left) :
    collect step l s = (collect step >>= fun as => pure (a :: as)) l u := by
  rw [collect, fix_apply, Parser.bind_apply, first]
  dsimp only
  rw [Parser.bind_apply, Parser.bind_apply, below, if_pos fewer]

/-- A loop ends with the round that finds nothing. -/
theorem collect_none (first : step l s = (.ok none, u)) : collect step l s = (.ok [], u) := by
  rw [collect, fix_apply, Parser.bind_apply, first]
  rfl

/-- A loop fails with the round that fails. -/
theorem collect_error (first : step l s = (.error x, u)) : collect step l s = (.error x, u) := by
  rw [collect, fix_apply, Parser.bind_apply, first]

theorem passes_collect (h : step.Passes s none) : (collect step).Passes s [] :=
  fun l => collect_none (h l)

end Collect

section RepeatWhile

variable {step : Parser Bool}

theorem repeatWhile_true (first : step l s = (.ok true, u)) (fewer : u.left < s.left) :
    repeatWhile step l s = repeatWhile step l u := by
  rw [repeatWhile, fix_apply, Parser.bind_apply, first]
  dsimp only
  rw [if_pos rfl, below, if_pos fewer]

theorem repeatWhile_error (first : step l s = (.error x, u)) :
    repeatWhile step l s = (.error x, u) := by
  rw [repeatWhile, fix_apply, Parser.bind_apply, first]

theorem passes_repeatWhile (h : step.Passes s false) : (repeatWhile step).Passes s () := by
  intro l
  rw [repeatWhile, fix_apply]
  exact h.bind_apply l

end RepeatWhile

end Rounds

end Parser

open IdlCatalog.Parser

/-! ## The first token of an entry

Entries start with few categories of tokens. From a token of any other category, called strange
here, every production of an entry is refused before it has read anything. -/

/-- Whether an entry of a body may start with a token of the category. -/
def Category.startsEntry : Category → Bool
  | .word | .bracketOpen | .parenthesisOpen => true
  | _ => false

section Starts

variable {s : ReadState} (strange : s.peek.category.startsEntry = false)

include strange

/-- A strange token has none of the categories that an entry starts with. -/
theorem ne_of_strange {category : Category} (starts : category.startsEntry = true) :
    s.peek.category ≠ category := by
  rintro rfl
  simp [starts] at strange

/-- A strange token is no keyword. -/
theorem strange_keyword (keyword : String) : s.peek.isKeyword keyword = false :=
  isKeyword_of_category (ne_of_strange strange rfl) keyword

theorem refuses_typeName : typeName.Refuses s := by
  have segment : nameSegment.Refuses s :=
    (passes_acceptKeyword (strange_keyword strange _)).refuses <|
      (passes_acceptKeyword (strange_keyword strange _)).refuses <|
        refuses_identifier (ne_of_strange strange rfl)
  have last : scopedName.Refuses s := by
    obtain ⟨x, run⟩ := segment
    refine ⟨x, fun l => ?_⟩
    rw [scopedName, fix_apply, Parser.bind_apply, run]
  exact last.bind

/-- No type starts with a strange token. -/
theorem refuses_typeReference : typeReference.Refuses s := by
  obtain ⟨x, run⟩ := refuses_typeName strange
  refine ⟨x, fun l => ?_⟩
  have open_ : s.peek.category ≠ .parenthesisOpen := ne_of_strange strange rfl
  rw [typeReference, fix_apply, typeReferenceWith, Parser.bind_apply]
  simp only [peekCategory, open_, if_false]
  rw [Parser.bind_apply, run]

theorem refuses_dictionaryEntry (t : TypeId) : (dictionaryEntry t).Refuses s :=
  (passes_repeatWhile ((passes_accept (ne_of_strange strange rfl)).bind fun _ => rfl)).refuses <|
    (passes_acceptKeyword (strange_keyword strange _)).refuses <|
      (refuses_typeReference strange).bind

theorem passes_atAnyKeyword (keywords : List String) : (atAnyKeyword keywords).Passes s false := by
  have none : keywords.any s.peek.isKeyword = false :=
    List.any_eq_false.2 fun keyword _ => by simp [strange_keyword strange keyword]
  exact none ▸ passes_look (fun t => keywords.any t.isKeyword) s

theorem passes_atKeyword (keyword : String) : (atKeyword keyword).Passes s false :=
  strange_keyword strange keyword ▸ passes_look (·.isKeyword keyword) s

theorem refuses_operation (modifiers : Modifiers) : (operation modifiers).Refuses s := by
  have specials : (collect specialKeyword).Passes s [] :=
    passes_collect ((passes_atAnyKeyword strange _).bind fun _ => rfl)
  have result : resultType.Refuses s :=
    (passes_acceptKeyword (strange_keyword strange _)).refuses (refuses_typeReference strange).bind
  exact specials.refuses result.bind

/-- No member of an interface starts with a strange token. -/
theorem refuses_interfaceMember (t : TypeId) : (interfaceMember t).Refuses s := by
  have attributes : memberAttributes.Passes s (unionAll []) :=
    (passes_collect ((passes_accept (ne_of_strange strange rfl)).bind fun _ => rfl)).bind
      fun _ => rfl
  have word (keyword : String) : (acceptKeyword keyword).Passes s false :=
    passes_acceptKeyword (strange_keyword strange keyword)
  refine attributes.refuses <| (word _).refuses <| (word _).refuses <| (word _).refuses ?_
  exact (passes_atAnyKeyword strange _).refuses <| (passes_atKeyword strange _).refuses <|
    (word _).refuses <| (passes_atKeyword strange _).refuses <| (word _).refuses
      (refuses_operation strange _).bind

end Starts

/-! ## The loop over a body

Each round finds the brace that closes the body, is refused at the end of the input, or reads an
entry. Where an entry can start, the round reads one. -/

/-- A brace ends the body. -/
theorem bodyOf_close {entry : Parser Unit} {l : LibraryId} {s : ReadState}
    (close : s.peek.category = .braceClose) : bodyOf entry l s = (.ok (), s.advance) := by
  rw [bodyOf, repeatWhile, fix_apply, Parser.bind_apply, Parser.bind_apply, accept, if_pos close]
  rfl

/-- One entry, and then the others. -/
theorem bodyOf_apply {entry : Parser Unit} {l : LibraryId} {s : ReadState}
    (starts : s.peek.category.startsEntry = true) :
    bodyOf entry l s = (entry >>= fun _ => below s.left (bodyOf entry)) l s := by
  have category {category : Category} (strange : category.startsEntry = false) :
      s.peek.category ≠ category := by
    rintro rfl
    simp [strange] at starts
  rw [bodyOf, repeatWhile, fix_apply, Parser.bind_apply, Parser.bind_apply, accept,
    if_neg (category rfl)]
  dsimp only
  rw [if_neg (by decide), Parser.bind_apply, peekCategory]
  dsimp only
  rw [if_neg (category rfl), Parser.bind_apply, Parser.bind_apply]
  cases entry l s with
  | mk answer t => cases answer <;> rfl

/-! ## Entries in a row

`Entries` says of tokens that they are entries, each read on its own up to the end of its own
tokens, with the catalog handed from one to the next. That each is closed lets them be read in a
row, in a body that goes on with something else. -/

/-- The tokens are entries of a body, one after the other: from one catalog to another, each of them
is read to the end of its own tokens. -/
inductive Entries (entry : Parser Unit) (l : LibraryId) : Catalog → List Token → Catalog → Prop
  | nil {c : Catalog} : Entries entry l c [] c
  | cons {c d : Catalog} {first others : List Token} {u : ReadState}
      (read : entry l (ReadState.start first c) = (.ok (), u)) (whole : u.rest = [])
      (more : Entries entry l u.catalog others d) : Entries entry l c (first ++ others) d

/-- A parser for the entries of a body of the type: it ends with a token of its own, it starts with
a word, a bracket or a parenthesis, and its actions are those of a declaration about the type. -/
structure IsEntry (t : TypeId) (entry : Parser Unit) : Prop where
  closes : ∀ K : Tails, Parser.Local K .closing entry entry
  starts : ∀ s : ReadState, s.peek.category.startsEntry = false → entry.Refuses s
  follows : ∀ {l : LibraryId} {c : Catalog} {w : Stores} {n : Nat}, c.Readable l →
    (following l c).named w t t → (following l c).Reads w n Coupling.anything entry entry

theorem interfaceMember_isEntry (t : TypeId) : IsEntry t (interfaceMember t) where
  closes K := Congruence.Rel.interfaceMember (R := K.congruence) t
  starts _ strange := refuses_interfaceMember strange t
  follows readable named :=
    Coupling.interfaceMember_reads (following_lawful readable).readings named

theorem dictionaryEntry_isEntry (t : TypeId) : IsEntry t (dictionaryEntry t) where
  closes K := Congruence.Rel.dictionaryEntry (R := K.congruence) t
  starts _ strange := refuses_dictionaryEntry strange t
  follows readable named :=
    Coupling.dictionaryEntry_reads (following_lawful readable).toLawfulActions named

namespace IsEntry

variable {entry : Parser Unit} {t : TypeId} {l : LibraryId} {c d : Catalog}
  {tokens rest : List Token} {s u : ReadState}

/-- What is read as an entry started like one. -/
theorem starts_of_ok (h : IsEntry t entry) (read : entry l s = (.ok (), u)) :
    s.peek.category.startsEntry = true := by
  by_contra strange
  obtain ⟨x, run⟩ := h.starts s (by simpa using strange)
  rw [run] at read
  cases read

/-- Entries in a row start like the first of them. -/
theorem head (h : IsEntry t entry) (entries : Entries entry l c tokens d) :
    tokens = [] ∨ ∃ t others, tokens = t :: others ∧ t.category.startsEntry = true := by
  cases entries with
  | nil => exact .inl rfl
  | @cons _ _ first others u read =>
    have starts := h.starts_of_ok read
    cases first with
    | nil => cases starts
    | cons t first => exact .inr ⟨t, first ++ others, rfl, starts⟩

/-- Entries in a row are read wherever they stand, and the body goes on after them as if it started
there. -/
theorem bodyOf (h : IsEntry t entry) (entries : Entries entry l c tokens d)
    (stands : s.rest = tokens ++ rest) (catalog : s.catalog = c)
    (other : (rest.head?.getD Token.endOfInput).category ≠ .semicolon) :
    ∃ u, u.rest = rest ∧ u.catalog = d ∧ bodyOf entry l s = bodyOf entry l u := by
  induction entries generalizing s with
  | nil => exact ⟨s, stands, catalog, rfl⟩
  | @cons c d first others u read whole more ih =>
    have next : ((others ++ rest).head?.getD Token.endOfInput).category ≠ .semicolon := by
      rcases h.head more with rfl | ⟨t, others, rfl, starts⟩
      · exact other
      · intro semicolon
        simp only [List.cons_append, List.head?_cons, Option.getD_some] at semicolon
        rw [semicolon] at starts
        cases starts
    let K : Tails := ⟨[], others ++ rest, List.forall_mem_nil _, next⟩
    have rel : K.Rel (ReadState.start first c) s :=
      ⟨catalog.symm, first, (List.append_nil _).symm, by rw [stands, List.append_assoc]⟩
    have starts := h.starts_of_ok read
    have nonempty : first ≠ [] := by
      rintro rfl
      cases starts
    have same : s.peek = (ReadState.start first c).peek := by
      obtain ⟨t, first, rfl⟩ := List.exists_cons_of_ne_nil nonempty
      simp [ReadState.peek, stands, ReadState.start]
    have joint := (h.closes K).joint l _ s rel
    rw [bodyOf_apply (same ▸ starts), Parser.bind_apply]
    rw [read] at joint
    generalize entry l s = r at joint
    cases joint with
    | missed _ looking => cases looking
    | @ok _ _ v rel' =>
      obtain ⟨front, left, right⟩ := rel'.rest
      obtain rfl : front = [] := (List.append_eq_nil_iff.1 (left.symm.trans whole)).1
      have fewer : v.left < s.left := by
        have := List.length_pos_iff.2 nonempty
        rw [v.left_eq, s.left_eq, right, stands]
        simp only [List.nil_append, List.length_append, K]
        omega
      obtain ⟨w, done, after, run⟩ := ih right rel'.catalog.symm
      exact ⟨w, done, after, (if_pos fewer).trans run⟩

/-- Entries about a type of the library leave it to the library, with all its entries. -/
theorem keeps (h : IsEntry t entry) (entries : Entries entry l c tokens d)
    (plain : Spelled tokens) (readable : c.Readable l) (owned : c.Owned l t) :
    d.Readable l ∧ d.Owned l t ∧
      ∀ (n : String) (u : TypeId), (c.library l).types[n]? = some u →
        (d.library l).types[n]? = some u := by
  induction entries with
  | nil => exact ⟨readable, owned, fun _ _ => id⟩
  | @cons c d first others u read whole more ih =>
    let start := ReadState.start first c
    have outcome : (following l c).Outcome start start _ _ (entry l start) (entry l start) :=
      (h.follows readable ⟨rfl, owned⟩).outcome ⟨rfl, rfl⟩
        (fun token inside => plain token (List.mem_append_left _ inside))
        ⟨rfl, [], .start, rfl, nofun⟩
    rw [read] at outcome
    cases outcome with
    | ok _ _ _ holds later =>
      obtain ⟨-, history, reading, -⟩ := holds
      have named := later.named (t := t) (u := t) ⟨rfl, owned⟩
      obtain ⟨readable', owned', stays⟩ :=
        ih (fun token inside => plain token (List.mem_append_right _ inside))
          (reading.readable readable) named.2
      exact ⟨readable', owned', fun n v entry => stays n v (reading.entry_stays readable entry)⟩

end IsEntry

end IdlCatalog
