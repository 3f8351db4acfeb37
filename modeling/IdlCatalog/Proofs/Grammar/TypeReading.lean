/-
# IdlCatalog.Proofs.Grammar.TypeReading — a type reference is read to the type it stands for

The tokens of a type reference are read to their end, provided that the token after them does not go
on with the reference, and the answer is a type for which the reference stands. Inner references are
read by the parser that is passed in, so the proof is an induction on the reference.

## Two judgements

`Tells` says of a run from a state that it comes to an answer, leaves a certain rest to be read, and
notes certain events. `Answers` is the case where nothing is noted that would have to be told of;
references to names and questions to the documentation do not count, since what is read from its
tree is described by the declarations in it alone.

Both are statements of total correctness. They compose from the front: what the first parser leaves
is where the second one starts.
-/
import IdlCatalog.Proofs.Grammar.Bodies
import IdlCatalog.Proofs.Grammar.TypeMeaning

namespace IdlCatalog

open Grammar Catalog Lexer IdlCatalog.Parser

variable {α β : Type} {l : LibraryId} {s u : ReadState} {rest rest' : List Token}

/-! ## Answers

The rules of the two judgements, for sequences, for recursions and for the parsers of single tokens
of the vocabulary in `Proofs.Grammar.Bodies`. -/

/-- Whether an event is told of. References to types and questions to providers are not: they say
nothing about what is declared. -/
def Event.isTold : Event → Bool
  | .referenced _ _ | .asked _ _ _ => false
  | _ => true

/-- The events that are told of. -/
def Event.told (es : List Event) : List Event := es.filter isTold

/-- What is told of two rows of events is told of each. -/
theorem Event.told_append (es fs : List Event) : told (es ++ fs) = told es ++ told fs :=
  List.filter_append es fs

/-- The events of which a reading told so far. -/
def ReadState.told (s : ReadState) : List Event := Event.told s.journal.toList

/-- What was told of is part of the store. -/
theorem ReadState.told_congr (same : u.store = s.store) : u.told = s.told :=
  congrArg (fun x : Store => Event.told x.journal.toList) same

/-- To read a token tells of nothing. -/
theorem ReadState.told_advance (s : ReadState) : s.advance.told = s.told :=
  told_congr s.store_advance

namespace Parser

/-- The parser comes to an answer, the events that it tells of, and a catalog as `Q` says, and
leaves `rest` to be read. -/
def Tells (p : Parser α) (l : LibraryId) (s : ReadState) (rest : List Token)
    (Q : α → List Event → Catalog → Prop) : Prop :=
  ∃ a noted u, p l s = (.ok a, u) ∧ u.rest = rest ∧ u.told = s.told ++ noted ∧
    Q a noted u.catalog

/-- The parser comes to an answer and a catalog as `Q` says, and tells of nothing. -/
abbrev Answers (p : Parser α) (l : LibraryId) (s : ReadState) (rest : List Token)
    (Q : α → Catalog → Prop) : Prop :=
  p.Tells l s rest fun a noted d => noted = [] ∧ Q a d

variable {p : Parser α} {f : α → Parser β} {a : α} {Q : α → Catalog → Prop}
  {Q' : β → List Event → Catalog → Prop} {P : α → List Event → Catalog → Prop} {t : Token}

/-- A run that is known, with nothing told of. -/
theorem answers_of_run (run : p l s = (.ok a, u)) (left : u.rest = rest)
    (noted : u.told = s.told) (h : Q a u.catalog) : p.Answers l s rest Q :=
  ⟨a, [], u, run, left, by rw [noted, List.append_nil], rfl, h⟩

theorem Answers.pure (h : Q a s.catalog) : (pure a : Parser α).Answers l s s.rest Q :=
  answers_of_run rfl rfl rfl h

/-- The result may be described more loosely. -/
theorem Tells.imp {R : α → List Event → Catalog → Prop} (h : p.Tells l s rest P)
    (imp : ∀ a noted d, P a noted d → R a noted d) : p.Tells l s rest R := by
  obtain ⟨a, noted, u, run, left, told, q⟩ := h
  exact ⟨a, noted, u, run, left, told, imp a noted _ q⟩

theorem Answers.imp {R : α → Catalog → Prop} (h : p.Answers l s rest Q)
    (imp : ∀ a d, Q a d → R a d) : p.Answers l s rest R :=
  Tells.imp h fun a _ d ⟨nothing, q⟩ => ⟨nothing, imp a d q⟩

/-- What the parts of a sequence tell of is told of one after the other. -/
theorem Tells.bind (h : p.Tells l s rest P)
    (next : ∀ a noted u, u.rest = rest → P a noted u.catalog →
      (f a).Tells l u rest' fun b more d => Q' b (noted ++ more) d) :
    (p >>= f).Tells l s rest' Q' := by
  obtain ⟨a, noted, u, run, left, told, q⟩ := h
  obtain ⟨b, more, v, run', left', told', q'⟩ := next a noted u left q
  refine ⟨b, noted ++ more, v, ?_, left', ?_, q'⟩
  · rw [Parser.bind_apply, run]
    exact run'
  · rw [told', told, List.append_assoc]

/-- If the first part tells of nothing, the sequence tells of what the second one does. -/
theorem Answers.bind (h : p.Answers l s rest Q)
    (next : ∀ a u, u.rest = rest → Q a u.catalog → (f a).Tells l u rest' Q') :
    (p >>= f).Tells l s rest' Q' :=
  Tells.bind h fun a _ u left ⟨nothing, q⟩ => nothing ▸ next a u left q

theorem Tells.of_apply {q : Parser α} (same : q l s = p l s) (h : p.Tells l s rest P) :
    q.Tells l s rest P := by
  rwa [Tells, same]

/-- A recursion does what its body does with fewer tokens left. -/
theorem Tells.fix {body : Parser α → Parser α}
    (h : (body (below s.left (fix body))).Tells l s rest P) : (Parser.fix body).Tells l s rest P :=
  .of_apply (fix_apply body l s) h

/-- The guard of a recursion lets pass what has fewer tokens left. -/
theorem Tells.below {limit : Nat} (fewer : s.left < limit) (h : p.Tells l s rest P) :
    (Parser.below limit p).Tells l s rest P := by
  rwa [Tells, Parser.below, if_pos fewer]

/-- A question that moves nothing comes first. -/
theorem Passes.tells (h : p.Passes s a) (next : (f a).Tells l s rest Q') :
    (p >>= f).Tells l s rest Q' := by
  rwa [Tells, h.bind_apply]

/-- A token is read first. -/
theorem Takes.tells (h : p.Takes s a) (next : (f a).Tells l s.advance rest Q') :
    (p >>= f).Tells l s rest Q' := by
  obtain ⟨b, noted, u, run, left, told, q⟩ := next
  refine ⟨b, noted, u, ?_, left, ?_, q⟩
  · rw [h.bind_apply, run]
  · rw [told, s.told_advance]

end Parser

/-! ## What may follow

A reference is prolonged by a double colon, a chevron, a question mark, a bracket, and, if its last
word allows it, by a further `long`. Any other token ends it. No declaration goes on with one of
these marks after a type, so only the case of `long` needs attention there. -/

/-- Whoever reads a token has fewer left. -/
theorem ReadState.fewer (front : List Token) {t : Token} (stands : s.rest = front ++ t :: rest)
    (left : u.rest = rest) : u.left < s.left := by
  rw [u.left_eq, s.left_eq, left, stands, List.length_append, List.length_cons]
  omega

/-- What follows the name of a type does not go on with it. -/
structure EndsName (w : TypeWords) (rest : List Token) : Prop where
  scope : (nextToken rest).category ≠ .colonColon
  chevron : (nextToken rest).category ≠ .chevronLeft
  long : w.TakesLong → (nextToken rest).isKeyword "long" = false

/-- What follows the type reference does not go on with it. -/
structure TypeExpr.EndsBefore (e : TypeExpr) (rest : List Token) : Prop where
  scope : (nextToken rest).category ≠ .colonColon
  chevron : (nextToken rest).category ≠ .chevronLeft
  question : (nextToken rest).category ≠ .question
  bracket : (nextToken rest).category ≠ .bracketOpen
  long : e.TakesLong → (nextToken rest).isKeyword "long" = false

/-- No type reference goes on with what follows. -/
def EndsType (rest : List Token) : Prop := ∀ e : TypeExpr, e.EndsBefore rest

/-- A token that goes on with no reference ends all of them. -/
theorem endsType_of_token {t : Token}
    (other : t.category ∉ [.colonColon, .chevronLeft, .question, .bracketOpen])
    (long : t.isKeyword "long" = false) (rest : List Token) : EndsType (t :: rest) := by
  simp only [List.mem_cons, List.not_mem_nil, or_false, not_or] at other
  obtain ⟨scope, chevron, question, bracket⟩ := other
  exact fun _ => ⟨scope, chevron, question, bracket, fun _ => long⟩

/-- The name ends before its marks, or with them before what follows. -/
theorem TypeExpr.EndsBefore.name {name : TypeName} {nullable array again : Bool} {marked}
    (ends : (TypeExpr.named name nullable array again marked).EndsBefore rest) :
    EndsName name.toTypeWords
      (questionIf nullable ++ (bracketsIf array ++ (questionIf again ++ rest))) := by
  cases nullable with
  | true => exact ⟨nofun, nofun, fun _ => rfl⟩
  | false =>
    cases array with
    | true => exact ⟨nofun, nofun, fun _ => rfl⟩
    | false =>
      cases again with
      | true => exact ⟨nofun, nofun, fun _ => rfl⟩
      | false => exact ⟨ends.scope, ends.chevron, fun takes => ends.long ⟨⟨rfl, rfl, rfl⟩, takes⟩⟩

/-! ## Names -/

section Names

variable {w : TypeWords} (isName : w.IsName)

include isName

/-- A qualifier and a word, or a word alone, make up a segment. -/
theorem nameSegment_answers (stands : s.rest = w.segmentTokens ++ rest) :
    nameSegment.Answers l s rest fun text d => text = w.segment ∧ d = s.catalog := by
  rw [TypeWords.segmentTokens] at stands
  rw [TypeWords.segment]
  -- with a qualifier in front of the word, or without one
  cases qualified : w.qualifier with
  | none =>
    rw [qualified] at stands
    obtain ⟨peek, left⟩ := ReadState.peek_of_rest stands
    have other (q : Qualifier) : s.peek.isKeyword q.text = false := by
      simpa [peek, Token.isKeyword] using isName.unqualified qualified q
    have word : s.peek.category = .word := by rw [peek]
    refine (passes_acceptKeyword (other .unrestricted)).tells ?_
    refine (passes_acceptKeyword (other .unsigned)).tells ?_
    refine answers_of_run (takes_identifier word l) left s.told_advance
      ⟨?_, s.catalog_advance⟩
    rw [peek]
  | some q =>
    rw [qualified] at stands
    obtain ⟨peek, left⟩ := ReadState.peek_of_rest stands
    obtain ⟨peek', left'⟩ := ReadState.peek_of_rest left
    have word : s.advance.peek.category = .word := by rw [peek']
    have here : s.peek.isKeyword q.text = true := by rw [peek]; simp [Token.isKeyword]
    cases q with
    | unrestricted =>
      refine (takes_acceptKeyword here).tells ?_
      refine (takes_identifier word).tells (answers_of_run rfl left' rfl ⟨?_, ?_⟩)
      · rw [peek']
        rfl
      · rw [ReadState.catalog_advance, ReadState.catalog_advance]
    | unsigned =>
      have other : s.peek.isKeyword "unrestricted" = false := by rw [peek]; decide
      have known : s.advance.peek.category ≠ .question := by rw [word]; decide
      refine (passes_acceptKeyword other).tells ?_
      refine (takes_acceptKeyword here).tells ?_
      refine (passes_look (·.category) s.advance).tells ?_
      rw [if_neg known]
      refine (takes_identifier word).tells (answers_of_run rfl left' rfl ⟨?_, ?_⟩)
      · rw [peek']
        rfl
      · rw [ReadState.catalog_advance, ReadState.catalog_advance]

/-- The words of a name are read as that name. -/
theorem typeName_answers (stands : s.rest = w.tokens ++ rest)
    (scope : (nextToken rest).category ≠ .colonColon)
    (long : w.TakesLong → (nextToken rest).isKeyword "long" = false) :
    typeName.Answers l s rest fun text d => text = w.text ∧ d = s.catalog := by
  rw [TypeWords.tokens, List.append_assoc] at stands
  have segment : scopedName.Answers l s ((if w.long then [⟨.word, "long"⟩] else []) ++ rest)
      fun text d => text = w.segment ∧ d = s.catalog := by
    have whole := nameSegment_answers (l := l) isName stands
    refine Tells.fix (whole.bind fun text u left same => ?_)
    have apart : u.peek.category ≠ .colonColon := by
      rw [ReadState.peek, left]
      cases w.long
      · exact scope
      · rintro ⟨⟩
    exact (passes_accept apart).tells (left ▸ Answers.pure same)
  refine segment.bind ?_
  rintro _ u left ⟨rfl, catalog⟩
  rw [TypeWords.text]
  -- a word that ends in `long` takes a further `long`
  cases extended : w.long with
  | true =>
    rw [extended] at left
    obtain ⟨peek, left⟩ := ReadState.peek_of_rest left
    have here : u.peek.isKeyword "long" = true := by rw [peek]; decide
    rw [if_pos (isName.extended extended)]
    exact (takes_acceptKeyword here).tells
      (answers_of_run rfl left rfl ⟨rfl, u.catalog_advance.trans catalog⟩)
  | false =>
    rw [extended] at left
    split
    · next ends =>
      have other : u.peek.isKeyword "long" = false := by
        rw [ReadState.peek, left]
        exact long ⟨extended, ends⟩
      exact (passes_acceptKeyword other).tells (answers_of_run rfl left rfl ⟨rfl, catalog⟩)
    · exact answers_of_run rfl left rfl ⟨rfl, catalog⟩

end Names

/-! ## Marks

A mark that is written creates a wrapper around the type; a mark that is not written must not be
found in what follows. -/

/-- Creating a composite is a mention of it. -/
theorem Parser.Creates.answers {p : Parser TypeId} {node : TypeNode} (left : s.rest = rest)
    (creates : p.Creates l s.catalog node) (composite : s.catalog.Composite node) :
    p.Answers l s rest fun u d => Mentioning s.catalog d ∧ d.Holds u node := by
  obtain ⟨_, _, x, run, journal, rfl, rfl, catalog⟩ := creates s rfl
  refine answers_of_run run left ?_ ?_
  · rw [ReadState.told, ReadState.told]
    exact congrArg Event.told (journal.trans (List.append_nil _))
  change Mentioning s.catalog x.catalog ∧ x.catalog.Holds _ node
  rw [catalog]
  refine ⟨(Mentioning.refl _).composite composite, ?_, ?_⟩
  · rw [types_size_pushType]
    exact Nat.lt_succ_self _
  · rw [type_pushType, if_pos rfl]

/-- A composite around one type is created. -/
theorem wrap_answers {kind : Kind} {rendered : String → String} {t : TypeId}
    (left : s.rest = rest) (wrapper : Wrapper kind rendered)
    (bound : t.index < s.catalog.types.size) :
    (wrap kind rendered t).Answers l s rest fun u d =>
      Mentioning s.catalog d ∧ d.Holds u (d.wrapperNode kind rendered t) := by
  refine (Creates.answers left (wrap_creates kind rendered t) (.wrapper wrapper bound)).imp ?_
  rintro u d ⟨later, holds⟩
  exact ⟨later, later.keepsShapes.wrapperNode bound ▸ holds⟩

/-- A question mark is read where it stands. -/
theorem nullableIfMarked_answers {nullable : Bool} {t : TypeId}
    (stands : s.rest = questionIf nullable ++ rest)
    (other : nullable = false → (nextToken rest).category ≠ .question)
    (bound : t.index < s.catalog.types.size) :
    (nullableIfMarked t).Answers l s rest fun u d =>
      Mentioning s.catalog d ∧ d.Marked .nullable (· ++ "?") nullable t u := by
  cases nullable with
  | false =>
    have plain : s.peek.category ≠ .question := ReadState.peek_eq stands ▸ other rfl
    exact (passes_accept plain).tells (answers_of_run rfl stands rfl ⟨.refl _, .plain t⟩)
  | true =>
    obtain ⟨peek, left⟩ := ReadState.peek_of_rest stands
    have mark : (accept .question).Takes s true := fun _ => if_pos (by rw [peek])
    rw [← s.catalog_advance] at bound ⊢
    exact mark.tells ((wrap_answers left .nullable bound).imp fun u d h => ⟨h.1, .wrapped h.2⟩)

/-- A pair of brackets is read where it stands. -/
theorem arrayIfMarked_answers {array : Bool} {t : TypeId}
    (stands : s.rest = bracketsIf array ++ rest)
    (other : array = false → (nextToken rest).category ≠ .bracketOpen)
    (bound : t.index < s.catalog.types.size) :
    (arrayIfMarked t).Answers l s rest fun u d =>
      Mentioning s.catalog d ∧ d.Marked .array (· ++ "[]") array t u := by
  cases array with
  | false =>
    have plain : s.peek.category ≠ .bracketOpen := ReadState.peek_eq stands ▸ other rfl
    exact (passes_accept plain).tells (answers_of_run rfl stands rfl ⟨.refl _, .plain t⟩)
  | true =>
    obtain ⟨peek, left⟩ := ReadState.peek_of_rest stands
    obtain ⟨peek', left'⟩ := ReadState.peek_of_rest left
    have opens : (accept .bracketOpen).Takes s true := fun _ => if_pos (by rw [peek])
    have closes : (require .bracketClose).Takes s.advance s.advance.peek :=
      takes_require (by rw [peek'])
    rw [← s.catalog_advance, ← s.advance.catalog_advance] at bound ⊢
    exact opens.tells <| closes.tells <|
      (wrap_answers left' .array bound).imp fun u d h => ⟨h.1, .wrapped h.2⟩

/-! ## Names that stand for types

A name that is looked up stands for a type afterwards in any case, be it for a placeholder that was
just added. -/

/-- A placeholder is found under its name. -/
theorem lookUp_addPlaceholder {c : Catalog} {name : String} (registry : Registry c)
    (plain : name ≠ globalsName) (unknown : c.lookUp l name = none) :
    (c.addPlaceholder name).2.lookUp l name = some (c.addPlaceholder name).1 := by
  have unresolved := resolve?_of_lookUp unknown
  have introduced := introduced_addPlaceholder registry.hidden_lt
    (registry.hidden_free unresolved)
  rw [lookUp_eq plain, unresolved, Option.or_none] at unknown
  rw [lookUp_eq plain, resolve?_addPlaceholder registry unresolved, declaredIn?, introduced.lookup]
  by_cases here : l = Catalog.hidden
  · rw [if_pos ⟨here, rfl⟩, Option.filter_some, introduced.stands (by rintro ⟨⟩)]
    rfl
  · -- an entry of the library that only reopens another type still does
    rw [if_neg fun both => here both.1]
    cases entry : (c.library l).types[name]? with
    | none => rfl
    | some u =>
      have isEntry := registry.entry entry
      rw [declaredIn?, entry, Option.filter_some] at unknown
      have reopens : (c.addPlaceholder name).2.isReopening u = c.isReopening u := by
        rw [isReopening, isReopening, type_addPlaceholder _ isEntry.bound]
      rw [Option.filter_some, reopens]
      cases stands : c.isReopening u with
      | true => rfl
      | false => simp [stands] at unknown

/-- A name stands for a type once it was looked up. -/
theorem resolve_answers {name : String} (left : s.rest = rest) (registry : Registry s.catalog)
    (plain : name ≠ globalsName) :
    (resolve name).Answers l s rest fun t d =>
      Mentioning s.catalog d ∧ d.lookUp l name = some t := by
  let found := refer l name s.catalog
  let u := s.put ⟨found.2, s.journal.push (.referenced name found.1)⟩
  have noted : u.told = s.told := by
    simp [ReadState.told, Event.told, Event.isTold, u, ReadState.put]
  refine answers_of_run (a := found.1) (u := u) rfl left noted ?_
  change Mentioning s.catalog found.2 ∧ found.2.lookUp l name = some found.1
  simp only [found, refer_eq]
  cases known : s.catalog.lookUp l name with
  | some t => exact ⟨.refl _, known⟩
  | none =>
    exact ⟨(Mentioning.refl _).placeholder plain (resolve?_of_lookUp known),
      lookUp_addPlaceholder registry plain known⟩

/-! ## References

`ReadBy` says of a reference that a parser reads it from every state with fewer than a number of
tokens left. The recursion in the grammar has the same bound, so the induction on the tree can use
the parser that is passed in for the inner references. -/

/-- The parser comes to a type for which the reference stands, and creates at most composites and
placeholders. -/
abbrev Parser.Reaches (p : Parser TypeId) (l : LibraryId) (e : TypeExpr) (s : ReadState)
    (rest : List Token) : Prop :=
  p.Answers l s rest fun t d => Mentioning s.catalog d ∧ d.Means l e t

/-- Where fewer than `limit` tokens are left, the parser reads the tokens of the reference. -/
def TypeExpr.ReadBy (e : TypeExpr) (self : Parser TypeId) (l : LibraryId) (limit : Nat) : Prop :=
  ∀ {s : ReadState} {rest : List Token}, s.left < limit → s.rest = e.tokens ++ rest →
    e.EndsBefore rest → Registry s.catalog → self.Reaches l e s rest

theorem TypeExpr.ReadBy.below {e : TypeExpr} {self : Parser TypeId} {limit : Nat}
    (h : ∀ n, e.ReadBy self l n) : e.ReadBy (below limit self) l limit := by
  intro s rest fewer stands ends registry
  exact (h limit fewer stands ends registry).below fewer

namespace TypeExpr

variable {self : Parser TypeId} {limit : Nat}

/-- References in a row, read one by one, with a separator in front of each further one. -/
theorem sepBy_answers {separator : Token} {more : Parser Bool} {first : TypeExpr}
    {others : List TypeExpr} (ends : ∀ rest, EndsType (separator :: rest))
    (takes : ∀ s : ReadState, s.peek = separator → more.Takes s true)
    (passes : ∀ s : ReadState, s.rest = rest → more.Passes s false) (stops : EndsType rest)
    (head : first.ReadBy self l limit) (each : ∀ e ∈ others, e.ReadBy self l limit)
    (fewer : s.left < limit)
    (stands : s.rest = first.tokens ++ (tokensAfter separator others ++ rest))
    (registry : Registry s.catalog) :
    (sepBy self more).Answers l s rest fun ts d =>
      Mentioning s.catalog d ∧ List.Forall₂ (d.Means l) (first :: others) ts := by
  -- on the references that follow the first one
  induction others generalizing first s with
  | nil =>
    refine Tells.fix ((head fewer stands (stops _) registry).bind ?_)
    rintro t u left ⟨later, means⟩
    refine (passes u left).tells ?_
    exact answers_of_run rfl left rfl ⟨later, .cons means .nil⟩
  | cons e others ih =>
    rw [tokensAfter] at stands
    refine Tells.fix ((head fewer stands (ends _ _) registry).bind ?_)
    rintro t u left ⟨later, means⟩
    obtain ⟨peek, left'⟩ := ReadState.peek_of_rest left
    have left' : u.advance.rest = e.tokens ++ (tokensAfter separator others ++ rest) :=
      left'.trans (List.append_assoc _ _ _)
    have shorter : u.advance.left < s.left := by
      rw [u.advance.left_eq, s.left_eq, left', stands]
      simp only [List.length_append, List.length_cons]
      omega
    rw [← u.catalog_advance] at later means
    have row := ih (each e List.mem_cons_self)
      (fun f inside => each f (List.mem_cons_of_mem e inside))
      (shorter.trans fewer) left' (later.registry registry)
    refine (takes u peek).tells (Answers.bind (row.below shorter) ?_)
    rintro ts v left'' ⟨later', related⟩
    have registry' := later.registry registry
    -- what the first reference stands for does not change while the others are read
    have stays := means.stays registry' (later'.retains registry')
    exact answers_of_run rfl left'' rfl ⟨later.trans later', .cons stays related⟩

/-- References in a row between two brackets. -/
theorem group_answers {opening separator closing : Token} {more : Parser Bool} {first : TypeExpr}
    {others : List TypeExpr} {k : List TypeId → Parser α} {Q : α → Catalog → Prop}
    (separates : ∀ rest, EndsType (separator :: rest))
    (takes : ∀ s : ReadState, s.peek = separator → more.Takes s true)
    (passes : ∀ s : ReadState, s.peek = closing → more.Passes s false)
    (stops : ∀ rest, EndsType (closing :: rest))
    (head : first.ReadBy self l limit) (tail : ∀ e ∈ others, e.ReadBy self l limit)
    (fewer : u.left ≤ limit)
    (stands : u.rest = opening :: (first.tokens ++ (tokensAfter separator others ++
      closing :: rest)))
    (registry : Registry u.catalog)
    (next : ∀ ts v, v.rest = rest → Mentioning u.catalog v.catalog →
      List.Forall₂ (v.catalog.Means l) (first :: others) ts → (k ts).Answers l v rest' Q) :
    (do
      let _ ← require opening.category
      let ts ← sepBy self more
      let _ ← require closing.category
      k ts : Parser α).Answers l u rest' Q := by
  obtain ⟨peek, left⟩ := ReadState.peek_of_rest stands
  refine (takes_require (by rw [peek])).tells ?_
  rw [← u.catalog_advance] at registry next
  have shorter : u.advance.left < u.left := ReadState.fewer [] stands left
  have row := sepBy_answers separates takes
    (fun s left => passes s (ReadState.peek_of_rest left).1) (stops rest) head tail
    (Nat.lt_of_lt_of_le shorter fewer) left registry
  refine row.bind ?_
  rintro ts v left' ⟨later, related⟩
  obtain ⟨peek', left'⟩ := ReadState.peek_of_rest left'
  rw [← v.catalog_advance] at later related
  exact (takes_require (by rw [peek'])).tells (next ts v.advance left' later related)

/-! ### By cases -/

theorem peek_name {name : TypeName} (stands : s.rest = name.tokens ++ rest) :
    s.peek.category ≠ .parenthesisOpen := by
  rw [ReadState.peek, stands, TypeWords.tokens, TypeWords.segmentTokens]
  cases name.qualifier <;> rintro ⟨⟩

section Cases

variable (registry : Registry s.catalog)

include registry

/-- A named type is read with its marks. -/
theorem named_reaches {name : TypeName} {nullable array again : Bool} {marked}
    (ends : (TypeExpr.named name nullable array again marked).EndsBefore rest)
    (stands : s.rest = (TypeExpr.named name nullable array again marked).tokens ++ rest) :
    (typeReferenceWith self).Reaches l (.named name nullable array again marked) s rest := by
  rw [tokens, List.append_assoc, List.append_assoc, List.append_assoc] at stands
  refine (passes_look (·.category) s).tells ?_
  rw [if_neg (peek_name stands)]
  have after := ends.name
  refine (typeName_answers name.isName stands after.scope after.long).bind ?_
  rintro _ u left ⟨rfl, catalog⟩
  have chevron : u.peek.category ≠ .chevronLeft := ReadState.peek_eq left ▸ after.chevron
  refine (passes_look (·.category) u).tells ?_
  dsimp only
  rw [if_neg name.plain, if_neg chevron, namedType, bind_assoc]
  rw [← catalog] at registry ⊢
  have plain := name.ne_globalsName
  -- the name stands for a type, and then come the marks: a question mark, brackets, a question mark
  refine (resolve_answers left registry plain).bind ?_
  rintro t₀ v₀ left₀ ⟨later₀, found⟩
  have registry₀ := later₀.registry registry
  have bound₀ := (lookUp_isEntry registry₀ plain found).bound
  rw [bind_assoc]
  refine (nullableIfMarked_answers left₀ ?_ bound₀).bind ?_
  · -- a single question mark after a name stands before its brackets
    rintro rfl
    cases array with
    | true => rintro ⟨⟩
    | false =>
      cases again with
      | true => exact absurd (marked rfl) (by simp)
      | false => exact ends.question
  rintro t₁ v₁ left₁ ⟨later₁, first⟩
  have bound₁ := first.bound (Nat.lt_of_lt_of_le bound₀ later₁.size_le)
  refine (arrayIfMarked_answers left₁ ?_ bound₁).bind ?_
  · intro _
    cases again with
    | true => rintro ⟨⟩
    | false => exact ends.bracket
  rintro t₂ v₂ left₂ ⟨later₂, second⟩
  have bound₂ := second.bound (Nat.lt_of_lt_of_le bound₁ later₂.size_le)
  refine (nullableIfMarked_answers left₂ (fun _ => ends.question) bound₂).imp ?_
  rintro t₃ d ⟨later₃, third⟩
  exact ⟨((later₀.trans later₁).trans later₂).trans later₃,
    .marks registry₀ found later₁ first later₂ second later₃ third⟩

/-- A sequence is read with its element. -/
theorem sequence_reaches {element : TypeExpr} {nullable : Bool}
    (ends : (TypeExpr.sequence element nullable).EndsBefore rest)
    (inner : element.ReadBy self l s.left)
    (stands : s.rest = (TypeExpr.sequence element nullable).tokens ++ rest) :
    (typeReferenceWith self).Reaches l (.sequence element nullable) s rest := by
  let w : TypeWords := ⟨none, "sequence", false⟩
  have isName : w.IsName :=
    TypeWords.isName_word (spells_word (by decide) (by decide)) fun q => by cases q <;> decide
  have stands : s.rest = w.tokens ++ ⟨.chevronLeft, "<"⟩ ::
      (element.tokens ++ ⟨.chevronRight, ">"⟩ :: (questionIf nullable ++ rest)) := by
    simpa [tokens, w, TypeWords.tokens, TypeWords.segmentTokens] using stands
  have word : s.peek.category ≠ .parenthesisOpen := by
    rw [ReadState.peek, stands]
    rintro ⟨⟩
  refine (passes_look (·.category) s).tells ?_
  rw [if_neg word]
  refine (typeName_answers isName stands (by rintro ⟨⟩) fun _ => rfl).bind ?_
  rintro _ u left ⟨rfl, catalog⟩
  rw [← catalog] at registry ⊢
  obtain ⟨peek, left⟩ := ReadState.peek_of_rest left
  -- the word is followed by the element in angle brackets
  have chevron : u.peek.category = .chevronLeft := by rw [peek]
  refine (passes_look (·.category) u).tells ?_
  have sequence : w.text = "sequence" := rfl
  dsimp only
  rw [if_pos sequence, sequenceType, bind_assoc]
  refine (takes_require chevron).tells ?_
  rw [← u.catalog_advance] at registry ⊢
  rw [bind_assoc]
  have closes : EndsType (⟨.chevronRight, ">"⟩ :: (questionIf nullable ++ rest)) :=
    endsType_of_token (by decide) (by decide) _
  refine (inner (ReadState.fewer _ stands left) left (closes _) registry).bind ?_
  rintro t v left' ⟨later, means⟩
  have registry' := later.registry registry
  obtain ⟨peek', left'⟩ := ReadState.peek_of_rest left'
  rw [bind_assoc]
  refine (takes_require (by rw [peek'])).tells ?_
  rw [← v.catalog_advance] at registry' later means
  have bound := means.bound registry'
  refine (wrap_answers left' .sequence bound).bind ?_
  rintro t' v' left'' ⟨later', holds⟩
  refine (nullableIfMarked_answers left'' (fun _ => ends.question) holds.bound).imp ?_
  rintro t'' d ⟨later'', mark⟩
  exact ⟨(later.trans later').trans later'',
    .sequence_later registry' means later' holds later'' mark⟩

/-- A generic type is read with its arguments. -/
theorem generic_reaches {name : TypeName} {first : TypeExpr} {others : List TypeExpr}
    {nullable : Bool} (ends : (TypeExpr.generic name first others nullable).EndsBefore rest)
    (head : first.ReadBy self l s.left)
    (tail : ∀ e ∈ others, e.ReadBy self l s.left)
    (stands : s.rest = (TypeExpr.generic name first others nullable).tokens ++ rest) :
    (typeReferenceWith self).Reaches l (.generic name first others nullable) s rest := by
  simp only [tokens, List.append_assoc, List.cons_append] at stands
  refine (passes_look (·.category) s).tells ?_
  rw [if_neg (peek_name stands)]
  refine (typeName_answers name.isName stands (by rintro ⟨⟩) fun _ => rfl).bind ?_
  rintro _ u left ⟨rfl, catalog⟩
  have chevron : u.peek.category = .chevronLeft := by rw [(ReadState.peek_of_rest left).1]
  refine (passes_look (·.category) u).tells ?_
  dsimp only
  rw [if_neg name.plain, if_pos chevron]
  rw [← catalog] at registry ⊢
  have separates (rest) : EndsType (⟨.comma, ","⟩ :: rest) :=
    endsType_of_token (by decide) (by decide) rest
  have stops (rest) : EndsType (⟨.chevronRight, ">"⟩ :: rest) :=
    endsType_of_token (by decide) (by decide) rest
  have fewer : u.left ≤ s.left := by
    rw [u.left_eq, s.left_eq, left, stands, List.length_append]
    exact Nat.le_add_left _ _
  -- the arguments in angle brackets, and then the mark behind them
  have group : (genericType self name.text).Answers l u (questionIf nullable ++ rest)
      fun t d => ∃ c ts, Mentioning u.catalog c ∧ List.Forall₂ (c.Means l) (first :: others) ts ∧
        Mentioning c d ∧ d.Holds t (c.genericNode name.text ts) := by
    refine group_answers separates (fun s here _ => if_pos (by rw [here]))
      (fun s here => passes_accept (by rw [here]; decide)) stops head tail fewer left registry ?_
    intro ts v left later related
    have bound := Means.forall_bound (later.registry registry) related
    refine (Creates.answers left (genericOf_creates name.text ts) (.generic _ bound)).imp ?_
    rintro t d ⟨later', holds⟩
    exact ⟨_, ts, later, related, later', holds⟩
  refine group.bind ?_
  rintro t v left' ⟨c, ts, later, related, later', holds⟩
  refine (nullableIfMarked_answers left' (fun _ => ends.question) holds.bound).imp ?_
  rintro t' d ⟨later'', mark⟩
  exact ⟨(later.trans later').trans later'',
    .generic_later (later.registry registry) related later' holds later'' mark⟩

/-- A union is read with its branches. -/
theorem union_reaches {first : TypeExpr} {others : List TypeExpr}
    (ends : (TypeExpr.union first others).EndsBefore rest)
    (head : first.ReadBy self l s.left) (tail : ∀ e ∈ others, e.ReadBy self l s.left)
    (stands : s.rest = (TypeExpr.union first others).tokens ++ rest) :
    (typeReferenceWith self).Reaches l (.union first others) s rest := by
  simp only [tokens, List.append_assoc, List.cons_append] at stands
  have opens : s.peek.category = .parenthesisOpen := by rw [(ReadState.peek_of_rest stands).1]
  refine (passes_look (·.category) s).tells ?_
  rw [if_pos opens, unionType]
  have separates (rest) : EndsType (⟨.word, "or"⟩ :: rest) :=
    endsType_of_token (by decide) (by decide) rest
  have stops (rest) : EndsType (⟨.parenthesisClose, ")"⟩ :: rest) :=
    endsType_of_token (by decide) (by decide) rest
  refine group_answers separates (fun s here => takes_acceptKeyword (by rw [here]; decide))
    (fun s here => passes_acceptKeyword (by rw [here]; decide)) stops head tail le_rfl stands
    registry ?_
  intro ts v left later related
  have registry' := later.registry registry
  -- a question mark after a union would be dropped, and there is none
  have plain : v.peek.category ≠ .question := ReadState.peek_eq left ▸ ends.question
  have bound := Means.forall_bound registry' related
  refine (passes_accept plain).tells ?_
  refine (Creates.answers left (unionOf_creates ts) (.union bound)).imp ?_
  rintro t d ⟨later', holds⟩
  exact ⟨later.trans later', .union_later registry' related later' holds⟩

end Cases

/-- The tokens of a reference are read to a type for which it stands. -/
theorem readBy (e : TypeExpr) (l : LibraryId) (limit : Nat) : e.ReadBy typeReference l limit := by
  induction e generalizing limit with
  | named name nullable array again marked =>
    intro s rest _ stands ends registry
    exact Tells.fix (named_reaches registry ends stands)
  | sequence element nullable ih =>
    intro s rest _ stands ends registry
    exact Tells.fix (sequence_reaches registry ends (TypeExpr.ReadBy.below ih) stands)
  | generic name first others nullable ih ihs =>
    intro s rest _ stands ends registry
    refine Tells.fix (generic_reaches registry ends (TypeExpr.ReadBy.below ih) ?_ stands)
    exact fun e inside => TypeExpr.ReadBy.below (ihs e inside)
  | union first others ih ihs =>
    intro s rest _ stands ends registry
    refine Tells.fix (union_reaches registry ends (TypeExpr.ReadBy.below ih) ?_ stands)
    exact fun e inside => TypeExpr.ReadBy.below (ihs e inside)

end TypeExpr

end IdlCatalog
