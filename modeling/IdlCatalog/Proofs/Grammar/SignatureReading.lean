/-
# IdlCatalog.Proofs.Grammar.SignatureReading — signatures are read as they are written

The tokens of a signature are read to the operation for which they stand: first the words in front
of it, then the result type, the name and the parameters, each of which notes itself.

The words in front of an operation, its result type and its lists of parameters are read by parsers
of their own, and each has a lemma of its own here. An event is noted for every parameter when it
was read, before the operation is attached, and the statements keep account of these notes.
-/
import IdlCatalog.Proofs.Grammar.SignatureSyntax
import IdlCatalog.Proofs.Grammar.TypeReading

namespace IdlCatalog

open Grammar Catalog Lexer IdlCatalog.Parser

/-! ## Words

A keyword that may stand in front is described by whether it does. `acceptKeyword_tells` treats both
cases at once, with the state after the keyword where it was read. -/

variable {α β : Type} {l : LibraryId} {s u : ReadState} {rest rest' : List Token}

/-- A word is read as a name wherever a name is asked for. -/
theorem identifier_takes {name : String} (stands : s.rest = ⟨.word, name⟩ :: rest) :
    identifier.Takes s name ∧ s.advance.rest = rest := by
  obtain ⟨peek, left⟩ := ReadState.peek_of_rest stands
  have word : s.peek.category = .word := by rw [peek]
  refine ⟨?_, left⟩
  have takes := takes_identifier word
  rwa [peek] at takes

/-- A word that may be left out is accepted where it stands. -/
theorem acceptKeyword_tells {word : String} {present : Bool} {f : Bool → Parser β}
    {Q : β → List Event → Catalog → Prop}
    (stands : s.rest = tokenIf ⟨.word, word⟩ present ++ rest)
    (other : present = false → (nextToken rest).isKeyword word = false)
    (next : ∀ u, u.rest = rest → u.catalog = s.catalog → (f present).Tells l u rest' Q) :
    (acceptKeyword word >>= f).Tells l s rest' Q := by
  cases present with
  | false =>
    have absent : s.peek.isKeyword word = false := ReadState.peek_eq stands ▸ other rfl
    exact (passes_acceptKeyword absent).tells (next s stands rfl)
  | true =>
    obtain ⟨peek, left⟩ := ReadState.peek_of_rest stands
    have here : s.peek.isKeyword word = true := by simp [peek, Token.isKeyword]
    exact (takes_acceptKeyword here).tells (next s.advance left s.catalog_advance)

/-- A token that may be left out is accepted where it stands. -/
theorem accept_tells {first : Token} {present : Bool} {f : Bool → Parser β}
    {Q : β → List Event → Catalog → Prop} (stands : s.rest = tokenIf first present ++ rest)
    (other : present = false → (nextToken rest).category ≠ first.category)
    (next : ∀ u, u.rest = rest → u.catalog = s.catalog → (f present).Tells l u rest' Q) :
    (accept first.category >>= f).Tells l s rest' Q := by
  cases present with
  | false =>
    have absent : s.peek.category ≠ first.category := ReadState.peek_eq stands ▸ other rfl
    exact (passes_accept absent).tells (next s stands rfl)
  | true =>
    obtain ⟨peek, left⟩ := ReadState.peek_of_rest stands
    have takes : (accept first.category).Takes s true := fun _ => if_pos (by rw [peek])
    exact takes.tells (next s.advance left s.catalog_advance)

/-- None of several keywords is there. -/
theorem passes_anyKeyword {words : List String}
    (other : ∀ word ∈ words, s.peek.isKeyword word = false) :
    (atAnyKeyword words).Passes s false := by
  have none : words.any s.peek.isKeyword = false :=
    List.any_eq_false.2 fun word inside => by simp [other word inside]
  exact none ▸ passes_look (fun t => words.any t.isKeyword) s

/-- No attributes stand in front of what starts without a bracket. -/
theorem passes_memberAttributes (other : s.peek.category ≠ .bracketOpen) :
    memberAttributes.Passes s Modifiers.empty :=
  (passes_collect ((passes_accept other).bind fun _ => rfl)).bind fun _ => rfl

/-! ## Attributes

Of blocks before a member only the words at the heads of entries are looked at. A block that says
nothing but `Unforgeable` gives one modifier. -/

/-- The parser comes to this answer and leaves the catalog alone. -/
abbrev Parser.Gives (p : Parser α) (l : LibraryId) (s : ReadState) (rest : List Token) (a : α) :
    Prop :=
  p.Answers l s rest fun found d => found = a ∧ d = s.catalog

/-- A question that is answered on the spot. -/
theorem Parser.Passes.gives {p : Parser α} {a : α} (h : p.Passes s a) (stands : s.rest = rest) :
    p.Gives l s rest a :=
  answers_of_run (h l) stands rfl ⟨rfl, rfl⟩

/-- A loop whose first round finds nothing. -/
theorem gives_collect_nil {step : Parser (Option α)} (h : step.Gives l s rest none) :
    (collect step).Gives l s rest [] := by
  refine Tells.fix (h.bind ?_)
  rintro _ u left ⟨rfl, catalog⟩
  exact answers_of_run rfl left rfl ⟨rfl, catalog⟩

/-- A loop whose first round finds something. -/
theorem gives_collect_cons {step : Parser (Option α)} {a : α} {as : List α}
    (h : step.Gives l s rest (some a)) (fewer : rest.length < s.rest.length)
    (next : ∀ u, u.rest = rest → (collect step).Gives l u rest' as) :
    (collect step).Gives l s rest' (a :: as) := by
  refine Tells.fix (h.bind ?_)
  rintro _ u left ⟨rfl, catalog⟩
  have shorter : u.left < s.left := by rwa [u.left_eq, s.left_eq, left]
  refine Answers.bind ((next u left).below shorter) ?_
  rintro _ v left' ⟨rfl, catalog'⟩
  exact answers_of_run rfl left' rfl ⟨rfl, catalog'.trans catalog⟩

/-- The attribute that makes a member unforgeable, up to the bracket after it. -/
theorem gives_unforgeable
    (stands : s.rest = ⟨.word, "Unforgeable"⟩ :: ⟨.bracketClose, "]"⟩ :: rest) :
    memberAttribute.Gives l s (⟨.bracketClose, "]"⟩ :: rest) (some Modifiers.unforgeable) := by
  obtain ⟨peek, left⟩ := ReadState.peek_of_rest stands
  refine (passes_accept (by rw [peek]; decide)).tells ?_
  refine (passes_look id s).tells ?_
  -- the name alone is skipped, up to the closing bracket
  have skips : (skipBalanced [.comma, .bracketClose]).Takes s () := by
    intro l
    have run : balancedRun [.comma, .bracketClose] 0 s.rest = (1, none) := by
      rw [stands]
      rfl
    rw [skipBalanced, run]
    rfl
  refine skips.tells ((passes_accept ?_).tells ?_)
  · rw [(ReadState.peek_of_rest left).1]
    decide
  · refine answers_of_run rfl left rfl ⟨?_, s.catalog_advance⟩
    rw [id, peek]
    decide +kernel

/-- The block of attributes of an unforgeable member. -/
theorem gives_unforgeableBlock (stands : s.rest = unforgeableIf true ++ rest) :
    memberAttributeBlock.Gives l s rest (some Modifiers.unforgeable) := by
  obtain ⟨peek, left⟩ := ReadState.peek_of_rest stands
  have opens : (accept .bracketOpen).Takes s true := fun _ => if_pos (by rw [peek])
  refine opens.tells ?_
  have entries : (collect memberAttribute).Gives l s.advance rest [Modifiers.unforgeable] := by
    refine gives_collect_cons (gives_unforgeable left) (by rw [left]; exact Nat.lt_succ_self _) ?_
    intro u left
    obtain ⟨close, left⟩ := ReadState.peek_of_rest left
    have closes : (accept .bracketClose).Takes u true := fun _ => if_pos (by rw [close])
    exact gives_collect_nil (closes.tells (answers_of_run rfl left rfl ⟨rfl, u.catalog_advance⟩))
  refine entries.bind ?_
  rintro _ u left ⟨rfl, catalog⟩
  refine answers_of_run rfl left rfl ⟨?_, catalog.trans s.catalog_advance⟩
  decide +kernel

/-- The attributes of a member that is unforgeable or has none. -/
theorem gives_memberAttributes {present : Bool} (stands : s.rest = unforgeableIf present ++ rest)
    (other : (nextToken rest).category ≠ .bracketOpen) :
    memberAttributes.Gives l s rest
      (if present then Modifiers.unforgeable else Modifiers.empty) := by
  cases present with
  | false => exact (passes_memberAttributes (ReadState.peek_eq stands ▸ other)).gives stands
  | true =>
    have blocks : (collect memberAttributeBlock).Gives l s rest [Modifiers.unforgeable] := by
      refine gives_collect_cons (gives_unforgeableBlock stands) ?_ fun u left => ?_
      · rw [stands, List.length_append]
        exact Nat.lt_add_of_pos_left (by decide)
      · have none : memberAttributeBlock.Passes u none :=
          (passes_accept (ReadState.peek_eq left ▸ other)).bind fun _ => rfl
        exact gives_collect_nil (none.gives left)
    refine blocks.bind ?_
    rintro _ u left ⟨rfl, catalog⟩
    exact answers_of_run rfl left rfl ⟨by decide +kernel, catalog⟩

/-! ## Types

A type is recognised by its first token; the words that may stand in its place are excluded by the
tree. What ends a type is mostly the word after it. -/

/-- A type may stand next, or a word in front of it. -/
def StartsType (rest : List Token) : Prop :=
  (nextToken rest).category = .word ∨ (nextToken rest).category = .parenthesisOpen

theorem StartsType.ne {category : Category} (h : StartsType rest)
    (other : category ≠ .word ∧ category ≠ .parenthesisOpen) :
    (nextToken rest).category ≠ category := by
  rintro rfl
  exact h.elim other.1 other.2

/-- A keyword in front of a type starts like one. -/
theorem StartsType.tokenIf {word : String} {present : Bool} (h : StartsType rest) :
    StartsType (tokenIf ⟨.word, word⟩ present ++ rest) := by
  cases present with
  | false => exact h
  | true => exact .inl rfl

namespace TypeExpr

/-- The first token of a type is that of its tokens. -/
theorem nextToken_tokens (e : TypeExpr) (rest : List Token) :
    nextToken (e.tokens ++ rest) ∈ e.tokens.head? ∧ StartsType (e.tokens ++ rest) := by
  obtain ⟨first, more, eq, head, category⟩ := e.starts rest
  rw [eq]
  exact ⟨head, category⟩

/-- A type starts with none of the words that it avoids. -/
theorem Avoids.nextToken {e : TypeExpr} {words : List String} (plain : e.Avoids words)
    {word : String} (inside : word ∈ words) (rest : List Token) :
    (nextToken (e.tokens ++ rest)).isKeyword word = false :=
  plain _ (e.nextToken_tokens rest).1 word inside

/-- A word ends the reference, unless it is a `long` that the reference takes along. -/
theorem endsBefore_word {e : TypeExpr} {name : String} (apart : e.TakesLong → name ≠ "long")
    (rest : List Token) : e.EndsBefore (⟨.word, name⟩ :: rest) where
  scope := nofun
  chevron := nofun
  question := nofun
  bracket := nofun
  long takes := by simp [nextToken, Token.isKeyword, apart takes]

/-- The tokens of a reference are read to a type for which it stands. -/
theorem reads {e : TypeExpr} (stands : s.rest = e.tokens ++ rest) (ends : e.EndsBefore rest)
    (registry : Registry s.catalog) : typeReference.Reaches l e s rest :=
  e.readBy l _ (Nat.lt_succ_self _) stands ends registry

end TypeExpr

/-! ## Parameters

A list is read by rounds, each of which reads a parameter and the comma after it. The last round
stands before the parenthesis. -/

/-- The type of a parameter ends before the dots or the name. -/
theorem WrittenParameter.ends (q : WrittenParameter) (rest : List Token) :
    q.type.EndsBefore (tokenIf ⟨.dotDotDot, "..."⟩ q.isVariadic ++ ([q.nameToken] ++ rest)) := by
  cases variadic : q.isVariadic with
  | false => exact TypeExpr.endsBefore_word (q.apart variadic) rest
  | true => exact endsType_of_token (by decide) (by decide) _ _

/-- A parameter is read to the one that is written. -/
theorem parameter_answers {q : WrittenParameter} (stands : s.rest = q.tokens ++ rest)
    (other : (nextToken rest).category ≠ .equals) (registry : Registry s.catalog) :
    parameter.Answers l s rest fun p d => Mentioning s.catalog d ∧ q.ReadAs (d.Means l) p := by
  rw [WrittenParameter.tokens, List.append_assoc, List.append_assoc, List.append_assoc] at stands
  have starts := (q.type.nextToken_tokens
    (tokenIf ⟨.dotDotDot, "..."⟩ q.isVariadic ++ ([q.nameToken] ++ rest))).2
  have noBlock : s.peek.category ≠ .bracketOpen :=
    ReadState.peek_eq stands ▸ starts.tokenIf.ne (by decide)
  refine (passes_memberAttributes noBlock).tells ?_
  refine acceptKeyword_tells stands (fun _ => q.plain.nextToken List.mem_cons_self _) ?_
  intro u left catalog
  have words : ∀ word ∈ ["in", "out", "inout"], u.peek.isKeyword word = false :=
    fun word inside => ReadState.peek_eq left ▸ q.plain.nextToken (List.mem_cons_of_mem _ inside) _
  refine (passes_anyKeyword words).tells ?_
  dsimp only
  rw [if_neg Bool.false_ne_true]
  refine (passes_memberAttributes (ReadState.peek_eq left ▸ starts.ne (by decide))).tells ?_
  rw [← catalog] at registry ⊢
  -- the qualifiers are behind, and the type, the dots and the name follow
  refine (TypeExpr.reads left (q.ends rest) registry).bind ?_
  rintro t v left ⟨later, means⟩
  refine accept_tells left (fun _ => by rintro ⟨⟩) fun w left catalog => ?_
  obtain ⟨takes, left⟩ := identifier_takes left
  rw [← catalog, ← w.catalog_advance] at later means
  refine takes.tells ((passes_accept (ReadState.peek_eq left ▸ other)).tells ?_)
  refine answers_of_run rfl left rfl ⟨later, rfl, means, ?_⟩
  dsimp only
  rw [Modifiers.empty_or, Modifiers.or_empty]
  rfl

/-- A note of a parameter is told of. -/
theorem note_tells (p : Parameter) :
    (note (.parameter p)).Tells l s s.rest fun _ noted d =>
      noted = [.parameter p] ∧ d = s.catalog := by
  refine ⟨(), [.parameter p], s.put ⟨s.catalog, s.journal.push (.parameter p)⟩, rfl, rfl, ?_, rfl,
    rfl⟩
  simp [ReadState.told, Event.told, Event.isTold, ReadState.put]

/-- A parameter starts like a type. -/
theorem WrittenParameter.starts (q : WrittenParameter) (rest : List Token) :
    StartsType (q.tokens ++ rest) := by
  rw [WrittenParameter.tokens, List.append_assoc, List.append_assoc]
  exact (q.type.nextToken_tokens _).2.tokenIf

/-- A parameter is noted, and the comma after it is read. -/
theorem listedParameter_tells {q : WrittenParameter} {others : List WrittenParameter}
    (stands : s.rest = q.tokens ++ (WrittenParameter.commaBefore others ++
      (WrittenParameter.listTokens others ++ ⟨.parenthesisClose, ")"⟩ :: rest)))
    (registry : Registry s.catalog) :
    listedParameter.Tells l s
      (WrittenParameter.listTokens others ++ ⟨.parenthesisClose, ")"⟩ :: rest)
      fun found noted d => ∃ p, found = some p ∧ noted = [.parameter p] ∧
        Mentioning s.catalog d ∧ q.ReadAs (d.Means l) p := by
  have goesOn : s.peek.category ≠ .parenthesisClose :=
    ReadState.peek_eq stands ▸ (q.starts _).ne (by decide)
  refine (passes_look (·.category) s).tells ?_
  rw [if_neg goesOn]
  refine (parameter_answers stands ?_ registry).bind ?_
  · cases others <;> exact nofun
  rintro p u left ⟨later, read⟩
  refine (note_tells p).bind ?_
  rintro _ _ v left' ⟨rfl, catalog⟩
  rw [← catalog] at later read
  have left := left'.trans left
  -- the last parameter is followed by the closing parenthesis, any other one by a comma
  cases others with
  | nil =>
    have close : v.peek.category = .parenthesisClose := by rw [(ReadState.peek_of_rest left).1]
    refine (passes_accept (by rw [close]; decide)).tells ?_
    refine (passes_look (·.category) v).tells ?_
    rw [if_pos close]
    exact ⟨_, [], v, rfl, left, (List.append_nil _).symm, p, rfl, rfl, later, read⟩
  | cons =>
    obtain ⟨peek, left⟩ := ReadState.peek_of_rest left
    have comma : (accept .comma).Takes v true := fun _ => if_pos (by rw [peek])
    rw [← v.catalog_advance] at later read
    refine comma.tells ⟨_, [], v.advance, rfl, left, (List.append_nil _).symm, ?_⟩
    exact ⟨p, rfl, rfl, later, read⟩

/-- A list of parameters up to the parenthesis that closes it. -/
theorem parameters_tell {qs : List WrittenParameter}
    (stands : s.rest = WrittenParameter.listTokens qs ++ ⟨.parenthesisClose, ")"⟩ :: rest)
    (registry : Registry s.catalog) :
    (collect listedParameter).Tells l s (⟨.parenthesisClose, ")"⟩ :: rest)
      fun ps noted d => noted = ps.map .parameter ∧ Mentioning s.catalog d ∧
        List.Forall₂ (WrittenParameter.ReadAs (d.Means l)) qs ps := by
  -- on the parameters that are written
  induction qs generalizing s with
  | nil =>
    have close : s.peek.category = .parenthesisClose := by rw [(ReadState.peek_of_rest stands).1]
    have none : listedParameter.Passes s none :=
      (passes_look (·.category) s).bind fun _ => by rw [if_pos close]; rfl
    refine Tells.fix (none.tells ?_)
    exact ⟨[], [], s, rfl, stands, (List.append_nil _).symm, rfl, .refl _, .nil⟩
  | cons q qs ih =>
    rw [WrittenParameter.listTokens, List.append_assoc, List.append_assoc] at stands
    refine Tells.fix ((listedParameter_tells stands registry).bind ?_)
    rintro _ _ u left ⟨p, rfl, rfl, later, read⟩
    have fewer : u.left < s.left := by
      have nonempty : 0 < q.tokens.length :=
        List.length_pos_of_mem (a := q.nameToken) (by simp [WrittenParameter.tokens])
      rw [u.left_eq, s.left_eq, left, stands]
      simp only [List.length_append, List.length_cons]
      omega
    have registry' := later.registry registry
    refine Tells.bind ((ih left registry').below fewer) ?_
    rintro ps _ v left' ⟨rfl, later', related⟩
    refine ⟨p :: ps, [], v, rfl, left', (List.append_nil _).symm, ?_, later.trans later', ?_⟩
    · simp
    · have retains := later'.retains registry'
      exact .cons (read.imp fun e t means => means.stays registry' retains) related

/-- A list of parameters in parentheses. -/
theorem parameterList_tells {qs : List WrittenParameter}
    (stands : s.rest = ⟨.parenthesisOpen, "("⟩ :: (WrittenParameter.listTokens qs ++
      ⟨.parenthesisClose, ")"⟩ :: rest))
    (other : (nextToken rest).isKeyword "raises" = false) (registry : Registry s.catalog) :
    parameterList.Tells l s rest fun ps noted d => noted = ps.map .parameter ∧
      Mentioning s.catalog d ∧ List.Forall₂ (WrittenParameter.ReadAs (d.Means l)) qs ps := by
  obtain ⟨peek, left⟩ := ReadState.peek_of_rest stands
  refine (takes_require (by rw [peek])).tells ?_
  rw [← s.catalog_advance] at registry ⊢
  refine (parameters_tell left registry).bind ?_
  rintro ps _ u left ⟨rfl, later, related⟩
  obtain ⟨peek, left⟩ := ReadState.peek_of_rest left
  refine (takes_require (by rw [peek])).tells ?_
  rw [← u.catalog_advance] at later related
  refine (passes_acceptKeyword (ReadState.peek_eq left ▸ other)).tells ?_
  exact ⟨_, [], u.advance, rfl, left, (List.append_nil _).symm, List.append_nil _, later, related⟩

/-! ## Operations

A result type that is an iterable without a question mark would be taken for a declaration of an
iterable. `isIterable_result` shows that the trees exclude exactly this. -/

/-- A mark around a type is no iterable. -/
theorem Catalog.Marked.iterable {c : Catalog} {kind : Kind} {rendered : String → String}
    {nullable : Bool} {t u : TypeId} (h : c.Marked kind rendered nullable t u)
    (inner : nullable = false → (c.type t).iterable = none) : (c.type u).iterable = none := by
  cases h with
  | plain => exact inner rfl
  | wrapped holds => exact holds.iterable_eq

/-- Only a generic type with the name of iterables is iterated over. -/
theorem Catalog.Means.iterable {c : Catalog} {e : TypeExpr} (registry : Registry c)
    (h : c.Means l e t) (other : ¬e.IsIterable) : (c.type t).iterable = none := by
  cases h with
  | @named name _ _ _ _ _ _ _ _ found first second third =>
    have entry := lookUp_isEntry registry name.ne_globalsName found
    exact third.iterable fun _ => second.iterable fun _ => first.iterable fun _ => entry.iterable
  | sequence _ holds mark => exact mark.iterable fun _ => holds.iterable_eq
  | generic _ _ _ holds mark =>
    refine mark.iterable fun plain => ?_
    rw [holds.iterable_eq, genericNode]
    exact if_neg fun name => other ⟨name, plain⟩
  | union _ _ _ holds => exact holds.iterable_eq

/-- The tokens of a result type are read to a type for which it stands, or to none for `void`. -/
theorem resultType_answers {result : Option TypeExpr}
    (stands : s.rest = MemberSyntax.resultTokens result ++ rest)
    (ends : ∀ e ∈ result, e.EndsBefore rest) (plain : ∀ e ∈ result, e.Avoids memberWords)
    (registry : Registry s.catalog) : resultType.Answers l s rest fun type d =>
      Mentioning s.catalog d ∧ Option.Rel (d.Means l) result type := by
  cases result with
  | none =>
    obtain ⟨peek, left⟩ := ReadState.peek_of_rest stands
    rw [← s.catalog_advance]
    refine (takes_acceptKeyword (by rw [peek]; rfl)).tells ?_
    exact answers_of_run rfl left rfl ⟨.refl _, .none⟩
  | some e =>
    have void : "void" ∈ memberWords := by decide
    have other := (plain e rfl).nextToken void rest
    refine (passes_acceptKeyword (ReadState.peek_eq stands ▸ other)).tells ?_
    refine (TypeExpr.reads stands (ends e rfl) registry).bind ?_
    rintro t u left ⟨later, means⟩
    exact answers_of_run rfl left rfl ⟨later, .some means⟩

/-- Where a result type stands, none of the words stands that may take its place. -/
theorem nextToken_result {result : Option TypeExpr} (plain : ∀ e ∈ result, e.Avoids memberWords)
    {word : String} (inside : word ∈ memberWords) (other : word ≠ "void") (rest : List Token) :
    (nextToken (MemberSyntax.resultTokens result ++ rest)).isKeyword word = false := by
  cases result with
  | none => simp [MemberSyntax.resultTokens, nextToken, Token.isKeyword, other.symm]
  | some e => exact (plain e rfl).nextToken inside rest

/-- An iterable is the only result type that declares no operation. -/
theorem isIterable_result {c : Catalog} {result : Option TypeExpr} {type : Option TypeId}
    (registry : Registry c) (answer : Option.Rel (c.Means l) result type)
    (plain : ∀ e ∈ result, ¬e.IsIterable) : isIterable c type = false := by
  cases answer with
  | none => rfl
  | some means =>
    rw [isIterable, means.iterable registry (plain _ rfl)]
    rfl

/-- What is known of a parser that reads a member and answers what it got: the member is as it was
written, only types were created, and the parameters of the member are told of. -/
abbrev Parser.TellsMember (p : Parser α) (got : Member → α) (l : LibraryId)
    (R : (TypeExpr → TypeId → Prop) → Member → Prop) (s : ReadState) (rest : List Token) : Prop :=
  p.Tells l s rest fun answer noted d => ∃ a, answer = got a ∧
    noted = a.parameters.map .parameter ∧ Mentioning s.catalog d ∧ R (d.Means l) a

/-- A signature is read to its operation. -/
theorem operation_tells {x : Signature}
    (stands : s.rest = x.bodyTokens ++ ⟨.semicolon, ";"⟩ :: rest) (registry : Registry s.catalog) :
    (operation x.modifiers).TellsMember some l (Signature.ReadAs · x) s rest := by
  simp only [Signature.bodyTokens, List.append_assoc, List.cons_append, List.nil_append] at stands
  have words : ∀ word ∈ specialKeywords, s.peek.isKeyword word = false := by
    intro word inside
    have other : word ≠ "void" := by
      rintro rfl
      exact absurd inside (by decide)
    exact ReadState.peek_eq stands ▸ nextToken_result (fun e of => (x.plain e of).1)
      (List.mem_append_right _ inside) other _
  have specials : (collect specialKeyword).Passes s [] :=
    passes_collect ((passes_anyKeyword words).bind fun _ => rfl)
  refine specials.tells ?_
  have ends (e : TypeExpr) (of : e ∈ x.result) (rest : List Token) :
      e.EndsBefore (x.nameToken :: rest) := TypeExpr.endsBefore_word (x.plain e of).2.2 rest
  refine (resultType_answers stands (fun e of => ends e of _) (fun e of => (x.plain e of).1)
    registry).bind ?_
  rintro type u left ⟨later, answer⟩
  -- a result that iterates would be read as an iterable declaration
  have noIterable : isIterable u.catalog type = false :=
    isIterable_result (later.registry registry) answer fun e of => (x.plain e of).2.1
  have looked : (view (isIterable · type)).Passes u false := fun _ => by rw [← noIterable]; rfl
  refine looked.tells ?_
  rw [if_neg Bool.false_ne_true]
  obtain ⟨takes, left'⟩ := identifier_takes left
  have word : u.peek.category ≠ .parenthesisOpen := by
    rw [(ReadState.peek_of_rest left).1]
    rintro ⟨⟩
  have named : (operationName []).Takes u x.name := fun l =>
    ((passes_look (·.category) u).bind_apply l).trans (by
      rw [if_neg (by simp)]
      exact takes l)
  refine named.tells ?_
  rw [← u.catalog_advance] at later answer
  refine (parameterList_tells left' rfl (later.registry registry)).bind ?_
  rintro ps _ v left ⟨rfl, later', related⟩
  -- the result goes on to mean what it means while parameters are read
  have answer' : Option.Rel (v.catalog.Means l) x.result type := by
    have registry' := later.registry registry
    exact MemberSyntax.result_imp answer fun e t means =>
      means.stays registry' (later'.retains registry')
  obtain ⟨peek, left⟩ := ReadState.peek_of_rest left
  refine (takes_require (by rw [peek])).tells ?_
  rw [← v.catalog_advance] at later' related answer'
  exact ⟨_, [], v.advance, rfl, left, (List.append_nil _).symm, _, rfl, List.append_nil _,
    later.trans later', .operation answer' related⟩

end IdlCatalog
