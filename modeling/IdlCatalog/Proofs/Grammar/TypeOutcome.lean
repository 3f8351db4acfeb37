/-
# IdlCatalog.Proofs.Grammar.TypeOutcome — what an accepted type reference says

Whatever tokens a type reference was read from, the answer is a type for which some `TypeExpr`
stands: the words that were read are spelled like words, the marks and arguments are those of the
composites that were created. What the reading passes over, the first segments of scoped names and
the question mark after a union, leaves no trace.

This is the converse of `Proofs.Grammar.TypeReading`. There a tree is given and a run is found; here
a run is given and a tree is found. `Yields` is the judgement for it: partial correctness, which
asks nothing of runs that fail. Between the two stands `Means`, which is about the catalog and knows
neither direction.

Together they make every accepted reference printable: its tree is found here, its text is written
from the tree, and the text reads back there.
-/
import IdlCatalog.Proofs.Grammar.TypeReading

namespace IdlCatalog

open Grammar Catalog Lexer IdlCatalog.Parser

variable {α β : Type} {l : LibraryId} {s u : ReadState}

/-! ## Answers that were given

The rules of `Yields`. The state after a parser has a tail of the tokens before it, which keeps the
words in it spelled like words. -/

namespace Parser

/-- If the parser comes to an answer, it has only gone forward, and the answer and the state are as
`Q` says. -/
def Yields (p : Parser α) (l : LibraryId) (s : ReadState) (Q : α → ReadState → Prop) : Prop :=
  ∀ a u, p l s = (.ok a, u) → u.rest <:+ s.rest ∧ Q a u

variable {p : Parser α} {f : α → Parser β} {a : α} {Q : α → ReadState → Prop}
  {Q' : β → ReadState → Prop}

/-- An answer alone. -/
theorem Yields.pure (h : Q a s) : (pure a : Parser α).Yields l s Q := by
  rintro _ _ ⟨⟩
  exact ⟨List.suffix_refl _, h⟩

/-- The result may be described more loosely. -/
theorem Yields.imp {R : α → ReadState → Prop} (h : p.Yields l s Q)
    (imp : ∀ a u, u.rest <:+ s.rest → Q a u → R a u) : p.Yields l s R := by
  intro a u run
  obtain ⟨suffix, q⟩ := h a u run
  exact ⟨suffix, imp a u suffix q⟩

/-- The second part goes on from what the first one yields. -/
theorem Yields.bind (h : p.Yields l s Q)
    (next : ∀ a u, u.rest <:+ s.rest → Q a u → (f a).Yields l u Q') :
    (p >>= f).Yields l s Q' := by
  intro b v run
  rw [Parser.bind_apply] at run
  cases first : p l s with
  | mk answer u =>
    rw [first] at run
    cases answer with
    | error e => cases run
    | ok a =>
      obtain ⟨suffix, q⟩ := h a u first
      obtain ⟨suffix', q'⟩ := next a u suffix q b v run
      exact ⟨suffix'.trans suffix, q'⟩

/-- A parser that comes to an answer yields what holds of the answer. -/
theorem Answers.yields {rest : List Token} {Q : α → Catalog → Prop} (h : p.Answers l s rest Q)
    (suffix : rest <:+ s.rest) : p.Yields l s fun a u => Q a u.catalog := by
  obtain ⟨a, _, u, run, left, -, -, q⟩ := h
  intro b v run'
  rw [run] at run'
  cases run'
  exact ⟨left ▸ suffix, q⟩

/-- A choice yields what both ways yield. -/
theorem Yields.ite {c : Prop} [Decidable c] {q : Parser α} (yes : p.Yields l s Q)
    (no : q.Yields l s Q) : (if c then p else q).Yields l s Q := by
  split
  · exact yes
  · exact no

/-- What one round of a recursion yields, if the calls to itself yield as much, the recursion
yields. -/
theorem Yields.fix {body : Parser α → Parser α} {P : ReadState → Prop}
    {Q : ReadState → α → ReadState → Prop}
    (round : ∀ (self : Parser α) (s : ReadState), (∀ u, P u → self.Yields l u (Q u)) → P s →
      (body self).Yields l s (Q s)) (holds : P s) : (Parser.fix body).Yields l s (Q s) := by
  induction left : s.left using Nat.strongRecOn generalizing s with
  | _ left' ih =>
    intro a u run
    rw [fix_apply] at run
    refine round _ s (fun v holds => ?_) holds a u run
    intro b w call
    rw [below] at call
    split at call
    · next fewer => exact ih v.left (left ▸ fewer) holds rfl b w call
    · cases call

/-- Whether a category was accepted says whether it stood there. -/
theorem yields_accept (category : Category) :
    (accept category).Yields l s fun found u => u.catalog = s.catalog ∧
      (found = true ↔ s.peek.category = category) ∧ (found = false → u = s) := by
  intro found u run
  rw [accept] at run
  split at run
  · next here =>
    cases run
    exact ⟨s.advance_suffix, s.catalog_advance, by simp [here], fun none => by cases none⟩
  · next other =>
    cases run
    exact ⟨List.suffix_refl _, rfl, by simp [other], fun _ => rfl⟩

/-- A keyword that was not accepted was not there. -/
theorem yields_acceptKeyword (keyword : String) :
    (acceptKeyword keyword).Yields l s fun found u =>
      u.catalog = s.catalog ∧ (found = false → u = s ∧ s.peek.isKeyword keyword = false) := by
  intro found u run
  rw [acceptKeyword] at run
  split at run
  · cases run
    exact ⟨s.advance_suffix, s.catalog_advance, fun none => by cases none⟩
  · next other =>
    cases run
    exact ⟨List.suffix_refl _, rfl, fun _ => ⟨rfl, by simpa using other⟩⟩

/-- A token that was required is of its category. -/
theorem yields_require (category : Category) :
    (require category).Yields l s fun t u =>
      u.catalog = s.catalog ∧ t = s.peek ∧ t.category = category := by
  intro t u run
  rw [require] at run
  split at run
  · next here =>
    cases run
    exact ⟨s.advance_suffix, s.catalog_advance, rfl, here⟩
  · cases run

/-- A name that was read is a word. -/
theorem yields_identifier (spelled : Spelled s.rest) :
    identifier.Yields l s fun word u =>
      u.catalog = s.catalog ∧ word = s.peek.text ∧ s.peek.category = .word ∧
        Spells .word word.toList := by
  refine (yields_require .word).bind ?_
  rintro t u _ ⟨catalog, rfl, word⟩
  refine Yields.pure ⟨catalog, rfl, word, spelled _ (ReadState.peek_mem_rest ?_) word⟩
  exact ReadState.rest_ne_nil_of_category (by rw [word]; decide)

/-- To look moves nothing. -/
theorem yields_peekCategory :
    peekCategory.Yields l s fun category u => s = u ∧ category = s.peek.category := by
  rintro _ _ ⟨⟩
  exact ⟨List.suffix_refl _, rfl, rfl⟩

end Parser

/-! ## Names

From the words that were read a `TypeWords` is put together. A qualifier takes the next word along,
or the word `int` where `unsigned` stands before a question mark; a further `long` is taken along
where the text so far ends in it. -/

/-- The words of a segment after a qualifier. -/
theorem qualified_isName {word : String} (q : Qualifier) (spelled : Spells .word word.toList) :
    TypeWords.IsName ⟨some q, word, false⟩ :=
  ⟨spelled, nofun, nofun⟩

/-- A segment consists of words. -/
theorem nameSegment_yields (spelled : Spelled s.rest) :
    nameSegment.Yields l s fun name u => u.catalog = s.catalog ∧
      ∃ w : TypeWords, w.IsName ∧ w.long = false ∧ w.segment = name := by
  refine (yields_acceptKeyword "unrestricted").bind ?_
  rintro unrestricted u suffix ⟨catalog, other⟩
  have after (q : Qualifier) {u : ReadState} (suffix : u.rest <:+ s.rest)
      (catalog : u.catalog = s.catalog) :
      (identifier >>= fun word => (pure (q.text ++ " " ++ word) : Parser String)).Yields l u
        fun name v => v.catalog = s.catalog ∧
          ∃ w : TypeWords, w.IsName ∧ w.long = false ∧ w.segment = name := by
    refine (yields_identifier (spelled.suffix suffix)).bind ?_
    rintro word v _ ⟨catalog', -, -, spelled⟩
    exact .pure ⟨catalog'.trans catalog, _, qualified_isName q spelled, rfl, rfl⟩
  -- a first keyword is a qualifier, and there is at most one
  cases unrestricted with
  | true => exact after .unrestricted suffix catalog
  | false =>
    obtain ⟨rfl, first⟩ := other rfl
    refine (yields_acceptKeyword "unsigned").bind ?_
    rintro unsigned v suffix' ⟨catalog', other'⟩
    cases unsigned with
    | true =>
      refine yields_peekCategory.bind ?_
      rintro category w suffix'' ⟨rfl, rfl⟩
      refine Yields.ite (.pure ⟨catalog', ?_⟩) (after .unsigned suffix' catalog')
      have int : Spells .word "int".toList := spells_word (by decide) (by decide)
      exact ⟨⟨some .unsigned, "int", false⟩, qualified_isName .unsigned int, rfl, rfl⟩
    | false =>
      obtain ⟨rfl, second⟩ := other' rfl
      refine (yields_identifier spelled).imp ?_
      rintro word w _ ⟨catalog'', rfl, category, spells⟩
      refine ⟨catalog'', ⟨none, v.peek.text, false⟩, ⟨spells, fun _ q eq => ?_, nofun⟩, rfl, rfl⟩
      have same : v.peek.text = q.text := eq
      have word : v.peek.isKeyword q.text = true := by simp [Token.isKeyword, category, same]
      cases q
      · exact absurd word (by rw [Qualifier.text, first]; decide)
      · exact absurd word (by rw [Qualifier.text, second]; decide)

/-- The last segment of a scoped name is its name. -/
theorem scopedName_yields (spelled : Spelled s.rest) :
    scopedName.Yields l s fun name u => u.catalog = s.catalog ∧
      ∃ w : TypeWords, w.IsName ∧ w.long = false ∧ w.segment = name := by
  refine Yields.fix (P := fun s => Spelled s.rest) (Q := fun s name u => u.catalog = s.catalog ∧
    ∃ w : TypeWords, w.IsName ∧ w.long = false ∧ w.segment = name) ?_ spelled
  intro again s recursion spelled
  refine (nameSegment_yields spelled).bind ?_
  rintro name u suffix ⟨catalog, words⟩
  refine (yields_accept .colonColon).bind ?_
  rintro found v suffix' ⟨catalog', -⟩
  refine Yields.ite ?_ (.pure ⟨catalog'.trans catalog, words⟩)
  refine (recursion v (spelled.suffix (suffix'.trans suffix))).imp ?_
  rintro name' w _ ⟨catalog'', words'⟩
  exact ⟨catalog''.trans (catalog'.trans catalog), words'⟩

/-- The name of a type consists of words, and takes `long` along where it can. -/
theorem typeName_yields (spelled : Spelled s.rest) :
    Grammar.typeName.Yields l s fun name u => u.catalog = s.catalog ∧
      ∃ w : TypeWords, w.IsName ∧ w.text = name ∧
        (w.TakesLong → u.peek.isKeyword "long" = false) := by
  refine (scopedName_yields spelled).bind ?_
  rintro _ u suffix ⟨catalog, w, isName, long, rfl⟩
  have plain : w.text = w.segment := by rw [TypeWords.text, long]; rfl
  -- a further `long` is looked for only after such a word
  by_cases ends : endsInLong w.segment = true
  · rw [if_pos ends]
    refine (yields_acceptKeyword "long").bind ?_
    rintro found v _ ⟨catalog', other⟩
    have extended : TypeWords.IsName { w with long := true } :=
      ⟨isName.spelled, isName.unqualified, fun _ => ends⟩
    cases found with
    | true =>
      refine .pure ⟨catalog'.trans catalog, _, extended, rfl, ?_⟩
      rintro ⟨⟨⟩, -⟩
    | false =>
      obtain ⟨rfl, none⟩ := other rfl
      exact .pure ⟨catalog, w, isName, plain, fun _ => none⟩
  · rw [if_neg ends]
    exact .pure ⟨catalog, w, isName, plain, fun takes => absurd takes.2 ends⟩

/-! ## Marks

A mark was read, and the wrapper created, or the next token is not the mark and nothing happened. -/

/-- What an optional mark comes to: without the mark nothing happens. -/
structure MarkRead (kind : Kind) (rendered : String → String) (mark : Category) (s : ReadState)
    (t : TypeId) (marked : Bool) (t' : TypeId) (u : ReadState) : Prop where
  later : Mentioning s.catalog u.catalog
  holds : u.catalog.Marked kind rendered marked t t'
  here : marked = true ↔ s.peek.category = mark
  quiet : marked = false → u = s

/-- The question mark after a type, or none. -/
theorem nullableIfMarked_yields {t : TypeId} (bound : t.index < s.catalog.types.size) :
    (nullableIfMarked t).Yields l s fun t' u =>
      ∃ marked, MarkRead .nullable (· ++ "?") .question s t marked t' u := by
  refine (yields_accept .question).bind ?_
  rintro found u _ ⟨catalog, here, other⟩
  cases found with
  | true =>
    rw [← catalog] at bound
    refine ((wrap_answers rfl .nullable bound).yields (List.suffix_refl _)).imp ?_
    rintro t' v _ ⟨later, holds⟩
    exact ⟨true, catalog ▸ later, .wrapped holds, here, nofun⟩
  | false =>
    obtain rfl := other rfl
    exact .pure ⟨false, .refl _, .plain t, here, fun _ => rfl⟩

/-- The brackets after a type, or none. -/
theorem arrayIfMarked_yields {t : TypeId} (bound : t.index < s.catalog.types.size) :
    (arrayIfMarked t).Yields l s fun t' u =>
      ∃ marked, MarkRead .array (· ++ "[]") .bracketOpen s t marked t' u := by
  refine (yields_accept .bracketOpen).bind ?_
  rintro found u _ ⟨catalog, here, other⟩
  cases found with
  | true =>
    refine (yields_require .bracketClose).bind ?_
    rintro _ v _ ⟨catalog', -⟩
    rw [← catalog, ← catalog'] at bound
    refine ((wrap_answers rfl .array bound).yields (List.suffix_refl _)).imp ?_
    rintro t' w _ ⟨later, holds⟩
    exact ⟨true, (catalog'.trans catalog) ▸ later, .wrapped holds, here, nofun⟩
  | false =>
    obtain rfl := other rfl
    exact .pure ⟨false, .refl _, .plain t, here, fun _ => rfl⟩

/-! ## References

The tree is built along the run. A name followed by a chevron is a generic type, `sequence` is a
form of its own, and everything else is a named type with what marks there are. -/

/-- What the reading of a type reference comes to: the answer is a type for which some reference
stands, and no `long` is left that would belong to the reference. -/
def ReferenceRead (l : LibraryId) (s : ReadState) (t : TypeId) (u : ReadState) : Prop :=
  Mentioning s.catalog u.catalog ∧ ∃ e, u.catalog.Means l e t ∧
    (e.TakesLong → u.peek.isKeyword "long" = false)

/-- A state from which type references are read. -/
structure ReadState.Sound (s : ReadState) : Prop where
  spelled : Spelled s.rest
  registry : Registry s.catalog

/-- A sound state stays sound after references. -/
theorem ReadState.Sound.later (h : s.Sound) (suffix : u.rest <:+ s.rest)
    (later : Mentioning s.catalog u.catalog) : u.Sound :=
  ⟨h.spelled.suffix suffix, later.registry h.registry⟩

/-- A name stands for a type once it was looked up. -/
theorem resolve_yields {name : TypeName} (registry : Registry s.catalog) :
    (resolve name.text).Yields l s fun t u =>
      Mentioning s.catalog u.catalog ∧ u.catalog.lookUp l name.text = some t ∧
        u.rest = s.rest := by
  obtain ⟨t, _, u, run, left, -, -, later, found⟩ :=
    resolve_answers (s := s) (l := l) rfl registry name.ne_globalsName
  intro t' v run'
  rw [run] at run'
  cases run'
  exact ⟨left ▸ List.suffix_refl _, later, found, left⟩

/-- A named type with its marks has a tree. -/
theorem namedType_yields (name : TypeName) (registry : Registry s.catalog)
    (long : name.TakesLong → s.peek.isKeyword "long" = false) :
    (namedType name.text >>= nullableIfMarked).Yields l s (ReferenceRead l s) := by
  have plain := name.ne_globalsName
  rw [namedType, bind_assoc]
  refine (resolve_yields registry).bind ?_
  rintro t₀ u₀ _ ⟨later₀, found, left₀⟩
  have registry₀ := later₀.registry registry
  have bound₀ := (lookUp_isEntry registry₀ plain found).bound
  rw [bind_assoc]
  refine (nullableIfMarked_yields bound₀).bind ?_
  rintro t₁ u₁ _ ⟨nullable, first⟩
  have le₁ := Nat.lt_of_lt_of_le bound₀ first.later.size_le
  refine (arrayIfMarked_yields (first.holds.bound le₁)).bind ?_
  rintro t₂ u₂ _ ⟨array, second⟩
  have le₂ := Nat.lt_of_lt_of_le (first.holds.bound le₁) second.later.size_le
  refine (nullableIfMarked_yields (second.holds.bound le₂)).imp ?_
  rintro t₃ u₃ _ ⟨again, third⟩
  have marked : again = true → nullable = true ∨ array = true := by
    -- without the first two marks the last one stands where the first one would
    rintro rfl
    by_contra none
    simp only [not_or, Bool.not_eq_true] at none
    obtain ⟨noFirst, noSecond⟩ := none
    have here := third.here.1 rfl
    rw [second.quiet noSecond, first.quiet noFirst] at here
    simp [first.here.2 here] at noFirst
  refine ⟨((later₀.trans first.later).trans second.later).trans third.later,
    .named name nullable array again marked,
    .marks registry₀ found first.later first.holds second.later second.holds third.later
      third.holds, ?_⟩
  rintro ⟨⟨noFirst, noSecond, noThird⟩, takes⟩
  rw [third.quiet noThird, second.quiet noSecond, first.quiet noFirst, ReadState.peek, left₀]
  exact long takes

variable {self : Parser TypeId}
  (recursion : ∀ u : ReadState, u.Sound → self.Yields l u (ReferenceRead l u))

include recursion

/-- A sequence has a tree. -/
theorem sequenceType_yields (sound : s.Sound) :
    (sequenceType self >>= nullableIfMarked).Yields l s (ReferenceRead l s) := by
  rw [sequenceType, bind_assoc]
  refine (yields_require .chevronLeft).bind ?_
  rintro _ u suffix ⟨catalog, -⟩
  have sound : u.Sound := sound.later suffix (catalog ▸ .refl _)
  rw [bind_assoc]
  -- the element is itself a reference
  refine (recursion u sound).bind ?_
  rintro t v _ ⟨later, e, means, -⟩
  have registry := later.registry sound.registry
  rw [bind_assoc]
  refine (yields_require .chevronRight).bind ?_
  rintro _ w _ ⟨catalog', -⟩
  rw [← catalog'] at registry later means
  have bound := means.bound registry
  refine ((wrap_answers rfl .sequence bound).yields (List.suffix_refl _)).bind ?_
  rintro t' x _ ⟨later', holds⟩
  refine (nullableIfMarked_yields holds.bound).imp ?_
  rintro t'' y _ ⟨nullable, mark⟩
  rw [ReferenceRead, ← catalog]
  exact ⟨(later.trans later').trans mark.later, .sequence e nullable,
    .sequence_later registry means later' holds mark.later mark.holds, False.elim⟩

/-- References in a row. -/
theorem sepBy_yields {more : Parser Bool} (sound : s.Sound)
    (quiet : ∀ s, more.Yields l s fun _ u => u.catalog = s.catalog) :
    (sepBy self more).Yields l s fun ts u => Mentioning s.catalog u.catalog ∧
      ∃ first others, List.Forall₂ (u.catalog.Means l) (first :: others) ts := by
  refine Yields.fix (P := ReadState.Sound) (Q := fun s ts u => Mentioning s.catalog u.catalog ∧
    ∃ first others, List.Forall₂ (u.catalog.Means l) (first :: others) ts) ?_ sound
  intro again s further sound
  refine (recursion s sound).bind ?_
  rintro t u suffix ⟨later, e, means, -⟩
  refine (quiet u).bind ?_
  rintro found v suffix' catalog
  rw [← catalog] at later means
  have sound : v.Sound := sound.later (suffix'.trans suffix) later
  refine Yields.ite ?_ (.pure ⟨later, e, [], .cons means .nil⟩)
  refine (further v sound).bind ?_
  rintro ts w _ ⟨later', first, others, row⟩
  have still := means.stays sound.registry (later'.retains sound.registry)
  exact .pure ⟨later.trans later', e, first :: others, .cons still row⟩

/-- A generic type has a tree. -/
theorem genericType_yields (sound : s.Sound) (name : TypeName) :
    (genericType self name.text >>= nullableIfMarked).Yields l s (ReferenceRead l s) := by
  have group : (genericType self name.text).Yields l s fun t u =>
      ∃ c ts first others, Registry c ∧ Mentioning s.catalog c ∧
        List.Forall₂ (c.Means l) (first :: others) ts ∧ Mentioning c u.catalog ∧
          u.catalog.Holds t (c.genericNode name.text ts) := by
    refine (yields_require .chevronLeft).bind ?_
    rintro _ u suffix ⟨catalog, -⟩
    have sound : u.Sound := sound.later suffix (catalog ▸ .refl _)
    -- the arguments are references, of which there is at least one
    refine (sepBy_yields recursion sound ?_).bind ?_
    · exact fun s => (yields_accept .comma).imp fun _ _ _ h => h.1
    rintro ts v _ ⟨later, first, others, related⟩
    have registry := later.registry sound.registry
    refine (yields_require .chevronRight).bind ?_
    rintro _ w _ ⟨catalog', -⟩
    rw [← catalog'] at registry later related
    have bound := Means.forall_bound registry related
    refine ((Creates.answers rfl (genericOf_creates name.text ts) (.generic _ bound)).yields
      (List.suffix_refl _)).imp ?_
    rintro t x _ ⟨later', holds⟩
    exact ⟨_, ts, first, others, registry, catalog ▸ later, related, later', holds⟩
  refine group.bind ?_
  rintro t u _ ⟨c, ts, first, others, registry, later, related, later', holds⟩
  refine (nullableIfMarked_yields holds.bound).imp ?_
  rintro t' v _ ⟨nullable, mark⟩
  exact ⟨(later.trans later').trans mark.later, .generic name first others nullable,
    .generic_later registry related later' holds mark.later mark.holds, False.elim⟩

/-- A union has a tree. -/
theorem unionType_yields (sound : s.Sound) :
    (unionType self).Yields l s (ReferenceRead l s) := by
  refine (yields_require .parenthesisOpen).bind ?_
  rintro _ u suffix ⟨catalog, -⟩
  have sound : u.Sound := sound.later suffix (catalog ▸ .refl _)
  refine (sepBy_yields recursion sound ?_).bind ?_
  · exact fun s => (yields_acceptKeyword "or").imp fun _ _ _ h => h.1
  rintro ts v _ ⟨later, first, others, related⟩
  have registry := later.registry sound.registry
  refine (yields_require .parenthesisClose).bind ?_
  rintro _ w _ ⟨catalog', -⟩
  -- a question mark that follows is taken and says nothing
  refine (yields_accept .question).bind ?_
  rintro _ x _ ⟨catalog'', -⟩
  rw [← catalog', ← catalog''] at registry later related
  have bound := Means.forall_bound registry related
  refine ((Creates.answers rfl (unionOf_creates ts) (.union bound)).yields
    (List.suffix_refl _)).imp ?_
  rintro t x _ ⟨later', holds⟩
  rw [ReferenceRead, ← catalog]
  exact ⟨later.trans later', .union first others, .union_later registry related later' holds,
    False.elim⟩

omit recursion in
/-- The answer of a type reference is a type for which some reference stands. -/
theorem typeReference_yields (sound : s.Sound) :
    typeReference.Yields l s (ReferenceRead l s) := by
  refine Yields.fix (P := ReadState.Sound) (Q := ReferenceRead l) ?_ sound
  intro self s recursion sound
  refine yields_peekCategory.bind ?_
  rintro _ _ _ ⟨rfl, rfl⟩
  -- a parenthesis opens a union; anything else starts with a name
  refine Yields.ite (unionType_yields recursion sound) ?_
  refine (typeName_yields sound.spelled).bind ?_
  rintro _ u suffix ⟨catalog, w, isName, rfl, long⟩
  have sound : u.Sound := sound.later suffix (catalog ▸ .refl _)
  refine yields_peekCategory.bind ?_
  rintro _ _ _ ⟨rfl, rfl⟩
  dsimp only
  have from_ {p : Parser TypeId} (h : p.Yields l u (ReferenceRead l u)) :
      p.Yields l u (ReferenceRead l s) := by
    refine h.imp fun t v _ read => ?_
    rwa [ReferenceRead, ← catalog]
  by_cases sequence : w.text = "sequence"
  · rw [if_pos sequence]
    exact from_ (sequenceType_yields recursion sound)
  · rw [if_neg sequence]
    let name : TypeName := ⟨w, isName, sequence⟩
    exact Yields.ite (from_ (genericType_yields recursion sound name))
      (from_ (namedType_yields name sound.registry long))

end IdlCatalog
