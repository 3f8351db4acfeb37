/-
# IdlCatalog.Proofs.Grammar.AttributeReading — the tokens of attributes before a declaration

What is read before a declaration is a row of blocks, and each block a row of attributes between
commas. An attribute is what is read as one where its tokens stand alone. Both directions are shown
here: wherever attributes are read, the tokens that were read are such blocks, and wherever such
blocks stand, attributes are read.

What an attribute asks for does not depend on the place, the types of the parameters of a
constructor excepted: they have other numbers in another catalog.

That an attribute is what is read as one where it stands alone is a definition by the parser itself.
It is a choice: to describe each form of an attribute by a tree would repeat the table of
attributes. What makes it a useful one is `Repeats`; an attribute that can be read alone can be read
anywhere, and the other way round.
-/
import IdlCatalog.Proofs.Grammar.Repeating
import IdlCatalog.Proofs.Token.Layout

namespace IdlCatalog

open Grammar Lexer IdlCatalog.Parser

variable {l k : LibraryId} {s u : ReadState} {c : Catalog} {row rest : List Token}
  {rows : List (List Token)} {blocks : List (List (List Token))} {effect : AttributeEffect}
  {effects : List AttributeEffect} {text : List Char}

/-! ## Rows of attributes

Blocks are rows of rows. Attributes that stand in one block or in several are told apart only by the
brackets and commas between them, and the rows of all blocks in order are the concatenation. -/

/-- The tokens of a block, given the tokens of each attribute in it. -/
def blockTokens (rows : List (List Token)) : List Token :=
  ⟨.bracketOpen, "["⟩ :: ([⟨.comma, ","⟩].intercalate rows ++ [⟨.bracketClose, "]"⟩])

/-- The tokens of blocks that stand one after the other. -/
def blocksTokens (blocks : List (List (List Token))) : List Token := blocks.flatMap blockTokens

/-- What an attribute asks for whose tokens stand alone. -/
def AsksFor (row : List Token) (effect : AttributeEffect) : Prop :=
  ∃ l c u, namedAttribute l (ReadState.start row c) = (.ok effect, u) ∧ u.rest = []

/-- The tokens are those of an attribute. -/
def IsAttribute (row : List Token) : Prop := Spelled row ∧ ∃ effect, AsksFor row effect

/-- Tokens that come from a text are spelled like tokens. -/
theorem spelled_of_subset (inside : row ⊆ tokens text) : Spelled row :=
  fun _ token word => tokens_spells (inside token) word

/-- Whether tokens are those of an attribute can be tried out. -/
theorem isAttribute_of_accepted (spelled : Spelled row)
    (accepted : (namedAttribute l (.start row c)).1.toBool = true)
    (whole : (namedAttribute l (.start row c)).2.rest = []) : IsAttribute row := by
  refine ⟨spelled, ?_⟩
  cases read : namedAttribute l (.start row c) with
  | mk answer u =>
    rw [read] at accepted whole
    cases answer with
    | error => cases accepted
    | ok effect => exact ⟨effect, l, c, u, read, whole⟩

/-- The category of an operator tells its text. -/
theorem operator_of_category {sign t : Token}
    (listed : (sign.category, sign.text) ∈ Category.operators) (inside : t ∈ tokens text)
    (same : t.category = sign.category) : t = sign := by
  have marked : ∀ entry ∈ Category.operators,
      entry.1 ∉ [Category.eof, .other, .word, .number, .string] := by decide +kernel
  have unique : (operatorTexts.map (·.1)).Nodup := by decide +kernel
  have own : (sign.category, sign.text.toList) ∈ operatorTexts := List.mem_map.2 ⟨_, listed, rfl⟩
  have strange := marked _ listed
  rw [← same] at strange
  simp only [List.mem_cons, List.not_mem_nil, or_false, not_or] at strange
  obtain ⟨goesOn, known, word, number, string⟩ := strange
  have isToken : IsToken t := ⟨goesOn, text, inside⟩
  rcases isToken.form.1 with spells | ⟨other, -⟩
  · have entry := spells.operator_of fun either => either.elim word (Or.elim · number string)
    obtain ⟨-, letters⟩ := Prod.mk.inj (List.inj_on_of_nodup_map unique entry own same)
    obtain ⟨_, _⟩ := t
    obtain ⟨_, _⟩ := sign
    cases same
    exact congrArg _ (String.toList_inj.1 letters)
  · exact absurd other known

/-! ## From a place to tokens that stand alone

A reading of blocks is cut at the commas and brackets. Each piece was read in front of a comma or a
bracket, with which no attribute goes on, so it is read in the same way in front of nothing. -/

/-- An attribute is read from the tokens of an attribute. -/
theorem asksFor_of_read (read : namedAttribute l s = (.ok effect, u)) :
    ∃ row, s.rest = row ++ u.rest ∧ AsksFor row effect := by
  obtain ⟨row, split⟩ := (repeats_namedAttribute s).suffix read
  let s' := ReadState.start row s.catalog
  have same : s'.catalog = s.catalog := rfl
  have stands : s'.rest = row ++ [] := (List.append_nil row).symm
  obtain ⟨v, alone, left, -⟩ :=
    (repeats_namedAttribute s).again read split.symm same stands (.inr (by decide))
  exact ⟨row, split.symm, l, s.catalog, v, alone, left⟩

/-- An attribute has a token at least. -/
theorem namedAttribute_fewer (read : namedAttribute l s = (.ok effect, u)) : u.left < s.left := by
  obtain ⟨name, t, word, inside⟩ := bind_ok (namedAttribute_ok_iff.1 read)
  have le := ((repeats_attributeNamed name t).suffix inside).length_le
  rw [← u.left_eq, ← t.left_eq] at le
  exact Nat.lt_of_le_of_lt le (identifier_fewer word)

/-- The attributes of a block: one is read, and the others after a comma. -/
theorem attributes_eq :
    sepBy namedAttribute (accept .comma) = namedAttribute >>= fun effect =>
      accept .comma >>= fun goesOn =>
        if goesOn then
          sepBy namedAttribute (accept .comma) >>= fun effects => pure (effect :: effects)
        else pure [effect] := by
  exact sepBy_eq fun first second =>
    Nat.lt_of_le_of_lt (accept_left_le second) (namedAttribute_fewer first)

/-- A row of attributes has a token at least. -/
theorem attributes_fewer (read : sepBy namedAttribute (accept .comma) l s = (.ok effects, u)) :
    u.left < s.left :=
  sepBy_fewer namedAttribute_fewer accept_left_le read

/-- A block has a token at least. -/
theorem attributeBlock_fewer (read : attributeBlock l s = (.ok (some effects), u)) :
    u.left < s.left := by
  obtain ⟨opens, t, first, inside⟩ := bind_ok read
  cases opens with
  | false => cases inside
  | true =>
    obtain ⟨_, v, attributes, last⟩ := bind_ok inside
    obtain ⟨_, w, closes, answer⟩ := bind_ok last
    cases answer
    calc u.left < v.left := require_fewer (by decide) closes
      _ < t.left := attributes_fewer attributes
      _ ≤ s.left := accept_left_le first

section Alone

variable (place : s.rest <:+ tokens text)

include place

/-- Where the category of an operator is read, the operator stands, and the text goes on after
it. -/
theorem operator_stands (sign : Token) (listed : (sign.category, sign.text) ∈ Category.operators)
    (here : s.peek.category = sign.category) :
    s.rest = sign :: s.advance.rest ∧ s.advance.rest <:+ tokens text := by
  refine ⟨?_, s.advance_suffix.trans place⟩
  have other : sign.category ≠ .eof := by
    have marked : ∀ entry ∈ Category.operators, entry.1 ≠ .eof := by decide +kernel
    exact marked _ listed
  have inside : s.rest ≠ [] := ReadState.rest_ne_nil_of_category (here ▸ other)
  have known : s.peek = sign :=
    operator_of_category listed (place.subset (ReadState.peek_mem_rest inside)) here
  rw [← known]
  exact ReadState.rest_eq_cons inside

/-- What is read between the brackets of a block are attributes. -/
theorem attributes_of_read
    (read : sepBy namedAttribute (accept .comma) l s = (.ok effects, u)) :
    ∃ rows, rows ≠ [] ∧ (∀ row ∈ rows, IsAttribute row) ∧
      s.rest = [⟨.comma, ","⟩].intercalate rows ++ u.rest := by
  -- on the number of tokens that are left, which each attribute makes fewer
  induction measure : s.left using Nat.strongRecOn generalizing s effects with
  | _ n ih =>
    rw [attributes_eq] at read
    obtain ⟨effect, t, first, after⟩ := bind_ok read
    obtain ⟨goesOn, v, second, last⟩ := bind_ok after
    obtain ⟨row, split, asks⟩ := asksFor_of_read first
    have spelled : Spelled row :=
      spelled_of_subset fun _ inside => place.subset (split ▸ List.mem_append_left _ inside)
    have placed : t.rest <:+ tokens text := (split ▸ List.suffix_append row t.rest).trans place
    cases goesOn with
    | false =>
      obtain ⟨-, rfl⟩ := accept_false second
      cases last
      refine ⟨[row], by simp, ?_, by simp [List.intercalate, split]⟩
      simpa using ⟨spelled, effect, asks⟩
    | true =>
      obtain ⟨comma, rfl⟩ := accept_true second
      obtain ⟨others, w, more, answer⟩ := bind_ok last
      cases answer
      obtain ⟨sign, placed'⟩ := operator_stands placed ⟨.comma, ","⟩ (by decide +kernel) comma
      have fewer : t.advance.left < n := by
        have less := namedAttribute_fewer first
        rw [t.advance.left_eq, ReadState.rest_advance, List.length_tail, ← t.left_eq]
        omega
      obtain ⟨rows, nonempty, attributes, split'⟩ := ih _ fewer placed' more rfl
      obtain ⟨row', rows, rfl⟩ := List.exists_cons_of_ne_nil nonempty
      refine ⟨row :: row' :: rows, by simp, ?_, ?_⟩
      · exact List.forall_mem_cons.2 ⟨⟨spelled, effect, asks⟩, attributes⟩
      · rw [List.intercalate_cons_cons, split, sign, split']
        simp

/-- What is read before a declaration are blocks of attributes. -/
theorem blocks_of_read {found : List (List AttributeEffect)}
    (read : collect attributeBlock l s = (.ok found, u)) :
    ∃ blocks, [] ∉ blocks ∧ (∀ row ∈ blocks.flatten, IsAttribute row) ∧
      s.rest = blocksTokens blocks ++ u.rest ∧ (nextToken u.rest).category ≠ .bracketOpen := by
  -- on the number of tokens that are left, which each block makes fewer
  induction measure : s.left using Nat.strongRecOn generalizing s found with
  | _ n ih =>
    rw [@collect_eq _ attributeBlock attributeBlock_fewer] at read
    obtain ⟨block, t, first, more⟩ := bind_ok read
    obtain ⟨opens, v, bracket, inside⟩ := bind_ok first
    cases opens with
    | false =>
      obtain ⟨away, rfl⟩ := accept_false bracket
      cases inside
      cases more
      exact ⟨[], by simp, by simp, rfl, away⟩
    | true =>
      obtain ⟨effects, w, attributes, last⟩ := bind_ok inside
      obtain ⟨_, x, closes, answer⟩ := bind_ok last
      cases answer
      have fewer : t.left < n := measure ▸ attributeBlock_fewer first
      obtain ⟨others, y, again, final⟩ := bind_ok more
      cases final
      obtain ⟨here, rfl⟩ := accept_true bracket
      obtain ⟨here', rfl⟩ := require_ok closes
      obtain ⟨opening, placed⟩ :=
        operator_stands place ⟨.bracketOpen, "["⟩ (by decide +kernel) here
      obtain ⟨rows, nonempty, each, split⟩ := attributes_of_read placed attributes
      have placed' : w.rest <:+ tokens text := (split ▸ List.suffix_append _ _).trans placed
      obtain ⟨closing, placed''⟩ :=
        operator_stands placed' ⟨.bracketClose, "]"⟩ (by decide +kernel) here'
      obtain ⟨blocks, nonempties, others, split', ends⟩ := ih _ fewer placed'' again rfl
      refine ⟨rows :: blocks, ?_, ?_, ?_, ends⟩
      · exact List.not_mem_cons_of_ne_of_not_mem nonempty.symm nonempties
      · rw [List.flatten_cons]
        exact List.forall_mem_append.2 ⟨each, others⟩
      · rw [opening, split, closing, split']
        simp [blocksTokens, blockTokens]

end Alone

/-! ## From tokens that stand alone to a place

Another place means another catalog, and perhaps another library. What an attribute does to the
catalog is to look up the types of parameters; the coupling `elsewhere` holds between any two
catalogs and relates any two types, and under it two readings of an attribute ask for the same thing
up to types. -/

/-- Nothing but the tokens is the same in both readings. -/
def elsewhere (l k : LibraryId) : Coupling where
  lib₁ := l
  lib₂ := k
  holds _ := True
  type _ _ _ := True
  named _ _ _ := False
  refuses _ := False

/-- The action reads no token and always answers. -/
def Parser.Succeeds {α : Type} (p : Parser α) (l : LibraryId) : Prop :=
  ∀ s : ReadState, ∃ a x, p l s = (.ok a, s.put x)

section Elsewhere

variable {α : Type} {p q : Parser α} {w : Stores} {n : Nat}

/-- An action that answers from every catalog. -/
theorem Parser.Succeeds.of_performs
    (h : ∀ c, p.Performs l c fun answer _ _ => ∃ a, answer = .ok a) : p.Succeeds l := by
  intro s
  obtain ⟨_, _, x, run, -, a, rfl⟩ := h s.catalog s rfl
  exact ⟨a, x, run⟩

/-- To create a composite never fails. -/
theorem Parser.Creates.succeeds {p : Parser TypeId} {node : Catalog → TypeNode}
    (h : ∀ c, p.Creates l c (node c)) : p.Succeeds l :=
  .of_performs fun c => (h c).imp fun _ _ _ created => ⟨_, created.1⟩

/-- To look a name up never fails. -/
theorem succeeds_resolve {name : String} (plain : name ≠ globalsName) : (resolve name).Succeeds l :=
  .of_performs fun _ => (resolve_performs plain).imp fun _ _ _ ⟨t, answer, _⟩ => ⟨t, answer⟩

/-- Actions that always answer keep the coupling. -/
theorem elsewhere_keeps {V : Stores → α → α → Prop} (hp : p.Succeeds l) (hq : q.Succeeds k)
    (answers : ∀ w a b, V w a b) : (elsewhere l k).Keeps w n V p q := by
  intro s₁ s₂ _ _ _ _ _
  obtain ⟨a, x, run⟩ := hp s₁
  obtain ⟨b, y, run'⟩ := hq s₂
  show (elsewhere l k).Outcome s₁ s₂ _ V (p l s₁) (q k s₂)
  rw [run, run']
  exact .ok (ReadState.put_after s₁ x) (ReadState.put_after s₂ y) (Nat.zero_le _) trivial
    ⟨fun _ => trivial, fun named => named⟩ (answers _ a b)

/-- Parameters are read in step in any two catalogs. -/
theorem elsewhere_lawful (l k : LibraryId) : (elsewhere l k).LawfulParameters where
  resolve plain := elsewhere_keeps (succeeds_resolve plain) (succeeds_resolve plain)
    fun _ _ _ => trivial
  wrap _ _ := elsewhere_keeps (Parser.Creates.succeeds fun _ => wrap_creates _ _ _)
    (Parser.Creates.succeeds fun _ => wrap_creates _ _ _) fun _ _ _ => trivial
  genericOf name _ := elsewhere_keeps (Parser.Creates.succeeds fun _ => genericOf_creates name _)
    (Parser.Creates.succeeds fun _ => genericOf_creates name _) fun _ _ _ => trivial
  unionOf _ := elsewhere_keeps (Parser.Creates.succeeds fun _ => unionOf_creates _)
    (Parser.Creates.succeeds fun _ => unionOf_creates _) fun _ _ _ => trivial
  noteParameter _ := elsewhere_keeps (fun s => ⟨(), ⟨s.catalog, _⟩, rfl⟩)
    (fun s => ⟨(), ⟨s.catalog, _⟩, rfl⟩) fun _ _ _ => trivial

end Elsewhere

/-- The effect is what the tokens ask for where they stand alone, the numbers of types excepted. -/
def Means (row : List Token) (effect : AttributeEffect) : Prop :=
  ∃ l k w alone, AsksFor row alone ∧ (elsewhere l k).Effects w alone effect

/-- An attribute is read wherever its tokens stand before a token with which it does not go on. -/
theorem namedAttribute_reads (isAttribute : IsAttribute row) (stands : s.rest = row ++ rest)
    (ends : ¬(nextToken rest).GoesOn) (l : LibraryId) :
    ∃ effect u, namedAttribute l s = (.ok effect, u) ∧ u.rest = rest ∧ Means row effect := by
  obtain ⟨spelled, alone, l₀, c, u, run, left⟩ := isAttribute
  let s₁ := ReadState.start row c
  let s₂ := ReadState.start row s.catalog
  have outcome : (elsewhere l₀ l).Outcome s₁ s₂ _ _ (namedAttribute l₀ s₁) (namedAttribute l s₂) :=
    (Coupling.namedAttribute_keeps (elsewhere_lawful l₀ l)).outcome ⟨rfl, rfl⟩ spelled trivial
  rw [run] at outcome
  generalize there : namedAttribute l s₂ = answer at outcome
  cases outcome with
  | @ok _ effect _ v count after₁ after₂ _ _ _ related =>
    have nothing : v.rest = [] := by
      rw [after₂.rest]
      exact after₁.rest.symm.trans left
    have whole : s₂.rest = row ++ v.rest := nothing ▸ (List.append_nil row).symm
    have same : s.catalog = s₂.catalog := rfl
    obtain ⟨w, read, left', -⟩ :=
      (repeats_namedAttribute s₂).again there whole same stands (.inr ends)
    exact ⟨effect, w, read, left', l₀, l, _, alone, ⟨l₀, c, u, run, left⟩, related⟩

/-- Attributes between commas are read up to the bracket after them. -/
theorem attributes_read (each : ∀ row ∈ rows, IsAttribute row) (nonempty : rows ≠ [])
    (stands : s.rest = [⟨.comma, ","⟩].intercalate rows ++ rest)
    (closes : (nextToken rest).category = .bracketClose) (l : LibraryId) :
    ∃ effects u, sepBy namedAttribute (accept .comma) l s = (.ok effects, u) ∧ u.rest = rest ∧
      List.Forall₂ Means rows effects := by
  have ends : ¬(nextToken rest).GoesOn := by
    simp [Token.GoesOn, Token.isKeyword, closes]
  induction rows generalizing s with
  | nil => contradiction
  | cons row rows ih =>
    obtain ⟨isAttribute, each⟩ := List.forall_mem_cons.1 each
    cases rows with
    | nil =>
      have stands : s.rest = row ++ rest := by simpa [List.intercalate] using stands
      obtain ⟨effect, u, read, left, means⟩ := namedAttribute_reads isAttribute stands ends l
      have away : (accept .comma).Passes u false := passes_accept (by
        rw [ReadState.peek_eq left, closes]
        decide)
      refine ⟨[effect], u, ?_, left, .cons means .nil⟩
      rw [attributes_eq, Parser.bind_apply, read]
      exact away.bind_apply l
    | cons row' rows =>
      rw [List.intercalate_cons_cons, List.append_assoc, List.append_assoc] at stands
      obtain ⟨effect, t, read, left, means⟩ :=
        namedAttribute_reads isAttribute stands
          (by simp [Token.GoesOn, Token.isKeyword, nextToken]) l
      obtain ⟨peek, left⟩ := ReadState.peek_of_rest left
      obtain ⟨effects, u, more, left', others⟩ := ih each (by simp) left
      have here : (accept .comma).Takes t true := fun _ => if_pos (by rw [peek])
      refine ⟨effect :: effects, u, ?_, left', .cons means others⟩
      rw [attributes_eq, Parser.bind_apply, read]
      dsimp only
      rw [here.bind_apply, if_pos rfl, Parser.bind_apply, more]
      rfl

/-- Blocks of attributes are read up to a token with which no other block starts. -/
theorem blocks_read (each : ∀ row ∈ blocks.flatten, IsAttribute row) (nonempty : [] ∉ blocks)
    (stands : s.rest = blocksTokens blocks ++ rest)
    (ends : (nextToken rest).category ≠ .bracketOpen) (l : LibraryId) :
    ∃ found u, collect attributeBlock l s = (.ok found, u) ∧ u.rest = rest ∧
      List.Forall₂ (List.Forall₂ Means) blocks found := by
  induction blocks generalizing s with
  | nil =>
    have none : (collect attributeBlock).Passes s [] := passes_collect <|
      (passes_accept (by rwa [ReadState.peek_eq stands])).bind fun _ => rfl
    exact ⟨[], s, none l, stands, .nil⟩
  | cons rows blocks ih =>
    rw [List.flatten_cons, List.forall_mem_append] at each
    rw [List.mem_cons, not_or] at nonempty
    have stands : s.rest = ⟨.bracketOpen, "["⟩ :: ([⟨.comma, ","⟩].intercalate rows ++
        ⟨.bracketClose, "]"⟩ :: (blocksTokens blocks ++ rest)) := by
      rw [stands]
      simp [blocksTokens, blockTokens]
    obtain ⟨peek, left⟩ := ReadState.peek_of_rest stands
    obtain ⟨effects, t, read, left, means⟩ :=
      attributes_read each.1 (Ne.symm nonempty.1) left rfl l
    obtain ⟨peek', left⟩ := ReadState.peek_of_rest left
    obtain ⟨found, u, more, left, others⟩ := ih each.2 nonempty.2 left
    have opens : (accept .bracketOpen).Takes s true := fun _ => if_pos (by rw [peek])
    have closes : (require .bracketClose).Takes t t.peek := takes_require (by rw [peek'])
    have block : attributeBlock l s = (.ok (some effects), t.advance) := by
      rw [attributeBlock, opens.bind_apply, if_pos rfl, Parser.bind_apply, read]
      exact closes.bind_apply l
    refine ⟨effects :: found, u, ?_, left, .cons means others⟩
    rw [@collect_eq _ attributeBlock attributeBlock_fewer, Parser.bind_apply, block]
    dsimp only
    rw [Parser.bind_apply, more]
    rfl

end IdlCatalog
