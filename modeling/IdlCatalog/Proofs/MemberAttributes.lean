/-
# IdlCatalog.Proofs.MemberAttributes — two ways through blocks of attributes

Attributes before members and parameters are gone through entry by entry, because one of them has an
effect; those before entries of dictionaries and targets of typedefs are skipped block by block. The
two ways agree on all tokens: they accept the same blocks, read the same tokens, and where a block
does not end they refuse the same token for the same reason. An entry is told from the others by its
commas alone, so what it looks like does not matter but for its first word.

## The plan

Blocks are described by their tokens, without a parser: entries are rows in which no bracket is
closed that was not opened, separated by commas, and blocks are entries between brackets. Both ways
read exactly the tokens of such blocks, which is shown for one entry, for the entries of a block,
and for a row of blocks. If no blocks of this form stand there, both ways are refused, and at the
same token: the one at which the first section that does not end comes to its end.
-/
import IdlCatalog.Proofs.Grammar.TypeReading

namespace IdlCatalog

open Grammar IdlCatalog.Parser

variable {l : LibraryId} {s u : ReadState} {t : Token} {row rest inner front : List Token}
  {rows : List (List Token)} {blocks : List (List (List Token))}

/-! ## Blocks of attributes

An entry may be empty, so a comma may stand beside a bracket or another comma. What makes a row an
entry is only that it can be skipped and that all its brackets are closed. -/

/-- The tokens of an entry: a comma or a closing bracket stands in it only within brackets of its
own, which are all closed. -/
structure IsAttributeEntry (row : List Token) : Prop where
  skippable : Skippable [.comma, .bracketClose] 0 row
  closed : bracketLevel row = 0

instance (row : List Token) : Decidable (IsAttributeEntry row) :=
  decidable_of_iff (Skippable [.comma, .bracketClose] 0 row ∧ bracketLevel row = 0)
    ⟨fun ⟨skippable, closed⟩ => ⟨skippable, closed⟩, fun ⟨skippable, closed⟩ => ⟨skippable, closed⟩⟩

/-- Entries and the tokens of a block after its opening bracket: the entries, a comma after each but
the last one, and the closing bracket. -/
inductive AttributeEntries : List (List Token) → List Token → Prop
  | last {row : List Token} {bracket : Token} (entry : IsAttributeEntry row)
      (closes : bracket.category = .bracketClose) : AttributeEntries [row] (row ++ [bracket])
  | more {row inner : List Token} {rows : List (List Token)} {comma : Token}
      (entry : IsAttributeEntry row) (separates : comma.category = .comma)
      (others : AttributeEntries rows inner) :
      AttributeEntries (row :: rows) (row ++ comma :: inner)

/-- Consecutive blocks: the entries of each of them, and their tokens. -/
inductive AttributeBlocks : List (List (List Token)) → List Token → Prop
  | none : AttributeBlocks [] []
  | more {rows : List (List Token)} {blocks : List (List (List Token))} {inner front : List Token}
      {bracket : Token} (opens : bracket.category = .bracketOpen)
      (entries : AttributeEntries rows inner) (others : AttributeBlocks blocks front) :
      AttributeBlocks (rows :: blocks) (bracket :: (inner ++ front))

/-- The token is a word that makes a member unforgeable. -/
def Token.IsUnforgeable (t : Token) : Prop :=
  t.category = .word ∧ t.text ∈ ["Unforgeable", "LegacyUnforgeable"]

instance (t : Token) : Decidable t.IsUnforgeable := inferInstanceAs (Decidable (_ ∧ _))

/-- An entry that makes a member unforgeable begins with the word for it. -/
def BeginsUnforgeable (row : List Token) : Prop := (nextToken row).IsUnforgeable

instance (row : List Token) : Decidable (BeginsUnforgeable row) :=
  inferInstanceAs (Decidable (Token.IsUnforgeable _))

/-- `u` stands after the blocks that begin at `s`: after all of them, since no further block begins
there. Nothing but the tokens of the blocks is read, and nothing else is changed. -/
structure ReadState.AfterBlocks (s : ReadState) (blocks : List (List (List Token)))
    (u : ReadState) : Prop where
  front : ∃ front, AttributeBlocks blocks front ∧ s.rest = front ++ u.rest ∧
    u.position = s.position + front.length
  all : u.peek.category ≠ .bracketOpen
  store : u.store = s.store

/-! ## Modifiers

Of all words that have a meaning before a declaration, two have one before a member, and both ask
for the same qualifier. This is checked against the table of attributes. -/

/-- The modifiers of a member that is unforgeable if `p` holds. -/
def unforgeableIff (p : Prop) [Decidable p] : Modifiers :=
  if p then Modifiers.unforgeable else Modifiers.empty

theorem unforgeableIff_congr {p q : Prop} [Decidable p] [Decidable q] (same : p ↔ q) :
    unforgeableIff p = unforgeableIff q :=
  if_congr same rfl rfl

theorem unforgeableIff_or (p q : Prop) [Decidable p] [Decidable q] :
    unforgeableIff p ||| unforgeableIff q = unforgeableIff (p ∨ q) := by
  unfold unforgeableIff
  by_cases hp : p
  · by_cases hq : q
    · rw [if_pos hp, if_pos hq, if_pos (.inl hp), Modifiers.or_self]
    · rw [if_pos hp, if_neg hq, if_pos (.inl hp), Modifiers.or_empty]
  · rw [if_neg hp, Modifiers.empty_or]
    exact if_congr (or_iff_right hp).symm rfl rfl

theorem unionAll_cons (a : Modifiers) (others : List Modifiers) :
    unionAll (a :: others) = a ||| unionAll others := by
  calc others.foldl (· ||| ·) (Modifiers.empty ||| a)
    _ = others.foldl (· ||| ·) (a ||| Modifiers.empty) := by
      rw [Modifiers.empty_or, Modifiers.or_empty]
    _ = a ||| others.foldl (· ||| ·) Modifiers.empty := List.foldl_assoc

/-- Only the attributes named so make a member unforgeable, and no other one qualifies it. -/
theorem memberModifier_eq (t : Token) : memberModifier t = unforgeableIff t.IsUnforgeable := by
  by_cases word : t.category = .word
  · -- the two words are in the table; of the others in the table none is one of them
    cases known : AttributeAction.ofName? t.text with
    | none =>
      have listed : ∀ name ∈ ["Unforgeable", "LegacyUnforgeable"],
          AttributeAction.ofName? name ≠ none := by decide +kernel
      have other : ¬t.IsUnforgeable := fun both => listed _ both.2 known
      rw [memberModifier, if_pos word, known, unforgeableIff, if_neg other]
    | some action =>
      have table : ∀ entry ∈ AttributeAction.table,
          memberModifier ⟨.word, entry.1⟩ =
            unforgeableIff (Token.IsUnforgeable ⟨.word, entry.1⟩) := by decide +kernel
      obtain ⟨entry, found, rfl⟩ := Option.map_eq_some_iff.1 known
      have same : entry.1 = t.text := by simpa using List.find?_some found
      have eq : t = ⟨.word, entry.1⟩ := by rw [same, ← word]
      rw [eq]
      exact table entry (List.mem_of_find?_eq_some found)
  · have other : ¬t.IsUnforgeable := fun both => word both.1
    rw [memberModifier, if_neg word, unforgeableIff, if_neg other]

/-! ## Entry by entry

An entry is read by its first word and skipped to the comma or bracket after it. The comma is read
as well, except after the last entry. -/

/-- A row that goes on to a stop does not start with one. -/
theorem Skippable.peek_ne {stops : List Category} {category : Category}
    (skippable : Skippable stops 0 row) (listed : category ∈ stops) (stands : s.rest = row ++ rest)
    (other : row = [] → (nextToken rest).category ≠ category) : s.peek.category ≠ category := by
  rw [ReadState.peek_eq stands]
  cases row with
  | nil => exact other rfl
  | cons t row =>
    rintro rfl
    exact ((skippable_cons.1 skippable).1.within rfl).1 listed

/-- What an entry asks for is seen in its first token, which is no word if the entry is empty. -/
theorem memberModifier_first (stands : s.rest = row ++ t :: rest) (sign : t.category ≠ .word) :
    memberModifier s.peek = unforgeableIff (BeginsUnforgeable row) := by
  rw [memberModifier_eq, ReadState.peek_eq stands]
  refine unforgeableIff_congr ?_
  cases row with
  | nil => exact iff_of_false (fun both => sign both.1) (by decide)
  | cons first row => exact Iff.rfl

/-- An entry is read, and a comma after it. -/
theorem memberAttribute_some (stands : s.rest = row ++ t :: rest) (entry : IsAttributeEntry row)
    (stop : t.category ∈ [.comma, .bracketClose]) (goesOn : s.peek.category ≠ .bracketClose) :
    memberAttribute l s =
      (.ok (some (unforgeableIff (BeginsUnforgeable row))),
        if t.category = .comma then s.drop (row.length + 1) else s.drop row.length) := by
  have ends : (nextToken (t :: rest)).EndsSection [.comma, .bracketClose]
      (bracketLevel row) none := by
    rw [entry.closed]
    exact .stop rfl stop
  have here : (s.drop row.length).peek = t := ReadState.peek_drop_front stands
  -- what ends the entry is no word, so the first word of the entry is not this token
  have sign : t.category ≠ .word := by
    intro word
    rw [word] at stop
    exact absurd stop (by decide)
  rw [Coupling.memberAttribute_apply, if_neg goesOn, memberModifier_first stands sign, stands,
    balancedRun_eq entry.skippable (by simpa using ends)]
  dsimp only
  rw [here, ← ReadState.drop_drop]
  rfl

/-- An entry without an end is refused where skipping it is. -/
theorem memberAttribute_refused {expectation : Expectation} (stands : s.rest = row ++ rest)
    (skippable : Skippable [.comma, .bracketClose] 0 row)
    (ends : (nextToken rest).EndsSection [.comma, .bracketClose] (bracketLevel row)
      (some expectation)) :
    memberAttribute l s = expected expectation l (s.drop row.length) := by
  have goesOn : s.peek.category ≠ .bracketClose := by
    refine skippable.peek_ne (by decide) stands ?_
    rintro rfl closes
    cases ends with
    | unmatched _ unlisted _ => exact unlisted (by rw [closes]; decide)
    | endOfInput unlisted _ => exact unlisted rfl (by rw [closes]; decide)
  rw [Coupling.memberAttribute_apply, if_neg goesOn, stands,
    balancedRun_eq skippable (by simpa using ends)]

/-- At the closing bracket there is no further entry. -/
theorem memberAttributes_end (closes : s.peek.category = .bracketClose) :
    collect memberAttribute l s = (.ok [], s.drop 1) :=
  collect_none (by rw [Coupling.memberAttribute_apply, if_pos closes]; rfl)

/-- A comma is read with what stands before it. -/
theorem ReadState.drop_behind (s : ReadState) (row : List Token) (comma : Token)
    (inner : List Token) :
    (s.drop (row.length + 1)).drop inner.length = s.drop (row ++ comma :: inner).length := by
  rw [ReadState.drop_drop, List.length_append, List.length_cons, Nat.add_assoc, Nat.add_comm 1]

/-- The first of several entries is read, and then the others. -/
theorem memberAttribute_comma {comma : Token} (stands : s.rest = row ++ comma :: rest)
    (entry : IsAttributeEntry row) (separates : comma.category = .comma) :
    (s.drop (row.length + 1)).rest = rest ∧
      collect memberAttribute l s = (collect memberAttribute >>= fun effects =>
        pure (unforgeableIff (BeginsUnforgeable row) :: effects)) l (s.drop (row.length + 1)) := by
  have later : (s.drop (row.length + 1)).rest = rest := by
    rw [← ReadState.drop_drop, ReadState.drop, ReadState.drop, ReadState.rest_advance,
      ReadState.rest_drop_front stands, List.tail_cons]
  have goesOn : s.peek.category ≠ .bracketClose := by
    refine entry.skippable.peek_ne (by decide) stands fun _ => ?_
    show comma.category ≠ _
    rw [separates]
    decide
  have first := memberAttribute_some (l := l) stands entry (by rw [separates]; decide) goesOn
  rw [if_pos separates] at first
  exact ⟨later, collect_some first (ReadState.fewer row stands later)⟩

/-- The entries of a block are read up to its end. -/
theorem AttributeEntries.read (h : AttributeEntries rows inner) (stands : s.rest = inner ++ rest) :
    ∃ effects, collect memberAttribute l s = (.ok effects, s.drop inner.length) ∧
      unionAll effects = unforgeableIff (∃ row ∈ rows, BeginsUnforgeable row) := by
  induction h generalizing s with
  | @last row bracket entry closes =>
    rw [List.append_assoc, List.singleton_append] at stands
    rw [List.length_append, List.length_singleton]
    cases row with
    | nil =>
      -- no token is left for an entry before the bracket
      have here : s.peek.category = .bracketClose := by
        rw [ReadState.peek_eq stands]
        exact closes
      exact ⟨[], memberAttributes_end here, by decide⟩
    | cons first row =>
      have goesOn : s.peek.category ≠ .bracketClose :=
        entry.skippable.peek_ne (by decide) stands nofun
      have one := memberAttribute_some (l := l) stands entry (by rw [closes]; decide) goesOn
      rw [if_neg (by rw [closes]; decide)] at one
      have here : (s.drop (first :: row).length).peek.category = .bracketClose := by
        rw [ReadState.peek_drop_front stands]
        exact closes
      have fewer : (s.drop (first :: row).length).left < s.left := by
        have left := (ReadState.after_front stands).left
        rw [List.length_cons] at left ⊢
        omega
      refine ⟨[unforgeableIff (BeginsUnforgeable (first :: row))], ?_, ?_⟩
      · rw [collect_some one fewer, Parser.bind_apply, memberAttributes_end here,
          ← ReadState.drop_drop]
        rfl
      · rw [unionAll_cons]
        exact (Modifiers.or_empty _).trans (unforgeableIff_congr (by simp))
  | @more row inner rows comma entry separates others ih =>
    rw [List.append_assoc, List.cons_append] at stands
    obtain ⟨later, first⟩ := memberAttribute_comma (l := l) stands entry separates
    obtain ⟨effects, run, modifiers⟩ := ih later
    refine ⟨unforgeableIff (BeginsUnforgeable row) :: effects, ?_, ?_⟩
    · rw [first, Parser.bind_apply, run, ReadState.drop_behind]
      rfl
    · rw [unionAll_cons, modifiers, unforgeableIff_or]
      exact unforgeableIff_congr (by simp)

/-! ## Both ways after an opening bracket

Skipping a whole block is one run to the closing bracket; reading it entry by entry is a row of runs
to commas. The run of the block goes over all the commas, since they stand outside of inner brackets
as the closing one does. -/

/-- After an opening bracket, the tokens up to `rest` are skipped, and this is found there. -/
structure SkippedTo (row rest : List Token) (found : Option Expectation) : Prop where
  skippable : Skippable [.bracketClose] 0 row
  ends : (nextToken rest).EndsSection [.bracketClose] (bracketLevel row) found

/-- What is skipped may stand behind an entry and a comma as well. -/
theorem SkippedTo.behind {found : Option Expectation} {comma : Token} {others : List Token}
    (h : SkippedTo others rest found) (entry : IsAttributeEntry row)
    (separates : comma.category = .comma) : SkippedTo (row ++ comma :: others) rest found := by
  have sign : comma.bracketSign = 0 := by rw [Token.bracketSign, separates]; rfl
  have inside : comma.InSection [.bracketClose] 0 := by
    refine ⟨?_, fun _ => ?_⟩
    · rw [separates]; decide
    · rw [separates]; decide
  have level : bracketLevel (row ++ comma :: others) = bracketLevel others := by
    rw [bracketLevel_append, bracketLevel_cons, entry.closed, sign, Int.zero_add, Int.zero_add]
  refine ⟨skippable_append.2 ⟨entry.skippable.mono (by decide), ?_⟩, level ▸ h.ends⟩
  rw [entry.closed, skippable_cons, sign]
  exact ⟨inside, h.skippable⟩

/-- The entries of a block are skipped up to its closing bracket. -/
theorem AttributeEntries.skipped (h : AttributeEntries rows inner) (rest : List Token) :
    ∃ row bracket, inner = row ++ [bracket] ∧ bracket.category = .bracketClose ∧
      SkippedTo row (bracket :: rest) none := by
  induction h with
  | @last row bracket entry closes =>
    refine ⟨row, bracket, rfl, closes, entry.skippable.mono (by decide), ?_⟩
    exact .stop entry.closed (List.mem_singleton.2 closes)
  | @more row inner rows comma entry separates others ih =>
    obtain ⟨later, bracket, rfl, closes, skipped⟩ := ih
    exact ⟨row ++ comma :: later, bracket, by simp, closes, skipped.behind entry separates⟩

/-- After an opening bracket stand the entries of a block; otherwise the entries are refused where
skipping them is. -/
theorem entries_or_refused (tokens : List Token) :
    (∃ rows inner rest, tokens = inner ++ rest ∧ AttributeEntries rows inner) ∨
      ∃ expectation row rest, tokens = row ++ rest ∧ SkippedTo row rest (some expectation) ∧
        ∀ l s, s.rest = tokens →
          collect memberAttribute l s = expected expectation l (s.drop row.length) := by
  -- on the number of tokens, which are fewer behind a comma
  induction length : tokens.length using Nat.strongRecOn generalizing tokens with
  | _ n ih =>
    obtain ⟨row, rest, found, rfl, skippable, ends⟩ :=
      exists_skippable [.comma, .bracketClose] 0 tokens
    rw [Int.zero_add] at ends
    cases found with
    | some expectation =>
      refine .inr ⟨expectation, row, rest, rfl, ?_, fun l s stands => ?_⟩
      · exact ⟨skippable.mono (by decide), ends.mono (by decide)⟩
      · exact collect_error (memberAttribute_refused stands skippable ends)
    | none =>
      obtain ⟨closed, listed⟩ : bracketLevel row = 0 ∧
          (nextToken rest).category ∈ [.comma, .bracketClose] := by
        cases ends with
        | stop closed listed => exact ⟨closed, listed⟩
      have entry : IsAttributeEntry row := ⟨skippable, closed⟩
      cases rest with
      | nil => exact absurd listed (by decide)
      | cons stop rest =>
        rcases List.mem_pair.1 listed with comma | closes
        · have fewer : rest.length < n := by
            rw [← length, List.length_append, List.length_cons]
            omega
          rcases ih rest.length fewer rest rfl with
            ⟨rows, inner, last, rfl, others⟩ | ⟨expectation, others, last, rfl, skipped, run⟩
          · exact .inl ⟨row :: rows, row ++ stop :: inner, last, by simp, .more entry comma others⟩
          · refine .inr ⟨expectation, row ++ stop :: others, last, by simp,
              skipped.behind entry comma, fun l s stands => ?_⟩
            obtain ⟨later, first⟩ := memberAttribute_comma (l := l) stands entry comma
            rw [first, Parser.bind_apply, run l _ later, ReadState.drop_behind]
            rfl
        · exact .inl ⟨[row], row ++ [stop], rest, by simp, .last entry closes⟩

/-! ## Block by block

A block is passed by both ways or refused by both, and so is a row of blocks. The row ends where no
block starts. -/

/-- After an opening bracket, one way takes entry after entry, and the other one skips up to a
closing bracket. -/
theorem block_opens (opens : s.peek.category = .bracketOpen) :
    memberAttributeBlock l s =
        (collect memberAttribute >>= fun effects => pure (some (unionAll effects))) l s.advance ∧
      skippedBlock l s =
        (skipBalanced [.bracketClose] >>= fun _ => require .bracketClose >>= fun _ => pure true)
          l s.advance := by
  constructor
  · rw [memberAttributeBlock, Parser.bind_apply, accept, if_pos opens]
    rfl
  · rw [skippedBlock, Parser.bind_apply, accept, if_pos opens]
    rfl

/-- A block is passed by both ways. -/
theorem block_passed (opens : s.peek.category = .bracketOpen) (h : AttributeEntries rows inner)
    (stands : s.advance.rest = inner ++ rest) :
    memberAttributeBlock l s =
        (.ok (some (unforgeableIff (∃ row ∈ rows, BeginsUnforgeable row))),
          s.drop (inner.length + 1)) ∧
      skippedBlock l s = (.ok true, s.drop (inner.length + 1)) := by
  obtain ⟨effects, run, modifiers⟩ := h.read (l := l) stands
  obtain ⟨row, bracket, rfl, closes, skipped⟩ := h.skipped rest
  rw [List.append_assoc, List.singleton_append] at stands
  have here : (s.advance.drop row.length).peek.category = .bracketClose := by
    rw [ReadState.peek_drop_front stands]
    exact closes
  -- entry by entry, and then at once
  constructor
  · rw [(block_opens opens).1, Parser.bind_apply, run, ← modifiers]
    rfl
  · rw [(block_opens opens).2, Parser.bind_apply,
      skipBalanced_apply stands skipped.skippable skipped.ends]
    show (require .bracketClose >>= fun _ => pure true) l _ = _
    rw [Parser.bind_apply, require, if_pos here, List.length_append, List.length_singleton,
      ReadState.drop, ← ReadState.drop_drop]
    rfl

/-- Where a bracket opens, there is a block, or both ways are refused at one token. -/
theorem block_or_refused (opens : s.peek.category = .bracketOpen) :
    (∃ rows inner rest, s.advance.rest = inner ++ rest ∧ AttributeEntries rows inner) ∨
      ∃ expectation count, count ≤ s.rest.length ∧
        memberAttributeBlock l s = expected expectation l (s.drop count) ∧
        skippedBlock l s = expected expectation l (s.drop count) := by
  rcases entries_or_refused s.advance.rest with
    block | ⟨expectation, row, rest, stands, skipped, run⟩
  · exact .inl block
  · have inside : s.rest ≠ [] := ReadState.rest_ne_nil_of_category (by rw [opens]; decide)
    refine .inr ⟨expectation, row.length + 1, ?_, ?_, ?_⟩
    · rw [ReadState.rest_eq_cons inside, stands, List.length_cons, List.length_append]
      omega
    · rw [(block_opens opens).1, Parser.bind_apply, run l _ rfl]
      rfl
    · rw [(block_opens opens).2, Parser.bind_apply,
        skipBalanced_apply stands skipped.skippable skipped.ends]
      rfl

/-- Where no bracket opens, no further block is read. -/
theorem blocks_end (other : s.peek.category ≠ .bracketOpen) :
    collect memberAttributeBlock l s = (.ok [], s) ∧ skipAttributes l s = (.ok (), s) :=
  ⟨passes_collect ((passes_accept other).bind fun _ => rfl) l,
    passes_repeatWhile ((passes_accept other).bind fun _ => rfl) l⟩

/-- Consecutive blocks are passed by both ways. -/
theorem AttributeBlocks.passed (h : AttributeBlocks blocks front) (stands : s.rest = front ++ rest)
    (all : (nextToken rest).category ≠ .bracketOpen) :
    (∃ effects, collect memberAttributeBlock l s = (.ok effects, s.drop front.length) ∧
        unionAll effects =
          unforgeableIff (∃ rows ∈ blocks, ∃ row ∈ rows, BeginsUnforgeable row)) ∧
      skipAttributes l s = (.ok (), s.drop front.length) := by
  induction h generalizing s with
  | none =>
    obtain ⟨read, skipped⟩ := blocks_end (l := l) (s := s) (by rwa [ReadState.peek_eq stands])
    exact ⟨⟨[], read, by decide⟩, skipped⟩
  | @more rows blocks inner front bracket opens entries others ih =>
    rw [List.cons_append, List.append_assoc] at stands
    obtain ⟨peek, left⟩ := ReadState.peek_of_rest stands
    obtain ⟨first, first'⟩ := block_passed (l := l) (by rw [peek, opens]) entries left
    have later : (s.drop (inner.length + 1)).rest = front ++ rest :=
      ReadState.rest_drop_front left
    -- a block has its brackets, so the loops go on
    have fewer : (s.drop (inner.length + 1)).left < s.left := by
      rw [ReadState.left_eq, ReadState.left_eq, later, stands]
      simp only [List.length_cons, List.length_append]
      omega
    have whole : (s.drop (inner.length + 1)).drop front.length =
        s.drop (bracket :: (inner ++ front)).length := by
      rw [ReadState.drop_drop, List.length_cons, List.length_append, Nat.add_right_comm]
    obtain ⟨⟨effects, run, modifiers⟩, run'⟩ := ih later
    rw [whole] at run run'
    refine ⟨⟨unforgeableIff (∃ row ∈ rows, BeginsUnforgeable row) :: effects, ?_, ?_⟩, ?_⟩
    · rw [collect_some first fewer, Parser.bind_apply, run]
      rfl
    · rw [unionAll_cons, modifiers, unforgeableIff_or]
      exact unforgeableIff_congr (by simp)
    · exact (repeatWhile_true first' fewer).trans run'

/-- In every state stand consecutive blocks and then something else, or both ways are refused at one
token. -/
theorem blocks_or_refused (l : LibraryId) (s : ReadState) :
    (∃ blocks front rest, s.rest = front ++ rest ∧ AttributeBlocks blocks front ∧
        (nextToken rest).category ≠ .bracketOpen) ∨
      ∃ expectation count, count ≤ s.rest.length ∧
        collect memberAttributeBlock l s = expected expectation l (s.drop count) ∧
        skipAttributes l s = expected expectation l (s.drop count) := by
  -- on the number of tokens, which are fewer after a block
  induction length : s.rest.length using Nat.strongRecOn generalizing s with
  | _ n ih =>
    by_cases opens : s.peek.category = .bracketOpen
    swap
    · exact .inl ⟨[], [], s.rest, rfl, .none, opens⟩
    rcases block_or_refused (l := l) opens with
      ⟨rows, inner, rest, left, entries⟩ | ⟨expectation, count, le, read, skipped⟩
    swap
    · exact .inr ⟨expectation, count, length ▸ le, collect_error read, repeatWhile_error skipped⟩
    have inside : s.rest ≠ [] := ReadState.rest_ne_nil_of_category (by rw [opens]; decide)
    have stands := ReadState.rest_eq_cons inside
    rw [left] at stands
    have later : (s.drop (inner.length + 1)).rest = rest := ReadState.rest_drop_front left
    have fewer : rest.length < s.rest.length := by
      rw [stands, List.length_cons, List.length_append]
      omega
    have fewer' : (s.drop (inner.length + 1)).left < s.left := by
      rwa [ReadState.left_eq, ReadState.left_eq, later]
    obtain ⟨first, first'⟩ := block_passed (l := l) opens entries left
    rcases ih rest.length (length ▸ fewer) (s.drop (inner.length + 1)) (by rw [later]) with
      ⟨blocks, front, last, split, others, all⟩ | ⟨expectation, count, le, read, skipped⟩
    · rw [later] at split
      refine .inl ⟨rows :: blocks, s.peek :: (inner ++ front), last, ?_, .more opens entries others,
        all⟩
      rw [stands, split, List.cons_append, List.append_assoc]
    · rw [ReadState.drop_drop] at read skipped
      refine .inr ⟨expectation, inner.length + 1 + count, ?_, ?_, ?_⟩
      · rw [stands, List.length_cons, List.length_append] at length
        omega
      · rw [collect_some first fewer', Parser.bind_apply, read]
        rfl
      · exact (repeatWhile_true first' fewer').trans skipped

/-! ## The main statement -/

/-- The two ways through attributes agree, in every state. If consecutive blocks of attributes stand
there, both read exactly their tokens and change nothing else; the first one answers that a member
is unforgeable if some entry of some block begins with a word for it, and no modifier otherwise. In
all other states both fail at the same token with the same expectation, and change nothing else. -/
theorem attributes_skipped_alike (l : LibraryId) (s : ReadState) :
    (∀ blocks u, s.AfterBlocks blocks u →
        memberAttributes l s =
            (.ok (if ∃ rows ∈ blocks, ∃ row ∈ rows, BeginsUnforgeable row
              then Modifiers.unforgeable else Modifiers.empty), u) ∧
          skipAttributes l s = (.ok (), u)) ∧
      ((¬∃ blocks u, s.AfterBlocks blocks u) →
        ∃ count expectation u, s.After count u ∧ u.store = s.store ∧
          memberAttributes l s = (.error (.malformed ⟨expectation, u.position, u.peek⟩), u) ∧
          skipAttributes l s = (.error (.malformed ⟨expectation, u.position, u.peek⟩), u)) := by
  constructor
  · rintro blocks u ⟨⟨front, isBlocks, stands, position⟩, all, store⟩
    obtain ⟨⟨effects, read, modifiers⟩, skipped⟩ := isBlocks.passed (l := l) stands all
    have same : u.SameTokens (s.drop front.length) :=
      ⟨ReadState.rest_drop_front stands, by rw [(ReadState.after_front stands).position, position]⟩
    obtain rfl : u = s.drop front.length := same.eq (by rw [store, s.store_drop])
    refine ⟨?_, skipped⟩
    rw [memberAttributes, Parser.bind_apply, read]
    exact congrArg (fun found => (Except.ok found, s.drop front.length)) modifiers
  · intro none
    -- where there are no such blocks both were refused
    rcases blocks_or_refused l s with
      ⟨blocks, front, rest, stands, isBlocks, all⟩ | ⟨expectation, count, le, read, skipped⟩
    · refine absurd ⟨blocks, s.drop front.length, ⟨front, isBlocks, ?_, ?_⟩, ?_,
        s.store_drop⟩ none
      · rw [ReadState.rest_drop_front stands, stands]
      · exact (ReadState.after_front stands).position
      · rwa [ReadState.peek_drop_front stands]
    · refine ⟨count, expectation, s.drop count, ReadState.drop_after le, s.store_drop, ?_, skipped⟩
      rw [memberAttributes, Parser.bind_apply, read]
      rfl

/-- Within the parentheses of an entry a comma separates nothing, and a block may be empty; a
parenthesis that is never closed is refused by both ways at the end of the input. -/
theorem attributes_skipped_alike_nested :
    let s := ReadState.start (Lexer.tokens "[A(x, y), Unforgeable] [] c".toList) Catalog.initial
    let broken := ReadState.start (Lexer.tokens "[A] [B, C(] c".toList) Catalog.initial
    (∃ blocks, s.AfterBlocks blocks (s.drop 12) ∧
        memberAttributes ⟨2⟩ s = (.ok Modifiers.unforgeable, s.drop 12) ∧
        skipAttributes ⟨2⟩ s = (.ok (), s.drop 12)) ∧
      (¬∃ blocks u, broken.AfterBlocks blocks u) ∧
      ∃ count expectation u, broken.After count u ∧ u.store = broken.store ∧
        memberAttributes ⟨2⟩ broken = (.error (.malformed ⟨expectation, u.position, u.peek⟩), u) ∧
        skipAttributes ⟨2⟩ broken = (.error (.malformed ⟨expectation, u.position, u.peek⟩), u) := by
  intro s broken
  have closed : IsAttributeEntry
      [⟨.word, "A"⟩, ⟨.parenthesisOpen, "("⟩, ⟨.word, "x"⟩, ⟨.comma, ","⟩, ⟨.word, "y"⟩,
        ⟨.parenthesisClose, ")"⟩] := by decide +kernel
  have plain : IsAttributeEntry [⟨.word, "Unforgeable"⟩] := by decide +kernel
  have none : IsAttributeEntry [] := by decide +kernel
  have blocks : AttributeBlocks _ (s.rest.take 12) :=
    .more rfl (.more closed rfl (.last plain rfl)) (.more rfl (.last none rfl) .none)
  have after : s.AfterBlocks _ (s.drop 12) :=
    ⟨⟨_, blocks, by decide +kernel, by decide +kernel⟩, by decide +kernel, s.store_drop⟩
  have refused : (memberAttributes ⟨2⟩ broken).1.toBool = false := by decide +kernel
  have unending : ¬∃ blocks u, broken.AfterBlocks blocks u := by
    rintro ⟨blocks, u, after⟩
    rw [((attributes_skipped_alike ⟨2⟩ broken).1 blocks u after).1] at refused
    cases refused
  refine ⟨⟨_, after, ?_⟩, unending, (attributes_skipped_alike ⟨2⟩ broken).2 unending⟩
  exact (attributes_skipped_alike ⟨2⟩ s).1 _ _ after

end IdlCatalog
