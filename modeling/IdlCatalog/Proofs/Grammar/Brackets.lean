/-
# IdlCatalog.Proofs.Grammar.Brackets — how far tokens are skipped

Tokens are skipped by counting how many brackets are open; which of the four kinds of brackets they
are makes no difference. Here the tokens that are skipped are described without a run, by the level
of the tokens before each of them: `Skippable` says that a row of tokens is skipped, and
`Token.EndsSection` what is found at a token that is not. Each stream is a skippable row with such a
token after it, and this is where its run comes to an end. What else is true of runs follows.

A run is computed token by token with a counter. What is proved about it is not proved by following
the counter: a stream is cut where its section ends, `exists_skippable`, and `balancedRun_eq` says
what a run comes to on a stream that was cut. The other facts, about how much is read, about a
longer stream and about other counters, are read off this one.
-/
import IdlCatalog.Grammar.Parser

namespace IdlCatalog

open IdlCatalog.Parser

variable {stops stops' : List Category} {depth : Int} {opened : Nat} {row rest tokens : List Token}
  {t : Token} {found : Option Expectation}

/-! ## Levels

The level of a row is a sum of signs and may be negative in between. Sums are taken in the integers,
so that a row can be cut anywhere; the counter of a run is a natural number, and agrees with the
level as long as the row is skippable. -/

/-- The first of the tokens that are left. -/
def nextToken (rest : List Token) : Token := rest.head?.getD Token.endOfInput

/-- What a token adds to the number of open brackets. -/
def Token.bracketSign (t : Token) : Int :=
  if t.category.opensGroup then 1 else if t.category.closesGroup then -1 else 0

/-- How many more brackets the tokens open than they close. -/
def bracketLevel : List Token → Int
  | [] => 0
  | t :: row => t.bracketSign + bracketLevel row

@[simp] theorem bracketLevel_nil : bracketLevel [] = 0 := rfl

/-- The level after a token and a row. -/
@[simp] theorem bracketLevel_cons (t : Token) (row : List Token) :
    bracketLevel (t :: row) = t.bracketSign + bracketLevel row := rfl

/-- Levels of rows in a row add up. -/
theorem bracketLevel_append (row others : List Token) :
    bracketLevel (row ++ others) = bracketLevel row + bracketLevel others := by
  induction row with
  | nil => rw [List.nil_append, bracketLevel_nil, Int.zero_add]
  | cons t row ih => rw [List.cons_append, bracketLevel_cons, ih, bracketLevel_cons, Int.add_assoc]

/-- No bracket that closes a group opens one. -/
theorem Category.opensGroup_of_closesGroup {category : Category} (closes : category.closesGroup) :
    category.opensGroup = false := by
  revert closes
  cases category <;> decide

/-- Only a bracket that closes a group lowers the level, and by one. -/
theorem Token.bracketSign_nonneg (other : t.category.closesGroup = false) : 0 ≤ t.bracketSign := by
  unfold bracketSign
  rw [other]
  split
  · exact Int.zero_le_ofNat 1
  · exact Int.le_refl 0

/-- A token closes one bracket at most. -/
theorem Token.neg_one_le_bracketSign (t : Token) : -1 ≤ t.bracketSign := by
  unfold bracketSign
  repeat' split
  all_goals decide

/-! ## Rows that are skipped

`Skippable` looks at every token of a row and at the level in front of it. A bracket that closes is
skipped only where one is open, so the level of a skippable row never falls below zero. -/

/-- A token does not end a section, `depth` brackets being open before it: it is not the end of the
input, and outside of all brackets it is no stop and closes no group. -/
structure Token.InSection (stops : List Category) (depth : Int) (t : Token) : Prop where
  more : t.category ≠ .eof
  within : depth = 0 → t.category ∉ stops ∧ t.category.closesGroup = false

instance (stops : List Category) (depth : Int) (t : Token) : Decidable (t.InSection stops depth) :=
  decidable_of_iff (t.category ≠ .eof ∧
      (depth = 0 → t.category ∉ stops ∧ t.category.closesGroup = false))
    ⟨fun ⟨more, within⟩ => ⟨more, within⟩, fun ⟨more, within⟩ => ⟨more, within⟩⟩

/-- No token of the row ends a section, `depth` brackets being open before the row. -/
def Skippable (stops : List Category) (depth : Int) (row : List Token) : Prop :=
  ∀ front t back, row = front ++ t :: back → t.InSection stops (depth + bracketLevel front)

/-- Nothing is skipped without a condition. -/
theorem skippable_nil : Skippable stops depth [] := by
  intro front t back split
  simp at split

/-- A row is skipped if its first token is and the others are from the level after it. -/
theorem skippable_cons :
    Skippable stops depth (t :: row) ↔
      t.InSection stops depth ∧ Skippable stops (depth + t.bracketSign) row := by
  constructor
  · intro skippable
    refine ⟨?_, fun front u back split => ?_⟩
    · simpa using skippable [] t row rfl
    · have later := skippable (t :: front) u back (by rw [split, List.cons_append])
      rwa [bracketLevel_cons, ← Int.add_assoc] at later
  · rintro ⟨inside, skippable⟩ front u back split
    cases front with
    | nil =>
      obtain ⟨rfl, rfl⟩ := List.cons.inj split
      simpa using inside
    | cons v front =>
      obtain ⟨rfl, rest⟩ := List.cons.inj split
      rw [bracketLevel_cons, ← Int.add_assoc]
      exact skippable front u back rest

/-- Whether a row is skippable is decided token by token. -/
instance Skippable.decidable (stops : List Category) :
    (depth : Int) → (row : List Token) → Decidable (Skippable stops depth row)
  | _, [] => .isTrue skippable_nil
  | depth, t :: row =>
    have := Skippable.decidable stops (depth + t.bracketSign) row
    decidable_of_iff _ skippable_cons.symm

/-- A row in two parts, the second from the level after the first. -/
theorem skippable_append {others : List Token} :
    Skippable stops depth (row ++ others) ↔
      Skippable stops depth row ∧ Skippable stops (depth + bracketLevel row) others := by
  induction row generalizing depth with
  | nil => simp [skippable_nil]
  | cons t row ih =>
    rw [List.cons_append, skippable_cons, skippable_cons, ih, bracketLevel_cons, Int.add_assoc,
      and_assoc]

/-- The front of a row that is skipped is skipped. -/
theorem Skippable.of_prefix {front : List Token} (h : Skippable stops depth row)
    (first : front <+: row) : Skippable stops depth front := by
  obtain ⟨others, rfl⟩ := first
  exact (skippable_append.1 h).1

/-- No end of the input is skipped. -/
theorem Skippable.more (h : Skippable stops depth row) : ∀ t ∈ row, t.category ≠ .eof := by
  intro t inside
  obtain ⟨front, back, split⟩ := List.append_of_mem inside
  exact (h front t back split).more

/-- Fewer stops end no more sections. -/
theorem Skippable.mono (h : Skippable stops' depth row) (fewer : stops ⊆ stops') :
    Skippable stops depth row := by
  intro front t back split
  obtain ⟨more, within⟩ := h front t back split
  refine ⟨more, fun outside => ?_⟩
  obtain ⟨unlisted, other⟩ := within outside
  exact ⟨fun listed => unlisted (fewer listed), other⟩

/-- A token within a section closes a bracket only if one is open. -/
theorem Token.InSection.level_nonneg (inside : t.InSection stops depth) (nonneg : 0 ≤ depth) :
    0 ≤ depth + t.bracketSign := by
  have least := t.neg_one_le_bracketSign
  by_cases outside : depth = 0
  · have sign := bracketSign_nonneg (inside.within outside).2
    omega
  · omega

/-- Within a skippable row, the level does not go below zero. -/
theorem Skippable.level_nonneg (h : Skippable stops depth row) (nonneg : 0 ≤ depth) :
    0 ≤ depth + bracketLevel row := by
  induction row generalizing depth with
  | nil => simpa using nonneg
  | cons t row ih =>
    obtain ⟨inside, later⟩ := skippable_cons.1 h
    have last := ih later (inside.level_nonneg nonneg)
    rwa [bracketLevel_cons, ← Int.add_assoc]

/-! ## Ends of sections

Three tokens end a section: one of the stops outside any bracket, a bracket that closes none, and
the end of the input unless this is a stop that counts there. Each comes with what the run reports.
Every token is of exactly one of these sorts or within the section. -/

/-- What is found at a token that ends a section, `depth` brackets being open before it: a stop, or
what was expected instead of the token. -/
inductive Token.EndsSection (stops : List Category) (depth : Int) (t : Token) :
    Option Expectation → Prop
  | stop (outside : depth = 0) (listed : t.category ∈ stops) : EndsSection stops depth t none
  | unmatched (outside : depth = 0) (unlisted : t.category ∉ stops)
      (closes : t.category.closesGroup) :
      EndsSection stops depth t (some (.phrase "balanced brackets"))
  | endOfInput (unlisted : depth = 0 → t.category ∉ stops) (eof : t.category = .eof) :
      EndsSection stops depth t (some (.phrase "end of bracketed section"))

/-- Each token is within a section or ends it. -/
theorem Token.inSection_or_endsSection (stops : List Category) (depth : Int) (t : Token) :
    t.InSection stops depth ∨ ∃ found, t.EndsSection stops depth found := by
  by_cases stop : depth = 0 ∧ t.category ∈ stops
  · exact .inr ⟨_, .stop stop.1 stop.2⟩
  have unlisted (outside : depth = 0) : t.category ∉ stops := fun listed => stop ⟨outside, listed⟩
  by_cases eof : t.category = .eof
  · exact .inr ⟨_, .endOfInput unlisted eof⟩
  by_cases unmatched : depth = 0 ∧ t.category.closesGroup = true
  · exact .inr ⟨_, .unmatched unmatched.1 (unlisted unmatched.1) unmatched.2⟩
  · refine .inl ⟨eof, fun outside => ⟨unlisted outside, ?_⟩⟩
    exact Bool.eq_false_iff.2 fun closes => unmatched ⟨outside, closes⟩

/-- Each stream is a skippable row and the end of a section. -/
theorem exists_skippable (stops : List Category) (depth : Int) (tokens : List Token) :
    ∃ row rest found, tokens = row ++ rest ∧ Skippable stops depth row ∧
      (nextToken rest).EndsSection stops (depth + bracketLevel row) found := by
  induction tokens generalizing depth with
  | nil =>
    rcases Token.inSection_or_endsSection stops depth (nextToken []) with inside | ⟨found, ends⟩
    · exact absurd rfl inside.more
    · exact ⟨[], [], found, rfl, skippable_nil, by simpa using ends⟩
  | cons t tokens ih =>
    rcases Token.inSection_or_endsSection stops depth t with inside | ⟨found, ends⟩
    · obtain ⟨row, rest, found, rfl, skippable, ends⟩ := ih (depth + t.bracketSign)
      refine ⟨t :: row, rest, found, rfl, skippable_cons.2 ⟨inside, skippable⟩, ?_⟩
      rwa [bracketLevel_cons, ← Int.add_assoc]
    · exact ⟨[], t :: tokens, found, rfl, skippable_nil, by simpa [nextToken] using ends⟩

/-- What refuses a token does not depend on further stops. -/
theorem Token.EndsSection.mono {expectation : Expectation}
    (h : t.EndsSection stops' depth (some expectation)) (fewer : stops ⊆ stops') :
    t.EndsSection stops depth (some expectation) := by
  cases h with
  | unmatched outside unlisted closes =>
    exact .unmatched outside (fun listed => unlisted (fewer listed)) closes
  | endOfInput unlisted eof =>
    exact .endOfInput (fun outside listed => unlisted outside (fewer listed)) eof

section Found

variable (h : t.EndsSection stops depth found)

include h

/-- What is found at a stop. -/
theorem Token.EndsSection.of_listed (goesOn : Category.eof ∉ stops) (listed : t.category ∈ stops) :
    found = none := by
  cases h with
  | stop => rfl
  | unmatched _ unlisted _ => exact absurd listed unlisted
  | endOfInput _ eof => exact absurd (eof ▸ listed) goesOn

/-- What is found at a bracket that closes none. -/
theorem Token.EndsSection.of_closes (unlisted : t.category ∉ stops)
    (closes : t.category.closesGroup) : found = some (.phrase "balanced brackets") := by
  cases h with
  | stop _ listed => exact absurd listed unlisted
  | unmatched => rfl
  | endOfInput _ eof => exact absurd (eof ▸ closes) (by decide)

/-- What is found at the end of the input. -/
theorem Token.EndsSection.of_eof (goesOn : Category.eof ∉ stops) (eof : t.category = .eof) :
    found = some (.phrase "end of bracketed section") := by
  cases h with
  | stop _ listed => exact absurd (eof ▸ listed) goesOn
  | unmatched _ _ closes => exact absurd (eof ▸ closes) (by decide)
  | endOfInput => rfl

end Found

/-! ## Runs

First what one token does to a run, then rows of tokens by induction on the row. -/

namespace Parser

/-- No stop is seen where none stands outside of all brackets. -/
theorem not_stops (unlisted : (opened : Int) = 0 → t.category ∉ stops) :
    ¬(opened = 0 && stops.contains t.category) = true := by
  intro stop
  obtain ⟨outside, listed⟩ := Bool.and_eq_true_iff.1 stop
  exact unlisted (Int.natCast_eq_zero.2 (of_decide_eq_true outside))
    (List.contains_iff_mem.1 listed)

/-- A token within a section is skipped, and the run goes on at the level after it. -/
theorem balancedRun_inSection (inside : t.InSection stops opened) (tokens : List Token) :
    ∃ next : Nat, (next : Int) = opened + t.bracketSign ∧
      balancedRun stops opened (t :: tokens) =
        ((balancedRun stops next tokens).1 + 1, (balancedRun stops next tokens).2) := by
  obtain ⟨more, within⟩ := inside
  simp only [balancedRun]
  rw [if_neg (not_stops fun outside => (within outside).1), if_neg more, Token.bracketSign]
  by_cases opens : t.category.opensGroup = true
  · rw [if_pos opens, if_pos opens]
    exact ⟨opened + 1, by omega, rfl⟩
  rw [if_neg opens, if_neg opens]
  by_cases closes : t.category.closesGroup = true
  · rw [if_pos closes, if_pos closes]
    cases opened with
    | zero =>
      have other : t.category.closesGroup = false := (within rfl).2
      rw [closes] at other
      cases other
    | succ opened => exact ⟨opened, by omega, rfl⟩
  · rw [if_neg closes, if_neg closes]
    exact ⟨opened, by omega, rfl⟩

/-- A run ends at once at a token that ends a section. -/
theorem balancedRun_endsSection (ends : (nextToken tokens).EndsSection stops opened found) :
    balancedRun stops opened tokens = (0, found) := by
  cases tokens with
  | nil =>
    rw [balancedRun]
    cases ends with
    | stop outside listed =>
      obtain rfl := Int.natCast_eq_zero.1 outside
      exact congrArg (0, ·) (if_pos (List.contains_iff_mem.2 listed))
    | unmatched _ _ closes => cases closes
    | endOfInput unlisted _ => exact congrArg (0, ·) (if_neg (not_stops unlisted))
  | cons t tokens =>
    change t.EndsSection stops opened found at ends
    simp only [balancedRun]
    cases ends with
    | stop outside listed =>
      obtain rfl := Int.natCast_eq_zero.1 outside
      exact if_pos (List.contains_iff_mem.2 listed)
    | unmatched outside unlisted closes =>
      obtain rfl := Int.natCast_eq_zero.1 outside
      have more : t.category ≠ .eof := by
        intro eof
        rw [eof] at closes
        cases closes
      rw [if_neg (not_stops fun _ => unlisted), if_neg more,
        if_neg (by simp [Category.opensGroup_of_closesGroup closes]), if_pos closes]
    | endOfInput unlisted eof => rw [if_neg (not_stops unlisted), if_pos eof]

/-- A run goes through a skippable row to the end of the section after it. -/
theorem balancedRun_eq (skippable : Skippable stops opened row)
    (ends : (nextToken rest).EndsSection stops (opened + bracketLevel row) found) :
    balancedRun stops opened (row ++ rest) = (row.length, found) := by
  -- on the row: after each of its tokens, the run goes on at the level that it has reached
  induction row generalizing opened with
  | nil =>
    refine balancedRun_endsSection ?_
    simpa using ends
  | cons t row ih =>
    obtain ⟨inside, later⟩ := skippable_cons.1 skippable
    obtain ⟨next, level, run⟩ := balancedRun_inSection inside (row ++ rest)
    rw [bracketLevel_cons, ← Int.add_assoc, ← level] at ends
    rw [← level] at later
    rw [List.cons_append, run, ih later ends, List.length_cons]

/-- What a run is: it goes through the skippable row at the front of the tokens. -/
theorem balancedRun_spec (stops : List Category) (opened : Nat) (tokens : List Token) :
    ∃ row rest found, tokens = row ++ rest ∧ Skippable stops opened row ∧
      (nextToken rest).EndsSection stops (opened + bracketLevel row) found ∧
      balancedRun stops opened tokens = (row.length, found) := by
  obtain ⟨row, rest, found, rfl, skippable, ends⟩ := exists_skippable stops opened tokens
  exact ⟨row, rest, found, rfl, skippable, ends, balancedRun_eq skippable ends⟩

/-- A run skips no more than there is. -/
theorem balancedRun_le (stops : List Category) (opened : Nat) (tokens : List Token) :
    (balancedRun stops opened tokens).1 ≤ tokens.length := by
  obtain ⟨row, rest, found, rfl, -, -, run⟩ := balancedRun_spec stops opened tokens
  rw [run, List.length_append]
  exact Nat.le_add_right _ _

/-- No end of input is among the tokens of a run. -/
theorem balancedRun_read (stops : List Category) (opened : Nat) (tokens : List Token) :
    ∀ t ∈ tokens.take (balancedRun stops opened tokens).1, t.category ≠ .eof := by
  obtain ⟨row, rest, found, rfl, skippable, -, run⟩ := balancedRun_spec stops opened tokens
  rw [run, List.take_left]
  exact skippable.more

/-- A run that stops within the front does not depend on the tail. -/
theorem balancedRun_append {front : List Token} (tail tail' : List Token)
    (inside : (balancedRun stops opened (front ++ tail)).1 < front.length) :
    balancedRun stops opened (front ++ tail') = balancedRun stops opened (front ++ tail) := by
  obtain ⟨row, rest, found, split, skippable, ends, run⟩ :=
    balancedRun_spec stops opened (front ++ tail)
  rw [run] at inside ⊢
  have first : row <+: front :=
    List.prefix_of_prefix_length_le ⟨rest, split.symm⟩ (List.prefix_append front tail)
      (Nat.le_of_lt inside)
  obtain ⟨others, rfl⟩ := first
  rw [List.append_assoc] at split ⊢
  obtain rfl := List.append_cancel_left split
  -- the token that ends the section is the first of `others`
  cases others with
  | nil => simp at inside
  | cons t others => exact balancedRun_eq skippable ends

/-- A run of no tokens stops at a token where it may stop. -/
theorem balancedRun_zero (h : balancedRun stops 0 (t :: tokens) = (0, none)) :
    t.category ∈ stops := by
  obtain ⟨row, rest, found, split, -, ends, run⟩ := balancedRun_spec stops 0 (t :: tokens)
  rw [run] at h
  obtain ⟨none, rfl⟩ := Prod.mk.inj h
  obtain rfl := List.eq_nil_of_length_eq_zero none
  obtain rfl : t :: tokens = rest := split
  cases ends with
  | stop _ listed => exact listed

/-! ## Skipping

What this says of the parser: it stands at the token that ends the section, and fails if that token
was not one of the stops. -/

/-- What skipping comes to, given what it finds after the tokens that it reads. -/
theorem skipBalanced_apply {s : ReadState} (stands : s.rest = row ++ rest)
    (skippable : Skippable stops 0 row)
    (ends : (nextToken rest).EndsSection stops (bracketLevel row) found) (l : LibraryId) :
    skipBalanced stops l s = found.elim (pure ()) expected l (s.drop row.length) := by
  have run : balancedRun stops 0 s.rest = (row.length, found) := by
    rw [stands]
    exact balancedRun_eq skippable (by simpa using ends)
  rw [skipBalanced, run]
  cases found with
  | none => rfl
  | some expectation => rfl

end Parser

end IdlCatalog
