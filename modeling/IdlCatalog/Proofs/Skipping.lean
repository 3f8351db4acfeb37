/-
# IdlCatalog.Proofs.Skipping — where skipping comes to a halt

Defaults, serializers, arguments and attributes without effect are skipped up to a token that ends
them. Where this token stands is told by counting brackets in the stream alone: it is the first one
outside of all brackets that is looked for, that closes nothing or that ends the input, and if there
is none, the end of the input within brackets that are never closed. All tokens before it are read,
and it is left to be read next, whether it was looked for or is refused.
-/
import Mathlib.Order.Bounds.Defs
import IdlCatalog.Proofs.Grammar.Stream

namespace IdlCatalog

open IdlCatalog.Parser

variable {stops : List Category} {row rest tokens : List Token} {found : Option Expectation}
  {i : Nat}

/-! ## Halts

The level of a token is the number of brackets that are open before it. Outside is level zero, where
stopping is possible; inside, only the end of the input stops. -/

/-- Position `i` of a stream is outside of all brackets, and there stands one of `stops`, a bracket
that closes nothing or the end of the input. A stream goes up to its first end of the input; behind
it nothing but further ones would follow. -/
structure HaltsOutside (stops : List Category) (tokens : List Token) (i : Nat) : Prop where
  inStream : ∀ t ∈ tokens.take i, t.category ≠ .eof
  closed : bracketLevel (tokens.take i) = 0
  halts : (nextToken (tokens.drop i)).category ∈ stops ∨
    (nextToken (tokens.drop i)).category.closesGroup ∨
    (nextToken (tokens.drop i)).category = .eof

/-- At position `i` of a stream, the input ends before all brackets are closed. -/
structure HaltsInside (tokens : List Token) (i : Nat) : Prop where
  inStream : ∀ t ∈ tokens.take i, t.category ≠ .eof
  unclosed : bracketLevel (tokens.take i) ≠ 0
  eof : (nextToken (tokens.drop i)).category = .eof

/-- The position at which skipping up to one of `stops` comes to a halt: the first one outside of
all brackets at which it may, or else the first end of the input within brackets. -/
def HaltsAt (stops : List Category) (tokens : List Token) (j : Nat) : Prop :=
  IsLeast {i | HaltsOutside stops tokens i} j ∨
    (∀ i, ¬HaltsOutside stops tokens i) ∧ IsLeast {i | HaltsInside tokens i} j

/-! ## Rows that are skipped

What is skipped before the halt is a row of tokens of which none halts, so the count is never below
zero on the way. -/

/-- A token of a skippable row is within the section, at the level of the tokens before it. -/
theorem Skippable.inSection_at (skippable : Skippable stops 0 row) (inside : i < row.length) :
    (nextToken ((row ++ rest).drop i)).InSection stops (bracketLevel ((row ++ rest).take i)) := by
  have here := skippable (row.take i) row[i] (row.drop (i + 1)) (by simp)
  rw [Int.zero_add] at here
  rw [List.take_append_of_le_length (Nat.le_of_lt inside),
    List.drop_append_of_le_length (Nat.le_of_lt inside), List.drop_eq_getElem_cons inside]
  exact here

theorem Token.InSection.not_haltsOutside
    (inside : (nextToken (tokens.drop i)).InSection stops (bracketLevel (tokens.take i))) :
    ¬HaltsOutside stops tokens i := by
  rintro ⟨-, closed, listed | closes | eof⟩
  · exact (inside.within closed).1 listed
  · rw [(inside.within closed).2] at closes
    cases closes
  · exact inside.more eof

/-- Behind an end of the input within brackets, no position of the stream is outside of them. -/
theorem not_haltsOutside_behind (unclosed : bracketLevel row ≠ 0)
    (eof : (nextToken rest).category = .eof) (behind : row.length ≤ i) :
    ¬HaltsOutside stops (row ++ rest) i := by
  rintro ⟨inStream, closed, -⟩
  rcases Nat.eq_or_lt_of_le behind with rfl | beyond
  · rw [List.take_left] at closed
    exact unclosed closed
  · cases rest with
    | nil =>
      -- there are no further tokens, so the level stays what it was
      rw [List.append_nil, List.take_of_length_le behind] at closed
      exact unclosed closed
    | cons t rest =>
      refine inStream t ?_ eof
      rw [List.take_append, List.take_of_length_le behind]
      obtain ⟨more, eq⟩ := Nat.exists_eq_add_of_lt beyond
      rw [show i - row.length = more + 1 by omega, List.take_succ_cons]
      simp

/-- A skippable row is followed by the position at which skipping it comes to a halt. -/
theorem Skippable.haltsAt (skippable : Skippable stops 0 row)
    (ends : (nextToken rest).EndsSection stops (bracketLevel row) found) :
    HaltsAt stops (row ++ rest) row.length := by
  have inStream : ∀ t ∈ (row ++ rest).take row.length, t.category ≠ .eof := by
    rw [List.take_left]
    exact skippable.more
  by_cases closed : bracketLevel row = 0
  · refine .inl ⟨⟨inStream, by rwa [List.take_left], ?_⟩, ?_⟩
    · rw [List.drop_left]
      cases ends with
      | stop _ listed => exact .inl listed
      | unmatched _ _ closes => exact .inr (.inl closes)
      | endOfInput _ eof => exact .inr (.inr eof)
    · intro i halts
      by_contra before
      exact (skippable.inSection_at (Nat.lt_of_not_le before)).not_haltsOutside halts
  · have eof : (nextToken rest).category = .eof := by
      cases ends with
      | stop outside _ => exact absurd outside closed
      | unmatched outside _ _ => exact absurd outside closed
      | endOfInput _ eof => exact eof
    refine .inr ⟨fun i halts => ?_, ⟨inStream, by rwa [List.take_left], ?_⟩, ?_⟩
    · rcases Nat.lt_or_ge i row.length with before | behind
      · exact (skippable.inSection_at before).not_haltsOutside halts
      · exact not_haltsOutside_behind closed eof behind halts
    · rwa [List.drop_left]
    · intro i halts
      by_contra before
      exact (skippable.inSection_at (Nat.lt_of_not_le before)).more halts.eof

/-- Up to the end of a skippable row, the level does not go below zero. -/
theorem Skippable.levels_nonneg (skippable : Skippable stops 0 row) (inside : i ≤ row.length) :
    0 ≤ bracketLevel ((row ++ rest).take i) := by
  rw [List.take_append_of_le_length inside]
  have level := (skippable.of_prefix (row.take_prefix i)).level_nonneg (Int.le_refl 0)
  rwa [Int.zero_add] at level

/-! ## The main statement

The place of the halt, the tokens that are taken up to it, and the result, in terms of levels alone.
-/

/-- Skipping stops exactly where it should. For any stops other than the end of the input and in
every state there is a position at which it comes to a halt; up to there, the count of open brackets
does not go below zero. All tokens before the position are read and nothing else is changed. If one
of the stops stands there, this is the answer; otherwise a bracket that closes nothing is refused
there, or the end of the input. -/
theorem skipBalanced_halts (stops : List Category) (goesOn : Category.eof ∉ stops) (l : LibraryId)
    (s : ReadState) :
    ∃ j u, HaltsAt stops s.rest j ∧ (∀ i ≤ j, 0 ≤ bracketLevel (s.rest.take i)) ∧
      s.After j u ∧ u.store = s.store ∧
      (u.peek.category ∈ stops → skipBalanced stops l s = (.ok (), u)) ∧
      (u.peek.category ∉ stops → u.peek.category.closesGroup →
        skipBalanced stops l s =
          (.error (.malformed ⟨.phrase "balanced brackets", u.position, u.peek⟩), u)) ∧
      (u.peek.category = .eof →
        skipBalanced stops l s =
          (.error (.malformed ⟨.phrase "end of bracketed section", u.position, u.peek⟩), u)) := by
  obtain ⟨row, rest, found, stands, skippable, ends⟩ := exists_skippable stops 0 s.rest
  rw [Int.zero_add] at ends
  have outcome := skipBalanced_apply stands skippable ends l
  have here : (s.drop row.length).peek.EndsSection stops (bracketLevel row) found := by
    rwa [ReadState.peek_drop_front stands]
  refine ⟨row.length, s.drop row.length, ?_, ?_, ReadState.after_front stands, s.store_drop,
    fun listed => ?_, fun unlisted closes => ?_, fun eof => ?_⟩
  · rw [stands]
    exact skippable.haltsAt ends
  · rw [stands]
    exact fun i inside => skippable.levels_nonneg inside
  · rw [outcome, here.of_listed goesOn listed]
    rfl
  · rw [outcome, here.of_closes unlisted closes]
    rfl
  · rw [outcome, here.of_eof goesOn eof]
    rfl

/-- Brackets of different kinds close each other, a comma within brackets is no stop, and a bracket
is a stop where it closes nothing. -/
theorem skipBalanced_halts_bracket :
    let stops : List Category := [.comma, .bracketClose]
    let s := ReadState.start (Lexer.tokens "f(a, \x7bb], <c>) d], e".toList) Catalog.initial
    Category.eof ∉ stops ∧
      (∃ j u, HaltsAt stops s.rest j ∧ (∀ i ≤ j, 0 ≤ bracketLevel (s.rest.take i)) ∧
        s.After j u ∧ u.store = s.store ∧
        (u.peek.category ∈ stops → skipBalanced stops ⟨2⟩ s = (.ok (), u)) ∧
        (u.peek.category ∉ stops → u.peek.category.closesGroup →
          skipBalanced stops ⟨2⟩ s =
            (.error (.malformed ⟨.phrase "balanced brackets", u.position, u.peek⟩), u)) ∧
        (u.peek.category = .eof →
          skipBalanced stops ⟨2⟩ s =
            (.error (.malformed ⟨.phrase "end of bracketed section", u.position, u.peek⟩), u))) ∧
      (skipBalanced stops ⟨2⟩ s).2.position = 13 := by
  refine ⟨by decide, ?_, by decide +kernel⟩
  exact skipBalanced_halts [.comma, .bracketClose] (by decide) ⟨2⟩ _

end IdlCatalog
