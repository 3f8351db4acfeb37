/-
# IdlCatalog.Proofs.Positions — positions identify offsets

The position of an offset between two characters is what one gets by counting through the characters
before it. Each further character leads to a later position, so no two such offsets have one
position. Offsets past the end are the end, and whatever an offset is, its position stays within the
text, and what a span shows of the text is a part of it that starts with a line.
-/
import Mathlib.Data.List.DropRight
import IdlCatalog.Proofs.Text.Lines

namespace IdlCatalog

variable {text front back : List Char} {a b offset : Nat} {p q r : Position}

/-! ## The order of positions

A later position is on a later line, or further on in the same line. Each character leads to a later
one, a newline too. -/

/-- On an earlier line, or further left on the same one. -/
def Position.Before (p q : Position) : Prop :=
  p.line < q.line ∨ p.line = q.line ∧ p.column < q.column

theorem Position.Before.trans (h : p.Before q) (h' : q.Before r) : p.Before r := by
  unfold Position.Before at *
  omega

theorem Position.Before.ne (h : p.Before q) : p ≠ q := by
  rintro rfl
  unfold Position.Before at h
  omega

theorem Position.before_next (p : Position) (c : Char) : p.Before (p.next c) := by
  unfold next
  split
  · exact .inl (Nat.lt_succ_self _)
  · exact .inr ⟨rfl, Nat.lt_succ_self _⟩

/-- Further characters lead to a later position. -/
theorem Position.after_before {more : List Char} (some : more ≠ []) :
    (after front).Before (after (front ++ more)) := by
  induction more using List.reverseRecOn with
  | nil => exact absurd rfl some
  | append_singleton more c ih =>
    rw [← List.append_assoc, after_concat]
    by_cases none : more = []
    · rw [none, List.append_nil]
      exact before_next _ c
    · exact (ih none).trans (before_next _ c)

/-! ## Boundaries

An offset between two characters splits the text, and its position is found by going through the
first part. -/

/-- The offset lies between two characters, or at the start or the end of the text. -/
def IsBoundary (text : List Char) (a : Nat) : Prop :=
  ∃ front back, front ++ back = text ∧ utf8Length front = a

theorem Position.of_eq_after (split : front ++ back = text) :
    Position.of text (utf8Length front) = after front := by
  rw [← split, of_append, after_eq]

theorem IsBoundary.before (ha : IsBoundary text a) (hb : IsBoundary text b) (lt : a < b) :
    (Position.of text a).Before (Position.of text b) := by
  obtain ⟨front, rest, split, rfl⟩ := ha
  obtain ⟨front', rest', split', rfl⟩ := hb
  have within : front <+: front' :=
    prefix_of_utf8Length_le ⟨rest, split⟩ ⟨rest', split'⟩ (Nat.le_of_lt lt)
  obtain ⟨more, rfl⟩ := within
  have some : more ≠ [] := by
    rintro rfl
    rw [List.append_nil] at lt
    exact Nat.lt_irrefl _ lt
  rw [Position.of_eq_after split, Position.of_eq_after split']
  exact Position.after_before some

theorem IsBoundary.eq_of_position (ha : IsBoundary text a) (hb : IsBoundary text b)
    (same : Position.of text a = Position.of text b) : a = b := by
  rcases Nat.lt_trichotomy a b with lt | eq | gt
  · exact absurd same (ha.before hb lt).ne
  · exact eq
  · exact absurd same.symm (hb.before ha gt).ne

/-! ## Offsets of any kind

An offset may lie inside a character or past the end. Its position still stays within the text:
there are as many lines, and the column is no further on than the offset is. -/

theorem Cut.of_past (le : utf8Length text ≤ offset) : Cut.of text offset = ⟨text, 0⟩ := by
  have lies := Cut.at_of text offset
  generalize Cut.of text offset = cut at lies
  cases lies with
  | between front back =>
    rw [utf8Length_append] at le
    have none : back = [] := by
      by_contra some
      have := utf8Length_pos some
      omega
    rw [none, List.append_nil]
  | @inside front back c excess some part =>
    rw [utf8Length_append, utf8Length] at le
    omega
  | past => rfl

/-- The line and the column of an offset are numbers of lines and columns of the text. -/
structure Position.Within (text : List Char) (offset : Nat) (p : Position) : Prop where
  line_pos : 1 ≤ p.line
  line_le : p.line ≤ text.count '\n' + 1
  column_pos : 1 ≤ p.column
  column_le : p.column ≤ min offset (utf8Length text) + 1

theorem utf8Length_lastLine_le (text : List Char) :
    utf8Length (lastLine text) ≤ utf8Length text := by
  obtain ⟨front, split, -⟩ := exists_lastLine text
  have whole := congrArg utf8Length split
  rw [utf8Length_append] at whole
  omega

theorem Position.within_of (text : List Char) (offset : Nat) :
    (Position.of text offset).Within text offset := by
  have lies := Cut.at_of text offset
  have bytes := lies.bytes
  have short := utf8Length_lastLine_le (Cut.of text offset).before
  have narrow := length_le_utf8Length (lastLine (Cut.of text offset).before)
  refine ⟨Nat.le_add_left 1 _, ?_, ?_, ?_⟩
  · exact Nat.succ_le_succ (lies.isPrefix.sublist.count_le '\n')
  · unfold Position.of
    dsimp only
    split <;> omega
  · unfold Position.of
    dsimp only
    split <;> omega

/-! ## Spans

A span shows the text from the start of a line on. Line breaks are dropped at its end and nowhere
else. -/

/-- A cut further on takes at least as much. -/
theorem Cut.before_mono (le : a ≤ b) (whole : (Cut.of text b).excess = 0) :
    (Cut.of text a).before <+: (Cut.of text b).before := by
  have first := Cut.at_of text a
  have second := Cut.at_of text b
  refine prefix_of_utf8Length_le first.isPrefix second.isPrefix ?_
  have bytes := first.bytes
  have bytes' := second.bytes
  omega

/-- Without the breaks at its end a text is a part at its head. -/
theorem withoutBreaks_isPrefix (text : List Char) :
    (text.reverse.dropWhile (fun c => c = '\r' || c = '\n')).reverse <+: text :=
  List.rdropWhile_prefix _ text

/-- What a span shows is a part of the text that starts with the line on which the span starts. -/
theorem Span.context_within (s : Span) (text : List Char) :
    ∃ front back, text = front ++ (s.context text ++ back) ∧
      (Cut.of text s.start).before = front ++ lastLine (Cut.of text s.start).before := by
  obtain ⟨front, split, -⟩ := exists_lastLine (Cut.of text s.start).before
  have before : front <+: (Cut.of text s.start).before := ⟨_, split.symm⟩
  have start : (Cut.of text s.start).before.length -
      (lastLine (Cut.of text s.start).before).length = front.length := by
    have whole := congrArg List.length split
    rw [List.length_append] at whole
    omega
  unfold context
  dsimp only
  rw [start]
  split
  · next whole =>
    -- the cut at the end of the span goes on from the start of the line
    obtain ⟨line, eq⟩ := before.trans (Cut.before_mono (Nat.le_max_left s.start s.stop) whole)
    obtain ⟨breaks, trimmed⟩ := withoutBreaks_isPrefix line
    obtain ⟨back, rest⟩ := (Cut.at_of text (max s.start s.stop)).isPrefix
    rw [← eq, List.drop_left]
    refine ⟨front, breaks ++ back, ?_, split⟩
    rw [← List.append_assoc _ breaks, trimmed, ← List.append_assoc, eq, rest]
  · obtain ⟨back, rest⟩ := before.trans (Cut.at_of text s.start).isPrefix
    exact ⟨front, back, rest.symm, split⟩

/-! ## Positions of offsets

What was shown of boundaries, of all other offsets and of spans, in one statement. -/

/-- Positions identify offsets. The position of an offset between two characters counts the
characters before it, one after the other; of two such offsets the smaller one has the earlier
position, so the position tells which one it is. An offset past the end has the position of the end.
Of whatever offset, inside a character or far outside, the position stays within the text; and
whatever its ends are, a span shows a part of the text, from the start of its line on. -/
theorem positions_identify_offsets (text : List Char) :
    (∀ front back, front ++ back = text →
        Position.of text (utf8Length front) = Position.after front) ∧
      (∀ a b, IsBoundary text a → IsBoundary text b → a < b →
        (Position.of text a).Before (Position.of text b)) ∧
      (∀ a b, IsBoundary text a → IsBoundary text b →
        Position.of text a = Position.of text b → a = b) ∧
      (∀ offset, utf8Length text ≤ offset →
        Position.of text offset = Position.of text (utf8Length text)) ∧
      (∀ offset, (Position.of text offset).Within text offset) ∧
      ∀ s : Span, ∃ front back, text = front ++ (s.context text ++ back) ∧
        (Cut.of text s.start).before = front ++ lastLine (Cut.of text s.start).before := by
  refine ⟨fun _ _ split => Position.of_eq_after split, fun _ _ ha hb lt => ha.before hb lt,
    fun _ _ ha hb same => ha.eq_of_position hb same, fun offset le => ?_,
    Position.within_of text, fun s => s.context_within text⟩
  unfold Position.of
  rw [Cut.of_past le, Cut.of_past (Nat.le_refl _)]

/-- A newline after a carriage return starts the second line, though both characters have a place on
the first one; and an accented letter takes two bytes, but one column. -/
theorem positions_identify_offsets_breaks :
    let text := ['é', '\r', '\n', 'é', 'x']
    IsBoundary text 4 ∧ IsBoundary text 6 ∧
      Position.of text 4 = ⟨2, 1⟩ ∧ Position.of text 6 = ⟨2, 2⟩ ∧
      (Position.of text 4).Before (Position.of text 6) ∧
      Position.of text 5 = ⟨2, 2⟩ ∧ Position.of text 100 = Position.of text 7 := by
  intro text
  obtain ⟨counts, ordered, -, past, -⟩ := positions_identify_offsets text
  have fourth : IsBoundary text 4 := ⟨['é', '\r', '\n'], ['é', 'x'], rfl, rfl⟩
  have sixth : IsBoundary text 6 := ⟨['é', '\r', '\n', 'é'], ['x'], rfl, rfl⟩
  exact ⟨fourth, sixth, counts ['é', '\r', '\n'] ['é', 'x'] rfl,
    counts ['é', '\r', '\n', 'é'] ['x'] rfl, ordered 4 6 fourth sixth (by decide), by decide,
    past 100 (by decide)⟩

end IdlCatalog
