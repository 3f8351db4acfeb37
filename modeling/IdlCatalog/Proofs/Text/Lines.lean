/-
# IdlCatalog.Proofs.Text.Lines — texts cut at byte offsets, and their lines

An offset lies between two characters of a text, inside a character, or past the end. `Cut.At` tells
these apart and says what the cut is in each case, so that later proofs ask for the case and not for
bytes.

A text that goes up to an offset ends with a line: what comes after its last newline. Line and
column of the offset are the number of newlines and the length of that line, which is also what one
gets by going through the characters one after the other.
-/
import Mathlib.Data.List.Induction
import Mathlib.Data.List.TakeWhile
import IdlCatalog.Text.Position

namespace IdlCatalog

variable {text xs ys : List Char} {offset : Nat} {cut : Cut}

/-! ## Lengths

Bytes are counted by characters: each one takes its size. -/

theorem utf8Length_append (xs ys : List Char) :
    utf8Length (xs ++ ys) = utf8Length xs + utf8Length ys := by
  induction xs with
  | nil => simp [utf8Length]
  | cons c xs ih => simp [utf8Length, ih, Nat.add_assoc]

theorem utf8Length_pos (h : text ≠ []) : 0 < utf8Length text := by
  obtain ⟨c, text, rfl⟩ := List.exists_cons_of_ne_nil h
  exact Nat.add_pos_left c.utf8Size_pos _

theorem length_le_utf8Length (text : List Char) : text.length ≤ utf8Length text := by
  induction text with
  | nil => exact Nat.le_refl 0
  | cons c text ih =>
    have := c.utf8Size_pos
    rw [List.length_cons, utf8Length]
    omega

/-- Of two texts that head a third one, the one with fewer bytes heads the other. -/
theorem prefix_of_utf8Length_le (hx : xs <+: text) (hy : ys <+: text)
    (le : utf8Length xs ≤ utf8Length ys) : xs <+: ys := by
  rcases List.prefix_or_prefix_of_prefix hx hy with shorter | ⟨more, rfl⟩
  · exact shorter
  · have none : more = [] := by
      by_contra some
      have := utf8Length_pos some
      rw [utf8Length_append] at le
      omega
    exact ⟨[], by rw [none, List.append_nil, List.append_nil]⟩

/-! ## Cuts

A cut takes whole characters up to the offset. What is over is the part of the character into which
the offset falls; past the end of the text there is none. -/

/-- How an offset lies in a text, and the cut at it. -/
inductive Cut.At : List Char → Nat → Cut → Prop
  /-- Between two characters, or at the start or the end. -/
  | between (front back : List Char) : At (front ++ back) (utf8Length front) ⟨front, 0⟩
  /-- After some bytes of a character, but not all of them. -/
  | inside (front back : List Char) {c : Char} {excess : Nat} (some : 0 < excess)
      (part : excess < c.utf8Size) :
      At (front ++ c :: back) (utf8Length front + excess) ⟨front, excess⟩
  | past (text : List Char) {offset : Nat} (beyond : utf8Length text < offset) :
      At text offset ⟨text, 0⟩

/-- A text is cut between two of its parts. -/
theorem Cut.of_append (front back : List Char) :
    Cut.of (front ++ back) (utf8Length front) = ⟨front, 0⟩ := by
  induction front with
  | nil =>
    cases back with
    | nil => rfl
    | cons c back =>
      have wide : ¬c.utf8Size ≤ 0 := Nat.not_le.2 c.utf8Size_pos
      rw [List.nil_append, Cut.of, utf8Length, if_neg wide]
  | cons c front ih =>
    rw [List.cons_append, Cut.of, utf8Length, if_pos (Nat.le_add_right _ _),
      Nat.add_sub_cancel_left, ih]

theorem Cut.At.cons (h : Cut.At text offset cut) (c : Char) :
    Cut.At (c :: text) (c.utf8Size + offset) ⟨c :: cut.before, cut.excess⟩ := by
  cases h with
  | between front back => exact .between (c :: front) back
  | inside front back some part =>
    rw [← Nat.add_assoc]
    exact .inside (c :: front) back some part
  | past text beyond => exact .past (c :: text) (Nat.add_lt_add_left beyond _)

/-- Every offset lies in the text in one of the three ways. -/
theorem Cut.at_of (text : List Char) (offset : Nat) : Cut.At text offset (Cut.of text offset) := by
  induction text generalizing offset with
  | nil =>
    rcases Nat.eq_zero_or_pos offset with rfl | beyond
    · exact .between [] []
    · exact .past [] beyond
  | cons c text ih =>
    unfold Cut.of
    split
    · next whole =>
      have later := (ih (offset - c.utf8Size)).cons c
      rwa [Nat.add_sub_cancel' whole] at later
    · next part =>
      rcases Nat.eq_zero_or_pos offset with rfl | some
      · exact .between [] (c :: text)
      · have inside : Cut.At ([] ++ c :: text) (utf8Length [] + offset) ⟨[], offset⟩ :=
          .inside [] text some (Nat.not_le.1 part)
        rwa [utf8Length, Nat.zero_add] at inside

theorem Cut.At.isPrefix (h : Cut.At text offset cut) : cut.before <+: text := by
  cases h with
  | between | inside => exact List.prefix_append _ _
  | past => exact List.prefix_refl _

/-- A cut takes the bytes up to the offset, or all of them. -/
theorem Cut.At.bytes (h : Cut.At text offset cut) :
    utf8Length cut.before + cut.excess = min offset (utf8Length text) := by
  cases h with
  | between front back =>
    show utf8Length front + 0 = _
    rw [utf8Length_append]
    omega
  | @inside front back c excess some part =>
    show utf8Length front + excess = _
    rw [utf8Length_append, utf8Length]
    omega
  | past text beyond =>
    show utf8Length text + 0 = _
    omega

/-! ## Lines

A text has a last line, and every other character belongs to the lines before it, which end with
newlines. -/

/-- A line may start after the text: at the very beginning, or after a newline. -/
def StartsLine (text : List Char) : Prop := text = [] ∨ ∃ lines, text = lines ++ ['\n']

theorem lastLine_concat (text : List Char) (c : Char) :
    lastLine (text ++ [c]) = if c = '\n' then [] else lastLine text ++ [c] := by
  rw [lastLine, List.reverse_append, List.reverse_singleton, List.singleton_append,
    List.takeWhile_cons]
  by_cases newline : c = '\n'
  · simp [newline]
  · simp [newline, lastLine]

theorem newline_not_mem_lastLine (text : List Char) : '\n' ∉ lastLine text := by
  intro inside
  have other := List.mem_takeWhile_imp (List.mem_reverse.1 inside)
  simp at other

/-- A text ends with its last line, and that is a whole line. -/
theorem exists_lastLine (text : List Char) :
    ∃ front, text = front ++ lastLine text ∧ StartsLine front := by
  induction text using List.reverseRecOn with
  | nil => exact ⟨[], rfl, .inl rfl⟩
  | append_singleton text c ih =>
    rw [lastLine_concat]
    by_cases newline : c = '\n'
    · rw [if_pos newline, newline]
      exact ⟨text ++ ['\n'], (List.append_nil _).symm, .inr ⟨text, rfl⟩⟩
    · obtain ⟨front, split, starts⟩ := ih
      rw [if_neg newline]
      exact ⟨front, by rw [← List.append_assoc, ← split], starts⟩

/-! ## Positions

Counting newlines and measuring the last line comes to the same as one step per character. -/

/-- The position after one further character. -/
def Position.next (p : Position) (c : Char) : Position :=
  if c = '\n' then ⟨p.line + 1, 1⟩ else ⟨p.line, p.column + 1⟩

/-- The position after the characters of a text, counted from the first position on. -/
def Position.after (text : List Char) : Position := text.foldl next ⟨1, 1⟩

theorem Position.after_concat (text : List Char) (c : Char) :
    after (text ++ [c]) = (after text).next c := by
  rw [after, List.foldl_append]
  rfl

/-- Going through the characters counts the newlines and the characters of the last line. -/
theorem Position.after_eq (text : List Char) :
    after text = ⟨text.count '\n' + 1, (lastLine text).length + 1⟩ := by
  induction text using List.reverseRecOn with
  | nil => rfl
  | append_singleton text c ih =>
    rw [after_concat, ih, next, lastLine_concat]
    by_cases newline : c = '\n'
    · simp [newline]
    · simp [newline]

/-- What comes after `front` stands on the line of its last newline, and as many columns further on
as characters follow that. -/
theorem Position.of_append (front back : List Char) :
    Position.of (front ++ back) (utf8Length front) =
      ⟨front.count '\n' + 1, (lastLine front).length + 1⟩ := by
  rw [Position.of, Cut.of_append]
  rfl

end IdlCatalog
