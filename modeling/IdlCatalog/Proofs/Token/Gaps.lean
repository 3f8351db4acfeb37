/-
# IdlCatalog.Proofs.Token.Gaps — what stands between tokens, and what ends a stream

Tiling says that gaps and tokens together are the text. This module says what they are. A gap
consists of blanks and comments; only at the end of the text may its last comment lack its end. The
stream ends with its one end of input, which is empty or a string that is never closed.

`IsGap` is an inductive description of blanks and comments. Its parameter `last` is the proposition
that the text ends with the gap; only then may a comment be open. A gap in front of a token is an
`IsGap False`, and in it every comment has its end.
-/
import Mathlib.Data.List.TakeWhile
import IdlCatalog.Token.Tiling

namespace IdlCatalog

namespace Lexer

/-! ## Gaps

The splitting function has three modes, and its result is described for each: a gap, or the
remainder of a comment together with a gap after it. -/

/-- The two marks that start a comment to the end of the line. -/
def IsLineMark (mark : List Char) : Prop := mark = ['/', '/'] ∨ mark = ['#']

/-- Blanks and comments. If nothing follows, which `last` says, the comment at the end may lack its
end. -/
inductive IsGap (last : Prop) : List Char → Prop
  | nil : IsGap last []
  | blank {c : Char} {rest : List Char} (blank : c ≤ ' ') (more : IsGap last rest) :
      IsGap last (c :: rest)
  | line {mark body rest : List Char} (starts : IsLineMark mark) (inside : '\n' ∉ body)
      (more : IsGap last rest) : IsGap last (mark ++ (body ++ '\n' :: rest))
  | block {body rest : List Char} (inside : ¬['*', '/'] <:+: body) (more : IsGap last rest) :
      IsGap last ('/' :: '*' :: (body ++ '*' :: '/' :: rest))
  | openLine {mark body : List Char} (ends : last) (starts : IsLineMark mark)
      (inside : '\n' ∉ body) : IsGap last (mark ++ body)
  | openBlock {body : List Char} (ends : last) (inside : ¬['*', '/'] <:+: body) :
      IsGap last ('/' :: '*' :: body)

/-- What is left of a gap inside a comment that `closes` ends. -/
inductive IsGapTail (last : Prop) (closes : List Char) (IsBody : List Char → Prop) :
    List Char → Prop
  | closed {b rest : List Char} (inside : IsBody b) (more : IsGap last rest) :
      IsGapTail last closes IsBody (b ++ (closes ++ rest))
  | opened {body : List Char} (ends : last) (inside : IsBody body) :
      IsGapTail last closes IsBody body

/-- What the gap at the head of a text is, by where it stands. -/
def IsGapIn (last : Prop) : GapMode → List Char → Prop
  | .between => IsGap last
  | .line => IsGapTail last ['\n'] fun body => '\n' ∉ body
  | .block => IsGapTail last ['*', '/'] fun body => ¬['*', '/'] <:+: body

/-- A character more inside a comment. -/
theorem IsGapTail.cons {last : Prop} {closes tail : List Char} {IsBody : List Char → Prop}
    {c : Char} (h : IsGapTail last closes IsBody tail)
    (longer : ∀ body, IsBody body → body <+: tail → IsBody (c :: body)) :
    IsGapTail last closes IsBody (c :: tail) := by
  cases h with
  | closed inner more => exact .closed (longer _ inner (List.prefix_append _ _)) more
  | opened ends inner => exact .opened ends (longer _ inner (List.prefix_refl _))

/-- The mark of a line comment and the remainder of the comment. -/
theorem isGap_of_line {last : Prop} {mark tail : List Char} (starts : IsLineMark mark)
    (h : IsGapIn last .line tail) : IsGap last (mark ++ tail) := by
  cases h with
  | closed inside more => exact .line starts inside more
  | opened ends inside => exact .openLine ends starts inside

/-- The mark of a block comment and the remainder of the comment. -/
theorem isGap_of_block {last : Prop} {tail : List Char} (h : IsGapIn last .block tail) :
    IsGap last ('/' :: '*' :: tail) := by
  cases h with
  | closed inside more => exact .block inside more
  | opened ends inside => exact .openBlock ends inside

/-- What is split off is a gap, by the mode in which the splitting starts. -/
theorem splitGap_isGap (mode : GapMode) (text : List Char) :
    IsGapIn ((splitGap mode text).2 = []) mode (splitGap mode text).1 := by
  fun_induction splitGap mode text with
  | case1 text ih => exact isGap_of_line (.inl rfl) ih
  | case2 text ih => exact isGap_of_block ih
  | case3 text _ _ ih => exact isGap_of_line (.inr rfl) ih
  | case4 c text _ _ _ blank ih => exact .blank (by simpa [isBlank] using blank) ih
  | case5 => exact .nil
  | case6 c text ih =>
    by_cases newline : c = '\n'
    · rw [if_pos newline] at ih ⊢
      rw [newline]
      exact .closed (b := []) List.not_mem_nil ih
    · rw [if_neg newline] at ih ⊢
      refine ih.cons fun body inside _ => ?_
      simpa using ⟨Ne.symm newline, inside⟩
  | case7 text ih => exact .closed (b := []) (by simp) ih
  | case8 c text no_close ih =>
    refine ih.cons fun body inside front => ?_
    -- a mark that starts at `c` would have closed the comment, which this case excludes
    rintro (closes : ['*', '/'] <:+: c :: body)
    rcases List.infix_cons_iff.1 closes with starts | later
    · obtain ⟨rfl, slash⟩ := List.cons_prefix_cons.1 starts
      have whole := (slash.trans front).trans (List.prefix_append _ (splitGap .block text).2)
      rw [splitGap_append] at whole
      obtain ⟨rest, rfl⟩ := whole
      exact no_close rest rfl rfl
    · exact inside later
  | case9 mode =>
    cases mode with
    | between => exact .nil
    | line => exact .opened rfl List.not_mem_nil
    | block => exact .opened rfl (by simp)

/-! ## The end of the stream

`Shape` is the form of every stream: lexemes that are no ends, and one end. What follows from it are
the facts about `tokens` that the grammar uses, above all that the end of the input is there and is
the last token. -/

/-- Text that starts a string and never closes it. -/
def IsOpenString (text : List Char) : Prop :=
  ∃ quote body, text = quote :: body ∧ (quote = '"' ∨ quote = '\'') ∧ quote ∉ body

/-- Where no string was found the quote does not come again. -/
theorem splitString_eq_none {quote : Char} {text : List Char} (h : splitString quote text = none) :
    quote ∉ text := by
  simp only [splitString] at h
  split at h
  · next nil =>
    intro inside
    have all := List.dropWhile_eq_nil_iff.1 nil quote inside
    simp at all
  · simp at h

/-- The end of the input is empty, or a string that is never closed. -/
theorem token_eof_text {text : List Char} (h : (token text).1.category = .eof) :
    text = [] ∨ IsOpenString text := by
  revert h
  fun_cases token text with
  | case1 => exact fun _ => .inl rfl
  | case5 c text _ _ quote none =>
    exact fun _ => .inr ⟨c, text, rfl, by simpa using quote, splitString_eq_none none⟩
  | case6 c text _ _ _ category lexeme found => simp [(operator?_ne_nil found).1]
  | _ => simp

/-- A gap may end the text under a weaker condition. -/
theorem IsGap.imp {p q : Prop} {gap : List Char} (h : IsGap p gap) (imp : p → q) : IsGap q gap := by
  induction h with
  | nil => exact .nil
  | blank blank _ ih => exact .blank blank ih
  | line starts inside _ ih => exact .line starts inside ih
  | block inside _ ih => exact .block inside ih
  | openLine ends starts inside => exact .openLine (imp ends) starts inside
  | openBlock ends inside => exact .openBlock (imp ends) inside

/-- A stream: lexemes that do not end it, then the end of the input with the gap before it. -/
structure Shape (lexemes front : List Lexeme) (gap rest : List Char) : Prop where
  split : lexemes = front ++ [⟨gap, ⟨.eof, String.ofList rest⟩⟩]
  front : ∀ x ∈ front, x.token.category ≠ .eof ∧ IsGap False x.gap
  gap : IsGap (rest = []) gap
  rest : rest = [] ∨ IsOpenString rest

/-- The lexeme that ends a stream. -/
theorem lexeme_shape_eof {text : List Char} (h : (lexeme text).1.token.category = .eof) :
    ∃ gap rest, Shape [(lexeme text).1] [] gap rest := by
  have whole := token_append (splitGap .between text).2
  rw [token_eof h, List.append_nil] at whole
  have eof : (lexeme text).1 = ⟨(splitGap .between text).1,
      ⟨.eof, String.ofList (splitGap .between text).2⟩⟩ := by
    rw [← whole, String.ofList_toList, ← h]
    rfl
  exact ⟨_, _, by rw [eof]; rfl, nofun, splitGap_isGap .between text, token_eof_text h⟩

/-- In front of a token all comments have their end. -/
theorem lexeme_gap {text : List Char} (h : (lexeme text).1.token.category ≠ .eof) :
    IsGap False (lexeme text).1.gap := by
  have gap : IsGap ((splitGap .between text).2 = []) (lexeme text).1.gap :=
    splitGap_isGap .between text
  refine gap.imp fun nil => h ?_
  show (token (splitGap .between text).2).1.category = .eof
  rw [nil]
  rfl

/-- Every stream has this shape. -/
theorem scan_shape (text : List Char) : ∃ front gap rest, Shape (scan text) front gap rest := by
  induction hn : text.length using Nat.strongRecOn generalizing text with
  | _ n ih =>
    rw [scan_eq]
    split
    · next ends =>
      obtain ⟨gap, rest, shape⟩ := lexeme_shape_eof ends
      exact ⟨[], gap, rest, shape⟩
    · next goesOn =>
      obtain ⟨front, gap, rest, shape⟩ := ih _ (hn ▸ lexeme_shorter goesOn) _ rfl
      refine ⟨(lexeme text).1 :: front, gap, rest, ?_, ?_, shape.gap, shape.rest⟩
      · rw [shape.split, List.cons_append]
      · exact List.forall_mem_cons.2 ⟨⟨goesOn, lexeme_gap goesOn⟩, shape.front⟩

/-- The text of a stream, put together from its parts. -/
theorem Shape.text {text : List Char} {front : List Lexeme} {gap rest : List Char}
    (h : Shape (scan text) front gap rest) : text = front.flatMap Lexeme.text ++ gap ++ rest := by
  have whole := flatMap_text_scan text
  rw [h.split] at whole
  simpa [Lexeme.text] using whole.symm

/-- The tokens of a stream, with the end as the last one. -/
theorem Shape.tokens_eq {text : List Char} {front : List Lexeme} {gap rest : List Char}
    (h : Shape (scan text) front gap rest) :
    tokens text = front.map (·.token) ++ [⟨.eof, String.ofList rest⟩] := by
  rw [tokens, h.split, List.map_append]
  rfl

/-- Only the last token ends the input. -/
theorem Shape.not_eof {lexemes front : List Lexeme} {gap rest : List Char}
    (h : Shape lexemes front gap rest) : ∀ t ∈ front.map (·.token), t.category ≠ .eof := by
  intro t inside
  obtain ⟨x, among, rfl⟩ := List.mem_map.1 inside
  exact (h.front x among).1

/-- The stream of a text ends with the only end of the input in it. -/
theorem tokens_eof_last (text : List Char) :
    ∃ front last, tokens text = front ++ [last] ∧ last.category = .eof ∧
      ∀ t ∈ front, t.category ≠ .eof := by
  obtain ⟨front, gap, rest, shape⟩ := scan_shape text
  exact ⟨_, _, shape.tokens_eq, rfl, shape.not_eof⟩

/-- Each token of a text stands after a gap at the head of some text. -/
theorem mem_tokens {text : List Char} {t : Token} (h : t ∈ tokens text) :
    ∃ rest, (token (splitGap .between rest).2).1 = t := by
  induction hn : text.length using Nat.strongRecOn generalizing text with
  | _ n ih =>
    rw [tokens, scan_eq] at h
    split at h
    · obtain rfl : t = (lexeme text).1.token := by simpa using h
      exact ⟨_, rfl⟩
    · next goesOn =>
      rcases List.mem_cons.1 h with rfl | later
      · exact ⟨_, rfl⟩
      · exact ih _ (hn ▸ lexeme_shorter goesOn) later rfl

end Lexer

end IdlCatalog
