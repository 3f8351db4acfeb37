/-
# IdlCatalog.Proofs.Lexing — a text is tiled by the longest tokens and the gaps between them

`Tiles` says what the stream of a text is, without reference to how it is read: gaps and tokens in
turn, no gap stopping before its end, every token the longest one where it stands, and the end of
the input last. Each token has its place in bytes. From that, every place is where a character
starts or the text ends, and tokens follow one another without overlap.

## Why the longest token

A text can be cut into tokens and gaps in many ways: `long` might be one word or four. What singles
out the stream is that each token is the longest one of its kind where it stands, and that a gap is
not broken off. `IsLongest` is stated with the classes of tokens alone, so that the tiling can be
read without knowing the scanner.
-/
import IdlCatalog.Proofs.Text.Lines
import IdlCatalog.Proofs.Token.Longest

namespace IdlCatalog

namespace Lexer

/-! ## Tilings

A tiling is built from the front. What stands before the rest is carried along, since places are
counted from the start of the text. -/

/-- The text goes on with a blank or a comment. -/
inductive StartsGap : List Char → Prop
  | blank {c : Char} {text : List Char} (blank : c ≤ ' ') : StartsGap (c :: text)
  | line {mark text : List Char} (starts : IsLineMark mark) : StartsGap (mark ++ text)
  | block {text : List Char} : StartsGap ('/' :: '*' :: text)

/-- The text that stands after `before` consists of gaps and of these tokens, each of them at its
place in bytes. -/
inductive Tiles : (before text : List Char) → List (Span × Token) → Prop
  /-- The end of the input takes what is left along: nothing, or a string that is never closed. -/
  | ends {before gap rest : List Char} (isGap : IsGap (rest = []) gap)
      (isEnd : rest = [] ∨ IsOpenString rest) :
      Tiles before (gap ++ rest)
        [(⟨utf8Length (before ++ gap), utf8Length (before ++ gap ++ rest)⟩,
          ⟨.eof, String.ofList rest⟩)]
  /-- Any other token is the longest one after its gap. -/
  | token {before gap lexeme text : List Char} {category : Category}
      {later : List (Span × Token)} (isGap : IsGap False gap)
      (whole : ¬StartsGap (lexeme ++ text)) (nonempty : lexeme ≠ []) (goesOn : category ≠ .eof)
      (longest : IsLongest category lexeme (lexeme ++ text))
      (more : Tiles (before ++ gap ++ lexeme) text later) :
      Tiles before (gap ++ (lexeme ++ text))
        ((⟨utf8Length (before ++ gap), utf8Length (before ++ gap ++ lexeme)⟩,
          ⟨category, String.ofList lexeme⟩) :: later)

/-! ## The stream of a text is a tiling

The scanner splits off a gap and a token and goes on with the rest, which is shorter. -/

/-- A gap is not split off before its end. -/
theorem splitGap_whole (mode : GapMode) (text : List Char) : ¬StartsGap (splitGap mode text).2 := by
  -- only where a gap ends there is something to show: no blank and no mark is left
  fun_induction splitGap mode text with
  | case5 c text noLine noBlock noMark noBlank =>
    intro starts
    generalize whole : c :: text = left at starts
    cases starts with
    | blank blank =>
      obtain ⟨rfl, -⟩ := List.cons.inj whole
      exact noBlank (by simpa [isBlank] using blank)
    | line starts =>
      rcases starts with rfl | rfl
      · obtain ⟨rfl, eq⟩ := List.cons.inj whole
        exact noLine _ rfl eq
      · obtain ⟨rfl, -⟩ := List.cons.inj whole
        exact noMark rfl
    | block =>
      obtain ⟨rfl, eq⟩ := List.cons.inj whole
      exact noBlock _ rfl eq
  | case9 =>
    intro starts
    generalize whole : [] = left at starts
    cases starts with
    | line starts => rcases starts with rfl | rfl <;> cases whole
    | _ => cases whole
  | _ => assumption

/-- The tokens of a text that stands after another, each with its place. -/
def placedAfter (before text : List Char) : List (Span × Token) :=
  (spansFrom (utf8Length before) (scan text)).zip (tokens text)

/-- One token, and then the tokens behind it. -/
theorem placedAfter_eq (before text : List Char) :
    placedAfter before text =
      (⟨utf8Length (before ++ (lexeme text).1.gap), utf8Length (before ++ (lexeme text).1.text)⟩,
        (lexeme text).1.token) ::
      if (lexeme text).1.token.category = .eof then []
      else placedAfter (before ++ (lexeme text).1.text) (lexeme text).2 := by
  rw [placedAfter, tokens, scan_eq]
  split
  · simp [spansFrom, utf8Length_append, Lexeme.text, Nat.add_assoc]
  · simp [spansFrom, placedAfter, tokens, utf8Length_append, Lexeme.text, Nat.add_assoc]

/-- Reading on after any text gives a tiling of what is left. -/
theorem placedAfter_tiles (before text : List Char) :
    Tiles before text (placedAfter before text) := by
  -- on the length of the text, since each token takes characters
  induction hn : text.length using Nat.strongRecOn generalizing before text with
  | _ n ih =>
    have whole := lexeme_append text
    rw [placedAfter_eq]
    split
    · next ends =>
      obtain ⟨gap, rest, shape⟩ := lexeme_shape_eof ends
      have first : (lexeme text).1 = ⟨gap, ⟨.eof, String.ofList rest⟩⟩ :=
        (List.cons.inj shape.split).1
      have split : text = gap ++ rest := by
        rw [lexeme_eof ends, List.append_nil, first] at whole
        simpa [Lexeme.text] using whole.symm
      rw [first, split]
      have tiles : Tiles before (gap ++ rest) _ := .ends shape.gap shape.rest
      simpa [Lexeme.text] using tiles
    · next goesOn =>
      have rest : (lexeme text).1.token.text.toList ++ (lexeme text).2 =
          (splitGap .between text).2 := token_append _
      have whole' : ¬StartsGap ((lexeme text).1.token.text.toList ++ (lexeme text).2) := by
        rw [rest]
        exact splitGap_whole .between text
      have nonempty : (lexeme text).1.token.text.toList ≠ [] := token_ne_nil goesOn
      have longest : IsLongest (lexeme text).1.token.category (lexeme text).1.token.text.toList
          ((lexeme text).1.token.text.toList ++ (lexeme text).2) := by
        rw [rest]
        exact token_longest goesOn
      have more := ih _ (hn ▸ lexeme_shorter goesOn) (before ++ (lexeme text).1.text) _ rfl
      have tiles : Tiles before _ _ :=
        .token (lexeme_gap goesOn) whole' nonempty goesOn longest
          (by simpa [Lexeme.text] using more)
      rw [← List.append_assoc, ← Lexeme.text, whole] at tiles
      simpa [Lexeme.text] using tiles

/-! ## Places

A place is given by what stands before the token and by the token itself, so it does not cut a
character in two. -/

/-- The token stands at its place in the text. -/
def StandsAt (text : List Char) (place : Span) (t : Token) : Prop :=
  ∃ front back, text = front ++ (t.text.toList ++ back) ∧
    place = ⟨utf8Length front, utf8Length (front ++ t.text.toList)⟩

theorem Tiles.standsAt {before text : List Char} {stream : List (Span × Token)}
    (h : Tiles before text stream) : ∀ p ∈ stream, StandsAt (before ++ text) p.1 p.2 := by
  induction h with
  | @ends before gap rest =>
    rintro p inside
    obtain rfl := List.mem_singleton.1 inside
    exact ⟨before ++ gap, [], by simp, by simp⟩
  | @token before gap lexeme text category later _ _ _ _ _ _ ih =>
    rintro p inside
    rcases List.mem_cons.1 inside with rfl | inside
    · exact ⟨before ++ gap, text, by simp, by simp⟩
    · simpa using ih p inside

/-- Tokens stand after what is before their text. -/
theorem Tiles.start_le {before text : List Char} {stream : List (Span × Token)}
    (h : Tiles before text stream) : ∀ p ∈ stream, utf8Length before ≤ p.1.start := by
  induction h with
  | ends =>
    rintro p inside
    obtain rfl := List.mem_singleton.1 inside
    simp [utf8Length_append]
  | token _ _ _ _ _ _ ih =>
    rintro p inside
    rcases List.mem_cons.1 inside with rfl | inside
    · simp [utf8Length_append]
    · have later := ih p inside
      simp only [utf8Length_append] at later
      omega

/-- Tokens follow one another without overlap. -/
theorem Tiles.ordered {before text : List Char} {stream : List (Span × Token)}
    (h : Tiles before text stream) : stream.Pairwise fun p q => p.1.stop ≤ q.1.start := by
  induction h with
  | ends => exact List.pairwise_singleton _ _
  | token _ _ _ _ _ more ih => exact List.pairwise_cons.2 ⟨more.start_le, ih⟩

/-- The last token ends the stream. No other token does, and no other one is empty. -/
theorem Tiles.split {before text : List Char} {stream : List (Span × Token)}
    (h : Tiles before text stream) : ∃ front last, stream = front ++ [last] ∧
      last.2.category = .eof ∧ last.1.stop = utf8Length (before ++ text) ∧
      ∀ p ∈ front, p.2.category ≠ .eof ∧ p.1.start < p.1.stop := by
  induction h with
  | ends => exact ⟨[], _, rfl, rfl, by simp, nofun⟩
  | @token before gap lexeme text category later _ _ nonempty goesOn _ _ ih =>
    obtain ⟨front, last, rfl, ends, stop, proper⟩ := ih
    refine ⟨_ :: front, last, rfl, ends, by simpa using stop, List.forall_mem_cons.2 ⟨?_, proper⟩⟩
    have long := utf8Length_pos nonempty
    exact ⟨goesOn, by simp only [utf8Length_append]; omega⟩

/-! ## Streams

The statement about whole texts. -/

/-- The stream of a text tiles it. The text consists of gaps and tokens, every token but the end of
the input the longest one where it stands; the end of the input, empty or a string that is never
closed, comes last and only there. Each token stands at its place, so the place lies between
characters; other tokens than the end of the input are not empty; and all of them stand in order and
apart from one another. -/
theorem placed_tiles (text : List Char) :
    Tiles [] text (placed text) ∧
      (∀ p ∈ placed text, StandsAt text p.1 p.2) ∧
      ((placed text).Pairwise fun p q => p.1.stop ≤ q.1.start) ∧
      ∃ front last, placed text = front ++ [last] ∧ last.2.category = .eof ∧
        last.1.stop = utf8Length text ∧
        ∀ p ∈ front, p.2.category ≠ .eof ∧ p.1.start < p.1.stop := by
  have tiles : Tiles [] text (placed text) := placedAfter_tiles [] text
  exact ⟨tiles, tiles.standsAt, tiles.ordered, tiles.split⟩

end Lexer

end IdlCatalog
