/-
# IdlCatalog.Proofs.Token.Joining — the tokens of a text that goes on after a newline

No token goes on over a newline, except for a string, which ends with its quote. So the tokens of a
text are there as well when a newline and another text follow. What the first text ends with is a
gap; if the newline completes it, the tokens of the other text come next.

The newline is the right place to join two texts, since it ends everything that may be open but
strings and block comments: words, numbers, operators and line comments. `Complete` is the condition
on the first text that excludes the other two. Without it the second text would be swallowed by what
the first one has left open.
-/
import Mathlib.Data.List.Find
import IdlCatalog.Proofs.Token.Gaps

namespace IdlCatalog

namespace Lexer

/-! ## Gaps in front of a text

A gap that is complete is skipped whatever comes after it. So the tokens of a text after a gap are
the tokens of the text. -/

/-- What is put in front twice is put in front together. -/
theorem prepend_prepend (a b : List Char) (split : List Char × List Char) :
    prepend a (prepend b split) = prepend (a ++ b) split := by
  simp [prepend]

/-- A line comment goes up to its newline, and the gap goes on after it. -/
theorem splitGap_line {body : List Char} (inside : '\n' ∉ body) (rest : List Char) :
    splitGap .line (body ++ '\n' :: rest) =
      prepend (body ++ ['\n']) (splitGap .between rest) := by
  induction body with
  | nil => simp [splitGap]
  | cons c body ih =>
    simp only [List.mem_cons, not_or] at inside
    rw [List.cons_append, splitGap, if_neg (Ne.symm inside.1), ih inside.2, prepend_prepend]
    rfl

/-- A block comment goes up to its closing mark, and the gap goes on after it. -/
theorem splitGap_block {body : List Char} (inside : ¬['*', '/'] <:+: body) (rest : List Char) :
    splitGap .block (body ++ '*' :: '/' :: rest) =
      prepend (body ++ ['*', '/']) (splitGap .between rest) := by
  induction body with
  | nil => simp [splitGap]
  | cons c body ih =>
    rw [List.infix_cons_iff, not_or] at inside
    rw [List.cons_append, splitGap, ih inside.2, prepend_prepend]
    · rfl
    · -- the mark that closes the comment does not start with `c`
      rintro text rfl front
      refine inside.1 ?_
      cases body with
      | nil => simp at front
      | cons d body =>
        obtain ⟨rfl, -⟩ := List.cons.inj front
        exact ⟨body, rfl⟩

/-- A gap that is complete belongs to the gap at the head of a text. -/
theorem splitGap_of_isGap {gap : List Char} (h : IsGap False gap) (more : List Char) :
    splitGap .between (gap ++ more) = prepend gap (splitGap .between more) := by
  -- on the gap, piece by piece
  induction h with
  | nil => rfl
  | @blank c rest blank _ ih =>
    have mark : c ≠ '#' ∧ c ≠ '/' := by
      constructor <;> (rintro rfl; exact absurd blank (by decide))
    rw [List.cons_append, splitGap, if_neg mark.1, if_pos (by simpa [isBlank] using blank), ih,
      prepend_prepend]
    · rfl
    · exact fun _ slash => absurd slash mark.2
    · exact fun _ slash => absurd slash mark.2
  | @line mark body rest starts inside _ ih =>
    have tail : splitGap .line (body ++ '\n' :: rest ++ more) =
        prepend (body ++ '\n' :: rest) (splitGap .between more) := by
      rw [List.append_assoc, List.cons_append, splitGap_line inside, ih, prepend_prepend,
        List.append_assoc]
      rfl
    rcases starts with rfl | rfl
    · rw [List.append_assoc, List.cons_append, List.cons_append, List.nil_append, splitGap, tail,
        prepend_prepend]
    · rw [List.append_assoc, List.cons_append, List.nil_append, splitGap, if_pos rfl, tail,
        prepend_prepend]
      · exact fun _ mark => absurd mark (by decide)
      · exact fun _ mark => absurd mark (by decide)
  | @block body rest inside _ ih =>
    rw [List.cons_append, List.cons_append, splitGap, List.append_assoc, List.cons_append,
      List.cons_append, splitGap_block inside, ih, prepend_prepend, prepend_prepend]
    simp
  | openLine ends => exact ends.elim
  | openBlock ends => exact ends.elim

/-- The tokens of a text: its first one, and unless that one ends the stream, those after it. -/
theorem tokens_eq (text : List Char) :
    tokens text = (lexeme text).1.token ::
      if (lexeme text).1.token.category = .eof then [] else tokens (lexeme text).2 := by
  rw [tokens, scan_eq]
  split <;> rfl

/-- A stream has its end at least. -/
theorem tokens_ne_nil (text : List Char) : tokens text ≠ [] := by
  rw [tokens_eq]
  exact List.cons_ne_nil _ _

/-- A complete gap in front of a text does not matter. -/
theorem tokens_of_isGap {gap : List Char} (h : IsGap False gap) (more : List Char) :
    tokens (gap ++ more) = tokens more := by
  have first : lexeme (gap ++ more) =
      (⟨gap ++ (lexeme more).1.gap, (lexeme more).1.token⟩, (lexeme more).2) := by
    rw [lexeme, splitGap_of_isGap h]
    rfl
  rw [tokens_eq, tokens_eq more, first]

/-! ## Tokens in front of a newline

`continued` puts a newline and more text behind the rest of a split text. Each splitting function
commutes with it, because none of its characters is a newline: what is taken is the same, and what
is left has the other text behind it. -/

/-- The rest of a split text goes on after a newline. -/
def continued (more : List Char) (split : List Char × List Char) : List Char × List Char :=
  (split.1, split.2 ++ '\n' :: more)

@[simp] theorem continued_fst (more : List Char) (split : List Char × List Char) :
    (continued more split).1 = split.1 := rfl

@[simp] theorem continued_snd (more : List Char) (split : List Char × List Char) :
    (continued more split).2 = split.2 ++ '\n' :: more := rfl

/-- Text in front and text behind do not interfere. -/
theorem continued_prepend (more head : List Char) (split : List Char × List Char) :
    continued more (prepend head split) = prepend head (continued more split) := rfl

section Newline

variable (text more : List Char)

/-- A class without the newline stops before it. -/
theorem splitWhile_newline {p : Char → Bool} (stops : p '\n' = false) :
    splitWhile p (text ++ '\n' :: more) = continued more (splitWhile p text) := by
  induction text with
  | nil => simp [splitWhile, continued, stops]
  | cons c text ih =>
    simp only [splitWhile, continued, Prod.mk.injEq] at ih
    by_cases part : p c = true
    · simp [splitWhile, continued, part, ih.1, ih.2]
    · simp [splitWhile, continued, part]

/-- What stops within a text stops there if the text goes on. -/
theorem splitWhile_stops {p : Char → Bool} (stops : (splitWhile p text).2 ≠ []) :
    splitWhile p (text ++ '\n' :: more) = continued more (splitWhile p text) := by
  induction text with
  | nil => exact absurd rfl stops
  | cons c text ih =>
    by_cases part : p c = true
    · have later := ih (by simpa [splitWhile, part] using stops)
      simp only [splitWhile, continued, Prod.mk.injEq] at later
      simp [splitWhile, continued, part, later.1, later.2]
    · simp [splitWhile, continued, part]

/-- A fraction stops before a newline. -/
theorem splitFraction_newline :
    splitFraction (text ++ '\n' :: more) = continued more (splitFraction text) := by
  cases text with
  | nil => rfl
  | cons c text =>
    by_cases point : c = '.'
    · rw [point, List.cons_append, splitFraction, splitFraction,
        splitWhile_newline text more (by decide), continued_prepend]
    · have other (rest : List Char) : splitFraction (c :: rest) = ([], c :: rest) := by
        rw [splitFraction]
        exact fun _ front => point (List.cons.inj front).1
      rw [List.cons_append, other, other]
      rfl

/-- A sign is followed by a newline as by anything else. -/
theorem splitSign_newline :
    splitSign (text ++ '\n' :: more) = continued more (splitSign text) := by
  cases text with
  | nil => rfl
  | cons c text =>
    rw [List.cons_append, splitSign, splitSign]
    split <;> rfl

/-- An exponent stops before a newline, and is none if its digits would come after it. -/
theorem splitExponent_newline :
    splitExponent (text ++ '\n' :: more) = continued more (splitExponent text) := by
  cases text with
  | nil => rfl
  | cons c text =>
    have digits := splitWhile_newline (splitSign text).2 more
      (by decide : isDecimalDigit '\n' = false)
    simp only [List.cons_append, splitExponent, splitSign_newline, continued_fst, continued_snd,
      digits]
    split
    · split <;> rfl
    · rfl

/-- A decimal number stops before a newline. -/
theorem splitDecimal_newline :
    splitDecimal (text ++ '\n' :: more) = continued more (splitDecimal text) := by
  simp only [splitDecimal, splitWhile_newline text more (by decide : isDecimalDigit '\n' = false),
    continued_fst, continued_snd, splitFraction_newline, splitExponent_newline]
  rfl

/-- A number stops before a newline. -/
theorem splitNumber_newline :
    splitNumber (text ++ '\n' :: more) = continued more (splitNumber text) := by
  cases text with
  | nil => exact splitDecimal_newline [] more
  | cons c text =>
    by_cases zero : c = '0'
    · subst zero
      cases text with
      | nil => exact splitDecimal_newline ['0'] more
      | cons d text =>
        simp only [List.cons_append, splitNumber]
        split
        · rw [splitWhile_newline text more (by decide), continued_prepend]
        · exact splitDecimal_newline ('0' :: d :: text) more
    · have other (rest : List Char) : splitNumber (c :: rest) = splitDecimal (c :: rest) := by
        rw [splitNumber]
        exact fun _ _ front => zero (List.cons.inj front).1
      rw [List.cons_append, other, other]
      exact splitDecimal_newline (c :: text) more

/-- A string ends before the newline if it ends at all. -/
theorem splitString_newline {quote : Char} {quoted : List Char × List Char}
    (h : splitString quote text = some quoted) :
    splitString quote (text ++ '\n' :: more) = some (continued more quoted) := by
  simp only [splitString] at h ⊢
  split at h
  · cases h
  · next close rest eq =>
    obtain rfl := Option.some.inj h
    rw [splitWhile_stops text more (by rw [eq]; exact List.cons_ne_nil _ _), continued_snd, eq]
    rfl

/-- No operator goes on over the newline. -/
theorem operator?_newline : operator? (text ++ '\n' :: more) = operator? text := by
  have mark : ∀ lexeme : List Char, '\n' ∉ lexeme → ∀ text : List Char,
      lexeme.isPrefixOf (text ++ '\n' :: more) = lexeme.isPrefixOf text := by
    intro lexeme
    induction lexeme with
    | nil => exact fun _ text => by simp
    | cons c lexeme ih =>
      intro inside text
      simp only [List.mem_cons, not_or] at inside
      cases text with
      | nil => simp [List.isPrefixOf, Ne.symm inside.1]
      | cons d text => simp [List.isPrefixOf, ih inside.2 text]
  have none : ∀ entry ∈ operatorTexts, '\n' ∉ entry.2 := by decide +kernel
  exact List.find?_congr fun entry inside => mark entry.2 (none entry inside) text

/-- A token that does not end the stream ends before the newline. -/
theorem token_newline {text : List Char} (h : (token text).1.category ≠ .eof) (more : List Char) :
    token (text ++ '\n' :: more) = ((token text).1, (token text).2 ++ '\n' :: more) := by
  revert h
  -- every class of tokens ends at a newline
  fun_cases token text with
  | case1 => exact fun eof => absurd rfl eof
  | case2 c text start word =>
    intro _
    rw [List.cons_append, token, if_pos start, ← List.cons_append,
      splitWhile_newline (c :: text) more (by decide)]
    rfl
  | case3 c text start digit number =>
    intro _
    rw [List.cons_append, token, if_neg start, if_pos digit, ← List.cons_append,
      splitNumber_newline (c :: text) more]
    rfl
  | case4 c text start digit quote quoted found =>
    intro _
    rw [List.cons_append, token, if_neg start, if_neg digit, if_pos quote,
      splitString_newline text more found]
    rfl
  | case5 => exact fun eof => absurd rfl eof
  | case6 c text start digit quote category lexeme found =>
    intro _
    have longer : lexeme.length ≤ (c :: text).length := (operator?_isPrefix found).length_le
    rw [List.cons_append, token, if_neg start, if_neg digit, if_neg quote, ← List.cons_append,
      operator?_newline, found, ← List.drop_append_of_le_length longer]
  | case7 c text start digit quote unknown =>
    intro _
    rw [List.cons_append, token, if_neg start, if_neg digit, if_neg quote, ← List.cons_append,
      operator?_newline, unknown]

/-- A character that stands before the newline comes from the text. -/
theorem eq_cons_of_newline {c : Char} {text more rest : List Char} (other : c ≠ '\n')
    (front : text ++ '\n' :: more = c :: rest) : ∃ text', text = c :: text' := by
  cases text with
  | nil => exact absurd (List.cons.inj front).1.symm other
  | cons d text =>
    obtain ⟨rfl, -⟩ := List.cons.inj front
    exact ⟨text, rfl⟩

/-- A gap that does not reach the end of a text ends before the newline. -/
theorem splitGap_newline {mode : GapMode} {text : List Char} (h : (splitGap mode text).2 ≠ [])
    (more : List Char) :
    splitGap mode (text ++ '\n' :: more) = continued more (splitGap mode text) := by
  revert h
  fun_induction splitGap mode text with
  | case1 text ih =>
    intro h
    rw [List.cons_append, List.cons_append, splitGap, ih h]
    rfl
  | case2 text ih =>
    intro h
    rw [List.cons_append, List.cons_append, splitGap, ih h]
    rfl
  | case3 text line block ih =>
    intro h
    rw [List.cons_append, splitGap, if_pos rfl, ih h]
    · rfl
    · exact nofun
    · exact nofun
  | case4 c text line block other blank ih =>
    intro h
    have no_slash : c ≠ '/' := by
      rintro rfl
      exact absurd blank (by decide)
    rw [List.cons_append, splitGap, if_neg other, if_pos blank, ih h]
    · rfl
    · exact fun _ slash => absurd slash no_slash
    · exact fun _ slash => absurd slash no_slash
  | case5 c text line block other blank =>
    intro _
    rw [List.cons_append, splitGap, if_neg other, if_neg blank]
    · rfl
    -- a mark that starts with `c` would lie within the text, since it has no newline
    · intro rest slash front
      obtain ⟨text, rfl⟩ := eq_cons_of_newline (by decide) front
      exact line text slash rfl
    · intro rest slash front
      obtain ⟨text, rfl⟩ := eq_cons_of_newline (by decide) front
      exact block text slash rfl
  | case6 c text ih =>
    intro h
    rw [List.cons_append, splitGap, ih h]
    rfl
  | case7 text ih =>
    intro h
    rw [List.cons_append, List.cons_append, splitGap, ih h]
    rfl
  | case8 c text no_close ih =>
    intro h
    rw [List.cons_append, splitGap, ih h]
    · rfl
    · intro rest star front
      obtain ⟨text, rfl⟩ := eq_cons_of_newline (by decide) front
      exact no_close text star rfl
  | case9 => exact fun h => absurd rfl h

end Newline

/-! ## Joined texts

From single tokens to streams, by induction on the length of the first text. At its end stands a
gap, which the newline completes. -/

/-- No string and no comment is open at the end of the text, but for a comment that goes to the end
of the line. -/
def Complete (text : List Char) : Prop :=
  ∃ gap, (scan text).getLast? = some ⟨gap, Token.endOfInput⟩ ∧ IsGap False (gap ++ ['\n'])

/-- The stream of a complete text ends with an empty end of the input. -/
theorem Complete.tokens_eq {text : List Char} (complete : Complete text) :
    ∃ front, tokens text = front ++ [Token.endOfInput] ∧ ∀ t ∈ front, t.category ≠ .eof := by
  obtain ⟨gap, last, -⟩ := complete
  obtain ⟨front, gap', rest, shape⟩ := scan_shape text
  rw [shape.split, List.getLast?_concat] at last
  have eof : (⟨.eof, String.ofList rest⟩ : Token) = Token.endOfInput :=
    congrArg Lexeme.token (Option.some.inj last)
  exact ⟨front.map (·.token), eof ▸ shape.tokens_eq, shape.not_eof⟩

/-- The tokens of a complete text, a newline and another text are those of the two texts. -/
theorem tokens_newline {text : List Char} (complete : Complete text) (more : List Char) :
    tokens (text ++ '\n' :: more) = (tokens text).dropLast ++ tokens more := by
  induction hn : text.length using Nat.strongRecOn generalizing text with
  | _ n ih =>
    obtain ⟨gap, last, isGap⟩ := complete
    rw [scan_eq] at last
    by_cases ends : (lexeme text).1.token.category = .eof
    · rw [if_pos ends, List.getLast?_singleton] at last
      -- the text is its last gap, which the newline completes
      have whole := lexeme_append text
      rw [lexeme_eof ends, Option.some.inj last, List.append_nil] at whole
      have alone : (tokens text).dropLast = [] := by rw [tokens_eq, if_pos ends]; rfl
      have text_eq : text ++ '\n' :: more = (gap ++ ['\n']) ++ more := by
        rw [← whole]
        simp [Lexeme.text, Token.endOfInput]
      rw [text_eq, tokens_of_isGap isGap, alone, List.nil_append]
    · rw [if_neg ends] at last
      have inside : (splitGap .between text).2 ≠ [] := by
        intro nil
        refine ends ?_
        show (token (splitGap .between text).2).1.category = .eof
        rw [nil]
        rfl
      have first : lexeme (text ++ '\n' :: more) =
          ((lexeme text).1, (lexeme text).2 ++ '\n' :: more) := by
        rw [lexeme, splitGap_newline inside, continued_snd, token_newline ends]
        rfl
      have nonempty : scan (lexeme text).2 ≠ [] := by
        simpa [tokens] using tokens_ne_nil (lexeme text).2
      have later : Complete (lexeme text).2 :=
        ⟨gap, by rwa [List.getLast?_cons_of_ne_nil nonempty] at last, isGap⟩
      rw [tokens_eq, tokens_eq text, first, if_neg ends, if_neg ends,
        ih _ (hn ▸ lexeme_shorter ends) later rfl,
        List.dropLast_cons_of_ne_nil (tokens_ne_nil _), List.cons_append]

end Lexer

end IdlCatalog
