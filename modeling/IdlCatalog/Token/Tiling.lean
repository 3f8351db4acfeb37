/-
# IdlCatalog.Token.Tiling — no part of a text is lost

The lexemes of a text, one after another, are the text. Each splitting function takes a part off
the front of a text and leaves the rest, so the two parts put together are what was split; a token
that does not end the stream is not empty, so the stream reaches the end of the text.

These facts stand beside the definitions because `scan` needs them to be understood: it counts
lexemes, and `scan_eq` says that the count never runs out before the text does. After that nobody
unfolds `scanUpTo` again.
-/
import IdlCatalog.Token.Lexer

namespace IdlCatalog

namespace Lexer

/-! ## Splitting

One lemma for each splitting function, by its own cases: its two parts, put together, are the text.
-/

/-- What is put in front of the first part stands in front of the whole. -/
theorem prepend_append (head : List Char) (split : List Char × List Char) :
    (prepend head split).1 ++ (prepend head split).2 = head ++ (split.1 ++ split.2) := by
  simp [prepend]

/-- A gap and what follows it are the text. -/
theorem splitGap_append (mode : GapMode) (text : List Char) :
    (splitGap mode text).1 ++ (splitGap mode text).2 = text := by
  fun_induction splitGap mode text <;> simp_all [prepend_append]

/-- The characters of a class and what follows them are the text. -/
theorem splitWhile_append (p : Char → Bool) (text : List Char) :
    (splitWhile p text).1 ++ (splitWhile p text).2 = text := by
  simp [splitWhile]

/-- A fraction and what follows it are the text. -/
theorem splitFraction_append (text : List Char) :
    (splitFraction text).1 ++ (splitFraction text).2 = text := by
  fun_cases splitFraction text <;> simp [prepend_append, splitWhile_append]

/-- A sign and what follows it are the text. -/
theorem splitSign_append (text : List Char) :
    (splitSign text).1 ++ (splitSign text).2 = text := by
  fun_cases splitSign text <;> simp

/-- An exponent and what follows it are the text. -/
theorem splitExponent_append (text : List Char) :
    (splitExponent text).1 ++ (splitExponent text).2 = text := by
  fun_cases splitExponent text with
  | case2 c text _ sign digits =>
    simp only [List.cons_append, List.append_assoc]
    rw [splitWhile_append, splitSign_append]
  | _ => simp

/-- A decimal number and what follows it are the text. -/
theorem splitDecimal_append (text : List Char) :
    (splitDecimal text).1 ++ (splitDecimal text).2 = text := by
  simp only [splitDecimal, prepend_append]
  rw [splitExponent_append, splitFraction_append, splitWhile_append]

/-- A number and what follows it are the text. -/
theorem splitNumber_append (text : List Char) :
    (splitNumber text).1 ++ (splitNumber text).2 = text := by
  fun_cases splitNumber text <;>
    simp [prepend_append, splitWhile_append, splitDecimal_append]

/-- A string and what follows it are the text with its quote. -/
theorem splitString_append {quote : Char} {text : List Char} {split : List Char × List Char}
    (h : splitString quote text = some split) : split.1 ++ split.2 = quote :: text := by
  have whole := splitWhile_append (· ≠ quote) text
  simp only [splitString] at h
  split at h
  · simp at h
  · next close rest body =>
    obtain rfl := Option.some.inj h
    rw [body] at whole
    simpa using whole

/-- An operator that was found stands at the head of the text. -/
theorem operator?_isPrefix {text lexeme : List Char} {category : Category}
    (h : operator? text = some (category, lexeme)) : lexeme <+: text :=
  List.isPrefixOf_iff_prefix.1
    (List.find?_some (p := fun entry : Category × List Char => entry.2.isPrefixOf text) h)

/-! ## Tokens

The text of a token is the front of the text that it was read from. -/

/-- A token and what follows it are the text. -/
theorem token_append (text : List Char) :
    (token text).1.text.toList ++ (token text).2 = text := by
  fun_cases token text with
  | case1 => rfl
  | case2 c text _ word => simpa using splitWhile_append isWordPart (c :: text)
  | case3 c text _ _ number => simpa using splitNumber_append (c :: text)
  | case4 c text _ _ _ quoted h => simp [splitString_append h]
  | case5 => simp
  | case6 c text _ _ _ category lexeme h =>
    have front := List.prefix_iff_eq_append.1 (operator?_isPrefix h)
    simpa using front
  | case7 => simp

/-- A lexeme and what follows it are the text. -/
theorem lexeme_append (text : List Char) :
    (lexeme text).1.text ++ (lexeme text).2 = text := by
  simp only [lexeme, Lexeme.text, List.append_assoc]
  rw [token_append, splitGap_append]

/-! ## Progress

Only the end of the input may be empty. Each class of tokens has a first character, and the class
was chosen by it; so at least this character is taken. -/

/-- A first character of the class is taken. -/
theorem splitWhile_ne_nil {p : Char → Bool} {c : Char} (text : List Char) (h : p c = true) :
    (splitWhile p (c :: text)).1 ≠ [] := by
  simp [splitWhile, h]

/-- A number has a digit. -/
theorem splitNumber_ne_nil {c : Char} (text : List Char) (h : isDecimalDigit c = true) :
    (splitNumber (c :: text)).1 ≠ [] := by
  have decimal : ∀ rest, (splitDecimal (c :: rest)).1 ≠ [] := fun rest => by
    simp [splitDecimal, prepend, splitWhile_ne_nil rest h]
  unfold splitNumber
  split
  · split
    · simp [prepend]
    · simp_all
  · exact decimal text

/-- A string has its quotes. -/
theorem splitString_ne_nil {quote : Char} {text : List Char} {split : List Char × List Char}
    (h : splitString quote text = some split) : split.1 ≠ [] := by
  simp only [splitString] at h
  split at h
  · simp at h
  · obtain rfl := Option.some.inj h
    simp

/-- No operator is empty, and none ends the stream. -/
theorem operator?_ne_nil {text lexeme : List Char} {category : Category}
    (h : operator? text = some (category, lexeme)) : category ≠ .eof ∧ lexeme ≠ [] := by
  have all : ∀ entry ∈ operatorTexts, entry.1 ≠ .eof ∧ entry.2 ≠ [] := by decide +kernel
  exact all _ (List.mem_of_find?_eq_some h)

/-- The end of the input takes the rest of the text along. -/
theorem token_eof {text : List Char} (h : (token text).1.category = .eof) :
    (token text).2 = [] := by
  revert h
  fun_cases token text with
  | case6 c text _ _ _ category lexeme found => simp [(operator?_ne_nil found).1]
  | _ => simp

/-- A token that does not end the stream is not empty. -/
theorem token_ne_nil {text : List Char} (h : (token text).1.category ≠ .eof) :
    (token text).1.text.toList ≠ [] := by
  revert h
  fun_cases token text with
  | case1 => simp [Token.endOfInput]
  | case2 c text start word => simpa using splitWhile_ne_nil text (by simp [isWordPart, start])
  | case3 c text _ start number => simpa using splitNumber_ne_nil text start
  | case4 c text _ _ _ quoted found => simpa using splitString_ne_nil found
  | case6 c text _ _ _ category lexeme found => simpa using fun _ => (operator?_ne_nil found).2
  | _ => simp

/-- Nothing follows the end of the input. -/
theorem lexeme_eof {text : List Char} (h : (lexeme text).1.token.category = .eof) :
    (lexeme text).2 = [] :=
  token_eof h

/-- What follows a lexeme that does not end the stream is shorter than the text. -/
theorem lexeme_shorter {text : List Char} (h : (lexeme text).1.token.category ≠ .eof) :
    (lexeme text).2.length < text.length := by
  have whole := congrArg List.length (lexeme_append text)
  have nonempty : (token (splitGap .between text).2).1.text.toList ≠ [] := token_ne_nil h
  have taken := List.length_pos_iff.2 nonempty
  simp only [List.length_append, Lexeme.text] at whole
  change _ + (token (splitGap .between text).2).1.text.toList.length + _ = _ at whole
  omega

/-! ## Streams

A stream is finite because its texts get shorter. The bound in `scan` is one more than the number of
characters, which leaves room for the end of the input. -/

/-- Scanning for more lexemes than there are characters changes nothing. -/
theorem scanUpTo_eq_scan {count : Nat} {text : List Char} (h : text.length < count) :
    scanUpTo count text = scan text := by
  induction count using Nat.strongRecOn generalizing text with
  | _ count ih =>
    match count, h with
    | count + 1, h =>
      simp only [scan, scanUpTo]
      split
      · rfl
      · next goesOn =>
        have shorter := lexeme_shorter goesOn
        rw [ih count (by omega) (by omega)]
        rw [ih text.length h shorter]

/-- The stream of a text: its first lexeme, and unless that one ends it, the stream of the text
after it. -/
theorem scan_eq (text : List Char) :
    scan text =
      if (lexeme text).1.token.category = .eof then [(lexeme text).1]
      else (lexeme text).1 :: scan (lexeme text).2 := by
  rw [scan, scanUpTo]
  split
  · rfl
  · next goesOn => rw [scanUpTo_eq_scan (lexeme_shorter goesOn)]

/-- The lexemes of a text, one after another, are the text. -/
theorem flatMap_text_scan (text : List Char) : (scan text).flatMap Lexeme.text = text := by
  induction hn : text.length using Nat.strongRecOn generalizing text with
  | _ n ih =>
    have whole := lexeme_append text
    rw [scan_eq]
    split
    · next ends => simpa [lexeme_eof ends] using whole
    · next goesOn =>
      rw [List.flatMap_cons, ih _ (hn ▸ lexeme_shorter goesOn) _ rfl, whole]

end Lexer

end IdlCatalog
