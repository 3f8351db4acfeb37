/-
# IdlCatalog.Proofs.Initializers — the text of a value has the tokens of the value

The value of a constant and the default of a dictionary entry are kept as text: the texts of their
tokens, with one blank between each two of them, whatever gap stood there. A blank ends every token,
strings with semicolons, newlines or comment marks in them included, so the text that is kept is a
layout of these tokens and is read as them again.
-/
import IdlCatalog.Proofs.Grammar.Stream
import IdlCatalog.Proofs.Token.Layout

namespace IdlCatalog

open Lexer IdlCatalog.Parser

variable {s u : ReadState}

/-! ## Joined tokens

With a blank between each two of them, tokens of any kind are read as they are: no token goes on
with a blank. -/

/-- Tokens with a blank between each two of them are laid out. -/
theorem Lexer.laidOut_joined (ts : List Token) :
    LaidOut ts (" ".intercalate (ts.map (·.text))).toList := by
  induction ts with
  | nil => exact .nil .nil
  | cons t ts ih =>
    cases ts with
    | nil =>
      have last : LaidOut [t] ([] ++ (t.text.toList ++ [])) := .cons .nil nofun (.nil .nil)
      simpa using last
    | cons u ts =>
      -- the blank before the next token is a gap, and the token ends in front of it
      have later := ih.blank (c := ' ') (by decide)
      have apart : ∀ c ∈ (' ' :: (" ".intercalate ((u :: ts).map (·.text))).toList).head?,
          goesOn t c = false := by
        rintro c first
        obtain rfl : ' ' = c := by simpa using first
        exact goesOn_blank t (by decide)
      have whole : LaidOut (t :: u :: ts) ([] ++ (t.text.toList ++ _)) := .cons .nil apart later
      simpa [String.intercalate_cons_cons] using whole

/-! ## Values

A value goes up to a semicolon or to the end of the input, and is taken token by token. -/

namespace ReadState

/-- The tokens of the value that stands next. -/
def value (s : ReadState) : List Token := s.rest.takeWhile continuesValue

/-- A value is read off the front of the stream. -/
theorem rest_after_value (s : ReadState) :
    (s.drop s.value.length).rest = s.rest.dropWhile continuesValue := by
  have split : s.value ++ s.rest.dropWhile continuesValue = s.rest :=
    List.takeWhile_append_dropWhile
  calc (s.drop s.value.length).rest
      = (s.value ++ s.rest.dropWhile continuesValue).drop s.value.length := by
        rw [rest_drop, split]
    _ = s.rest.dropWhile continuesValue := List.drop_left

/-- After a value stands a token that ends it. -/
theorem peek_after_value (s : ReadState) :
    continuesValue (s.drop s.value.length).peek = false := by
  rw [peek, rest_after_value]
  have ends := List.head?_dropWhile_not continuesValue s.rest
  cases first : (s.rest.dropWhile continuesValue).head? with
  | none => rfl
  | some t =>
    rw [first] at ends
    exact ends

end ReadState

/-- Raw text is the text of the value that stands next, which is taken. -/
theorem rawUntilSemicolon_apply (l : LibraryId) (s : ReadState) :
    rawUntilSemicolon l s =
      (.ok (" ".intercalate (s.value.map (·.text))), s.drop s.value.length) := rfl

/-- The tokens that the text of a value has are the tokens of the value. -/
theorem value_reads_back (each : ∀ t ∈ s.value, IsToken t) :
    tokens (" ".intercalate (s.value.map (·.text))).toList = s.value ++ [Token.endOfInput] :=
  tokens_of_laidOut (laidOut_joined s.value) each

/-- What ends a stream ends a value, so the text of a value is a value to its end. -/
theorem value_of_value (stands : u.rest = s.value ++ [Token.endOfInput]) : u.value = s.value := by
  have part : ∀ t ∈ s.value, continuesValue t = true := fun t inside =>
    List.mem_takeWhile_imp inside
  rw [ReadState.value, stands, List.takeWhile_append_of_pos part]
  exact List.append_nil _

/-! ## Reading values back

Reading the text again gives the tokens again, and the text of these is the text. -/

/-- The raw text of a value has the tokens of the value. Wherever a reading of a source stands, the
tokens up to the next semicolon or the end of the input are taken; the text that is answered has
exactly these tokens, with their categories and their texts, and after them the empty end of the
input. Read as a value itself, the text is answered unchanged. -/
theorem initializer_reads_back (source : String) (c : Catalog) (l : LibraryId) (count : Nat) :
    let s := (ReadState.start (tokens source.toList) c).drop count
    ∃ text u, rawUntilSemicolon l s = (.ok text, u) ∧
      (∃ taken, s.rest = taken ++ u.rest ∧
        (∀ t ∈ taken, t.category ≠ .semicolon ∧ t.category ≠ .eof) ∧
        (u.peek.category = .semicolon ∨ u.peek.category = .eof) ∧
        tokens text.toList = taken ++ [Token.endOfInput]) ∧
      ∀ (d : Catalog) (k : LibraryId), ∃ v,
        rawUntilSemicolon k (ReadState.start (tokens text.toList) d) = (.ok text, v) ∧
          v.rest = [Token.endOfInput] := by
  intro s
  have continues {t : Token} (part : continuesValue t = true) :
      t.category ≠ .semicolon ∧ t.category ≠ .eof := by
    simpa [continuesValue] using part
  have part : ∀ t ∈ s.value, continuesValue t = true := fun t inside =>
    List.mem_takeWhile_imp inside
  have each : ∀ t ∈ s.value, IsToken t := by
    intro t inside
    have left : t ∈ (tokens source.toList).drop count := by
      have := List.takeWhile_subset continuesValue inside
      rwa [ReadState.rest_drop] at this
    exact ⟨(continues (part t inside)).2, source.toList, List.mem_of_mem_drop left⟩
  have read := value_reads_back each
  refine ⟨_, _, rawUntilSemicolon_apply l s,
    ⟨s.value, ?_, fun t inside => continues (part t inside), ?_, read⟩, fun d k => ?_⟩
  · rw [s.rest_after_value]
    exact List.takeWhile_append_dropWhile.symm
  · have ends := s.peek_after_value
    simp only [continuesValue, Bool.and_eq_false_iff, decide_eq_false_iff_not, not_not] at ends
    exact ends
  · let again := ReadState.start (tokens (" ".intercalate (s.value.map (·.text))).toList) d
    have same : again.value = s.value := value_of_value read
    refine ⟨again.drop again.value.length, ?_, ?_⟩
    · rw [rawUntilSemicolon_apply, same]
    · rw [ReadState.rest_drop, same]
      show (tokens _).drop s.value.length = _
      rw [read, List.drop_left]

end IdlCatalog
