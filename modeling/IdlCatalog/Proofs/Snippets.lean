/-
# IdlCatalog.Proofs.Snippets — what a diagnostic shows of the text

The error at a token has a line, a column, the text of the token and a snippet. They are found in
three ways, in bytes and in characters, and fit together: the snippet is the part of the line before
the token, one character for each column, and then the token, which may go on over further lines. So
the snippet ends where the token does. Nothing is missing at its end although line breaks are left
out there, because no token ends with a blank.
-/
import Mathlib.Data.List.DropRight
import IdlCatalog.Diagnostic
import IdlCatalog.Proofs.Lexing
import IdlCatalog.Proofs.Token.Layout

namespace IdlCatalog

open Lexer

variable {text front middle lexeme : List Char} {c : Char} {category : Category} {t : Token}
  {place : Span}

/-! ## The ends of tokens

No token ends with a blank or a line break, so cutting breaks at the end of a snippet takes nothing
from the token. -/

theorem Lexer.solid_of_wordPart (part : isWordPart c = true) : isBlank c = false := by
  apply Bool.eq_false_iff.2
  intro blank
  have ends : isWordPart c = false := goesOn_blank ⟨.word, ""⟩ blank
  rw [part] at ends
  cases ends

/-- No token that is spelled like one ends with a blank. -/
theorem Lexer.Spells.solid_last (h : Spells category lexeme) (last : c ∈ lexeme.getLast?) :
    isBlank c = false := by
  have inside : c ∈ lexeme := List.mem_of_getLast? last
  have number (spelled : Spells .number lexeme) : isBlank c = false := by
    rcases number_part spelled inside with part | rfl | rfl | rfl
    · exact solid_of_wordPart part
    · decide
    · decide
    · decide
  cases h with
  | @word first rest start parts =>
    rcases List.mem_cons.1 inside with rfl | later
    · exact (solid_of_wordStart start).1
    · exact solid_of_wordPart (parts c later)
  | decimal nonempty digits isFraction isExponent =>
    exact number (.decimal nonempty digits isFraction isExponent)
  | hexadecimal marks all => exact number (.hexadecimal marks all)
  | @string quote body quotes _ =>
    -- what stands between the quotes may end with a blank, but the quote is last
    rw [← List.cons_append, List.getLast?_concat] at last
    obtain rfl : quote = c := by simpa using last
    rcases quotes with rfl | rfl
    · decide
    · decide
  | operator listed =>
    have table : ∀ entry ∈ operatorTexts, entry.2.all (fun d => !isBlank d) = true := by
      decide +kernel
    simpa using List.all_eq_true.1 (table _ listed) c inside

/-- No token but the end of the input ends with a blank. -/
theorem Lexer.token_solid_last (here : t ∈ tokens text) (goesOn : t.category ≠ .eof)
    (last : c ∈ t.text.toList.getLast?) : isBlank c = false := by
  obtain ⟨rest, rfl⟩ := mem_tokens here
  have whole := token_append (splitGap .between rest).2
  rcases token_longest goesOn with ⟨spelled, -⟩ | ⟨-, d, alone, -⟩
  · exact spelled.solid_last last
  · -- a character with which no token starts is not taken by the gap before it either
    rw [alone] at last whole
    obtain rfl : d = c := by simpa using last
    have solid := splitGap_whole .between rest
    rw [← whole] at solid
    apply Bool.eq_false_iff.2
    intro blank
    exact solid (.blank (by simpa [isBlank] using blank))

/-! ## Snippets

The part of the line before the token, and the token. Its column counts the characters of that part.
-/

/-- What a span between two characters shows: the line before it and its text, without the line
breaks at the end. -/
theorem Span.context_between (front middle back : List Char) :
    Span.context ⟨utf8Length front, utf8Length (front ++ middle)⟩ (front ++ (middle ++ back)) =
      (lastLine front ++ middle).rdropWhile fun c => c = '\r' || c = '\n' := by
  obtain ⟨lines, split, -⟩ := exists_lastLine front
  have order : max (utf8Length front) (utf8Length (front ++ middle)) =
      utf8Length (front ++ middle) := by
    rw [utf8Length_append]
    omega
  have start : front.length - (lastLine front).length = lines.length := by
    have whole := congrArg List.length split
    rw [List.length_append] at whole
    omega
  have line : (front ++ middle).drop lines.length = lastLine front ++ middle := by
    nth_rewrite 1 [split]
    rw [List.append_assoc, List.drop_left]
  unfold context
  dsimp only
  rw [order, Cut.of_append, ← List.append_assoc, Cut.of_append, if_pos rfl, start, line]
  rfl

/-- The error at a token and the text before it: after lines that end with a newline, if there are
any, the text up to the token ends with `line`. -/
structure SyntaxError.FitsAt (e : SyntaxError) (lines line lexeme : List Char) : Prop where
  starts : StartsLine lines
  unbroken : '\n' ∉ line
  line_eq : e.line = (lines ++ line).count '\n' + 1
  column_eq : e.column = line.length + 1
  token_eq : e.token.toList = lexeme
  context_eq : e.context.toList = line ++ lexeme

/-- The line, the column, the text and the snippet of the error at a token fit together, whatever
was expected. The text up to the token has one newline less than the line says and ends with as many
characters without a newline as the column says, less one; before these there is a newline or
nothing. The snippet consists of these characters and of the token, as it stands in the text. -/
theorem snippet_fits {text : List Char} {place : Span} {t : Token}
    (here : (place, t) ∈ placed text) (goesOn : t.category ≠ .eof) (expectation : Expectation)
    (library : String) :
    ∃ lines line back, text = lines ++ line ++ (t.text.toList ++ back) ∧
      place = ⟨utf8Length (lines ++ line), utf8Length (lines ++ line ++ t.text.toList)⟩ ∧
      (SyntaxError.of expectation library text place t).FitsAt lines line t.text.toList := by
  obtain ⟨-, stands, -⟩ := placed_tiles text
  have atPlace : StandsAt text place t := stands _ here
  obtain ⟨front, back, rfl, rfl⟩ := atPlace
  obtain ⟨lines, split, starts⟩ := exists_lastLine front
  have inside : t ∈ tokens (front ++ (t.text.toList ++ back)) := (List.of_mem_zip here).2
  have position := Position.of_append front (t.text.toList ++ back)
  have shown : Span.context ⟨utf8Length front, utf8Length (front ++ t.text.toList)⟩
      (front ++ (t.text.toList ++ back)) = lastLine front ++ t.text.toList := by
    rw [Span.context_between, List.rdropWhile_eq_self_iff]
    intro nonempty breaks
    have some : t.text.toList ≠ [] := by
      obtain ⟨rest, rfl⟩ := mem_tokens inside
      exact token_ne_nil goesOn
    have solid := token_solid_last inside goesOn (List.getLast?_eq_some_getLast some)
    rw [List.getLast_append_of_ne_nil _ some] at breaks
    rcases Bool.or_eq_true_iff.1 breaks with eq | eq
    · rw [of_decide_eq_true eq] at solid
      exact absurd solid (by decide)
    · rw [of_decide_eq_true eq] at solid
      exact absurd solid (by decide)
  refine ⟨lines, lastLine front, back, by rw [← split], by rw [← split], ?_⟩
  refine ⟨starts, newline_not_mem_lastLine front, ?_, ?_, rfl, ?_⟩
  · rw [← split]
    exact congrArg Position.line position
  · exact congrArg Position.column position
  · show (String.ofList _).toList = _
    rw [shown, String.toList_ofList]

/-- The line of a string that goes over two lines, after an accented letter and a carriage return:
the snippet goes on over the newline within the string. -/
theorem snippet_fits_string :
    let text := "é\r\n é 'a\r\nb' x".toList
    let place : Span := ⟨8, 14⟩
    let t : Token := ⟨.string, "'a\r\nb'"⟩
    let e := SyntaxError.of (.token .word) "" text place t
    (place, t) ∈ placed text ∧ e.line = 2 ∧ e.column = 4 ∧ e.context = " é 'a\r\nb'" ∧
      ∃ lines line back, text = lines ++ line ++ (t.text.toList ++ back) ∧
        place = ⟨utf8Length (lines ++ line), utf8Length (lines ++ line ++ t.text.toList)⟩ ∧
        e.FitsAt lines line t.text.toList := by
  intro text place t e
  have here : (place, t) ∈ placed text := by decide +kernel
  refine ⟨here, by decide +kernel, by decide +kernel, by decide +kernel, ?_⟩
  exact snippet_fits here (by decide) (.token .word) ""

end IdlCatalog
