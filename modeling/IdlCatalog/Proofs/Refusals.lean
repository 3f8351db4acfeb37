/-
# IdlCatalog.Proofs.Refusals — a syntax error tells the truth

A description that is not met by the grammar is refused with an error that says where it stands and
what was expected there. The error carries the name of the library; its line, column, text and
category are those of one token of the stream; and that token is not what was expected, whatever
the expectation is. Within the grammar a fault has grounds wherever it arises; here its place is
translated to lines and columns.
-/
import IdlCatalog.Proofs.Influence
import IdlCatalog.Proofs.Lexing

namespace IdlCatalog

open Grammar Catalog Lexer

/-! ## Places of tokens

The place of the token with a given number is its span in the text. -/

theorem Lexer.length_spansFrom (offset : Nat) (lexemes : List Lexeme) :
    (spansFrom offset lexemes).length = lexemes.length := by
  induction lexemes generalizing offset with
  | nil => rfl
  | cons l lexemes ih => rw [spansFrom, List.length_cons, List.length_cons, ih]

/-- A token of a stream is placed where it is located. -/
theorem Lexer.placed_locate {text : List Char} {k : Nat} {t : Token}
    (found : (tokens text)[k]? = some t) :
    (placed text)[k]? = some ((locate text k).1, t) := by
  obtain ⟨inside, -⟩ := List.getElem?_eq_some_iff.1 found
  have inside' : k < (spansFrom 0 (scan text)).length := by
    rw [length_spansFrom]
    simpa [tokens] using inside
  refine List.getElem?_zip_eq_some.2 ⟨?_, found⟩
  rw [locate, List.getElem?_eq_getElem inside']
  rfl

/-! ## Syntax errors

An error is made from a fault and the span of its token, so what holds of the fault holds of the
error. -/

/-- An error at a token of a stream has the line and the column of the token. -/
theorem SyntaxError.ofFault_place (library : String) {text : List Char} {fault : Fault}
    (found : (tokens text)[fault.index]? = some fault.found) :
    ∃ front back, text = front ++ (fault.found.text.toList ++ back) ∧
      (placed text)[fault.index]? =
        some (⟨utf8Length front, utf8Length (front ++ fault.found.text.toList)⟩, fault.found) ∧
      (ofFault library text fault).line = front.count '\n' + 1 ∧
      (ofFault library text fault).column = (lastLine front).length + 1 := by
  have here := placed_locate found
  obtain ⟨-, stands, -⟩ := placed_tiles text
  obtain ⟨front, back, split, place⟩ := stands _ (List.mem_of_getElem? here)
  have position : Position.of text (locate text fault.index).1.start =
      ⟨front.count '\n' + 1, (lastLine front).length + 1⟩ := by
    rw [place, split]
    exact Position.of_append _ _
  refine ⟨front, back, split, place ▸ here, ?_, ?_⟩
  · exact congrArg Position.line position
  · exact congrArg Position.column position

/-- Syntax errors tell the truth. In whatever catalog and for whatever library a text is read, an
error names the library. It shows a token of the stream with its text and category; the token stands
on its line after that many newlines, and at its column after that many characters of the line. And
the token is not what was expected. -/
theorem refusal_tells_truth (c : Catalog) (l : LibraryId) (source : String) (e : SyntaxError)
    (refused : (c.ingest l source).outcome = .error (.malformed e)) :
    e.library = (c.library l).name ∧
      (∃ (k : Nat) (front back : List Char), source.toList = front ++ (e.token.toList ++ back) ∧
        (placed source.toList)[k]? =
          some (⟨utf8Length front, utf8Length (front ++ e.token.toList)⟩, ⟨e.actual, e.token⟩) ∧
        e.line = front.count '\n' + 1 ∧ e.column = (lastLine front).length + 1) ∧
      e.expectation.Unmet ⟨e.actual, e.token⟩ := by
  obtain ⟨fault, t, run, -, rfl⟩ := ingest_refused refused
  obtain ⟨grounds, names⟩ := description_grounds run
  have found := grounds.getElem? (start_hasEnd source.toList c)
  obtain ⟨front, back, place⟩ := SyntaxError.ofFault_place (t.catalog.library l).name found
  exact ⟨names l, ⟨fault.index, front, back, place⟩, grounds.unmet⟩

/-- A second name after the type of a parameter is refused where it stands, on the second line. A
comment before it moves it by as many columns as it has characters. -/
theorem refusal_tells_truth_separator :
    let c := initial.addLibrary "x" false .silent
    let source := "interface A \x7b\n  void f(long /* é */ a b);\x7d;"
    let shown : SyntaxError := ⟨.phrase "`,` or `)`", "x", 2, 25, "b", .word,
      "  void f(long /* é */ a b"⟩
    (c.2.ingest c.1 source).outcome = .error (.malformed shown) ∧
      shown.library = (c.2.library c.1).name ∧
      (∃ (k : Nat) (front back : List Char),
        source.toList = front ++ (shown.token.toList ++ back) ∧
        (placed source.toList)[k]? =
          some (⟨utf8Length front, utf8Length (front ++ shown.token.toList)⟩,
            ⟨shown.actual, shown.token⟩) ∧
        shown.line = front.count '\n' + 1 ∧ shown.column = (lastLine front).length + 1) ∧
      shown.expectation.Unmet ⟨shown.actual, shown.token⟩ := by
  intro c source shown
  have refused : (c.2.ingest c.1 source).outcome = .error (.malformed shown) := by decide +kernel
  exact ⟨refused, refusal_tells_truth c.2 c.1 source shown refused⟩

end IdlCatalog
