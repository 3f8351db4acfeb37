/-
# IdlCatalog.Proofs.Coverage — no part of an accepted description is lost

If a description is accepted, its text is the tokens that its declarations read, with blanks and
comments before each of them and after the last. One thing may follow: a string that is never
closed. It is the end of the input by definition, from its quote to the end of the text.
-/
import IdlCatalog.Proofs.Grammar.Replaying

namespace IdlCatalog

open Grammar Catalog Lexer

/-! ## Covered texts

A text is covered if nothing is left of it between the gaps and the tokens but what ends the input.
-/

/-- The text consists of the tokens among `read`, ends of input apart, each after a gap, then of a
last gap, then of `rest`. -/
def Lexer.Covers (text : List Char) (read : List Token) (rest : List Char) : Prop :=
  ∃ (front : List Lexeme) (gap : List Char),
    read.filter (·.category ≠ .eof) = front.map (·.token) ∧ (∀ x ∈ front, IsGap False x.gap) ∧
      IsGap (rest = []) gap ∧ text = front.flatMap Lexeme.text ++ gap ++ rest

/-- Reading on to an end of input reads all other tokens. -/
theorem filter_take_of_eof {front : List Token} {last : Token} {count : Nat}
    (goesOn : ∀ t ∈ front, t.category ≠ .eof) (ends : last.category = .eof)
    (eof : (((front ++ [last]).drop count).head?.getD Token.endOfInput).category = .eof) :
    ((front ++ [last]).take count).filter (·.category ≠ .eof) = front := by
  have enough : front.length ≤ count := by
    -- fewer tokens would leave one of `front` to be read next
    by_contra few
    have inside : count < front.length := Nat.lt_of_not_le few
    have head : (((front ++ [last]).drop count).head?.getD Token.endOfInput) = front[count] := by
      rw [List.head?_drop, List.getElem?_append_left inside, List.getElem?_eq_getElem inside]
      rfl
    rw [head] at eof
    exact goesOn _ (List.getElem_mem inside) eof
  have kept : front.filter (·.category ≠ .eof) = front := by
    rw [List.filter_eq_self]
    exact fun t inside => by simpa using goesOn t inside
  have dropped : ([last].take (count - front.length)).filter (·.category ≠ .eof) = [] := by
    rw [List.filter_eq_nil_iff]
    intro t inside
    have equal : t = last := List.mem_singleton.1 (List.mem_of_mem_take inside)
    simp [equal, ends]
  rw [List.take_append, List.take_of_length_le enough, List.filter_append, kept, dropped,
    List.append_nil]

/-- What was read up to the end of a stream covers the text. -/
theorem covers_of_shape {text : List Char} {front : List Lexeme} {gap rest : List Char}
    {count : Nat} (shape : Shape (scan text) front gap rest)
    (eof : (((tokens text).drop count).head?.getD Token.endOfInput).category = .eof) :
    Covers text ((tokens text).take count) rest := by
  refine ⟨front, gap, ?_, fun x inside => (shape.front x inside).2, shape.gap, shape.text⟩
  rw [shape.tokens_eq] at eof ⊢
  exact filter_take_of_eof shape.not_eof rfl eof

/-! ## Accepted descriptions

An accepted description has read all tokens of its stream. That these tile the text is shown with
the scanner. -/

theorem ingest_accepts {c : Catalog} {l : LibraryId} {source : String}
    (accepted : (c.ingest l source).outcome = .ok ()) :
    ∃ t, description l (ReadState.start (tokens source.toList) c) = (.ok (), t) := by
  rw [ingest_eq] at accepted
  generalize description l (ReadState.start (tokens source.toList) c) = run at accepted
  obtain ⟨answer, t⟩ := run
  cases answer with
  | ok => exact ⟨t, rfl⟩
  | error => cases accepted

/-- The text of an accepted description is accounted for. In whatever catalog it was read and for
whatever library, its declarations read every token but the end of the input; the tokens that they
read, blanks and comments make up the text, apart from a string at the end that is never closed. -/
theorem accepted_covers (c : Catalog) (l : LibraryId) (source : String)
    (accepted : (c.ingest l source).outcome = .ok ()) :
    ∃ s rest, declarations l (ReadState.start (tokens source.toList) c) = (.ok (), s) ∧
      Covers source.toList ((tokens source.toList).take s.position) rest ∧
      (rest = [] ∨ IsOpenString rest) := by
  obtain ⟨t, run⟩ := ingest_accepts accepted
  obtain ⟨s, declared, eof, -⟩ := description_accepts run
  obtain ⟨count, after⟩ := declarations_after declared
  obtain ⟨front, gap, rest, shape⟩ := scan_shape source.toList
  refine ⟨s, rest, declared, ?_, shape.rest⟩
  have position : s.position = count := after.position.trans (Nat.zero_add count)
  rw [ReadState.peek, after.rest] at eof
  rw [position]
  exact covers_of_shape shape eof

/-- An interface after a comment is read whole. -/
theorem accepted_covers_interface :
    let c := initial.addLibrary "x" false .silent
    let source := "// note\ninterface A { attribute long x; };"
    (c.2.ingest c.1 source).outcome = .ok () ∧
      ∃ s rest, declarations c.1 (ReadState.start (tokens source.toList) c.2) = (.ok (), s) ∧
        Covers source.toList ((tokens source.toList).take s.position) rest ∧
        (rest = [] ∨ IsOpenString rest) := by
  have accepted : ((initial.addLibrary "x" false .silent).2.ingest
      (initial.addLibrary "x" false .silent).1
      "// note\ninterface A { attribute long x; };").outcome = .ok () := by
    decide +kernel
  exact ⟨accepted, accepted_covers _ _ _ accepted⟩

/-- After an opening quote that is never closed, a whole interface is no part of what is read. -/
theorem not_covers_openString :
    let c := initial.addLibrary "x" false .silent
    let source := "'interface A { };"
    (c.2.ingest c.1 source).outcome = .ok () ∧
      ¬∃ s, declarations c.1 (ReadState.start (tokens source.toList) c.2) = (.ok (), s) ∧
        Covers source.toList ((tokens source.toList).take s.position) [] := by
  refine ⟨by decide +kernel, ?_⟩
  rintro ⟨s, -, front, gap, read, -, isGap, text⟩
  have none : ∀ count, ((tokens "'interface A { };".toList).take count).filter
      (·.category ≠ .eof) = [] := by
    have stream : (tokens "'interface A { };".toList).filter (·.category ≠ .eof) = [] := by
      decide +kernel
    intro count
    rw [List.filter_eq_nil_iff] at stream ⊢
    exact fun t inside => stream t (List.mem_of_mem_take inside)
  rw [none] at read
  obtain rfl := List.map_eq_nil_iff.1 read.symm
  have quote : gap.head? = some '\'' := by
    rw [List.flatMap_nil, List.nil_append, List.append_nil] at text
    rw [← text]
    decide +kernel
  cases isGap with
  | nil => cases quote
  | blank blank => exact absurd (Option.some.inj quote ▸ blank) (by decide)
  -- every comment starts with another mark
  | line starts | openLine _ starts => rcases starts with rfl | rfl <;> simp at quote
  | block | openBlock => simp at quote

end IdlCatalog
