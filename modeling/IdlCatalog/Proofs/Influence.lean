/-
# IdlCatalog.Proofs.Influence — only the tokens that are read have an influence

What ingesting a description comes to is decided by its tokens: blanks, comments and the places of
tokens do not matter, apart from the place that an error is given. If the description is refused at
one of its tokens, the tokens after that one do not matter either, and every description that has
the same tokens up to there is refused at the same one, for the same reason and with the same
catalog left behind.

The two readings are taken to a fork right after the offending token.
-/
import IdlCatalog.Proofs.Composition
import IdlCatalog.Proofs.Grammar.Forks

namespace IdlCatalog

open Grammar Catalog Lexer

/-! ## Refused descriptions

A description fails at a token that its reading has come to. Two streams with a common front that
has this token in it are read alike up to there, and the same token is refused in both. -/

/-- A description is its declarations and the end of the input after them. -/
theorem description_apply (l : LibraryId) (s : ReadState) :
    description l s =
      match declarations l s with
      | (.ok _, u) =>
        if u.peek.category = .eof then (.ok (), u.advance)
        else Parser.expected (.token .eof) l u
      | (.error e, u) => (.error e, u) := by
  rw [description, Parser.bind_apply]
  generalize declarations l s = run
  obtain ⟨_ | _, u⟩ := run
  · rfl
  · dsimp only
    rw [Parser.bind_apply, Parser.require]
    by_cases ends : u.peek.category = .eof
    · rw [if_pos ends, if_pos ends]
      rfl
    · rw [if_neg ends, if_neg ends]
      rfl

/-- Where a description is refused at a token: in a declaration, or right after the last one. -/
theorem description_refused {l : LibraryId} {s t : ReadState} {fault : Fault}
    (run : description l s = (.error (.malformed fault), t)) :
    declarations l s = (.error (.malformed fault), t) ∨
      declarations l s = (.ok (), t) ∧ t.peek.category ≠ .eof ∧
        fault = ⟨.token .eof, t.position, t.peek⟩ := by
  rw [description_apply] at run
  generalize declarations l s = inner at run
  obtain ⟨x | _, u⟩ := inner
  · exact .inl run
  · dsimp only at run
    split at run
    · cases run
    · next other =>
      cases run
      exact .inr ⟨rfl, other, rfl⟩

/-- What reading declarations comes to. -/
theorem declarations_onward (l : LibraryId) (s : ReadState) : s.Onward (declarations l s) :=
  Parser.onward_of_related (fun _ => .declarations) l s s.stands_false

/-- A description is refused at a token of its stream, for a reason. -/
theorem description_grounds {l : LibraryId} {s t : ReadState} {fault : Fault}
    (run : description l s = (.error (.malformed fault), t)) :
    s.Grounds fault ∧ s.catalog.SameNames t.catalog := by
  have onward := declarations_onward l s
  rcases description_refused run with inside | ⟨inside, other, rfl⟩
  · rw [inside] at onward
    exact ⟨onward.grounds rfl, onward.leads.names⟩
  · rw [inside] at onward
    exact ⟨onward.leads.grounds (.here t (.token other)), onward.leads.names⟩

/-- Before a fork, a description is refused in both streams or in neither. -/
theorem Fork.Rel.refused {K : Fork} {l : LibraryId} {s s' t : ReadState} {fault : Fault}
    (rel : K.Rel s s') (run : description l s = (.error (.malformed fault), t))
    (before : fault.index < K.stop) :
    ∃ t', description l s' = (.error (.malformed fault), t') ∧ t'.catalog = t.catalog := by
  have joint := (Parser.Congruence.Rel.declarations (R := K.congruence)).joint l s s' nofun rel
  rw [description_apply l s']
  rcases description_refused run with inside | ⟨inside, other, rfl⟩
  · rw [inside] at joint
    generalize declarations l s' = r' at joint
    cases joint with
    | error catalog => exact ⟨_, rfl, catalog.symm⟩
    | past past => exact absurd before (Nat.not_lt.2 (past.index rfl))
  · rw [inside] at joint
    generalize declarations l s' = r' at joint
    cases joint with
    | @ok _ _ t' rel =>
      obtain ⟨same, -⟩ | far := rel.next
      · refine ⟨t', ?_, rel.catalog.symm⟩
        dsimp only
        rw [if_neg (same ▸ other), rel.position, same]
        rfl
      · exact absurd before (Nat.not_lt.2 far)
    | past past => exact absurd before (Nat.not_lt.2 past.position)

/-! ## Texts

From streams to texts: the front that two texts have in common is given by their tokens. -/

/-- Every stream ends. -/
theorem start_hasEnd (text : List Char) (c : Catalog) :
    (ReadState.start (tokens text) c).HasEnd := by
  obtain ⟨front, last, split, ends, -⟩ := tokens_eof_last text
  refine ⟨last, ?_, ends⟩
  show last ∈ tokens text
  rw [split]
  exact List.mem_concat_self

/-- The token at which a stream is refused. -/
theorem ReadState.Grounds.getElem? {stream : List Token} {c : Catalog} {fault : Fault}
    (grounds : (ReadState.start stream c).Grounds fault)
    (hasEnd : (ReadState.start stream c).HasEnd) : stream[fault.index]? = some fault.found := by
  have inside : fault.index < stream.length := by
    simpa [ReadState.start] using grounds.inside hasEnd
  have found := grounds.shown.found
  simp only [ReadState.start, Nat.sub_zero, List.head?_drop] at found
  rw [found, List.getElem?_eq_getElem inside]
  rfl

/-- Two streams with the same first tokens. -/
theorem Fork.Rel.start {stream stream' : List Token} {count : Nat}
    (same : stream'.take count = stream.take count) (long : count ≤ stream.length) (c : Catalog) :
    Fork.Rel ⟨stream.drop count, stream'.drop count, count⟩ (ReadState.start stream c)
      (ReadState.start stream' c) := by
  refine ⟨rfl, rfl, stream.take count, ?_, ?_, ?_⟩
  · exact (List.take_append_drop count stream).symm
  · rw [← same]
    exact (List.take_append_drop count stream').symm
  · rw [List.length_take_of_le long]
    exact Nat.zero_add count

/-- A description that is refused at a token. -/
theorem ingest_refused {c : Catalog} {l : LibraryId} {source : String} {e : SyntaxError}
    (refused : (c.ingest l source).outcome = .error (.malformed e)) :
    ∃ fault t, description l (ReadState.start (tokens source.toList) c) =
        (.error (.malformed fault), t) ∧ (c.ingest l source).catalog = t.catalog ∧
      e = SyntaxError.ofFault (t.catalog.library l).name source.toList fault := by
  rw [ingest_eq] at refused ⊢
  generalize description l (ReadState.start (tokens source.toList) c) = run at refused ⊢
  obtain ⟨answer, t⟩ := run
  cases answer with
  | ok => cases refused
  | error x =>
    cases x with
    | malformed fault =>
      obtain rfl := Failure.malformed.inj (Except.error.inj refused)
      exact ⟨fault, t, rfl, rfl, rfl⟩
    | duplicate | stalled => cases refused

/-- Descriptions with the same tokens come to the same catalog, and to the same result up to the
place of an error. -/
theorem ingest_of_tokens (c : Catalog) (l : LibraryId) {source source' : String}
    (same : tokens source'.toList = tokens source.toList) :
    (c.ingest l source').catalog = (c.ingest l source).catalog ∧
      unplaced (c.ingest l source').outcome = unplaced (c.ingest l source).outcome := by
  have joint := Parser.Local.description.joint l _ _
    (Tails.none_rel (s := ReadState.start (tokens source'.toList) c) same rfl)
  have alike := joint.alike Tails.none_same l source'.toList source.toList
  simp only [ingest_eq]
  exact alike

/-- A description that is refused at a token of number `k`. Every other one with the same tokens up
to there is refused at the same token. -/
theorem ingest_of_take (c : Catalog) (l : LibraryId) {source : String} {e : SyntaxError}
    (refused : (c.ingest l source).outcome = .error (.malformed e)) :
    ∃ k t, (tokens source.toList)[k]? = some t ∧
      e = SyntaxError.ofFault ((c.ingest l source).catalog.library l).name source.toList
        ⟨e.expectation, k, t⟩ ∧
      ∀ source' : String,
        (tokens source'.toList).take (k + 1) = (tokens source.toList).take (k + 1) →
        ∃ e', (c.ingest l source').outcome = .error (.malformed e') ∧
          e'.unplaced = e.unplaced ∧
          (c.ingest l source').catalog = (c.ingest l source).catalog := by
  obtain ⟨fault, t, run, catalog, rfl⟩ := ingest_refused refused
  have grounds := (description_grounds run).1
  have inside : fault.index < (tokens source.toList).length := by
    simpa [ReadState.start] using grounds.inside (start_hasEnd source.toList c)
  have found : (tokens source.toList)[fault.index]? = some fault.found :=
    grounds.getElem? (start_hasEnd source.toList c)
  refine ⟨fault.index, fault.found, found, by rw [catalog]; rfl, fun source' same => ?_⟩
  obtain ⟨t', run', catalog'⟩ :=
    (Fork.Rel.start same inside c).refused run (Nat.lt_succ_self _)
  rw [ingest_eq c l source', run', catalog]
  exact ⟨_, rfl, by rw [catalog']; rfl, catalog'⟩

/-! ## Descriptions

The first part is about texts with the same tokens, the second about those that have the same ones
up to the refused one. -/

/-- Only the tokens that are read have an influence. In whatever catalog and for whatever library a
description is read, its tokens decide what it comes to, up to the place of an error; and if it is
refused at a token, then already the tokens up to that one do. -/
theorem ingest_reads (c : Catalog) (l : LibraryId) (source : String) :
    (∀ source' : String, tokens source'.toList = tokens source.toList →
      (c.ingest l source').catalog = (c.ingest l source).catalog ∧
        unplaced (c.ingest l source').outcome = unplaced (c.ingest l source).outcome) ∧
      ∀ e, (c.ingest l source).outcome = .error (.malformed e) →
        ∃ k t, (tokens source.toList)[k]? = some t ∧
          e = SyntaxError.ofFault ((c.ingest l source).catalog.library l).name source.toList
            ⟨e.expectation, k, t⟩ ∧
          ∀ source' : String,
            (tokens source'.toList).take (k + 1) = (tokens source.toList).take (k + 1) →
            ∃ e', (c.ingest l source').outcome = .error (.malformed e') ∧
              e'.unplaced = e.unplaced ∧
              (c.ingest l source').catalog = (c.ingest l source).catalog :=
  ⟨fun _ same => ingest_of_tokens c l same, fun _ refused => ingest_of_take c l refused⟩

/-- An attribute without a name is refused at the brace after its type. A comment does not matter,
and neither does what follows the brace. -/
theorem ingest_reads_refused :
    let c := initial.addLibrary "x" false .silent
    let source := "interface A { attribute long };"
    let commented := "interface A \x7b // no name\n attribute long \x7d;"
    let shown : SyntaxError := ⟨.token .word, "x", 1, 30, "\x7d", .braceClose,
      "interface A \x7b attribute long \x7d"⟩
    (c.2.ingest c.1 source).outcome = .error (.malformed shown) ∧
      (c.2.ingest c.1 commented).outcome ≠ (c.2.ingest c.1 source).outcome ∧
      unplaced (c.2.ingest c.1 commented).outcome = unplaced (c.2.ingest c.1 source).outcome ∧
      ∃ k t, (tokens source.toList)[k]? = some t ∧
        shown = SyntaxError.ofFault ((c.2.ingest c.1 source).catalog.library c.1).name
          source.toList ⟨shown.expectation, k, t⟩ ∧
        ∀ source' : String,
          (tokens source'.toList).take (k + 1) = (tokens source.toList).take (k + 1) →
          ∃ e', (c.2.ingest c.1 source').outcome = .error (.malformed e') ∧
            e'.unplaced = shown.unplaced ∧
            (c.2.ingest c.1 source').catalog = (c.2.ingest c.1 source).catalog := by
  intro c source commented shown
  have facts : (c.2.ingest c.1 source).outcome = .error (.malformed shown) ∧
      (c.2.ingest c.1 commented).outcome ≠ (c.2.ingest c.1 source).outcome ∧
      tokens commented.toList = tokens source.toList := by
    decide +kernel
  have reads := ingest_reads c.2 c.1 source
  exact ⟨facts.1, facts.2.1, (reads.1 commented facts.2.2).2, reads.2 shown facts.1⟩

end IdlCatalog
