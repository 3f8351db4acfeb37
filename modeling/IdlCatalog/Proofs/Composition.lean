/-
# IdlCatalog.Proofs.Composition — one description after the other

Descriptions are put together by writing them one below the other. If the first one is accepted,
ingesting the whole comes to the same catalog as ingesting the parts in turn, and the whole is
refused where the second part is, for the same reason. Two things are in the way: an open string or
comment at the end of the first part, and a semicolon at the head of the second one, which could
belong to an interface before it.

The first part leaves nothing behind but the catalog. This is seen at the loop over declarations:
each declaration ends with a token of its own, so the loop over the whole comes to the place where
the first part ends, and goes on from there like a loop of its own.

## Two streams with a common front

The stream of the first description ends with the end of the input; the stream of both goes on with
the tokens of the second. `Tails` relates two readings whose streams have a front in common and go
on in these two ways. As long as a production looks at the front only, the two readings do the same.
A production may look at the token behind the front, though, to find out that a list or a name is
over; there the two streams differ, and what is needed is that both tokens are refused alike. A
semicolon is the only token for which that is not so, which is why the second description must not
start with one.
-/
import IdlCatalog.Proofs.Coverage
import IdlCatalog.Proofs.Grammar.Tails
import IdlCatalog.Proofs.Token.Joining

namespace IdlCatalog

open Grammar Catalog Lexer

/-! ## The loop over declarations

The loop may be unrolled: there is nothing left, or one declaration is read and then the others are.
The number of tokens that a module within may read does not matter, since a declaration takes
tokens. -/

namespace Parser

variable {α β : Type} {l : LibraryId} {s t : ReadState}

/-- What follows a parser matters only where it comes to. -/
theorem bind_congr {p : Parser α} {f g : α → Parser β}
    (h : ∀ a t, p l s = (.ok a, t) → f a l t = g a l t) : (p >>= f) l s = (p >>= g) l s := by
  rw [bind_apply, bind_apply]
  cases run : p l s with
  | mk answer t =>
    cases answer with
    | ok a => exact h a t run
    | error => rfl

theorem choice_congr {c : Prop} [Decidable c] {p p' q q' : Parser α} (yes : p l s = p' l s)
    (no : q l s = q' l s) : (if c then p else q) l s = (if c then p' else q') l s := by
  split
  · exact yes
  · exact no

theorem require_fewer {category : Category} {a : Token} (other : category ≠ .eof)
    (run : require category l s = (.ok a, t)) : t.left < s.left := by
  rw [require] at run
  split at run
  · next here =>
    cases run
    have inside := ReadState.rest_ne_nil_of_category (s := s) (here ▸ other)
    have fewer := (ReadState.advance_after inside).left
    omega
  · cases run

theorem identifier_fewer {name : String} (run : identifier l s = (.ok name, t)) :
    t.left < s.left := by
  rw [identifier, bind_apply] at run
  split at run
  · next a u required =>
    cases run
    exact require_fewer (by decide) required
  · cases run

theorem requireKeyword_fewer {keyword : String} {a : Unit}
    (run : requireKeyword keyword l s = (.ok a, t)) : t.left < s.left := by
  rw [requireKeyword] at run
  split at run
  · next here =>
    cases run
    have fewer := (ReadState.advance_after (ReadState.rest_ne_nil_of_keyword here)).left
    omega
  · cases run

end Parser

namespace Grammar

open IdlCatalog.Parser

/-- Whether no declaration can start here. -/
def AtLast (s : ReadState) : Prop := s.peek.category = .eof ∨ s.peek.category = .braceClose

instance (s : ReadState) : Decidable (AtLast s) := inferInstanceAs (Decidable (_ ∨ _))

/-- A declaration reads a token before it reads declarations within. -/
theorem declarationWith_congr {body₁ body₂ : Parser Unit} {l : LibraryId} {s : ReadState}
    (h : ∀ t, t.left < s.left → body₁ l t = body₂ l t) :
    declarationWith body₁ l s = declarationWith body₂ l s := by
  have inModule : moduleWith body₁ l s = moduleWith body₂ l s := by
    refine bind_congr fun _ t word => bind_congr fun _ u name => bind_congr fun _ v brace => ?_
    have fewer : v.left < s.left := calc
      v.left < u.left := require_fewer (by decide) brace
      _ < t.left := identifier_fewer name
      _ < s.left := requireKeyword_fewer word
    rw [bind_apply, bind_apply, h v fewer]
  refine bind_congr fun t _ here => ?_
  cases here
  exact choice_congr rfl (choice_congr rfl (choice_congr rfl (choice_congr inModule rfl)))

theorem declarationRound_bind_apply (self again : Parser Unit) (l : LibraryId) (s : ReadState) :
    (declarationRound self >>= fun more => if more then again else pure ()) l s =
      if AtLast s then (.ok (), s) else (declarationWith self >>= fun _ => again) l s := by
  rw [bind_apply, declarationRound, bind_apply]
  dsimp only [peekCategory]
  by_cases last : AtLast s
  · rw [if_pos last, if_pos (by simpa [AtLast] using last)]
    rfl
  · rw [if_neg last, if_neg (by simpa [AtLast] using last), bind_apply, bind_apply]
    cases declarationWith self l s with
    | mk answer t => cases answer <;> rfl

/-- The loop over declarations where few enough tokens are left that it does not matter how many
the modules within may read. -/
theorem loop_apply {limit : Nat} {l : LibraryId} {s : ReadState} (le : s.left ≤ limit) :
    repeatWhile (declarationRound (below limit declarations)) l s =
      if AtLast s then (.ok (), s)
      else (declarationWith declarations >>= fun _ => below s.left declarations) l s := by
  induction hn : s.left using Nat.strongRecOn generalizing limit s with
  | _ n ih =>
    have inner : declarationWith (below limit declarations) l s =
        declarationWith declarations l s :=
      declarationWith_congr fun t fewer => if_pos (Nat.lt_of_lt_of_le fewer le)
    have again (t : ReadState) :
        below s.left (repeatWhile (declarationRound (below limit declarations))) l t =
          below n declarations l t := by
      rw [hn, below, below]
      by_cases fewer : t.left < n
      · have le' : t.left ≤ limit := Nat.le_trans (Nat.le_of_lt fewer) (hn ▸ le)
        rw [if_pos fewer, if_pos fewer, ih t.left fewer le' rfl, declarations, fix_apply]
        exact (ih t.left fewer (Nat.le_refl _) rfl).symm
      · rw [if_neg fewer, if_neg fewer]
    rw [repeatWhile, fix_apply, declarationRound_bind_apply]
    by_cases last : AtLast s
    · rw [if_pos last, if_pos last]
    · rw [if_neg last, if_neg last, bind_apply, bind_apply, inner]
      cases declarationWith declarations l s with
      | mk answer t =>
        cases answer with
        | error => rfl
        | ok => exact again t

/-- Declarations up to the end: there is none left, or one is read and then the others are. -/
theorem declarations_apply (l : LibraryId) (s : ReadState) :
    declarations l s =
      if AtLast s then (.ok (), s)
      else (declarationWith declarations >>= fun _ => below s.left declarations) l s := by
  conv_lhs => rw [declarations, fix_apply]
  exact loop_apply (Nat.le_refl _)

end Grammar

/-! ## Reading on

Where the first description is over, the reading of both stands at the start of the second one. -/

/-- Where the declarations before the tail of one stream end, the declarations of a stream with
another tail go on. -/
theorem Tails.declarations_join {K : Tails} {l : LibraryId} {s s' u : ReadState}
    (rel : K.Rel s s') (run : declarations l s = (.ok (), u)) :
    ∃ u', K.Rel u u' ∧ declarations l s' = declarations l u' := by
  -- on the number of tokens left, one declaration after the other
  induction hn : s.left using Nat.strongRecOn generalizing s s' with
  | _ n ih =>
    rw [declarations_apply] at run
    split at run
    · cases run
      exact ⟨s', rel, rfl⟩
    next other =>
    obtain ⟨same, -⟩ | ⟨-, atEnd⟩ := rel.next
    · have other' : ¬AtLast s' := by rwa [AtLast, ← same]
      rw [declarations_apply l s', if_neg other']
      -- one declaration goes the same way in both streams
      have first := (Parser.Local.declarationWith .declarations).joint l s s' rel
      rw [Parser.bind_apply] at run ⊢
      generalize declarationWith declarations l s = r at first run
      generalize declarationWith declarations l s' = r' at first
      cases first with
      | error | failed => cases run
      | missed _ looking => cases looking
      | @ok _ t t' rel' =>
        dsimp only at run
        rw [Parser.below] at run
        split at run
        · next fewer =>
          have fewer' : t'.left < s'.left := by
            rw [rel.left]
            exact rel'.left_lt_iff.1 fewer
          obtain ⟨u', joined, eq⟩ := ih t.left (hn ▸ fewer) rel' run rfl
          exact ⟨u', joined, (if_pos fewer').trans eq⟩
        · cases run
    · exact absurd (.inl atEnd.peek) other

/-! ## Errors apart from their places

The same fault has another place in the longer text. What is compared is the error without place and
snippet. -/

/-- The error without its place and without the snippet that shows it. -/
def SyntaxError.unplaced (e : SyntaxError) : SyntaxError :=
  { e with line := 0, column := 0, context := "" }

/-- What an outcome says apart from places. -/
def unplaced {α : Type} (outcome : Except (Failure SyntaxError) α) :
    Except (Failure SyntaxError) α :=
  outcome.mapError (·.map SyntaxError.unplaced)

/-- Where a failure is located does not matter apart from places. -/
theorem Catalog.unplaced_locateFailure {e e' : Failure Fault} (what : e.what = e'.what)
    (c : Catalog) (l : LibraryId) (text text' : List Char) :
    (c.locateFailure l text e).map SyntaxError.unplaced =
      (c.locateFailure l text' e').map SyntaxError.unplaced := by
  cases e with
  | malformed fault =>
    cases e' with
    | malformed fault' =>
      obtain ⟨expectation, found⟩ := Prod.mk.inj (Failure.malformed.inj what)
      simp [Catalog.locateFailure, Failure.map, SyntaxError.ofFault, SyntaxError.of,
        SyntaxError.unplaced, expectation, found]
    | duplicate | stalled => cases what
  | duplicate error =>
    cases e' with
    | duplicate error' =>
      cases what
      rfl
    | malformed | stalled => cases what
  | stalled =>
    cases e' with
    | stalled => rfl
    | malformed | duplicate => cases what

/-- The streams are the same from here on. -/
def Tails.none : Tails := ⟨[], [], nofun, by decide⟩

theorem Tails.none_same : Tails.none.Same := ⟨rfl, rfl⟩

theorem Tails.Rel.start {K : Tails} (front : List Token) (c : Catalog) :
    K.Rel (ReadState.start (front ++ K.first) c) (ReadState.start (front ++ K.second) c) :=
  ⟨rfl, front, rfl, rfl⟩

theorem Tails.none_rel {s : ReadState} {tokens : List Token} {c : Catalog} (rest : s.rest = tokens)
    (catalog : s.catalog = c) : Tails.none.Rel s (ReadState.start tokens c) :=
  ⟨catalog, tokens, by rw [rest]; exact (List.append_nil _).symm, (List.append_nil _).symm⟩

/-- Readings that go the same way to their end come to the same, wherever their tokens stand. -/
theorem Tails.Joint.alike {K : Tails} {α : Type} {e : Ending}
    {r r' : Except (Failure Fault) α × ReadState} (joint : K.Joint e r r') (same : K.Same)
    (l : LibraryId) (text text' : List Char) :
    r.2.catalog = r'.2.catalog ∧
      unplaced (r.1.mapError (r.2.catalog.locateFailure l text)) =
        unplaced (r'.1.mapError (r'.2.catalog.locateFailure l text')) := by
  cases joint with
  | ok rel => exact ⟨rel.catalog, rfl⟩
  | error _ what catalog =>
    dsimp only
    rw [catalog]
    exact ⟨rfl, congrArg Except.error (Catalog.unplaced_locateFailure what _ _ _ _)⟩
  | failed apart | missed apart => exact absurd same apart

/-! ## Joined descriptions

The tokens of the whole are those of the two in turn, without the end of the input in between; that
the newline separates them is shown with the tokens. -/

/-- Where an accepted description ends, all tokens before the end of the input were read. -/
theorem all_read {front front' : List Token} {last : Token} {count : Nat}
    (goesOn : ∀ t ∈ front, t.category ≠ .eof)
    (rest : front' ++ [last] = (front ++ [last]).drop count)
    (eof : ((front' ++ [last]).head?.getD Token.endOfInput).category = .eof) : front' = [] := by
  cases front' with
  | nil => rfl
  | cons t front' =>
    -- not all of the front can be behind, with a token of it still there
    have few : count ≤ front.length := by
      have lengths := congrArg List.length rest
      simp only [List.length_append, List.length_cons, List.length_nil, List.length_drop]
        at lengths
      omega
    rw [List.drop_append_of_le_length few] at rest
    have inside : t ∈ front.drop count := by
      rw [← List.append_cancel_right rest]
      exact List.mem_cons_self
    exact absurd eof (goesOn t (List.mem_of_mem_drop inside))

/-- An accepted description, another one below it, is read up to a state that has the tokens of the
other one left and the catalog of the first one. -/
theorem description_join {c : Catalog} {l : LibraryId} {first second : String}
    (accepted : (c.ingest l first).outcome = .ok ()) (complete : Complete first.toList)
    (other : ((tokens second.toList).head?.getD Token.endOfInput).category ≠ .semicolon) :
    ∃ u, u.rest = tokens second.toList ∧ u.catalog = (c.ingest l first).catalog ∧
      description l (ReadState.start (tokens (first ++ "\n" ++ second).toList) c) =
        description l u := by
  obtain ⟨front, stream, goesOn⟩ := complete.tokens_eq
  obtain ⟨_, run⟩ := ingest_accepts accepted
  obtain ⟨u, declared, eof, rfl⟩ := description_accepts run
  -- the one stream ends where the other goes on with the second description
  let K : Tails := ⟨[Token.endOfInput], tokens second.toList, by simp [Token.endOfInput], other⟩
  have rel : K.Rel (ReadState.start (tokens first.toList) c)
      (ReadState.start (tokens (first ++ "\n" ++ second).toList) c) := by
    have joined : (first ++ "\n" ++ second).toList = first.toList ++ '\n' :: second.toList := by
      simp
    rw [joined, tokens_newline complete, stream, List.dropLast_concat]
    exact .start front c
  obtain ⟨u', rel', goesOn'⟩ := Tails.declarations_join rel declared
  obtain ⟨front', rest, rest'⟩ := rel'.rest
  obtain ⟨count, after⟩ := declarations_after declared
  have upTo : front' ++ [Token.endOfInput] = (front ++ [Token.endOfInput]).drop count :=
    rest.symm.trans (after.rest.trans (congrArg (List.drop count) stream))
  rw [ReadState.peek, rest] at eof
  rw [all_read goesOn upTo eof, List.nil_append] at rest'
  refine ⟨u', rest', ?_, ?_⟩
  · rw [Catalog.ingest_eq, run]
    exact rel'.catalog.symm.trans (ReadState.catalog_advance u).symm
  · rw [description, Parser.bind_apply, Parser.bind_apply, goesOn']

/-- Two descriptions, one below the other, come to the same catalog as the two in turn, and to the
same result as the second one, up to the place of an error. This holds in every catalog and for
every library, if the first description is accepted, no string and no comment is open at its end,
and the second one does not start with a semicolon. -/
theorem ingest_append (c : Catalog) (l : LibraryId) {first second : String}
    (accepted : (c.ingest l first).outcome = .ok ()) (complete : Complete first.toList)
    (other : ((tokens second.toList).head?.getD Token.endOfInput).category ≠ .semicolon) :
    let whole := c.ingest l (first ++ "\n" ++ second)
    let inTurn := (c.ingest l first).catalog.ingest l second
    whole.catalog = inTurn.catalog ∧ unplaced whole.outcome = unplaced inTurn.outcome := by
  obtain ⟨u, rest, catalog, joined⟩ := description_join accepted complete other
  have joint := Parser.Local.description.joint l u _ (Tails.none_rel rest catalog)
  rw [← joined] at joint
  have alike := joint.alike Tails.none_same l (first ++ "\n" ++ second).toList second.toList
  simp only [Catalog.ingest_eq c l (first ++ "\n" ++ second),
    Catalog.ingest_eq (c.ingest l first).catalog l second]
  exact alike

/-- The newline completes a comment at the end of the first description. The second one is refused
after it has reopened an interface of the first. -/
theorem ingest_append_refused :
    let c := initial.addLibrary "x" false .silent
    let first := "interface A { attribute long x; } // a"
    let second := "partial interface A { void f(A a); };\ninterface"
    let whole := c.2.ingest c.1 (first ++ "\n" ++ second)
    let inTurn := (c.2.ingest c.1 first).catalog.ingest c.1 second
    (c.2.ingest c.1 first).outcome = .ok () ∧ Complete first.toList ∧
      ((tokens second.toList).head?.getD Token.endOfInput).category ≠ .semicolon ∧
      inTurn.outcome ≠ .ok () ∧
      whole.catalog = inTurn.catalog ∧ unplaced whole.outcome = unplaced inTurn.outcome := by
  intro c first second whole inTurn
  have facts : (c.2.ingest c.1 first).outcome = .ok () ∧
      ((c.2.ingest c.1 first).catalog.ingest c.1 second).outcome ≠ .ok () := by
    decide +kernel
  have complete : Complete first.toList := by
    have comment : IsGap False (['/', '/'] ++ ([' ', 'a'] ++ '\n' :: [])) :=
      .line (.inl rfl) (by decide) .nil
    exact ⟨[' ', '/', '/', ' ', 'a'], by decide +kernel, .blank (by decide) comment⟩
  have other : ((tokens second.toList).head?.getD Token.endOfInput).category ≠ .semicolon := by
    decide +kernel
  exact ⟨facts.1, complete, other, facts.2, ingest_append c.2 c.1 facts.1 complete other⟩

end IdlCatalog
