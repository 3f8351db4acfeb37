/-
# IdlCatalog.Proofs.Grammar.Forks — two streams that part

Two streams may have their first tokens in common and then part. A reading looks one token ahead and
never goes back, so up to where the streams part both readings are the same; this holds for failures
as well. A reading that has come to the fork stays there or goes on, and whatever it fails at stands
no earlier.

The end of the input is read by no declaration, though many look at it. So a failure shows a token
of the stream, and not one of the ends of input that follow it without end.

## One stream and two

That a reading goes on from where it stands, and refuses a token only for what it is not, is a
statement about one stream: `Parser.Onward`. It is settled first. About two streams it remains to be
said that they agree before the fork; once one of them has passed the fork, `Onward` says all that
is needed of either.

The streams of this module hold their end of input as a token. `HasEnd` says so, and it is kept by
every parser that does not read the end.
-/
import IdlCatalog.Proofs.Grammar.Productions

namespace IdlCatalog

variable {α β : Type}

/-! ## Going on

`Leads` is the order of states in a stream, with no end of input read in between. `Grounds` says of
a fault that it shows a token which a state leads to, and that this token is not what was expected.
Both compose, so a run is described by what its parts do. -/

namespace ReadState

variable {s t u : ReadState} {count : Nat}

/-- An end of input is still to be read. -/
def HasEnd (s : ReadState) : Prop := ∃ t ∈ s.rest, t.category = .eof

/-- Some tokens further on but not past the end of the input, with every library under its name. -/
structure Leads (s t : ReadState) : Prop where
  after : ∃ count, s.After count t
  ends : s.HasEnd → t.HasEnd
  names : s.catalog.SameNames t.catalog

/-- The fault shows a token of the stream, and the token is not what was expected. -/
structure Grounds (s : ReadState) (fault : Fault) : Prop where
  shown : s.Shows fault
  /-- It is none of the ends of input that follow the stream without end. -/
  inside : s.HasEnd → fault.index < s.position + s.rest.length
  unmet : fault.expectation.Unmet fault.found

/-- What a reading comes to: it leads on, and if it fails at a token, it has grounds to. -/
structure Onward (s : ReadState) (r : Except (Failure Fault) α × ReadState) : Prop where
  leads : s.Leads r.2
  grounds : ∀ {fault}, r.1 = .error (.malformed fault) → s.Grounds fault

/-- A stream with its end has a token left. -/
theorem HasEnd.rest_length (h : s.HasEnd) : 0 < s.rest.length := by
  obtain ⟨t, inside, -⟩ := h
  exact List.length_pos_of_mem inside

/-- If no end of input is among the tokens that are read, it is still to be read. -/
theorem HasEnd.drop (h : s.HasEnd) (read : ∀ t ∈ s.rest.take count, t.category ≠ .eof) :
    (s.drop count).HasEnd := by
  obtain ⟨t, inside, eof⟩ := h
  refine ⟨t, ?_, eof⟩
  rw [← List.take_append_drop count s.rest, List.mem_append] at inside
  rw [rest_drop]
  exact inside.resolve_left fun early => read t early eof

theorem HasEnd.advance (h : s.HasEnd) (other : s.peek.category ≠ .eof) : s.advance.HasEnd := by
  have read : ∀ t ∈ s.rest.take 1, t.category ≠ .eof := by
    intro t inside
    rw [List.take_one, Option.mem_toList] at inside
    simpa [ReadState.peek, inside] using other
  exact h.drop read

namespace Leads

/-- A state leads to itself. -/
theorem refl (s : ReadState) : s.Leads s := ⟨⟨0, .refl s⟩, id, .refl _⟩

/-- Leading is transitive. -/
theorem trans (h : s.Leads t) (h' : t.Leads u) : s.Leads u := by
  obtain ⟨count, after⟩ := h.after
  obtain ⟨more, after'⟩ := h'.after
  exact ⟨⟨count + more, after.trans after'⟩, fun hasEnd => h'.ends (h.ends hasEnd),
    h.names.trans h'.names⟩

/-- Tokens that are dropped lead on if none of them is the end of the input. -/
theorem drop (le : count ≤ s.rest.length) (read : ∀ t ∈ s.rest.take count, t.category ≠ .eof) :
    s.Leads (s.drop count) :=
  ⟨⟨count, drop_after le⟩, fun hasEnd => hasEnd.drop read, by rw [catalog_drop]; exact .refl _⟩

/-- A token that is read leads on if it is not the end of the input. -/
theorem advance (other : s.peek.category ≠ .eof) : s.Leads s.advance :=
  ⟨⟨1, advance_after (rest_ne_nil_of_category other)⟩, fun hasEnd => hasEnd.advance other,
    by rw [catalog_advance]; exact .refl _⟩

/-- What may be refused later on may be refused from here. -/
theorem grounds {fault : Fault} (h : s.Leads t) (grounds : t.Grounds fault) : s.Grounds fault := by
  obtain ⟨count, after⟩ := h.after
  have left : t.position + t.rest.length = s.position + s.rest.length := by
    rw [after.position, after.rest, List.length_drop]
    have := after.count_le
    omega
  exact ⟨after.shows grounds.shown, fun hasEnd => left ▸ grounds.inside (h.ends hasEnd),
    grounds.unmet⟩

end Leads

/-- A refusal on the spot has its grounds in the next token. -/
theorem Grounds.here (s : ReadState) {expectation : Expectation}
    (unmet : expectation.Unmet s.peek) :
    s.Grounds ⟨expectation, s.position, s.peek⟩ :=
  ⟨shows_here s expectation, fun hasEnd => Nat.lt_add_of_pos_right hasEnd.rest_length, unmet⟩

namespace Onward

variable {r : Except (Failure Fault) α × ReadState}

theorem ok {a : α} (h : s.Leads t) : s.Onward (.ok a, t) := ⟨h, fun error => by cases error⟩

theorem malformed {fault : Fault} (h : s.Leads t) (grounds : s.Grounds fault) :
    s.Onward (α := α) (.error (.malformed fault), t) := by
  refine ⟨h, fun error => ?_⟩
  cases error
  exact grounds

theorem other {x : Failure Fault} (h : s.Leads t) (other : ∀ fault, x ≠ .malformed fault) :
    s.Onward (α := α) (.error x, t) := by
  refine ⟨h, fun {fault} error => ?_⟩
  cases error
  exact absurd rfl (other fault)

/-- No more tokens are left than there were. -/
theorem left_le {a : α} (h : s.Onward (.ok a, t)) : t.left ≤ s.left := by
  obtain ⟨count, after⟩ := h.leads.after
  exact Nat.le.intro after.left

/-- What goes on from a later state goes on from an earlier one. -/
theorem trans (h : s.Leads t) (h' : t.Onward r) : s.Onward r :=
  ⟨h.trans h'.leads, fun error => h.grounds (h'.grounds error)⟩

theorem expected {expectation : Expectation} (unmet : expectation.Unmet s.peek)
    (l : LibraryId) : s.Onward (Parser.expected (α := α) expectation l s) :=
  .malformed (.refl s) (.here s unmet)

end Onward

end ReadState

/-! ## One stream

From a token on, every parser goes on and fails on grounds. A parser that is only asked about where
a token is left, marked by `inside`, may use that in its proof. -/

/-- If `inside` says so, the next token does not end the input. -/
def ReadState.Stands (s : ReadState) (inside : Bool) : Prop :=
  inside = true → s.peek.category ≠ .eof

theorem ReadState.stands_false (s : ReadState) : s.Stands false :=
  fun inside => absurd inside Bool.false_ne_true

/-- From every place the parser goes on, and what it fails at stands there or further on. -/
def Parser.Onward (inside : Bool) (p : Parser α) : Prop :=
  ∀ (l : LibraryId) (s : ReadState), s.Stands inside → s.Onward (p l s)

namespace Parser.Onward

variable {inside inside' : Bool} {p q : Parser α} {f : α → Parser β}

theorem mono (h : Onward inside p) (less : inside = true → inside' = true) : Onward inside' p :=
  fun l s stands => h l s fun yes => stands (less yes)

theorem bind (hp : Onward inside p) (hf : ∀ a, Onward false (f a)) :
    Onward inside (p >>= f) := by
  intro l s stands
  have first := hp l s stands
  rw [Parser.bind_apply]
  generalize p l s = r at first
  obtain ⟨e | a, t⟩ := r
  · exact ⟨first.leads, fun error => first.grounds (by cases error; rfl)⟩
  · exact .trans first.leads (hf a l t t.stands_false)

theorem ite {c : Prop} [Decidable c] (yes : Onward inside p) (no : Onward inside q) :
    Onward inside (if c then p else q) := by
  split
  · exact yes
  · exact no

/-- An action that leaves the tokens alone. -/
theorem neutral (neutral : p.Neutral) : Onward false p := by
  intro l s _
  obtain ⟨answer, d, same, errors, names⟩ := neutral l s.catalog
  obtain ⟨j, run⟩ := same s rfl
  have leads : s.Leads (s.put ⟨d, j⟩) := ⟨⟨0, ReadState.put_after s _⟩, id, names⟩
  rw [run]
  cases answer with
  | ok a => exact .ok leads
  | error x =>
    obtain ⟨duplicate, rfl⟩ := errors x rfl
    exact .other leads fun _ eq => by cases eq

/-- A call where fewer tokens are left. -/
theorem below {n : Nat}
    (h : ∀ (l : LibraryId) (s : ReadState), s.left < n → s.Stands inside → s.Onward (p l s)) :
    Onward inside (Parser.below n p) := by
  intro l s stands
  rw [Parser.below]
  split
  · next fewer => exact h l s fewer stands
  · exact .other (.refl s) fun _ eq => by cases eq

theorem fix {body : Parser α → Parser α}
    (h : ∀ {self}, Onward inside self → Onward inside (body self)) :
    Onward inside (Parser.fix body) := by
  have calls : ∀ n, Onward inside (Parser.below n (Parser.fix body)) := by
    intro n
    -- on the number of tokens: the body calls itself only with fewer tokens left
    induction n using Nat.strongRecOn with
    | _ n ih =>
      refine below fun l s fewer stands => ?_
      rw [Parser.fix_apply]
      exact h (ih s.left fewer) l s stands
  intro l s stands
  rw [Parser.fix_apply]
  exact h (calls s.left) l s stands

/-- What is done at a token, if the end of the input is not read. -/
theorem of_atToken (f : Token → Except Expectation (α × Bool))
    (reads : ∀ t a, (inside = true → t.category ≠ .eof) → f t = .ok (a, true) →
      t.category ≠ .eof)
    (refuses : ∀ t expectation, f t = .error expectation → expectation.Unmet t) :
    Onward inside (atToken f) := by
  intro l s stands
  rw [atToken]
  split
  · next a found => exact .ok (.advance (reads s.peek a stands found))
  · exact .ok (.refl s)
  · next refused => exact .expected (refuses _ _ refused) l

/-- What is done after a look at the next token, or the refusal of the token. -/
theorem at_peek {R : Parser α → Parser α → Prop} {s : ReadState} (h : OrRefused R s.peek p q)
    (goOn : R p q → Onward inside p) (l : LibraryId) (stands : s.Stands inside) :
    s.Onward (p l s) := by
  cases h with
  | goOn related => exact goOn related l s stands
  | refuse unmet => exact .expected unmet l

/-- After a look it is known whether the next token ends the input. -/
theorem stands_peek {s : ReadState} (stands : s.Stands inside) :
    s.Stands (inside || decide (s.peek.category ≠ .eof)) := by
  rw [ReadState.Stands, Bool.or_eq_true, decide_eq_true_eq]
  exact fun either => either.elim stands id

/-- Where the end of the input is refused, a token that was read is not the end of the input. -/
theorem category_of_read {f : Token → Except Expectation (α × Bool)} {t : Token} {a : α}
    (ends : ∀ t, t.category = .eof → ∃ expectation, f t = .error expectation)
    (read : f t = .ok (a, true)) : t.category ≠ .eof := by
  intro eof
  obtain ⟨expectation, refused⟩ := ends t eof
  cases read.symm.trans refused

/-- A token that was accepted is not the end of the input. -/
theorem category_of_accepted {category : Category} {t : Token} {answer : Bool}
    (h : category ≠ .eof)
    (read : Except.ok (ε := Expectation)
      (decide (t.category = category), decide (t.category = category)) = .ok (answer, true)) :
    t.category ≠ .eof := by
  obtain ⟨-, read⟩ := Prod.mk.inj (Except.ok.inj read)
  exact of_decide_eq_true read ▸ h

/-- To accept a category other than the end reads no end. -/
theorem accept {category : Category} (h : category ≠ .eof) :
    Onward false (Parser.accept category) := by
  rw [accept_eq]
  exact of_atToken _ (fun t _ _ read => category_of_accepted h read) fun _ _ eq => by cases eq

/-- An unknown attribute is refused at its name, which is read by then. -/
theorem namedAttribute (known : ∀ action, Onward false (Grammar.attributeEffect action)) :
    Onward false Grammar.namedAttribute := by
  intro l s _
  by_cases word : s.peek.category = .word
  · have other : s.peek.category ≠ .eof := by simp [word]
    cases named : AttributeAction.ofName? s.peek.text with
    | some action =>
      rw [Coupling.namedAttribute_known word named]
      exact .trans (.advance other) (known action l s.advance s.advance.stands_false)
    | none =>
      rw [Coupling.namedAttribute_unknown word named]
      exact .malformed (.advance other) (.here s (.of_ofName? word named))
  · rw [Coupling.namedAttribute_other word]
    exact .expected (.token word) l

/-- A value that is skipped stops before the end of the input. -/
theorem rawUntilSemicolon : Onward false Parser.rawUntilSemicolon := by
  intro l s _
  have front := List.takeWhile_prefix continuesValue (l := s.rest)
  refine .ok (.drop front.length_le fun t inside => ?_)
  rw [← List.prefix_iff_eq_take.1 front] at inside
  have continues := List.mem_takeWhile_imp inside
  simp only [continuesValue, Bool.and_eq_true, decide_eq_true_eq] at continues
  exact continues.2

/-- What a run comes to is decided at the token that it stops at. -/
theorem skipBalanced_stopped (stops : List Category) (l : LibraryId) (s : ReadState) :
    (s.drop (balancedRun stops 0 s.rest).1).Onward (Parser.skipBalanced stops l s) := by
  have refused := @balancedRun_refused stops 0 s.rest
  rw [Parser.skipBalanced]
  generalize balancedRun stops 0 s.rest = run at refused
  obtain ⟨count, _ | expectation⟩ := run
  · exact .ok (.refl _)
  · exact .expected (by rw [ReadState.peek_drop]; exact refused rfl) l

/-- A group that is skipped stops before the end of the input, or is refused there. -/
theorem skipBalanced (stops : List Category) : Onward false (Parser.skipBalanced stops) :=
  fun l s _ => .trans (.drop (balancedRun_le stops 0 s.rest) (balancedRun_read stops 0 s.rest))
    (skipBalanced_stopped stops l s)

/-- Going on goes from parts to the whole. Of the two parsers that a congruence relates, only the
first one matters. -/
def congruence : Parser.Congruence where
  Rel inside _ _ p _ := Onward inside p
  mono := .mono
  weaken := id
  still := id
  sequence _ := .bind
  finish := .bind
  fix h := fix fun {self} going => @h self self going
  neutral := .neutral
  inspect f _ _ _ h := fun l s stands => at_peek (h s.peek) id l (stands_peek stands)
  atToken f reads refuses := .of_atToken f (fun t a _ => reads t a) refuses
  atTokenClose f ends refuses := .of_atToken f (fun _ _ _ => category_of_read ends) refuses
  next := .of_atToken (fun t => .ok (t, true)) (fun _ _ stands _ => stands rfl) nofun
  acceptSemicolon := .accept (by decide)
  choose h yes no := (accept h).bind fun _ => .ite yes no
  namedAttribute := .namedAttribute
  rawUntilSemicolon := .rawUntilSemicolon
  skipBalanced := .skipBalanced

end Parser.Onward

/-- Whatever is put together like the grammar goes on from where it stands. -/
theorem Parser.onward_of_related {inside : Bool} {e : Ending} {p : Parser α}
    (h : ∀ R : Congruence, R.Rel inside e p p) : Onward inside p :=
  h Onward.congruence

/-! ## Forks

The two streams have a front in common, and `stop` is the position where it ends. Before it the
states are related, `Rel`; from there on a state is `Past`, and nothing relates it to the other
stream any more. -/

/-- Two streams that have the tokens before the one of number `stop` in common. -/
structure Fork where
  first : List Token
  second : List Token
  stop : Nat

namespace Fork

/-- Two readings stand at the same place before the fork, with the same catalog. -/
structure Rel (K : Fork) (s s' : ReadState) : Prop where
  catalog : s.catalog = s'.catalog
  position : s.position = s'.position
  rest : ∃ front, s.rest = front ++ K.first ∧ s'.rest = front ++ K.second ∧
    s.position + front.length = K.stop

/-- A reading has come to the fork, and if it fails at a token, the token stands no earlier. -/
structure Past (K : Fork) (r : Except (Failure Fault) α × ReadState) : Prop where
  position : K.stop ≤ r.2.position
  index : ∀ {fault}, r.1 = .error (.malformed fault) → K.stop ≤ fault.index

/-- What two readings come to: the same, unless the first one has come to the fork. -/
inductive Joint (K : Fork) :
    Except (Failure Fault) α × ReadState → Except (Failure Fault) α × ReadState → Prop
  | ok {a : α} {t t' : ReadState} (rel : K.Rel t t') : Joint K (.ok a, t) (.ok a, t')
  | error {x : Failure Fault} {t t' : ReadState} (catalog : t.catalog = t'.catalog) :
      Joint K (.error x, t) (.error x, t')
  | past {r r' : Except (Failure Fault) α × ReadState} (past : K.Past r) : Joint K r r'

variable {K : Fork} {s s' : ReadState} {r r' : Except (Failure Fault) α × ReadState}

/-- A reading that goes on from the fork stays past it. -/
theorem Past.of_onward (h : s.Onward r) (far : K.stop ≤ s.position) : K.Past r where
  position := by
    obtain ⟨count, after⟩ := h.leads.after
    rw [after.position]
    exact Nat.le_add_right_of_le far
  index error := Nat.le_trans far (h.grounds error).shown.position_le

/-- Either the next token is the same, or the first reading has come to the fork. -/
theorem Rel.next (h : K.Rel s s') :
    (s.peek = s'.peek ∧ K.Rel s.advance s'.advance) ∨ K.stop ≤ s.position := by
  obtain ⟨front, rest, rest', stop⟩ := h.rest
  cases front with
  | nil => exact .inr (Nat.le_of_eq stop.symm)
  | cons t front =>
    have first : s.After 1 s.advance := ReadState.advance_after (by simp [rest])
    have first' : s'.After 1 s'.advance := ReadState.advance_after (by simp [rest'])
    refine .inl ⟨by simp [ReadState.peek, rest, rest'], ?_, ?_, front, ?_, ?_, ?_⟩
    · rw [ReadState.catalog_advance, ReadState.catalog_advance, h.catalog]
    · rw [first.position, first'.position, h.position]
    · rw [first.rest, rest]
      rfl
    · rw [first'.rest, rest']
      rfl
    · rw [first.position, ← stop, List.length_cons]
      omega

/-- Tokens before the fork are skipped. -/
theorem Rel.drop (h : K.Rel s s') {count : Nat} (before : s.position + count ≤ K.stop) :
    K.Rel (s.drop count) (s'.drop count) := by
  obtain ⟨front, rest, rest', stop⟩ := h.rest
  have inside : count ≤ front.length := by omega
  have after : s.After count (s.drop count) := ReadState.drop_after (by simp [rest]; omega)
  have after' : s'.After count (s'.drop count) := ReadState.drop_after (by simp [rest']; omega)
  refine ⟨?_, ?_, front.drop count, ?_, ?_, ?_⟩
  · rw [ReadState.catalog_drop, ReadState.catalog_drop, h.catalog]
  · rw [after.position, after'.position, h.position]
  · rw [after.rest, rest, List.drop_append_of_le_length inside]
  · rw [after'.rest, rest', List.drop_append_of_le_length inside]
  · rw [after.position, List.length_drop]
    omega

theorem Rel.left (h : K.Rel s s') : s'.left = s.left + K.second.length - K.first.length := by
  obtain ⟨front, rest, rest', -⟩ := h.rest
  exact ReadState.left_of_front rest rest'

theorem Rel.left_lt_iff (h : K.Rel s s') {n : Nat} :
    s.left < n ↔ s'.left < n + K.second.length - K.first.length := by
  obtain ⟨front, rest, rest', -⟩ := h.rest
  exact ReadState.left_lt_iff_of_front rest rest'

end Fork

/-! ## Firm parsers

Either both readings are still before the fork and have done the same, or both are past it. A fault
before the fork is the same fault in both streams; a fault past it shows a token at the fork or
later. -/

/-- Both parsers go on from where they stand, and the first one does the same as the second one up
to the fork. -/
structure Parser.Firm (K : Fork) (inside : Bool) (p q : Parser α) : Prop where
  onward : Onward inside p
  joint : ∀ (l : LibraryId) (s s' : ReadState), s.Stands inside → K.Rel s s' →
    K.Joint (p l s) (q l s')

namespace Parser.Firm

open Fork

variable {K : Fork} {inside inside' : Bool} {p q : Parser α} {f g : α → Parser β}

/-- At the fork it does not matter what the second parser does. -/
theorem past (h : Firm K inside p q) {l : LibraryId} {s : ReadState}
    {r' : Except (Failure Fault) α × ReadState} (stands : s.Stands inside)
    (far : K.stop ≤ s.position) : K.Joint (p l s) r' :=
  .past (.of_onward (h.onward l s stands) far)

theorem mono (h : Firm K inside p q) (less : inside = true → inside' = true) :
    Firm K inside' p q :=
  ⟨h.onward.mono less, fun l s s' stands => h.joint l s s' fun yes => stands (less yes)⟩

theorem bind (hp : Firm K inside p q) (hf : ∀ a, Firm K false (f a) (g a)) :
    Firm K inside (p >>= f) (q >>= g) where
  onward := hp.onward.bind fun a => (hf a).onward
  joint l s s' stands rel := by
    have first := hp.joint l s s' stands rel
    rw [Parser.bind_apply, Parser.bind_apply]
    generalize p l s = r at first
    generalize q l s' = r' at first
    cases first with
    | ok rel => exact (hf _).joint l _ _ (ReadState.stands_false _) rel
    | error catalog => exact .error catalog
    | past past =>
      obtain ⟨e | a, t⟩ := r
      · exact .past ⟨past.position, fun error => past.index (by cases error; rfl)⟩
      · exact (hf a).past (ReadState.stands_false t) past.position

theorem ite {c : Prop} [Decidable c] {p' q' : Parser α} (yes : Firm K inside p q)
    (no : Firm K inside p' q') :
    Firm K inside (if c then p else p') (if c then q else q') := by
  split
  · exact yes
  · exact no

/-- An action that leaves the tokens alone. -/
theorem neutral {p : Parser α} (neutral : p.Neutral) : Firm K false p p where
  onward := .neutral neutral
  joint l s s' _ rel := by
    obtain ⟨answer, d, same, -⟩ := neutral l s.catalog
    obtain ⟨j, run⟩ := same s rfl
    obtain ⟨j', run'⟩ := same s' rel.catalog.symm
    rw [run, run']
    cases answer with
    | error x => exact .error rfl
    | ok a => exact .ok ⟨rfl, rel.position, rel.rest⟩

/-! ### Recursion

A call on fewer tokens is one in both streams: what they have left differs by a constant. -/

/-- Calls where fewer tokens are left. Both readings have as many tokens left, apart from what
follows the fork. -/
theorem below {n : Nat}
    (h : ∀ (l : LibraryId) (s : ReadState), s.left < n → s.Stands inside → s.Onward (p l s))
    (h' : ∀ (l : LibraryId) (s s' : ReadState), s.left < n → s.Stands inside → K.Rel s s' →
      K.Joint (p l s) (q l s')) :
    Firm K inside (Parser.below n p)
      (Parser.below (n + K.second.length - K.first.length) q) where
  onward := .below h
  joint l s s' stands rel := by
    rw [Parser.below, Parser.below]
    by_cases fewer : s.left < n
    · rw [if_pos fewer, if_pos (rel.left_lt_iff.1 fewer)]
      exact h' l s s' fewer stands rel
    · rw [if_neg fewer, if_neg fun fewer' => fewer (rel.left_lt_iff.2 fewer')]
      exact .error rel.catalog

theorem fix {body₁ body₂ : Parser α → Parser α}
    (h : ∀ {self₁ self₂}, Firm K inside self₁ self₂ →
      Firm K inside (body₁ self₁) (body₂ self₂)) :
    Firm K inside (Parser.fix body₁) (Parser.fix body₂) := by
  have calls : ∀ n, Firm K inside (Parser.below n (Parser.fix body₁))
      (Parser.below (n + K.second.length - K.first.length) (Parser.fix body₂)) := by
    intro n
    -- on the number of tokens: the body calls itself only with fewer tokens left
    induction n using Nat.strongRecOn with
    | _ n ih =>
      refine below (fun l s fewer stands => ?_) fun l s s' fewer stands rel => ?_
      · rw [Parser.fix_apply]
        exact (h (ih s.left fewer)).onward l s stands
      · rw [Parser.fix_apply, Parser.fix_apply, rel.left]
        exact (h (ih s.left fewer)).joint l s s' stands rel
  refine ⟨fun l s stands => ?_, fun l s s' stands rel => ?_⟩
  · rw [Parser.fix_apply]
    exact (h (calls s.left)).onward l s stands
  · rw [Parser.fix_apply, Parser.fix_apply, rel.left]
    exact (h (calls s.left)).joint l s s' stands rel

/-! ### Tokens

A token before the fork is the same in both streams. Of the one at the fork nothing has to be known:
whatever is done there is done past the fork. -/

/-- What is done at a token, if the end of the input is not read. -/
theorem of_atToken (f : Token → Except Expectation (α × Bool))
    (reads : ∀ t a, (inside = true → t.category ≠ .eof) → f t = .ok (a, true) →
      t.category ≠ .eof)
    (refuses : ∀ t expectation, f t = .error expectation → expectation.Unmet t) :
    Firm K inside (atToken f) (atToken f) := by
  have onward : Onward inside (atToken f) := .of_atToken f reads refuses
  refine ⟨onward, fun l s s' stands rel => ?_⟩
  rcases rel.next with ⟨same, rel'⟩ | far
  · rw [atToken, atToken, ← same]
    rcases f s.peek with expectation | ⟨a, _ | _⟩
    · show K.Joint (.error (.malformed _), s) (.error (.malformed _), s')
      rw [rel.position, same]
      exact .error rel.catalog
    · exact .ok rel
    · exact .ok rel'
  · exact .past (.of_onward (onward l s stands) far)

/-- The same token is refused in both readings, or the first one has come to the fork. -/
theorem expected {s s' : ReadState} (rel : K.Rel s s') {expectation : Expectation}
    (unmet : expectation.Unmet s.peek) (l : LibraryId) :
    K.Joint (Parser.expected (α := α) expectation l s) (Parser.expected expectation l s') := by
  rcases rel.next with ⟨same, -⟩ | far
  · rw [Parser.expected, Parser.expected, ← rel.position, ← same]
    exact .error rel.catalog
  · exact .past (.of_onward (.expected unmet l) far)

theorem joint_at {s s' : ReadState} (h : OrRefused (Firm K inside) s.peek p q) (l : LibraryId)
    (stands : s.Stands inside) (rel : K.Rel s s') : K.Joint (p l s) (q l s') := by
  cases h with
  | goOn firm => exact firm.joint l s s' stands rel
  | refuse unmet => exact expected rel unmet l

/-- What is done after a look at the next token. -/
theorem inspect (f : Token → α) {k k' : α → Parser β}
    (h : ∀ t, OrRefused (Firm K (inside || decide (t.category ≠ .eof))) t (k (f t)) (k' (f t))) :
    Firm K inside (Parser.look f >>= k) (Parser.look f >>= k') := by
  have onward (l : LibraryId) (s : ReadState) (stands : s.Stands inside) :
      s.Onward (k (f s.peek) l s) :=
    Onward.at_peek (h s.peek) Firm.onward l (Onward.stands_peek stands)
  refine ⟨onward, fun l s s' stands rel => ?_⟩
  rcases rel.next with ⟨same, -⟩ | far
  · show K.Joint (k (f s.peek) l s) (k' (f s'.peek) l s')
    rw [← same]
    exact joint_at (h s.peek) l (Onward.stands_peek stands) rel
  · exact .past (.of_onward (onward l s stands) far)

theorem accept {category : Category} (h : category ≠ .eof) :
    Firm K false (Parser.accept category) (Parser.accept category) := by
  rw [accept_eq]
  exact of_atToken _ (fun t _ _ read => Onward.category_of_accepted h read) fun _ _ eq => by
    cases eq

/-- An unknown attribute is refused at its name, which is read by then. -/
theorem namedAttribute (known : ∀ action, Firm K false (Grammar.attributeEffect action)
      (Grammar.attributeEffect action)) :
    Firm K false Grammar.namedAttribute Grammar.namedAttribute := by
  have onward : Onward false Grammar.namedAttribute :=
    .namedAttribute fun action => (known action).onward
  refine ⟨onward, fun l s s' _ rel => ?_⟩
  rcases rel.next with ⟨same, rel'⟩ | far
  · by_cases word : s.peek.category = .word
    · cases named : AttributeAction.ofName? s.peek.text with
      | some action =>
        rw [Coupling.namedAttribute_known word named,
          Coupling.namedAttribute_known (same ▸ word) (same ▸ named)]
        exact (known action).joint l _ _ (ReadState.stands_false _) rel'
      | none =>
        rw [Coupling.namedAttribute_unknown word named,
          Coupling.namedAttribute_unknown (same ▸ word) (same ▸ named), rel.position, same]
        exact .error rel'.catalog
    · rw [Coupling.namedAttribute_other word, Coupling.namedAttribute_other (same ▸ word)]
      exact expected rel (.token word) l
  · exact .past (.of_onward (onward l s s.stands_false) far)

/-! ### Skipped tokens

Counting brackets comes to an end before the fork, in both streams alike, or goes on past it. -/

theorem rawUntilSemicolon : Firm K false Parser.rawUntilSemicolon Parser.rawUntilSemicolon where
  onward := .rawUntilSemicolon
  joint l s s' _ rel := by
    obtain ⟨front, rest, rest', stop⟩ := rel.rest
    have long := (List.takeWhile_prefix continuesValue (l := front)).length_le
    rw [Parser.rawUntilSemicolon, Parser.rawUntilSemicolon, rest, rest', List.takeWhile_append,
      List.takeWhile_append]
    by_cases whole : (front.takeWhile continuesValue).length = front.length
    · rw [if_pos whole, if_pos whole]
      have far : front.length ≤ (front ++ K.first.takeWhile continuesValue).length := by simp
      have le : (front ++ K.first.takeWhile continuesValue).length ≤ s.rest.length := by
        rw [rest, List.length_append, List.length_append]
        exact Nat.add_le_add_left (List.takeWhile_prefix _).length_le _
      have after := ReadState.drop_after le
      refine .past ⟨?_, fun error => by cases error⟩
      rw [after.position]
      omega
    · rw [if_neg whole, if_neg whole]
      exact .ok (rel.drop (by omega))

theorem skipBalanced (stops : List Category) :
    Firm K false (Parser.skipBalanced stops) (Parser.skipBalanced stops) := by
  refine ⟨.skipBalanced stops, fun l s s' _ rel => ?_⟩
  obtain ⟨front, rest, rest', stop⟩ := rel.rest
  by_cases inside : (balancedRun stops 0 s.rest).1 < front.length
  · have same : balancedRun stops 0 s'.rest = balancedRun stops 0 s.rest := by
      rw [rest] at inside ⊢
      rw [rest', balancedRun_append _ _ inside]
    have refused := @balancedRun_refused stops 0 s.rest
    rw [Parser.skipBalanced, Parser.skipBalanced, same]
    generalize balancedRun stops 0 s.rest = run at inside refused
    have dropped : K.Rel (s.drop run.1) (s'.drop run.1) := rel.drop (by omega)
    obtain ⟨count, _ | expectation⟩ := run
    · exact .ok dropped
    · exact expected dropped (by rw [ReadState.peek_drop]; exact refused rfl) l
  · refine .past (.of_onward (Onward.skipBalanced_stopped stops l s) ?_)
    have after := ReadState.drop_after (balancedRun_le stops 0 s.rest)
    rw [after.position]
    omega

end Parser.Firm

/-- Firmness goes from parts to the whole. -/
def Fork.congruence (K : Fork) : Parser.Congruence where
  Rel inside _ := Parser.Firm K inside
  mono := .mono
  weaken := id
  still := id
  sequence _ := .bind
  finish := .bind
  fix := .fix
  neutral := .neutral
  inspect f _ _ _ h := .inspect f h
  atToken f reads refuses := .of_atToken f (fun t a _ => reads t a) refuses
  atTokenClose f ends refuses := .of_atToken f (fun _ _ _ => Parser.Onward.category_of_read ends) refuses
  next := .of_atToken (fun t => .ok (t, true)) (fun _ _ stands _ => stands rfl) nofun
  acceptSemicolon := .accept (by decide)
  choose h yes no := (Parser.Firm.accept h).bind fun _ => .ite yes no
  namedAttribute := .namedAttribute
  rawUntilSemicolon := .rawUntilSemicolon
  skipBalanced := .skipBalanced

end IdlCatalog
