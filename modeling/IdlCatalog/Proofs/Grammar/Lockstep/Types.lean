/-
# IdlCatalog.Proofs.Grammar.Lockstep.Types — types and parameters are read in step

The productions from names up to parameter lists, each shown to keep every coupling that is lawful
for what it does. `K.Reads` says of a production that two readings of it stay in step and read a
token at least, `K.Keeps` only that they stay in step, and `K.Sim` with `Option.isSome` or
`Bool.toNat` that a round of a loop reads a token whenever the loop goes on.

The counts matter for the recursions. A type reference within another one is a call of the same
production, and it may be used as being in step only where a token of the outer reference was read.
Loops are left out of their bodies in the same way, so no production needs an argument of its own
about its end.
-/
import IdlCatalog.Proofs.Grammar.Lawful

namespace IdlCatalog

open Grammar

namespace Coupling

variable {K : Coupling} {w w' : Stores} {n : Nat}

/-! ## Names

A name is a text, so two readings of the same tokens come to the same one. All that has to be said
of it is that it is not the name of the globals, which contains characters that no word has: the
type of the globals is never resolved or declared by name. -/

/-- No name that starts with something else than a parenthesis is the name of the globals. -/
theorem append_ne_globalsName {start : String} (word : String) (nonempty : start.toList ≠ [])
    (other : start.toList.head? ≠ some '(') : start ++ word ≠ globalsName := by
  intro eq
  have first := congrArg (fun s : String => s.toList.head?) eq
  simp only [globalsName, String.toList_append, List.head?_append] at first
  cases e : start.toList.head? <;> simp_all

/-- Nor is a name with `long` at its end. -/
theorem append_long_ne_globalsName (name : String) : name ++ " long" ≠ globalsName := by
  intro eq
  have last := congrArg (fun s : String => s.toList.getLast?) eq
  simp [globalsName] at last

/-- A word that a keyword takes along. -/
theorem qualifiedWord_reads {start : String} (nonempty : start.toList ≠ [])
    (other : start.toList.head? ≠ some '(') :
    K.Reads w n plainName (return start ++ (← Parser.identifier))
      (return start ++ (← Parser.identifier)) := by
  refine Sim.identifier.bind_any ?_
  rintro _ word _ - ⟨rfl, -⟩
  exact .pure fun _ _ => ⟨rfl, append_ne_globalsName word nonempty other⟩

/-- The prefixes `unrestricted` and `unsigned` are read in step, and so is the word after them. The
name that comes out is the same on both sides, and it is not that of the globals. -/
theorem nameSegment_reads : K.Reads w n plainName nameSegment nameSegment := by
  refine (Sim.acceptKeyword "unrestricted").bind_if ?_ ?_
  · intro _ _
    exact (qualifiedWord_reads (by simp) (by simp)).unread
  intro _ _
  refine (Sim.acceptKeyword "unsigned").bind_if ?_ ?_
  · intro _ _
    refine Sim.peekCategory.bind ?_
    rintro _ category _ - rfl
    refine .ite (fun _ => ?_) (fun _ => ?_)
    · exact .pure fun _ _ => ⟨rfl, by decide⟩
    · exact (qualifiedWord_reads (by simp) (by simp)).unread
  · intro _ _
    exact Sim.identifier

/-- Of a scoped name only the last segment counts, and it is the same on both sides. -/
theorem scopedName_reads : K.Reads w n plainName scopedName scopedName := by
  refine .fix fun m self₁ self₂ lt calls => ?_
  refine nameSegment_reads.bind_reads ?_
  rintro _ name _ later ⟨rfl, plain⟩
  refine (Sim.accept (by decide)).bind_if ?_ ?_
  · intro _ later'
    exact ((calls.after (later.trans later')).below (Nat.sub_le _ _)).unread
  · intro _ _
    exact .pure fun _ _ => ⟨rfl, plain⟩

/-- The word `long` after a name that ends with it is read on both sides or on none. -/
theorem typeName_reads : K.Reads w n plainName typeName typeName := by
  refine scopedName_reads.bind_any ?_
  rintro _ name _ - ⟨rfl, plain⟩
  have itself {w n} : K.Keeps w n plainName (pure name) (pure name) :=
    .pure fun _ _ => ⟨rfl, plain⟩
  refine .ite (fun _ => ?_) (fun _ => itself)
  refine (Sim.acceptKeyword "long").bind_if ?_ ?_
  · intro _ _
    exact .pure fun _ _ => ⟨rfl, append_long_ne_globalsName name⟩
  · intro _ _
    exact itself

/-! ## Type references

Composites are created around types that correspond, innermost first. The law for each sort of
composite is one field of `LawfulTypes`. -/

/-- A question mark wraps two types that correspond into two that correspond. -/
theorem nullableIfMarked_keeps (law : K.LawfulTypes) {t u : TypeId} (tu : K.type w t u) :
    K.Keeps w n K.type (nullableIfMarked t) (nullableIfMarked u) := by
  refine (Sim.accept (by decide)).bind_if ?_ ?_
  · intro _ later
    exact law.wrap .nullable (later.type tu)
  · intro _ later
    exact .pure fun _ later' => later'.type (later.type tu)

/-- So do brackets. -/
theorem arrayIfMarked_keeps (law : K.LawfulTypes) {t u : TypeId} (tu : K.type w t u) :
    K.Keeps w n K.type (arrayIfMarked t) (arrayIfMarked u) := by
  refine (Sim.accept (by decide)).bind_if ?_ ?_
  · intro _ later
    refine (Sim.require (by decide)).bind ?_
    intro _ _ _ later' _
    exact law.wrap .array (later'.type (later.type tu))
  · intro _ later
    exact .pure fun _ later' => later'.type (later.type tu)

/-- A name is resolved on both sides, and may be marked after it. -/
theorem namedType_keeps (law : K.LawfulTypes) {name : String} (plain : name ≠ globalsName) :
    K.Keeps w n K.type (namedType name) (namedType name) := by
  refine (law.resolve plain).bind ?_
  intro _ t u _ tu
  refine (nullableIfMarked_keeps law tu).bind ?_
  intro _ t u _ tu
  exact arrayIfMarked_keeps law tu

section Composites

variable {self₁ self₂ : Parser TypeId} (law : K.LawfulTypes)
  (calls : ∀ {w'}, K.Later w w' → K.Reads w' n K.type self₁ self₂)

include law calls

/-- A sequence wraps its element. -/
theorem sequenceType_keeps :
    K.Keeps w n K.type (sequenceType self₁) (sequenceType self₂) := by
  refine (Sim.require (by decide)).bind ?_
  intro _ _ _ later _
  refine (calls later).bind ?_
  intro _ t u _ tu
  refine (Sim.require (by decide)).bind ?_
  intro _ _ _ later' _
  exact law.wrap .sequence (later'.type tu)

/-- A generic type is made of arguments that correspond one by one. -/
theorem genericType_keeps (name : String) :
    K.Keeps w n K.type (genericType self₁ name) (genericType self₂ name) := by
  refine (Sim.require (by decide)).bind ?_
  intro _ _ _ later _
  refine (Sim.sepBy (R := K.type) (fun later => later.type) (calls later)
    (Sim.accept (by decide))).bind ?_
  intro _ ts us _ related
  refine (Sim.require (by decide)).bind ?_
  intro _ _ _ later' _
  exact law.genericOf name (related.imp fun _ _ => later'.type)

/-- A union is made of branches that correspond one by one. -/
theorem unionTail_keeps : K.Keeps w n K.type (unionTail self₁) (unionTail self₂) := by
  refine (Sim.sepBy (R := K.type) (fun later => later.type) (calls (.refl w))
    (Sim.acceptKeyword _)).bind ?_
  intro _ ts us _ related
  refine (Sim.require (by decide)).bind ?_
  intro _ _ _ later _
  refine (Sim.accept (by decide)).bind ?_
  intro _ _ _ later' _
  exact law.unionOf (related.imp fun _ _ tu => later'.type (later.type tu))

end Composites

/-- Two readings of a type reference read the same tokens, and the types that they come to
correspond. -/
theorem typeReference_reads (law : K.LawfulTypes) :
    K.Reads w n K.type typeReference typeReference := by
  refine .fix fun m self₁ self₂ lt calls => ?_
  refine Sim.peekCategory.bind ?_
  rintro w₁ category _ later rfl
  refine .ite (fun _ => ?_) (fun _ => ?_)
  -- inner references are calls, which are in step once a token of this one was read
  · refine (Sim.require (by decide)).bind_reads ?_
    intro _ _ _ later' _
    exact unionTail_keeps law fun later'' => calls.after (later.trans (later'.trans later''))
  refine typeName_reads.bind_reads ?_
  rintro _ name _ later' ⟨rfl, plain⟩
  refine Sim.peekCategory.bind ?_
  rintro _ category _ later'' rfl
  have mark {w n t u} (tu : K.type w t u) :
      K.Keeps w n K.type (nullableIfMarked t) (nullableIfMarked u) :=
    nullableIfMarked_keeps law tu
  have inner {w₂} (last) : K.Reads w₂ m K.type self₁ self₂ :=
    calls.after (later.trans (later'.trans (later''.trans last)))
  refine .ite (fun _ => ?_) (fun _ => .ite (fun _ => ?_) (fun _ => ?_))
  · exact (sequenceType_keeps law inner).bind fun _ _ _ _ => mark
  · exact (genericType_keeps law inner name).bind fun _ _ _ _ => mark
  · exact (namedType_keeps law plain).bind fun _ _ _ _ => mark

/-! ## Attributes in brackets

Blocks in front of members and parameters are read for their modifiers and change nothing else.
Their entries are runs of balanced tokens, so here the proof looks into the stream itself: an entry
reads a token, or the loop over the entries of a block would not end. -/

/-- What reading an entry of a block comes to. -/
theorem memberAttribute_apply (l : LibraryId) (s : ReadState) :
    memberAttribute l s =
      if s.peek.category = .bracketClose then (.ok none, s.advance)
      else match Parser.balancedRun [.comma, .bracketClose] 0 s.rest with
        | (count, none) =>
          (.ok (some (memberModifier s.peek)),
            if (s.drop count).peek.category = .comma then (s.drop count).advance
            else s.drop count)
        | (count, some expectation) => Parser.expected expectation l (s.drop count) := by
  by_cases closes : s.peek.category = .bracketClose
  · simp [memberAttribute, Parser.bind_apply, Parser.accept, Parser.pure_apply, closes]
  · simp only [memberAttribute, Parser.bind_apply, Parser.accept, closes, if_false, Parser.peek,
      Parser.skipBalanced, Bool.false_eq_true]
    rcases Parser.balancedRun [.comma, .bracketClose] 0 s.rest with ⟨count, _ | expectation⟩
    · by_cases comma : (s.drop count).peek.category = .comma
      · simp [comma, Parser.pure_apply]
      · simp [comma, Parser.pure_apply]
    · rfl

/-- An entry reads a token: a run that stops at once stops at a comma, which is read then. -/
theorem memberAttribute_sim :
    K.Sim w n (fun o => o.isSome.toNat) same memberAttribute memberAttribute := by
  intro s₁ s₂ tokens _ _ holds _
  rw [memberAttribute_apply, memberAttribute_apply, tokens.peek, tokens.rest]
  by_cases closes : s₁.peek.category = .bracketClose
  · rw [if_pos closes, if_pos closes]
    exact .of_advance holds tokens (ReadState.rest_ne_nil_of_category (by simp [closes]))
      (Nat.zero_le _) rfl
  rw [if_neg closes, if_neg closes]
  have inside := Parser.balancedRun_le [.comma, .bracketClose] 0 s₁.rest
  -- without this an entry might read nothing, and the loop over entries would not end
  have stops : ∀ run, Parser.balancedRun [.comma, .bracketClose] 0 s₁.rest = run →
      run = (0, none) → s₁.peek.category = .comma := by
    rintro _ eq rfl
    cases rest : s₁.rest with
    | nil => simp [rest, Parser.balancedRun] at eq
    | cons t rest' =>
      rw [rest] at eq
      have stop := Parser.balancedRun_zero eq
      have here : s₁.peek = t := by simp [ReadState.peek, rest]
      rw [here] at closes ⊢
      simpa [closes] using stop
  have inside₂ : (Parser.balancedRun [.comma, .bracketClose] 0 s₁.rest).1 ≤ s₂.rest.length := by
    rw [tokens.rest]; exact inside
  have stops := stops _ rfl
  generalize Parser.balancedRun [.comma, .bracketClose] 0 s₁.rest = run at *
  obtain ⟨count, _ | expectation⟩ := run
  · have after₁ := ReadState.drop_after inside
    have after₂ := ReadState.drop_after inside₂
    have later := after₁.sameTokens after₂ tokens
    show K.Outcome s₁ s₂ _ same (_, _) (_, _)
    rw [later.peek]
    by_cases comma : (s₁.drop count).peek.category = .comma
    · have more : (s₁.drop count).rest ≠ [] :=
        ReadState.rest_ne_nil_of_category (by simp [comma])
      have more₂ : (s₂.drop count).rest ≠ [] := by rw [later.rest]; exact more
      rw [if_pos comma, if_pos comma]
      exact .of_tokens holds (after₁.trans (ReadState.advance_after more))
        (after₂.trans (ReadState.advance_after more₂)) (Nat.le_add_left _ _)
        (by simp) (by simp) rfl
    · rw [if_neg comma, if_neg comma]
      have some_read : count ≠ 0 := by
        rintro rfl
        exact comma (stops rfl)
      exact .of_tokens holds after₁ after₂ (Nat.one_le_iff_ne_zero.2 some_read)
        (by simp) (by simp) rfl
  · exact .of_drop_expected holds tokens inside _ _ _

/-- A block of member attributes reads its opening bracket, if it is there. -/
theorem memberAttributeBlock_sim :
    K.Sim w n (fun o => o.isSome.toNat) same memberAttributeBlock memberAttributeBlock := by
  refine (Sim.accept (by decide)).bind_reads ?_
  rintro _ opens _ - rfl
  cases opens with
  | true =>
    refine (Sim.collect_same memberAttribute_sim).bind ?_
    rintro _ found _ - rfl
    exact .answer rfl fun _ _ => rfl
  | false => exact .answer rfl fun _ _ => rfl

/-- The modifiers that the blocks of a member ask for are the same on both sides: they depend on
tokens only. -/
theorem memberAttributes_keeps : K.Keeps w n same memberAttributes memberAttributes := by
  refine (Sim.collect_same memberAttributeBlock_sim).bind ?_
  rintro _ blocks _ - rfl
  exact .answer rfl fun _ _ => rfl

/-- A block that is skipped is read to its closing bracket. -/
theorem skippedBlock_sim : K.Sim w n Bool.toNat same skippedBlock skippedBlock := by
  refine (Sim.accept (by decide)).bind_reads ?_
  rintro _ opens _ - rfl
  cases opens with
  | true =>
    refine (Sim.skipBalanced _).bind fun _ _ _ _ _ => ?_
    refine (Sim.require (by decide)).bind fun _ _ _ _ _ => ?_
    exact .answer rfl fun _ _ => rfl
  | false => exact .answer rfl fun _ _ => rfl

theorem skipAttributes_keeps : K.Keeps w n anything skipAttributes skipAttributes :=
  .repeatWhile skippedBlock_sim

/-! ## Parameters

Every parameter is noted as soon as it was read, which is the one action within a list. -/

/-- A parameter from its type on: the two differ in their types at most, which correspond. -/
theorem parameterTail_reads (law : K.LawfulParameters) (modifiers : Bool → Modifiers) :
    K.Reads w n (fun w' => Parameter.Corresponds (K.type w')) (parameterTail modifiers)
      (parameterTail modifiers) := by
  refine (typeReference_reads law.toLawfulTypes).bind_any ?_
  intro _ t u _ tu
  refine (Sim.accept (by decide)).bind ?_
  rintro _ isVariadic _ later rfl
  refine Sim.identifier.bind ?_
  rintro _ name _ later' ⟨rfl, -⟩
  -- with and without a default the answer is the same, so it is related once
  have result {w₁ n} (last : K.Later _ w₁) :
      K.Keeps w₁ n (fun w' => Parameter.Corresponds (K.type w'))
        (pure ⟨name, t, modifiers isVariadic⟩) (pure ⟨name, u, modifiers isVariadic⟩) :=
    .pure fun _ later'' => ⟨rfl, later''.type (last.type (later'.type (later.type tu))), rfl⟩
  refine (Sim.accept (by decide)).bind_if ?_ fun _ => result
  intro _ later''
  exact (Sim.skipBalanced _).bind fun _ _ _ last _ => result (later''.trans last)

/-- A whole parameter. The attributes, the word `optional` and the dots decide on its modifiers, on
both sides alike. -/
theorem parameter_reads (law : K.LawfulParameters) :
    K.Reads w n (fun w' => Parameter.Corresponds (K.type w')) parameter parameter := by
  refine memberAttributes_keeps.bind ?_
  rintro _ leading _ - rfl
  refine (Sim.acceptKeyword _).bind ?_
  rintro _ isOptional _ - rfl
  refine (Sim.atAnyKeyword _).bind ?_
  rintro _ isDirected _ - rfl
  -- a word for the direction is skipped; the rest of the parameter is the same with it and without
  have tail {w n} := memberAttributes_keeps.bind (K := K) (w := w) (n := n)
    fun _ trailing _ _ same => by
      obtain rfl := same
      exact parameterTail_reads law fun isVariadic =>
        leading ||| (if isOptional then Modifiers.optional else Modifiers.empty) |||
          trailing ||| (if isVariadic then Modifiers.variadic else Modifiers.empty)
  refine .ite (fun _ => ?_) (fun _ => tail)
  exact Sim.next.bind fun _ _ _ _ _ => tail

/-- A round of the list: a parameter is read and noted, unless the list ends here. -/
theorem listedParameter_sim (law : K.LawfulParameters) :
    K.Sim w n (fun o => o.isSome.toNat)
      (fun w' => Option.Rel (Parameter.Corresponds (K.type w'))) listedParameter
      listedParameter := by
  refine Sim.peekCategory.bind ?_
  rintro _ category _ - rfl
  refine .ite (fun _ => .answer rfl fun _ _ => .none) (fun _ => ?_)
  refine ((parameter_reads law).mono (fun _ => Nat.le_refl _) fun _ _ _ _ => id).bind_reads ?_
  intro _ p q _ pq
  refine (law.noteParameter pq).bind ?_
  intro _ _ _ later _
  -- after a comma, and at the end of the list, the parameter that was read is the answer
  have found {w₁ n} (last : K.Later _ w₁) :
      K.Sim w₁ n (fun o => o.isSome.toNat - 1)
        (fun w' => Option.Rel (Parameter.Corresponds (K.type w'))) (pure (some p))
        (pure (some q)) :=
    .answer (Sim.toNat_sub_one _) fun _ later' =>
      .some (pq.imp fun tu => later'.type (last.type (later.type tu)))
  refine (Sim.accept (by decide)).bind ?_
  rintro _ comma _ later' rfl
  refine .ite (fun _ => found later') (fun _ => ?_)
  refine Sim.peekCategory.bind ?_
  rintro _ category _ later'' rfl
  exact .ite (fun _ => found (later'.trans later'')) (fun _ => .expected _)

/-- The parameters of a list correspond one by one. What stands after `raises` adds nothing to
them. -/
theorem parameterList_reads (law : K.LawfulParameters) :
    K.Reads w n (fun w' => List.Forall₂ (Parameter.Corresponds (K.type w'))) parameterList
      parameterList := by
  refine (Sim.require (by decide)).bind_any ?_
  intro _ _ _ _ _
  refine (Sim.collect (R := fun w' => Parameter.Corresponds (K.type w'))
    (fun later related => related.imp later.type) (listedParameter_sim law)).bind ?_
  intro _ ps qs _ related
  refine (Sim.require (by decide)).bind ?_
  intro _ _ _ later _
  -- the parameters are the answer, whatever is skipped after them
  have result {w₁ n} (last : K.Later _ w₁) :
      K.Keeps w₁ n (fun w' => List.Forall₂ (Parameter.Corresponds (K.type w'))) (pure ps)
        (pure qs) :=
    .pure fun _ later' => related.imp fun _ _ h =>
      h.imp fun tu => later'.type (last.type (later.type tu))
  refine (Sim.acceptKeyword _).bind_if ?_ fun _ => result
  intro _ later₁
  refine (Sim.require (by decide)).bind fun _ _ _ later₂ _ => ?_
  refine (typeReference_reads law.toLawfulTypes).bind fun _ _ _ later₃ _ => ?_
  refine (Sim.require (by decide)).bind fun _ _ _ later₄ _ => ?_
  exact result (later₁.trans (later₂.trans (later₃.trans later₄)))

/-- Where no parenthesis stands, both sides have no parameters. -/
theorem parameterListIfAny_keeps (law : K.LawfulParameters) :
    K.Keeps w n (fun w' => List.Forall₂ (Parameter.Corresponds (K.type w'))) parameterListIfAny
      parameterListIfAny := by
  refine Sim.peekCategory.bind ?_
  rintro _ category _ - rfl
  exact .ite (fun _ => (parameterList_reads law).unread) (fun _ => .pure fun _ _ => .nil)

end Coupling

end IdlCatalog
