/-
# IdlCatalog.Proofs.Grammar.Lockstep.Members — members and attributes are read in step

The productions for properties, constants and operations, and the blocks of attributes in front of a
declaration. A member that was read is not in the catalog yet. So what two readings come to is a pair
of members that correspond to each other (`properties`, `operations`), and it is left to the
production around them to attach it.

The attributes of a declaration ask for a kind, for modifiers and for constructors. What two
readings of them ask for corresponds as well (`Requests`); in particular it is a kind that a
declaration gives, never one of a composite.
-/
import IdlCatalog.Proofs.Grammar.Lockstep.Types

namespace IdlCatalog

open Grammar

namespace Coupling

variable {K : Coupling} {w w' : Stores} {n : Nat}

/-! ## Members

A property has a type, and an operation may have one; both are built from what was read, with no
owner and no documentation, which they get when they are attached. -/

/-- Properties that correspond to each other. -/
def properties (K : Coupling) (w : Stores) (a b : Member) : Prop :=
  Member.Corresponds (K.type w) a b ∧ a.IsProperty

/-- Operations that correspond to each other. -/
def operations (K : Coupling) (w : Stores) (a b : Member) : Prop :=
  Member.Corresponds (K.type w) a b ∧ a.IsOperation

/-- Properties that correspond still do when more was read. -/
theorem properties.later {a b : Member} (h : K.properties w a b) (le : K.Later w w') :
    K.properties w' a b :=
  ⟨h.1.imp le.type, h.2⟩

/-- And so do operations. -/
theorem operations.later {a b : Member} (h : K.operations w a b) (le : K.Later w w') :
    K.operations w' a b :=
  ⟨h.1.imp le.type, h.2⟩

/-- Properties that were just read are of this sort. -/
theorem properties.of (name : String) {t u : TypeId} (tu : K.type w t u) (modifiers : Modifiers)
    (initial : Option String) :
    K.properties w (.property name t modifiers initial) (.property name u modifiers initial) :=
  ⟨.property tu modifiers initial, Member.isProperty_property _ _ _ _⟩

/-- And so are operations. -/
theorem operations.of (name : String) {t u : Option TypeId} {ps qs : List Parameter}
    (tu : Option.Rel (K.type w) t u) (modifiers : Modifiers)
    (related : List.Forall₂ (Parameter.Corresponds (K.type w)) ps qs) (specials : Specials) :
    K.operations w (.operation name t modifiers ps specials)
      (.operation name u modifiers qs specials) :=
  ⟨.operation tu modifiers related specials, Member.isOperation_operation _ _ _ _ _⟩

/-- The exceptions that may be raised are read and forgotten. -/
theorem skipRaises_keeps : K.Keeps w n anything skipRaises skipRaises := by
  refine (Sim.require (by decide)).bind fun _ _ _ _ _ => ?_
  refine Sim.identifier.bind fun _ _ _ _ _ => ?_
  refine (Sim.require (by decide)).bind fun _ _ _ _ _ => ?_
  exact .pure fun _ _ => trivial

/-- Two readings of an attribute come to properties that correspond. Whether it is read-only is seen
from the tokens. -/
theorem property_reads (law : K.LawfulActions) (modifiers : Modifiers) :
    K.Reads w n K.properties (property modifiers) (property modifiers) := by
  refine (Sim.acceptKeyword _).bind ?_
  rintro _ isReadOnly _ - rfl
  refine (Sim.requireKeyword _).bind_any ?_
  intro _ _ _ _ _
  refine (typeReference_reads law.toLawfulTypes).bind ?_
  intro _ t u _ tu
  refine Sim.identifier.bind ?_
  rintro w₁ name _ later ⟨rfl, -⟩
  have finish {w₂ n} (last : K.Later w₁ w₂) := (Sim.require (K := K) (w := w₂) (n := n)
    (by decide : Category.semicolon ≠ .eof)).bind (k := fun _ => 0) (W := K.properties)
    fun _ _ _ later' _ => .pure fun _ later'' =>
      properties.of name (later''.type (later'.type (last.type (later.type tu))))
        (modifiers ||| (if isReadOnly then Modifiers.readOnly else Modifiers.empty)) none
  refine (Sim.either (Sim.acceptKeyword _) (Sim.acceptKeyword _)).bind_if ?_ fun _ => finish
  intro _ later'
  exact skipRaises_keeps.bind fun _ _ _ later'' _ => finish (later'.trans later'')

/-- Two readings of a constant come to properties with the same initial text. -/
theorem constant_reads (law : K.LawfulActions) : K.Reads w n K.properties constant constant := by
  refine (Sim.requireKeyword _).bind_any ?_
  intro _ _ _ _ _
  refine (typeReference_reads law.toLawfulTypes).bind ?_
  intro _ t u _ tu
  refine Sim.identifier.bind ?_
  rintro w₁ name _ later ⟨rfl, -⟩
  refine (Sim.require (by decide)).bind fun _ _ _ later₁ _ => ?_
  refine Sim.rawUntilSemicolon.bind ?_
  rintro _ value _ later₂ rfl
  refine (Sim.require (by decide)).bind fun _ _ _ later₃ _ => ?_
  exact .pure fun _ later₄ => .of _ (later₄.type (later₃.type (later₂.type
    (later₁.type (later.type tu))))) _ _

/-- A special keyword is read if one stands here. -/
theorem specialKeyword_sim :
    K.Sim w n (fun o => o.isSome.toNat) same specialKeyword specialKeyword := by
  refine (Sim.atAnyKeyword _).bind ?_
  rintro _ special _ - rfl
  refine .ite (fun _ => ?_) (fun _ => .answer rfl fun _ _ => rfl)
  refine Sim.identifier.bind_reads ?_
  rintro _ word _ - ⟨rfl, -⟩
  exact .answer (Sim.toNat_sub_one _) fun _ _ => rfl

/-- `void` stands for no type on both sides. -/
theorem resultType_reads (law : K.LawfulActions) :
    K.Reads w n (fun w' => Option.Rel (K.type w')) resultType resultType := by
  refine (Sim.acceptKeyword _).bind_if ?_ ?_
  · intro _ _
    exact .pure fun _ _ => .none
  · intro _ _
    refine (typeReference_reads law.toLawfulTypes).bind_any ?_
    intro _ t u _ tu
    exact .pure fun _ later => .some (later.type tu)

/-- The name of an operation is read, or made of its special keywords where none stands. -/
theorem operationName_keeps (specials : List String) :
    K.Keeps w n same (operationName specials) (operationName specials) := by
  refine Sim.peekCategory.bind ?_
  rintro _ category _ - rfl
  refine .ite (fun _ => .pure fun _ _ => rfl) (fun _ => ?_)
  exact Sim.identifier.mono (fun _ => Nat.zero_le _) fun _ _ _ _ => And.left

/-- Whether the result is iterable does not depend on the side. -/
theorem isIterable_eq (law : K.LawfulActions) {t u : Option TypeId} (holds : K.holds w)
    (tu : Option.Rel (K.type w) t u) :
    isIterable w.first.catalog t = isIterable w.second.catalog u := by
  cases tu with
  | some tu => exact law.iterable holds tu
  | none => rfl

/-- Two readings of an operation come to operations that correspond, or both to none where the
result is iterable. -/
theorem operation_reads (law : K.LawfulActions) (modifiers : Modifiers) :
    K.Reads w n (fun w' => Option.Rel (K.operations w')) (operation modifiers)
      (operation modifiers) := by
  refine (Sim.collect_same specialKeyword_sim).bind ?_
  rintro _ specials _ - rfl
  refine (resultType_reads law).bind_any ?_
  intro _ t u _ tu
  -- the one question about a type that the grammar asks while it reads
  have question : K.Keeps _ n same (Parser.view (isIterable · t)) (Parser.view (isIterable · u)) :=
    .view fun _ later holds => isIterable_eq law holds (relatedOption_imp tu later.type)
  refine question.bind ?_
  rintro _ iterable _ later rfl
  refine .ite (fun _ => ?_) (fun _ => ?_)
  · exact (Sim.require (by decide)).bind fun _ _ _ _ _ => .pure fun _ _ => .none
  refine (operationName_keeps specials).bind ?_
  rintro _ name _ later₁ rfl
  refine (parameterList_reads law.toLawfulParameters).bind ?_
  intro _ ps qs later₂ related
  refine (Sim.require (by decide)).bind fun _ _ _ later₃ _ => ?_
  refine .pure fun _ later₄ => .some (.of _ ?_ _ ?_ _)
  · exact relatedOption_imp tu fun tu =>
      later₄.type (later₃.type (later₂.type (later₁.type (later.type tu))))
  · exact related.imp fun _ _ h => h.imp fun tu => later₄.type (later₃.type tu)

/-! ## Attributes before a declaration

An attribute of a declaration has an effect: a modifier, a kind, a constructor or nothing. Only
constructors have types in them, through their parameters. -/

/-- Effects of attributes that correspond to each other. -/
inductive Effects (K : Coupling) (w : Stores) : AttributeEffect → AttributeEffect → Prop
  | modifier (modifiers : Modifiers) : Effects K w (.modifier modifiers) (.modifier modifiers)
  | noInterfaceObject : Effects K w .noInterfaceObject .noInterfaceObject
  | global (primary : Bool) : Effects K w (.global primary) (.global primary)
  | constructor {a b : Member} (related : K.operations w a b) :
      Effects K w (.constructor a) (.constructor b)
  | nothing : Effects K w .nothing .nothing

/-- What attributes ask for, where it corresponds; the kind is one that a declaration gives. -/
structure Requests (K : Coupling) (w : Stores) (a b : DeclarationAttributes) : Prop where
  kind : a.kind = b.kind
  declared : (a.kind.getD .interface).IsDeclared
  modifiers : a.modifiers = b.modifiers
  constructors : List.Forall₂ (K.operations w) a.constructors b.constructors

/-- What attributes ask for still corresponds when more was read. -/
theorem Effects.later {a b : AttributeEffect} (h : K.Effects w a b) (le : K.Later w w') :
    K.Effects w' a b := by
  cases h with
  | modifier modifiers => exact .modifier modifiers
  | noInterfaceObject => exact .noInterfaceObject
  | global primary => exact .global primary
  | constructor related => exact .constructor (related.later le)
  | nothing => exact .nothing

/-- The same for all of them together. -/
theorem Requests.later {a b : DeclarationAttributes} (h : K.Requests w a b) (le : K.Later w w') :
    K.Requests w' a b :=
  ⟨h.kind, h.declared, h.modifiers, h.constructors.imp fun _ _ h => h.later le⟩

/-- One more effect is added on both sides alike. An attribute that hides the interface does not
replace a kind that another one gave. -/
theorem Requests.add {a b : DeclarationAttributes} {e f : AttributeEffect}
    (h : K.Requests w a b) (ef : K.Effects w e f) : K.Requests w (a.add e) (b.add f) := by
  cases ef with
  | modifier modifiers =>
    exact ⟨h.kind, h.declared, congrArg (· ||| modifiers) h.modifiers, h.constructors⟩
  | noInterfaceObject =>
    refine ⟨?_, ?_, h.modifiers, h.constructors⟩
    · simp only [DeclarationAttributes.add, h.kind]
    · have declared := h.declared
      simp only [DeclarationAttributes.add]
      split
      · exact declared
      · decide
  | global primary =>
    refine ⟨rfl, by show Kind.IsDeclared .global; decide, ?_, h.constructors⟩
    simp only [DeclarationAttributes.add, h.modifiers]
  | constructor related =>
    exact ⟨h.kind, h.declared, h.modifiers,
      List.rel_append h.constructors (.cons related .nil)⟩
  | nothing => exact h

/-- From the effects one by one to what they ask for together. -/
theorem requests_ofEffects {es fs : List AttributeEffect} (h : List.Forall₂ (K.Effects w) es fs) :
    K.Requests w (.ofEffects es) (.ofEffects fs) := by
  have fold : ∀ {a b}, K.Requests w a b →
      K.Requests w (es.foldl DeclarationAttributes.add a)
        (fs.foldl DeclarationAttributes.add b) := by
    induction h with
    | nil => exact id
    | cons ef _ ih => exact fun ab => ih (ab.add ef)
  exact fold ⟨rfl, by decide, rfl, .nil⟩

/-- A list of names is skipped, with its parentheses or without. -/
theorem skipNames_keeps : K.Keeps w n anything skipNames skipNames := by
  refine (Sim.accept (by decide)).bind ?_
  rintro _ opens _ - rfl
  refine .ite (fun _ => ?_) (fun _ => ?_)
  · refine (Sim.sepBy (R := anything) (fun _ _ => trivial) Sim.identifier.forget
      (Sim.accept (by decide))).bind fun _ _ _ _ _ => ?_
    exact Sim.require_last (by decide)
  · exact Sim.identifier.bind fun _ _ _ _ _ => .pure fun _ _ => trivial

/-- A value is skipped: tokens in parentheses, or one token. -/
theorem skipValue_keeps : K.Keeps w n anything skipValue skipValue := by
  refine Sim.peekCategory.bind ?_
  rintro _ category _ - rfl
  have one {w n} : K.Keeps w n anything (Parser.next >>= fun _ => pure ())
      (Parser.next >>= fun _ => pure ()) :=
    Sim.next.bind fun _ _ _ _ _ => .pure fun _ _ => trivial
  cases category with
  | parenthesisOpen => exact Sim.skipParenthesized.unread
  | word | string | number => exact one
  | _ => exact .expected (.phrase "extended attribute value")

/-- A constructor is an operation without a type whose name is known. -/
theorem constructorOf_keeps (law : K.LawfulParameters) (name : String) :
    K.Keeps w n K.Effects
      (return .constructor (Member.ofConstructor name (← parameterListIfAny)))
      (return .constructor (Member.ofConstructor name (← parameterListIfAny))) := by
  refine (parameterListIfAny_keeps law).bind ?_
  intro _ ps qs _ related
  exact .pure fun _ later =>
    .constructor (.of _ .none _ (related.imp fun _ _ h => h.imp later.type) _)

/-- What is read after the name of an attribute depends on the attribute only. -/
theorem attributeEffect_keeps (law : K.LawfulParameters) (action : AttributeAction) :
    K.Keeps w n K.Effects (attributeEffect action) (attributeEffect action) := by
  have nothing {w n} : K.Keeps w n K.Effects (pure .nothing) (pure .nothing) :=
    .pure fun _ _ => .nothing
  cases action with
  | modifier modifiers => exact .pure fun _ _ => .modifier modifiers
  | noInterfaceObject => exact .pure fun _ _ => .noInterfaceObject
  | global primary =>
    have result {w n} : K.Keeps w n K.Effects (pure (.global primary)) (pure (.global primary)) :=
      .pure fun _ _ => .global primary
    refine (Sim.accept (by decide)).bind ?_
    rintro _ equals _ - rfl
    exact .ite (fun _ => skipNames_keeps.bind fun _ _ _ _ _ => result) (fun _ => result)
  | constructor => exact constructorOf_keeps law ""
  | namedConstructor =>
    refine (Sim.require (by decide)).bind fun _ _ _ _ _ => ?_
    refine Sim.identifier.bind ?_
    rintro _ name _ - ⟨rfl, -⟩
    exact constructorOf_keeps law name
  | exposed =>
    refine (Sim.require (by decide)).bind fun _ _ _ _ _ => ?_
    exact skipNames_keeps.bind fun _ _ _ _ _ => nothing
  | ignore => exact nothing
  | ignoreWithValue =>
    refine (Sim.accept (by decide)).bind ?_
    rintro _ equals _ - rfl
    refine .ite (fun _ => ?_) (fun _ => nothing)
    exact (Sim.sepBy (R := anything) (fun _ _ => trivial) skipValue_keeps
      (Sim.either (Sim.accept (by decide)) (Sim.accept (by decide)))).bind fun _ _ _ _ _ => nothing
  | ignoreWithArguments =>
    refine Sim.peekCategory.bind ?_
    rintro _ category _ - rfl
    refine .ite (fun _ => ?_) (fun _ => nothing)
    exact Sim.skipParenthesized.bind fun _ _ _ _ _ => nothing

/-- A name that the table knows decides what is read after it. -/
theorem namedAttribute_known {l : LibraryId} {s : ReadState} {action : AttributeAction}
    (word : s.peek.category = .word)
    (known : AttributeAction.ofName? s.peek.text = some action) :
    namedAttribute l s = attributeEffect action l s.advance := by
  simp only [namedAttribute, Parser.bind_apply, Parser.position, Parser.require, word, if_true,
    Parser.next, known]

/-- A name that the table does not know is refused where it stands. -/
theorem namedAttribute_unknown {l : LibraryId} {s : ReadState} (word : s.peek.category = .word)
    (unknown : AttributeAction.ofName? s.peek.text = none) :
    namedAttribute l s =
      (.error (.malformed ⟨.knownAttribute, s.position, s.peek⟩), s.advance) := by
  simp only [namedAttribute, Parser.bind_apply, Parser.position, Parser.require, word, if_true,
    Parser.next, unknown]
  rfl

/-- An attribute starts with a name. -/
theorem namedAttribute_other {l : LibraryId} {s : ReadState} (other : s.peek.category ≠ .word) :
    namedAttribute l s = Parser.expected (.token .word) l s := by
  simp [namedAttribute, Parser.bind_apply, Parser.position, Parser.require, other, Parser.expected]

/-- Two readings look the same name up in the same table, so they go the same way. The fault for an
unknown name shows the token before the one at which it is noticed, so the proof looks into the
stream. -/
theorem namedAttribute_keeps (law : K.LawfulParameters) :
    K.Keeps w n K.Effects namedAttribute namedAttribute := by
  intro s₁ s₂ tokens plain left holds later
  have peek : s₂.peek = s₁.peek := tokens.peek
  by_cases word : s₁.peek.category = .word
  · have inside : s₁.rest ≠ [] := ReadState.rest_ne_nil_of_category (by simp [word])
    have after₁ := ReadState.advance_after inside
    have after₂ := ReadState.advance_after (s := s₂) (by rw [tokens.rest]; exact inside)
    have same : Stores.of s₁.advance s₂.advance = .of s₁ s₂ := by simp [Stores.of]
    cases known : AttributeAction.ofName? s₁.peek.text with
    | none =>
      rw [namedAttribute_unknown word known, namedAttribute_unknown (peek ▸ word) (peek ▸ known),
        peek, tokens.position]
      exact .error after₁ after₂ (.malformed (ReadState.shows_here s₁ .knownAttribute))
        (by rw [same]; exact holds)
    | some action =>
      rw [namedAttribute_known word known, namedAttribute_known (peek ▸ word) (peek ▸ known)]
      have fewer := after₁.left
      have effect := attributeEffect_keeps (w := .of s₁ s₂) (n := n) law action s₁.advance
        s₂.advance (after₁.sameTokens after₂ tokens) (after₁.plain plain) (by omega)
        (by rw [same]; exact holds) (by rw [same]; exact .refl _)
      exact (effect.from_after after₁ after₂ (by rw [same]; exact .refl _)).fewer
        fun _ => Nat.zero_le _
  · rw [namedAttribute_other word, namedAttribute_other (peek ▸ word)]
    exact Sim.expected _ s₁ s₂ tokens plain left holds later

/-- A block of attributes reads its opening bracket, if it is there. -/
theorem attributeBlock_sim (law : K.LawfulParameters) :
    K.Sim w n (fun o => o.isSome.toNat) (fun w' => Option.Rel (List.Forall₂ (K.Effects w')))
      attributeBlock attributeBlock := by
  refine (Sim.accept (by decide)).bind_reads ?_
  rintro _ opens _ - rfl
  cases opens with
  | true =>
    refine (Sim.sepBy (R := K.Effects) (fun later h => h.later later) (namedAttribute_keeps law)
      (Sim.accept (by decide))).bind ?_
    intro _ es fs _ related
    refine (Sim.require (by decide)).bind fun _ _ _ later _ => ?_
    exact .answer rfl fun _ later' =>
      .some (related.imp fun _ _ h => h.later (later.trans later'))
  | false => exact .answer rfl fun _ _ => .none

/-- What the blocks before a declaration ask for corresponds. -/
theorem declarationAttributes_keeps (law : K.LawfulParameters) :
    K.Keeps w n K.Requests declarationAttributes declarationAttributes := by
  refine (Sim.collect (R := fun w' => List.Forall₂ (K.Effects w'))
    (fun later related => related.imp fun _ _ h => h.later later) (attributeBlock_sim law)).bind ?_
  intro _ es fs _ related
  exact .pure fun _ later => requests_ofEffects
    (List.rel_flatten (related.imp fun _ _ h => h.imp fun _ _ h => h.later later))

end Coupling

end IdlCatalog
