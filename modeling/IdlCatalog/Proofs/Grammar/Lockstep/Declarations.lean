/-
# IdlCatalog.Proofs.Grammar.Lockstep.Declarations — declarations are read in step

The productions for declared types other than interfaces. Each of them declares a name, and the two
types for it correspond by `K.named` from there on: what stands in the body is attached to them.
Since types keep corresponding while more is read, a proof carries the correspondence along through
the tokens of the body, as `later.named`.
-/
import IdlCatalog.Proofs.Grammar.Lockstep.Members

namespace IdlCatalog

open Grammar

namespace Coupling

variable {K : Coupling} {w w' : Stores} {n : Nat}

/-! ## Declarations

A declared name, a few tokens, and what they ask for. The productions differ in the action at the
end. -/

/-- A name is read and declared. The two types for it correspond as declared ones. -/
theorem declaredType_reads (law : K.LawfulActions) {kind : Kind} (reopens : Bool)
    (declared : kind.IsDeclared) :
    K.Reads w n K.named (declaredType kind reopens) (declaredType kind reopens) := by
  rw [declaredType_eq]
  refine Sim.identifier.bind_any ?_
  rintro _ name _ - ⟨rfl, plain⟩
  exact law.declareNamed reopens declared plain

/-- A typedef gives the declared type its target. -/
theorem typedef_reads (law : K.LawfulActions) : K.Reads w n anything typedef typedef := by
  refine (Sim.requireKeyword _).bind_any fun _ _ _ _ _ => ?_
  refine skipAttributes_keeps.bind fun _ _ _ _ _ => ?_
  refine (typeReference_reads law.toLawfulTypes).bind ?_
  intro _ target₁ target₂ _ targets
  refine (declaredType_reads law _ (by decide)).bind ?_
  intro _ t u later tu
  refine (law.setTarget tu (later.type targets)).bind fun _ _ _ _ _ => ?_
  exact Sim.require_last (by decide)

/-- So does a value type, where the target stands after the name. -/
theorem valueType_reads (law : K.LawfulActions) : K.Reads w n anything valueType valueType := by
  refine (Sim.requireKeyword _).bind_any fun _ _ _ _ _ => ?_
  refine (declaredType_reads law _ (by decide)).bind ?_
  intro _ t u _ tu
  refine (typeReference_reads law.toLawfulTypes).bind ?_
  intro _ target₁ target₂ later targets
  refine (law.setTarget (later.named tu) targets).bind fun _ _ _ _ _ => ?_
  exact Sim.require_last (by decide)

/-- A literal is read and added, unless the list ends here. -/
theorem enumerationLiteral_sim (law : K.LawfulActions) {t u : TypeId} (tu : K.named w t u) :
    K.Sim w n Bool.toNat same (enumerationLiteral t) (enumerationLiteral u) := by
  refine Sim.peekCategory.bind ?_
  rintro _ category _ later rfl
  refine .ite (fun _ => .answer rfl fun _ _ => rfl) (fun _ => ?_)
  refine (Sim.require (by decide)).bind_reads ?_
  rintro _ literal _ later' rfl
  refine (law.addLiteral literal.value (later'.named (later.named tu))).bind fun _ _ _ _ _ => ?_
  exact (Sim.accept (by decide)).mono (fun _ => Nat.sub_le _ _) fun _ _ _ _ => id

/-- An enumeration declares its name and adds literals to it. -/
theorem enumeration_reads (law : K.LawfulActions) :
    K.Reads w n anything enumeration enumeration := by
  refine (Sim.requireKeyword _).bind_any fun _ _ _ _ _ => ?_
  refine (declaredType_reads law _ (by decide)).bind ?_
  intro _ t u _ tu
  refine (Sim.require (by decide)).bind fun _ _ _ later _ => ?_
  refine (Sim.repeatWhile (enumerationLiteral_sim law (later.named tu))).bind fun _ _ _ _ _ => ?_
  refine (Sim.require (by decide)).bind fun _ _ _ _ _ => ?_
  exact Sim.require_last (by decide)

/-- An implements statement adds one type to another. Both are references, so this is the one place
where a type gets a mixin without being declared here. -/
theorem implementsStatement_reads (law : K.LawfulActions) :
    K.Reads w n anything implementsStatement implementsStatement := by
  refine (typeReference_reads law.toLawfulTypes).bind_any ?_
  intro _ t u _ tu
  refine (Sim.either (Sim.acceptKeyword _) (Sim.acceptKeyword _)).bind ?_
  rintro _ found _ later rfl
  refine .ite (fun _ => ?_) (fun _ => .expected _)
  refine (typeReference_reads law.toLawfulTypes).bind ?_
  intro _ base₁ base₂ later' bases
  refine (law.addImplements (.inl (later'.type (later.type tu))) bases).bind fun _ _ _ _ _ => ?_
  exact Sim.require_last (by decide)

/-- The name of a declared type is the same on both sides. -/
theorem typeName_keeps (law : K.LawfulActions) {t u : TypeId} (tu : K.named w t u) :
    K.Keeps w n same (Parser.view (·.typeName t)) (Parser.view (·.typeName u)) :=
  .view fun _ later holds => law.typeName holds (later.named tu)

/-- The operation of a callback function is called like the function. -/
theorem callbackOperation_reads (law : K.LawfulActions) {t u : TypeId} (tu : K.named w t u) :
    K.Reads w n K.operations (callbackOperation t) (callbackOperation u) := by
  refine (Sim.require (by decide)).bind_any fun _ _ _ later₁ _ => ?_
  refine (resultType_reads law).bind ?_
  intro _ result₁ result₂ later₂ results
  refine (typeName_keeps law (later₂.named (later₁.named tu))).bind ?_
  rintro _ name _ later₃ rfl
  refine (parameterList_reads law.toLawfulParameters).bind ?_
  intro _ ps qs later₄ related
  refine (Sim.require (by decide)).bind fun _ _ _ later₅ _ => ?_
  refine .pure fun _ later₆ => .of _ ?_ _ ?_ _
  · exact relatedOption_imp results fun tu =>
      later₆.type (later₅.type (later₄.type (later₃.type tu)))
  · exact related.imp fun _ _ h => h.imp fun tu => later₆.type (later₅.type tu)

/-- It is attached to the type of the function. -/
theorem callbackBody_reads (law : K.Lawful) {t u : TypeId} (tu : K.named w t u) :
    K.Reads w n K.named (callbackBody t) (callbackBody u) := by
  refine (callbackOperation_reads law.toLawfulActions tu).bind_any fun _ a b later ab => ?_
  refine (law.attachOperation (later.named tu) ab.1 ab.2).bind fun _ _ _ later' _ => ?_
  exact .pure fun _ later'' => later''.named (later'.named (later.named tu))

/-- An operation is attached to its type if it was one. -/
theorem overload_reads (law : K.Lawful) {t u : TypeId} (modifiers : Modifiers)
    (tu : K.named w t u) :
    K.Reads w n anything (operation modifiers >>= attachIfAny t)
      (operation modifiers >>= attachIfAny u) := by
  refine (operation_reads law.toLawfulActions modifiers).bind_any ?_
  rintro _ _ _ later (@⟨a, b, ab⟩ | _)
  · exact law.attachOverload (later.named tu) ab.1 ab.2
  · exact .pure fun _ _ => trivial

/-- Where it is enough that operations correspond, they may be attached. -/
theorem Lawful.readings (law : K.Lawful) : K.LawfulReadings where
  toLawfulActions := law.toLawfulActions
  overload := overload_reads law
  callback := callbackBody_reads law

/-- A callback function declares its name and is read to its semicolon. -/
theorem callbackFunction_reads (law : K.LawfulReadings) :
    K.Reads w n K.named callbackFunction callbackFunction := by
  rw [callbackFunction_eq]
  refine (declaredType_reads law.toLawfulActions _ (by decide)).bind_any ?_
  intro _ t u _ tu
  exact (law.callback tu).unread

/-! ## Bodies

A body is a loop over its entries. What holds of the body is shown for an entry, in any state that
comes after the declaration. -/

/-- A round over a body in braces goes on only if an entry was read. -/
theorem bodyRound_sim {entry₁ entry₂ : Parser Unit}
    (h : ∀ {w'}, K.Later w w' → K.Reads w' n anything entry₁ entry₂) :
    K.Sim w n Bool.toNat same (bodyRound entry₁) (bodyRound entry₂) := by
  refine (Sim.accept (by decide)).bind ?_
  rintro _ closes _ later rfl
  refine .ite (fun _ => .answer rfl fun _ _ => rfl) (fun _ => ?_)
  refine Sim.peekCategory.bind ?_
  rintro _ category _ later' rfl
  have one {w'} (le : K.Later w w') : K.Sim w' n Bool.toNat same (entry₁ >>= fun _ => pure true)
      (entry₂ >>= fun _ => pure true) :=
    (h le).bind_reads fun _ _ _ _ _ => .answer rfl fun _ _ => rfl
  refine .ite (fun _ => ?_) (fun _ => one (later.trans later'))
  -- the end of the input within a body is refused, so no answers need to correspond
  exact (Sim.expected (r := fun _ => 0) (V := fun _ _ _ => False) _).bind
    fun _ _ _ _ impossible => impossible.elim

/-- A body is in step if its entries are. -/
theorem bodyOf_keeps {entry₁ entry₂ : Parser Unit}
    (h : ∀ {w'}, K.Later w w' → K.Reads w' n anything entry₁ entry₂) :
    K.Keeps w n anything (bodyOf entry₁) (bodyOf entry₂) :=
  .repeatWhile (bodyRound_sim h)

/-- A super type is given where a colon stands. -/
theorem superTypeIfAny_keeps (law : K.LawfulActions) {t u : TypeId} (tu : K.named w t u) :
    K.Keeps w n anything (superTypeIfAny t) (superTypeIfAny u) := by
  refine (Sim.accept (by decide)).bind ?_
  rintro _ colon _ later rfl
  refine .ite (fun _ => ?_) (fun _ => .pure fun _ _ => trivial)
  refine (typeReference_reads law.toLawfulTypes).bind ?_
  intro _ target₁ target₂ later' targets
  exact law.giveSuperType (later'.named (later.named tu)) targets

/-- A field of an exception is a property, as a constant is. -/
theorem exceptionField_reads (law : K.LawfulActions) :
    K.Reads w n K.properties exceptionField exceptionField := by
  refine (Sim.atKeyword _).bind ?_
  rintro _ const _ - rfl
  refine .ite (fun _ => constant_reads law) (fun _ => ?_)
  refine (typeReference_reads law.toLawfulTypes).bind_any ?_
  intro _ t u _ tu
  refine Sim.identifier.bind ?_
  rintro _ name _ later ⟨rfl, -⟩
  refine (Sim.require (by decide)).bind fun _ _ _ later' _ => ?_
  exact .pure fun _ later'' => .of _ (later''.type (later'.type (later.type tu))) _ _

/-- A round over the fields of an exception. -/
theorem exceptionRound_sim (law : K.LawfulActions) {t u : TypeId} (tu : K.named w t u) :
    K.Sim w n Bool.toNat same (exceptionRound t) (exceptionRound u) := by
  refine Sim.peekCategory.bind ?_
  rintro _ category _ later rfl
  refine .ite (fun _ => .answer rfl fun _ _ => rfl) (fun _ => ?_)
  refine (exceptionField_reads law).bind_reads ?_
  intro _ a b later' ab
  refine (law.attachProperty (later'.named (later.named tu)) ab.1 ab.2).bind fun _ _ _ _ _ => ?_
  exact .answer rfl fun _ _ => rfl

/-- An exception declares its name and attaches its fields to it. -/
theorem exception_reads (law : K.LawfulActions) : K.Reads w n K.named exception exception := by
  refine (Sim.requireKeyword _).bind_any fun _ _ _ _ _ => ?_
  refine (declaredType_reads law _ (by decide)).bind ?_
  intro _ t u _ tu
  refine (superTypeIfAny_keeps law tu).bind fun _ _ _ later₁ _ => ?_
  refine (Sim.require (by decide)).bind fun w₂ _ _ later₂ _ => ?_
  have tu₂ : K.named w₂ t u := later₂.named (later₁.named tu)
  refine (Sim.repeatWhile (exceptionRound_sim law tu₂)).bind fun _ _ _ later₃ _ => ?_
  refine (Sim.require (by decide)).bind fun _ _ _ later₄ _ => ?_
  refine (Sim.require (by decide)).bind fun _ _ _ later₅ _ => ?_
  exact .pure fun _ later₆ =>
    later₆.named (later₅.named (later₄.named (later₃.named tu₂)))

/-- The default of a dictionary entry is a text, the same on both sides. -/
theorem defaultIfAny_keeps : K.Keeps w n same defaultIfAny defaultIfAny := by
  refine (Sim.accept (by decide)).bind ?_
  rintro _ equals _ - rfl
  refine .ite (fun _ => ?_) (fun _ => .pure fun _ _ => rfl)
  refine Sim.rawUntilSemicolon.bind ?_
  rintro _ value _ - rfl
  exact .pure fun _ _ => rfl

/-- An entry of a dictionary is attached as a property. -/
theorem dictionaryEntry_reads (law : K.LawfulActions) {t u : TypeId} (tu : K.named w t u) :
    K.Reads w n anything (dictionaryEntry t) (dictionaryEntry u) := by
  refine skipAttributes_keeps.bind fun _ _ _ later₁ _ => ?_
  refine (Sim.acceptKeyword _).bind fun _ _ _ later₂ _ => ?_
  refine (typeReference_reads law.toLawfulTypes).bind_any ?_
  intro _ type₁ type₂ later₃ types
  refine Sim.identifier.bind ?_
  rintro _ name _ later₄ ⟨rfl, -⟩
  refine defaultIfAny_keeps.bind ?_
  rintro _ initial _ later₅ rfl
  refine (Sim.require (by decide)).bind fun _ _ _ later₆ _ => ?_
  have tu₆ := later₆.named (later₅.named (later₄.named (later₃.named (later₂.named
    (later₁.named tu)))))
  have member := properties.of name (later₆.type (later₅.type (later₄.type types)))
    Modifiers.empty initial
  exact law.attachProperty tu₆ member.1 member.2

/-- A dictionary declares its name and attaches its entries to it. -/
theorem dictionary_reads (law : K.LawfulActions) (reopens : Bool) :
    K.Reads w n K.named (dictionary reopens) (dictionary reopens) := by
  refine (Sim.requireKeyword _).bind_any fun _ _ _ _ _ => ?_
  refine (declaredType_reads law _ (by decide)).bind ?_
  intro _ t u _ tu
  refine (superTypeIfAny_keeps law tu).bind fun _ _ _ later₁ _ => ?_
  refine (Sim.require (by decide)).bind fun w₂ _ _ later₂ _ => ?_
  have tu₂ : K.named w₂ t u := later₂.named (later₁.named tu)
  refine (bodyOf_keeps fun later => dictionaryEntry_reads law (later.named tu₂)).bind
    fun _ _ _ later₃ _ => ?_
  refine (Sim.require (by decide)).bind fun _ _ _ later₄ _ => ?_
  exact .pure fun _ later₅ => later₅.named (later₄.named (later₃.named tu₂))

end Coupling

end IdlCatalog
