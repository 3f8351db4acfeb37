/-
# IdlCatalog.Proofs.Grammar.Lockstep — the grammar keeps every lawful coupling

A coupling is lawful if each action of the grammar on the catalog keeps it: resolving a name,
creating a composite, declaring a name, attaching a member and a few more. The modules under
`Lockstep` go through the productions once, from names up to interfaces, and here they are put
together: two readings of a whole description keep every lawful coupling. A property of readings is
proved by saying which relation it is and checking the actions.

The proofs follow the productions line by line. A `bind` in a production is a `bind` in its proof, a
test is an `ite` or a `bind_if`, a loop a `repeatWhile` or a `collect`. What is left over in each step
is that what corresponded before still does.
-/
import IdlCatalog.Ingest
import IdlCatalog.Proofs.Grammar.Lockstep.Declarations

namespace IdlCatalog

open Grammar

namespace Coupling

variable {K : Coupling} {w w' : Stores} {n : Nat}

/-! ## Interfaces

Interfaces hold all sorts of members, nested typedefs among them. -/

/-- A constructor in a body is called like its type, on both sides alike. -/
theorem constructorMember_keeps (law : K.LawfulActions) {t u : TypeId} (tu : K.named w t u) :
    K.Keeps w n anything (constructorMember t) (constructorMember u) := by
  refine (typeName_keeps law tu).bind ?_
  rintro _ name _ later₁ rfl
  refine (parameterList_reads law.toLawfulParameters).bind ?_
  intro _ ps qs later₂ related
  refine (Sim.require (by decide)).bind fun _ _ _ later₃ _ => ?_
  have member := operations.of (K := K) name .none Modifiers.constructor
    (related.imp fun _ _ h => h.imp later₃.type) Specials.empty
  exact law.attachConstructor (later₃.named (later₂.named (later₁.named tu))) member.1 member.2

/-- A member after its attributes and the words `static` and `inherit`. Which sort it is depends on
the next word. -/
theorem interfaceMemberNamed_reads (law : K.LawfulReadings) {t u : TypeId} (tu : K.named w t u)
    (modifiers : Modifiers) :
    K.Reads w n anything (interfaceMemberNamed t modifiers) (interfaceMemberNamed u modifiers) := by
  refine (Sim.atAnyKeyword _).bind ?_
  rintro _ isProperty _ later₁ rfl
  refine .ite (fun _ => ?_) (fun _ => ?_)
  · refine (property_reads law.toLawfulActions modifiers).bind_any ?_
    intro _ a b later ab
    exact law.attachProperty (later.named (later₁.named tu)) ab.1 ab.2
  refine (Sim.atKeyword _).bind ?_
  rintro _ isConstant _ later₂ rfl
  refine .ite (fun _ => ?_) (fun _ => ?_)
  · refine (constant_reads law.toLawfulActions).bind_any ?_
    intro _ a b later ab
    have related : Member.Corresponds _ { a with modifiers := a.modifiers ||| modifiers }
        { b with modifiers := b.modifiers ||| modifiers } :=
      { ab.1 with modifiers := congrArg (· ||| modifiers) ab.1.modifiers }
    exact law.attachProperty (later.named (later₂.named (later₁.named tu))) related ab.2
  refine (Sim.acceptKeyword _).bind_if ?_ ?_
  · intro _ _
    refine (Sim.skipBalanced _).bind fun _ _ _ _ _ => ?_
    exact Sim.require_last (by decide)
  intro _ later₃
  refine (Sim.atKeyword _).bind ?_
  rintro _ isTypedef _ later₄ rfl
  refine .ite (fun _ => typedef_reads law.toLawfulActions) (fun _ => ?_)
  have tu₄ := later₄.named (later₃.named (later₂.named (later₁.named tu)))
  refine (Sim.acceptKeyword _).bind_if ?_ ?_
  · intro _ later
    exact constructorMember_keeps law.toLawfulActions (later.named tu₄)
  intro _ later₅
  exact law.overload modifiers (later₅.named tu₄)

/-- A member from its attributes on. The modifiers that it is attached with are seen from the
tokens. -/
theorem interfaceMember_reads (law : K.LawfulReadings) {t u : TypeId} (tu : K.named w t u) :
    K.Reads w n anything (interfaceMember t) (interfaceMember u) := by
  refine memberAttributes_keeps.bind ?_
  rintro _ attributes _ later₁ rfl
  refine (Sim.acceptKeyword _).bind ?_
  rintro w₂ isStatic _ later₂ rfl
  -- what follows is the same after `stringifier` and without it
  have rest {w' n} (le : K.Later w₂ w') : K.Reads w' n anything _ _ :=
    (Sim.acceptKeyword "inherit").bind fun _ _ _ later _ =>
      interfaceMemberNamed_reads law (later.named (le.named (later₂.named (later₁.named tu))))
        (attributes ||| (if isStatic then Modifiers.static else Modifiers.empty))
  refine (Sim.acceptKeyword _).bind_if ?_ fun _ => rest
  intro _ later₃
  refine (Sim.accept (by decide)).bind ?_
  rintro _ semicolon _ later₄ rfl
  exact .ite (fun _ => .pure fun _ _ => trivial) (fun _ => (rest (later₃.trans later₄)).unread)

/-- A mixin in the list of an interface is added to the declared type. -/
theorem listedMixin_sim (law : K.LawfulActions) {t u : TypeId} (tu : K.named w t u) :
    K.Sim w n Bool.toNat same (listedMixin t) (listedMixin u) := by
  refine Sim.next.bind fun _ _ _ later₁ _ => ?_
  refine (typeReference_reads law.toLawfulTypes).bind_reads ?_
  intro _ base₁ base₂ later₂ bases
  refine (law.addImplements (.inr (later₂.named (later₁.named tu))) bases).bind
    fun _ _ _ _ _ => ?_
  refine Sim.peekCategory.bind ?_
  rintro _ category _ - rfl
  exact .answer (Sim.toNat_sub_one _) fun _ _ => rfl

/-- All of them. -/
theorem listedMixins_keeps (law : K.LawfulActions) {t u : TypeId} (tu : K.named w t u) :
    K.Keeps w n anything (listedMixins t) (listedMixins u) := by
  refine (Sim.atKeyword _).bind ?_
  rintro _ word _ later rfl
  refine Sim.peekCategory.bind ?_
  rintro _ category _ later' rfl
  refine .ite (fun _ => ?_) (fun _ => .pure fun _ _ => trivial)
  exact .repeatWhile (listedMixin_sim law (later'.named (later.named tu)))

/-- A super type comes before the mixins. -/
theorem interfaceClauses_keeps (law : K.LawfulActions) {t u : TypeId} (tu : K.named w t u) :
    K.Keeps w n anything (interfaceClauses t) (interfaceClauses u) := by
  refine (Sim.either (Sim.accept (by decide)) (Sim.acceptKeyword _)).bind ?_
  rintro _ extends_ _ later₁ rfl
  refine .ite (fun _ => ?_) (fun _ => listedMixins_keeps law (later₁.named tu))
  refine (typeReference_reads law.toLawfulTypes).bind ?_
  intro _ target₁ target₂ later₂ targets
  refine (law.giveSuperType (later₂.named (later₁.named tu)) targets).bind
    fun _ _ _ later₃ _ => ?_
  exact listedMixins_keeps law (later₃.named (later₂.named (later₁.named tu)))

/-- An interface declares its name and reads its clauses and its body for it. An interface without a
body ends with a semicolon. -/
theorem interface_reads (law : K.LawfulReadings) {kind : Kind} (reopens : Bool)
    (declared : kind.IsDeclared) :
    K.Reads w n K.named (interface kind reopens) (interface kind reopens) := by
  refine Sim.next.bind fun _ _ _ _ _ => ?_
  refine (Sim.acceptKeyword _).bind ?_
  rintro _ isMixin _ - rfl
  have kind_declared : Kind.IsDeclared (if isMixin then .noInterfaceObject else kind) := by
    split
    · decide
    · exact declared
  refine (declaredType_reads law.toLawfulActions reopens kind_declared).bind_any ?_
  intro _ t u _ tu
  refine (interfaceClauses_keeps law.toLawfulActions tu).bind fun _ _ _ later₁ _ => ?_
  refine (Sim.accept (by decide)).bind ?_
  rintro _ semicolon _ later₂ rfl
  have tu₂ := later₂.named (later₁.named tu)
  refine .ite (fun _ => .pure fun _ later => later.named tu₂) (fun _ => ?_)
  refine (Sim.require (by decide)).bind fun _ _ _ later₃ _ => ?_
  refine (bodyOf_keeps fun later =>
    interfaceMember_reads law (later.named (later₃.named tu₂))).bind fun _ _ _ later₄ _ => ?_
  refine (Sim.accept (by decide)).bind fun _ _ _ later₅ _ => ?_
  exact .pure fun _ later₆ => later₆.named (later₅.named (later₄.named (later₃.named tu₂)))

/-! ## Declarations with attributes

The attributes in front of a declaration were read before its name was known. They are applied when
it was read to its end. -/

/-- The constructors that attributes asked for are attached one after the other. -/
theorem attachConstructors_keeps (law : K.LawfulActions) {t u : TypeId} (tu : K.named w t u)
    {as bs : List Member} (related : List.Forall₂ (K.operations w) as bs) :
    K.Keeps w n anything (attachConstructors t as) (attachConstructors u bs) := by
  -- on the constructors; the name of the type is looked up for each of them
  induction as generalizing w bs with
  | nil =>
    cases related
    exact .pure fun _ _ => trivial
  | cons a as ih =>
    obtain _ | @⟨_, b, _, bs, ab, related⟩ := related
    refine (typeName_keeps law tu).bind ?_
    rintro w₁ name _ later₁ rfl
    -- constructors without a name are called like their type, and so alike on both sides
    have member : K.operations w₁ (if a.name.isEmpty then { a with name } else a)
        (if b.name.isEmpty then { b with name } else b) := by
      have ab₁ := ab.later later₁
      rw [← ab₁.1.name]
      split
      · exact ⟨{ ab₁.1 with name := rfl }, ab₁.2⟩
      · exact ab₁
    refine (law.attachConstructor (later₁.named tu) member.1 member.2).bind
      fun _ _ _ later₂ _ => ?_
    exact ih (later₂.named (later₁.named tu))
      (related.imp fun _ _ h => (h.later later₁).later later₂)

/-- What attributes ask for is done to the declared type at the end. -/
theorem applyAttributes_keeps (law : K.LawfulActions) {t u : TypeId} (tu : K.named w t u)
    {a b : DeclarationAttributes} (ab : K.Requests w a b) :
    K.Keeps w n anything (applyAttributes a t) (applyAttributes b u) := by
  refine (attachConstructors_keeps law tu ab.constructors).bind fun _ _ _ later _ => ?_
  rw [ab.modifiers]
  exact .ite (fun _ => law.addModifiers b.modifiers (later.named tu)) (fun _ => .pure fun _ _ =>
    trivial)

/-- An interface, an exception or a dictionary, depending on the next word. -/
theorem attributedType_reads (law : K.LawfulReadings) {kind : Kind} (reopens : Bool)
    (declared : kind.IsDeclared) :
    K.Reads w n K.named (attributedType kind reopens) (attributedType kind reopens) := by
  refine (Sim.atAnyKeyword _).bind ?_
  rintro _ isInterface _ - rfl
  refine .ite (fun _ => interface_reads law reopens declared) (fun _ => ?_)
  refine (Sim.atKeyword _).bind ?_
  rintro _ isException _ - rfl
  refine .ite (fun _ => exception_reads law.toLawfulActions) (fun _ => ?_)
  refine (Sim.atKeyword _).bind ?_
  rintro _ isDictionary _ - rfl
  exact .ite (fun _ => dictionary_reads law.toLawfulActions reopens) (fun _ => .expected _)

/-- The kind that the attributes ask for goes into the declaration, and what else they ask for is
done after it. A callback interface does not take the kind of the attributes. -/
theorem attributedDeclaration_reads (law : K.LawfulReadings) :
    K.Reads w n anything attributedDeclaration attributedDeclaration := by
  refine (declarationAttributes_keeps law.toLawfulParameters).bind ?_
  intro w₁ a b _ ab
  refine (Sim.acceptKeyword _).bind ?_
  rintro w₂ reopens _ later₁ rfl
  refine (Sim.acceptKeyword _).bind ?_
  rintro _ isCallback _ later₂ rfl
  -- the requests were read first, and have to correspond still when they are applied
  have apply {w' w'' n t u} (le : K.Later w₂ w') (le' : K.Later w' w'') (tu : K.named w'' t u) :
      K.Keeps w'' n anything (applyAttributes a t) (applyAttributes b u) :=
    applyAttributes_keeps law.toLawfulActions tu (ab.later (later₁.trans (le.trans le')))
  refine .ite (fun _ => ?_) (fun _ => ?_)
  · refine (Sim.atKeyword _).bind ?_
    rintro _ isInterface _ later₃ rfl
    refine .ite (fun _ => ?_) (fun _ => ?_)
    · exact (attributedType_reads law reopens (by decide)).bind_any fun _ _ _ later tu =>
        apply (later₂.trans later₃) later tu
    · exact (callbackFunction_reads law).bind_any fun _ _ _ later tu =>
        apply (later₂.trans later₃) later tu
  · rw [← ab.kind]
    exact (attributedType_reads law reopens ab.declared).bind_any fun _ _ _ later tu =>
      apply later₂ later tu

/-! ## Descriptions

A description holds declarations and modules, which hold declarations in turn. -/

/-- A module is in step if what it holds is, given that a token was read before it. -/
theorem moduleWith_reads {body₁ body₂ : Parser Unit}
    (h : ∀ {w'}, K.Later w w' → K.Keeps w' (n - 1) anything body₁ body₂) :
    K.Reads w n anything (moduleWith body₁) (moduleWith body₂) := by
  refine (Sim.requireKeyword _).bind_reads fun _ _ _ later₁ _ => ?_
  refine Sim.identifier.bind fun _ _ _ later₂ _ => ?_
  refine (Sim.require (by decide)).bind fun _ _ _ later₃ _ => ?_
  refine (h (later₁.trans (later₂.trans later₃))).bind fun _ _ _ _ _ => ?_
  refine (Sim.require (by decide)).bind fun _ _ _ _ _ => ?_
  exact Sim.require_last (by decide)

/-- A constant outside of any body is attached to the globals of the library that reads. -/
theorem globalConstant_reads (law : K.LawfulActions) :
    K.Reads w n anything globalConstant globalConstant := by
  refine (constant_reads law).bind_any ?_
  intro w₁ a b _ ab
  have globals : K.Keeps w₁ n K.named
      (do let l ← Parser.library; Parser.view fun c => (c.library l).globals)
      (do let l ← Parser.library; Parser.view fun c => (c.library l).globals) := by
    intro s₁ s₂ _ _ _ holds _
    exact .of_here holds rfl (law.globals holds)
  refine globals.bind (f := fun t => attachProperty t a) (g := fun u => attachProperty u b) ?_
  intro _ t u later tu
  exact law.attachProperty tu (ab.later later).1 ab.2

/-- Which declaration is read depends on the next token. -/
theorem declarationWith_reads (law : K.LawfulReadings) {body₁ body₂ : Parser Unit}
    (h : ∀ {w'}, K.Later w w' → K.Keeps w' (n - 1) anything body₁ body₂) :
    K.Reads w n anything (declarationWith body₁) (declarationWith body₂) := by
  refine Sim.peek.bind ?_
  rintro _ t _ later rfl
  refine .ite (fun _ => attributedDeclaration_reads law) (fun _ => ?_)
  refine .ite (fun _ => typedef_reads law.toLawfulActions) (fun _ => ?_)
  refine .ite (fun _ => valueType_reads law.toLawfulActions) (fun _ => ?_)
  refine .ite (fun _ => moduleWith_reads fun later' => h (later.trans later')) (fun _ => ?_)
  refine .ite (fun _ => globalConstant_reads law.toLawfulActions) (fun _ => ?_)
  refine .ite (fun _ => enumeration_reads law.toLawfulActions) (fun _ => ?_)
  exact .ite (fun _ => implementsStatement_reads law.toLawfulActions) (fun _ => .expected _)

/-- A round over the declarations of a module or a description. -/
theorem declarationRound_sim (law : K.LawfulReadings) {body₁ body₂ : Parser Unit}
    (h : ∀ {w'}, K.Later w w' → K.Keeps w' (n - 1) anything body₁ body₂) :
    K.Sim w n Bool.toNat same (declarationRound body₁) (declarationRound body₂) := by
  refine Sim.peekCategory.bind ?_
  rintro _ category _ later rfl
  refine .ite (fun _ => .answer rfl fun _ _ => rfl) (fun _ => ?_)
  refine (declarationWith_reads law fun later' => h (later.trans later')).bind_reads
    fun _ _ _ _ _ => ?_
  exact .answer rfl fun _ _ => rfl

/-- Modules hold declarations in turn, and a module reads a token before what it holds. -/
theorem declarations_keeps (law : K.LawfulReadings) :
    K.Keeps w n anything declarations declarations := by
  refine .fix fun m self₁ self₂ lt calls => ?_
  exact .repeatWhile (declarationRound_sim law fun later => calls.after later)

/-- A description is in step with itself under every coupling that is lawful for readings. -/
theorem description_reads (law : K.LawfulReadings) :
    K.Keeps w n anything description description :=
  (declarations_keeps law).bind fun _ _ _ _ _ =>
    Sim.require_eof.bind fun _ _ _ _ _ => .pure fun _ _ => trivial

/-- A description keeps every lawful coupling. -/
theorem description_keeps (law : K.Lawful) :
    K.Keeps w n anything description description := description_reads law.readings

end Coupling

/-- Ingesting reads a whole description from its first token on. -/
theorem Catalog.ingest_eq (c : Catalog) (l : LibraryId) (source : String) :
    c.ingest l source =
      let run := description l (ReadState.start (Lexer.tokens source.toList) c)
      ⟨run.1.mapError (run.2.catalog.locateFailure l source.toList), run.2.catalog,
        run.2.journal.toList⟩ := by
  rw [ingest, read]

end IdlCatalog
