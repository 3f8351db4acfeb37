/-
# IdlCatalog.Proofs.Grammar.Lawful — couplings that the actions of the grammar keep

A `Coupling` relates the catalogs of two readings. Whether the relation survives the readings is
decided by what is done to the catalog, and the grammar does about a dozen things to it: it resolves
a name, creates a composite, declares a name, attaches a member and a few more. A coupling is lawful
if each of these actions keeps it, for any two arguments that correspond to each other.

Arguments correspond in three ways. A type that a reference stands for corresponds by `K.type`, a
type that is being declared by `K.named`, and a member, as it was read and before it is attached, by
`Member.Corresponds`: both sides have it with the same names, modifiers and texts, and the types in
it correspond.

The laws come in layers, so that a production asks only for what it does: `LawfulTypes` is enough
for type references, `LawfulParameters` for parameter lists, `LawfulActions` for all productions but
those that attach operations. Those are apart since some relations survive the attaching only if it
is known that the operation has just been read: see `LawfulReadings`.
-/
import IdlCatalog.Proofs.Catalog.Entries
import IdlCatalog.Proofs.Grammar.Actions
import IdlCatalog.Proofs.Grammar.Coupling

namespace IdlCatalog

open Grammar

/-! ## Corresponding members -/

section Correspondence

variable {R R' : TypeId → TypeId → Prop}

/-- Parameters that differ in the numbers of their types only. -/
structure Parameter.Corresponds (R : TypeId → TypeId → Prop) (p q : Parameter) : Prop where
  name : p.name = q.name
  type : R p.type q.type
  modifiers : p.modifiers = q.modifiers

/-- Bodies that differ in the numbers of the types of their parameters only. -/
inductive MemberBody.Corresponds (R : TypeId → TypeId → Prop) : MemberBody → MemberBody → Prop
  | property (initial : Option String) : Corresponds R (.property initial) (.property initial)
  | operation {ps qs : List Parameter} (specials : Specials)
      (parameters : List.Forall₂ (Parameter.Corresponds R) ps qs) :
      Corresponds R (.operation ps specials) (.operation qs specials)

/-- Members as they were read, which differ in the numbers of their types only. -/
structure Member.Corresponds (R : TypeId → TypeId → Prop) (a b : Member) : Prop where
  name : a.name = b.name
  type : Option.Rel R a.type b.type
  modifiers : a.modifiers = b.modifiers
  owner : a.owner = none ∧ b.owner = none
  documentation : a.documentation = none ∧ b.documentation = none
  body : MemberBody.Corresponds R a.body b.body

/-- Parameters that correspond by one relation correspond by every relation that follows from it. -/
theorem Parameter.Corresponds.imp {p q : Parameter} (h : Parameter.Corresponds R p q)
    (imp : ∀ {t u}, R t u → R' t u) : Parameter.Corresponds R' p q :=
  ⟨h.name, imp h.type, h.modifiers⟩

theorem MemberBody.Corresponds.imp {a b : MemberBody} (h : MemberBody.Corresponds R a b)
    (imp : ∀ {t u}, R t u → R' t u) : MemberBody.Corresponds R' a b := by
  cases h with
  | property initial => exact .property initial
  | operation specials parameters =>
    exact .operation specials (parameters.imp fun _ _ h => h.imp imp)

/-- The same for types that may be missing. -/
theorem relatedOption_imp {a b : Option TypeId} (h : Option.Rel R a b)
    (imp : ∀ {t u}, R t u → R' t u) : Option.Rel R' a b := by
  cases h with
  | some h => exact .some (imp h)
  | none => exact .none

theorem Member.Corresponds.imp {a b : Member} (h : Member.Corresponds R a b)
    (imp : ∀ {t u}, R t u → R' t u) : Member.Corresponds R' a b where
  name := h.name
  type := relatedOption_imp h.type imp
  modifiers := h.modifiers
  owner := h.owner
  documentation := h.documentation
  body := h.body.imp imp

/-- Lists that correspond are the same if what corresponds is. -/
theorem eq_of_related {α : Type} {R : α → α → Prop} {as bs : List α} (h : List.Forall₂ R as bs)
    (eq : ∀ {a b}, R a b → a = b) : as = bs := by
  have equal : List.Forall₂ (· = ·) as bs := h.imp fun _ _ => eq
  rwa [List.forall₂_eq_eq_eq] at equal

/-- Parameters whose types correspond by equality are equal. -/
theorem Parameter.Corresponds.eq {p q : Parameter} (h : Parameter.Corresponds R p q)
    (eq : ∀ {t u}, R t u → t = u) : p = q := by
  obtain ⟨_, _, _⟩ := p
  obtain ⟨_, _, _⟩ := q
  obtain ⟨rfl, tu, rfl⟩ := h
  cases eq tu
  rfl

/-- Members whose types correspond by equality are equal. So a coupling of equal catalogs relates
every member with itself only. -/
theorem Member.Corresponds.eq {a b : Member} (h : Member.Corresponds R a b)
    (eq : ∀ {t u}, R t u → t = u) : a = b := by
  obtain ⟨_, type, _, _, _, _⟩ := a
  obtain ⟨_, type', _, _, _, _⟩ := b
  obtain ⟨rfl, types, rfl, ⟨rfl, rfl⟩, ⟨rfl, rfl⟩, bodies⟩ := h
  have same_type : type = type' := by
    cases types with
    | none => rfl
    | some tu => rw [eq tu]
  cases bodies with
  | property initial => rw [same_type]
  | operation specials related => rw [same_type, eq_of_related related fun pq => pq.eq eq]

/-- Properties that are read with the same name, modifiers and initial text correspond if their
types do. -/
theorem Member.Corresponds.property {name : String} {t u : TypeId} (type : R t u)
    (modifiers : Modifiers) (initial : Option String) :
    Member.Corresponds R (.property name t modifiers initial)
      (.property name u modifiers initial) :=
  ⟨rfl, .some type, rfl, ⟨rfl, rfl⟩, ⟨rfl, rfl⟩, .property initial⟩

/-- Operations that are read alike correspond if their types and parameters do. -/
theorem Member.Corresponds.operation {name : String} {t u : Option TypeId}
    {ps qs : List Parameter} (type : Option.Rel R t u) (modifiers : Modifiers)
    (parameters : List.Forall₂ (Parameter.Corresponds R) ps qs) (specials : Specials) :
    Member.Corresponds R (.operation name t modifiers ps specials)
      (.operation name u modifiers qs specials) :=
  ⟨rfl, type, rfl, ⟨rfl, rfl⟩, ⟨rfl, rfl⟩, .operation specials parameters⟩

theorem Member.isOperation_operation (name : String) (type : Option TypeId)
    (modifiers : Modifiers) (parameters : List Parameter) (specials : Specials) :
    (Member.operation name type modifiers parameters specials).IsOperation :=
  ⟨parameters, specials, rfl⟩

theorem Member.isProperty_property (name : String) (type : TypeId) (modifiers : Modifiers)
    (initial : Option String) : (Member.property name type modifiers initial).IsProperty :=
  ⟨initial, rfl⟩

end Correspondence

/-! ## Lawful couplings -/

namespace Coupling

/-- A coupling that every action within a type reference keeps. -/
structure LawfulTypes (K : Coupling) : Prop where
  resolve : ∀ {w n name}, name ≠ globalsName →
    K.Keeps w n K.type (resolve name) (resolve name)
  wrap : ∀ {w n t u kind rendered}, Wrapper kind rendered → K.type w t u →
    K.Keeps w n K.type (wrap kind rendered t) (wrap kind rendered u)
  genericOf : ∀ {w n ts us} (name), List.Forall₂ (K.type w) ts us →
    K.Keeps w n K.type (genericOf name ts) (genericOf name us)
  unionOf : ∀ {w n ts us}, List.Forall₂ (K.type w) ts us →
    K.Keeps w n K.type (unionOf ts) (unionOf us)

/-- A coupling that every action within a parameter list keeps. -/
structure LawfulParameters (K : Coupling) : Prop extends LawfulTypes K where
  noteParameter : ∀ {w n p q}, Parameter.Corresponds (K.type w) p q →
    K.Keeps w n anything (Parser.note (.parameter p)) (Parser.note (.parameter q))

/-- A coupling that every action of the grammar keeps, those apart that attach operations. -/
structure LawfulActions (K : Coupling) : Prop extends LawfulParameters K where
  iterable : ∀ {w t u}, K.holds w → K.type w t u →
    (w.first.catalog.type t).iterable.isSome = (w.second.catalog.type u).iterable.isSome
  typeName : ∀ {w t u}, K.holds w → K.named w t u →
    w.first.catalog.typeName t = w.second.catalog.typeName u
  globals : ∀ {w}, K.holds w →
    K.named w (w.first.catalog.library K.lib₁).globals (w.second.catalog.library K.lib₂).globals
  declareNamed : ∀ {w n kind name} (reopens), kind.IsDeclared → name ≠ globalsName →
    K.Keeps w n K.named (declareNamed kind reopens name) (declareNamed kind reopens name)
  setTarget : ∀ {w n t u target₁ target₂}, K.named w t u → K.type w target₁ target₂ →
    K.Keeps w n anything (setTarget t target₁) (setTarget u target₂)
  giveSuperType : ∀ {w n t u target₁ target₂}, K.named w t u → K.type w target₁ target₂ →
    K.Keeps w n anything (giveSuperType t target₁) (giveSuperType u target₂)
  addLiteral : ∀ {w n t u} (literal), K.named w t u →
    K.Keeps w n anything (Parser.modify (·.addLiteral t literal))
      (Parser.modify (·.addLiteral u literal))
  addImplements : ∀ {w n t u base₁ base₂}, K.type w t u ∨ K.named w t u → K.type w base₁ base₂ →
    K.Keeps w n anything (Parser.modify (·.addImplements t base₁))
      (Parser.modify (·.addImplements u base₂))
  addModifiers : ∀ {w n t u} (modifiers), K.named w t u →
    K.Keeps w n anything (Parser.modify (·.addModifiers t modifiers))
      (Parser.modify (·.addModifiers u modifiers))
  attachProperty : ∀ {w n t u a b}, K.named w t u → Member.Corresponds (K.type w) a b →
    a.IsProperty → K.Keeps w n anything (attachProperty t a) (attachProperty u b)
  attachConstructor : ∀ {w n t u a b}, K.named w t u → Member.Corresponds (K.type w) a b →
    a.IsOperation → K.Keeps w n anything (attachConstructor t a) (attachConstructor u b)

/-- A coupling that every action of the grammar keeps. -/
structure Lawful (K : Coupling) : Prop extends LawfulActions K where
  attachOperation : ∀ {w n t u a b}, K.named w t u → Member.Corresponds (K.type w) a b →
    a.IsOperation → K.Keeps w n anything (attachOperation t a) (attachOperation u b)
  attachOverload : ∀ {w n t u a b}, K.named w t u → Member.Corresponds (K.type w) a b →
    a.IsOperation → K.Keeps w n anything (attachOverload t a) (attachOverload u b)

/-- A coupling that the grammar keeps even if it is not enough for it that attached operations
correspond: it is kept where an operation is read and attached. -/
structure LawfulReadings (K : Coupling) : Prop extends LawfulActions K where
  overload : ∀ {w n t u} (modifiers), K.named w t u →
    K.Reads w n anything (operation modifiers >>= attachIfAny t)
      (operation modifiers >>= attachIfAny u)
  callback : ∀ {w n t u}, K.named w t u →
    K.Reads w n K.named (callbackBody t) (callbackBody u)

end Coupling

end IdlCatalog
