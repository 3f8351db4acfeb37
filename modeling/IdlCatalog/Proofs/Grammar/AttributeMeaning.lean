/-
# IdlCatalog.Proofs.Grammar.AttributeMeaning — what attributes before a declaration ask for

What an attribute asks for is told by its name: a kind, qualifiers, a constructor, or nothing at
all. Together attributes ask for the kind for globals if one of them does, and else for that of
interfaces without an object if one of them does; for the qualifiers of all of them; and for their
constructors, one after the other. So only the constructors depend on the order.

Everything is told from names. `requestedKind` and `requestedModifiers` look at the names of the
attributes and at the table, and at nothing that follows a name; so does `primaryGlobal_iff`.
Constructors have parameters and stay with the tokens that they were read from.
-/
import Mathlib.Data.List.Induction
import Mathlib.Data.List.Perm.Basic
import IdlCatalog.Proofs.Grammar.AttributeReading

namespace IdlCatalog

open Grammar Lexer IdlCatalog.Parser

variable {l : LibraryId} {s u : ReadState} {row rest : List Token} {rows : List (List Token)}
  {blocks : List (List (List Token))} {effect : AttributeEffect} {effects : List AttributeEffect}
  {action : AttributeAction}

/-! ## Names of attributes -/

/-- The name of an attribute. -/
def attributeName (row : List Token) : String := (nextToken row).text

/-- One of the attributes has one of the names. -/
def Occurs (names : List String) (rows : List (List Token)) : Prop :=
  ∃ row ∈ rows, attributeName row ∈ names

instance (names : List String) (rows : List (List Token)) : Decidable (Occurs names rows) :=
  inferInstanceAs (Decidable (∃ row ∈ rows, attributeName row ∈ names))

/-- The attributes of global interfaces. -/
def globalNames : List String := ["Global", "PrimaryGlobal"]

/-- The attributes of interfaces without an object. -/
def objectlessNames : List String := ["NoInterfaceObject", "LegacyNoInterfaceObject"]

/-- The attributes that ask for a constructor. -/
def constructorNames : List String := ["Constructor", "NamedConstructor", "LegacyFactoryFunction"]

/-! ## What single attributes ask for

The meaning of a name and the effect of a reading are compared in three respects: kind, qualifiers,
and whether there is a constructor. `Gives` says that they agree, which is all that the sums need.
-/

/-- The kind that an attribute of this meaning asks for. -/
def AttributeAction.kind? : AttributeAction → Option Kind
  | .noInterfaceObject => some .noInterfaceObject
  | .global _ => some .global
  | _ => none

/-- The qualifiers that an attribute of this meaning asks for. -/
def AttributeAction.modifiers : AttributeAction → Modifiers
  | .modifier modifiers => modifiers
  | .global true => Modifiers.primaryGlobal
  | _ => Modifiers.empty

/-- Whether an attribute of this meaning asks for a constructor. -/
def AttributeAction.constructs : AttributeAction → Bool
  | .constructor | .namedConstructor => true
  | _ => false

namespace Grammar.AttributeEffect

/-- The kind that is asked for. -/
def kind? : AttributeEffect → Option Kind
  | .noInterfaceObject => some .noInterfaceObject
  | .global _ => some .global
  | _ => none

/-- The qualifiers that are asked for. -/
def modifiers : AttributeEffect → Modifiers
  | .modifier modifiers => modifiers
  | .global true => Modifiers.primaryGlobal
  | _ => Modifiers.empty

/-- The constructor that is asked for. -/
def constructor? : AttributeEffect → Option Member
  | .constructor member => some member
  | _ => none

end Grammar.AttributeEffect

/-- An attribute of this meaning has the effect. -/
structure AttributeAction.Gives (action : AttributeAction) (effect : AttributeEffect) : Prop where
  kind : effect.kind? = action.kind?
  modifiers : effect.modifiers = action.modifiers
  constructs : effect.constructor?.isSome = action.constructs

section Reading

variable {α : Type} {p : Parser α}

/-- What comes before the effect does not matter. -/
theorem gives_after {given : AttributeEffect} (gives : action.Gives given)
    (read : (p >>= fun _ => pure given) l s = (.ok effect, u)) : action.Gives effect := by
  obtain ⟨_, t, -, answer⟩ := bind_ok read
  cases answer
  exact gives

/-- Attributes with parameters ask for a constructor. -/
theorem gives_constructor {name : String}
    (gives : ∀ parameters, action.Gives (.constructor (Member.ofConstructor name parameters)))
    (read : (parameterListIfAny >>= fun parameters =>
      pure (AttributeEffect.constructor (Member.ofConstructor name parameters))) l s =
        (.ok effect, u)) : action.Gives effect := by
  obtain ⟨parameters, t, -, answer⟩ := bind_ok read
  cases answer
  exact gives parameters

/-- What an attribute asks for is told by the meaning of its name. -/
theorem gives_of_read (read : attributeEffect action l s = (.ok effect, u)) :
    action.Gives effect := by
  cases action with
  | modifier | noInterfaceObject | ignore =>
    cases read
    exact ⟨rfl, rfl, rfl⟩
  | global primary =>
    have gives : (AttributeAction.global primary).Gives (.global primary) := by
      cases primary <;> exact ⟨rfl, rfl, rfl⟩
    obtain ⟨marked, t, -, after⟩ := bind_ok read
    cases marked with
    | false =>
      cases after
      exact gives
    | true => exact gives_after gives after
  | constructor => exact gives_constructor (fun _ => ⟨rfl, rfl, rfl⟩) read
  | namedConstructor =>
    obtain ⟨_, t, -, after⟩ := bind_ok read
    obtain ⟨name, v, -, last⟩ := bind_ok after
    exact gives_constructor (fun _ => ⟨rfl, rfl, rfl⟩) last
  | exposed =>
    obtain ⟨_, t, -, after⟩ := bind_ok read
    exact gives_after ⟨rfl, rfl, rfl⟩ after
  | ignoreWithValue =>
    obtain ⟨marked, t, -, after⟩ := bind_ok read
    cases marked with
    | false =>
      cases after
      exact ⟨rfl, rfl, rfl⟩
    | true => exact gives_after ⟨rfl, rfl, rfl⟩ after
  | ignoreWithArguments =>
    obtain ⟨category, t, -, after⟩ := bind_ok read
    by_cases group : category = .parenthesisOpen
    · rw [if_pos group] at after
      exact gives_after ⟨rfl, rfl, rfl⟩ after
    · rw [if_neg group] at after
      cases after
      exact ⟨rfl, rfl, rfl⟩

/-- An attribute has a name that the table knows. -/
theorem attributeEffect_of_read (read : namedAttribute l s = (.ok effect, u)) :
    ∃ action, s.peek.category = .word ∧ AttributeAction.ofName? s.peek.text = some action ∧
      attributeEffect action l s.advance = (.ok effect, u) := by
  by_cases word : s.peek.category = .word
  · cases known : AttributeAction.ofName? s.peek.text with
    | some action =>
      rw [Coupling.namedAttribute_known word known] at read
      exact ⟨action, word, rfl, read⟩
    | none =>
      rw [Coupling.namedAttribute_unknown word known] at read
      cases read
  · rw [Coupling.namedAttribute_other word] at read
    cases read

end Reading

/-- What the tokens ask for where they stand alone is told by their first one. -/
theorem AsksFor.gives (asks : AsksFor row effect) :
    ∃ action, AttributeAction.ofName? (attributeName row) = some action ∧ action.Gives effect := by
  obtain ⟨l, c, u, read, -⟩ := asks
  obtain ⟨action, -, known, after⟩ := attributeEffect_of_read read
  exact ⟨action, known, gives_of_read after⟩

/-- Effects that differ in the numbers of types only ask for the same. -/
theorem gives_of_elsewhere {k : LibraryId} {w : Stores} {alone : AttributeEffect}
    (related : (elsewhere l k).Effects w alone effect) (gives : action.Gives alone) :
    action.Gives effect := by
  cases related with
  | constructor => exact ⟨gives.kind, gives.modifiers, gives.constructs⟩
  | _ => exact gives

/-- An attribute has the effect of its name, wherever it is read. -/
theorem Means.gives (means : Means row effect) :
    ∃ action, AttributeAction.ofName? (attributeName row) = some action ∧ action.Gives effect := by
  obtain ⟨l, k, w, alone, asks, related⟩ := means
  obtain ⟨action, known, gives⟩ := asks.gives
  exact ⟨action, known, gives_of_elsewhere related gives⟩

/-! ## What attributes ask for together

Effects are added from the left. The kind for globals wins over the other one, wherever it stands;
qualifiers are united; constructors are appended. -/

namespace Grammar.DeclarationAttributes

/-- One effect more is added to the others. -/
theorem ofEffects_append (effects : List AttributeEffect) (effect : AttributeEffect) :
    ofEffects (effects ++ [effect]) = (ofEffects effects).add effect := by
  simp [ofEffects, List.foldl_append]

/-- The kind for globals comes first, wherever it is asked for. -/
theorem kind_ofEffects (effects : List AttributeEffect) :
    (ofEffects effects).kind =
      if some .global ∈ effects.map AttributeEffect.kind? then some .global
      else if some .noInterfaceObject ∈ effects.map AttributeEffect.kind? then
        some .noInterfaceObject
      else .none := by
  induction effects using List.reverseRecOn with
  | nil => rfl
  | append_singleton effects effect ih =>
    rw [ofEffects_append, List.map_append]
    cases effect <;> simp [add, AttributeEffect.kind?, ih]
    split <;> simp

/-- The qualifiers are those of all attributes. -/
theorem modifiers_ofEffects (effects : List AttributeEffect) :
    (ofEffects effects).modifiers =
      (effects.map AttributeEffect.modifiers).foldl (· ||| ·) Modifiers.empty := by
  induction effects using List.reverseRecOn with
  | nil => rfl
  | append_singleton effects effect ih =>
    rw [ofEffects_append, List.map_append, List.foldl_append, ← ih]
    cases effect with
    | global primary => cases primary <;> simp [add, AttributeEffect.modifiers, Modifiers.or_empty]
    | _ => simp [add, AttributeEffect.modifiers, Modifiers.or_empty]

/-- The constructors are those that were asked for, in their order. -/
theorem constructors_ofEffects (effects : List AttributeEffect) :
    (ofEffects effects).constructors = effects.filterMap AttributeEffect.constructor? := by
  induction effects using List.reverseRecOn with
  | nil => rfl
  | append_singleton effects effect ih =>
    rw [ofEffects_append, List.filterMap_append, ← ih]
    cases effect <;> simp [add, AttributeEffect.constructor?]

end Grammar.DeclarationAttributes

/-! ### Told from names -/

/-- The qualifiers that an attribute asks for. -/
def attributeModifiers (row : List Token) : Modifiers :=
  ((AttributeAction.ofName? (attributeName row)).map AttributeAction.modifiers).getD Modifiers.empty

/-- The kind that attributes ask for, if they ask for one. -/
def requestedKind (rows : List (List Token)) : Option Kind :=
  if Occurs globalNames rows then some .global
  else if Occurs objectlessNames rows then some .noInterfaceObject
  else none

/-- The qualifiers that attributes ask for. -/
def requestedModifiers (rows : List (List Token)) : Modifiers :=
  (rows.map attributeModifiers).foldl (· ||| ·) Modifiers.empty

/-- The constructor is the one that the attribute asks for where it stands alone, up to the numbers
of the types in it. It has no name of its own, or the one after the equals sign. -/
structure Constructs (row : List Token) (constructor : Member) : Prop where
  name : constructor.name =
    if attributeName row = "Constructor" then "" else (nextToken (row.drop 2)).text
  alone : ∃ member, AsksFor row (.constructor member) ∧
    Member.Corresponds (fun _ _ => True) member constructor

/-- What names mean is seen in the table. -/
theorem action_iff {Q : AttributeAction → Prop} {names : List String} {name : String}
    (table : ∀ entry ∈ AttributeAction.table, Q entry.2 ↔ entry.1 ∈ names)
    (known : AttributeAction.ofName? name = some action) : Q action ↔ name ∈ names := by
  obtain ⟨entry, found, rfl⟩ := Option.map_eq_some_iff.1 known
  have inside := table entry (List.mem_of_find?_eq_some found)
  have same : entry.1 = name := by simpa using List.find?_some found
  rwa [same] at inside

/-- The attributes that ask for globals. -/
theorem kind_global_iff (known : AttributeAction.ofName? (attributeName row) = some action) :
    action.kind? = some .global ↔ attributeName row ∈ globalNames :=
  action_iff (Q := (·.kind? = some .global)) (by decide +kernel) known

/-- The attributes that ask for interfaces without an object. -/
theorem kind_objectless_iff (known : AttributeAction.ofName? (attributeName row) = some action) :
    action.kind? = some .noInterfaceObject ↔ attributeName row ∈ objectlessNames :=
  action_iff (Q := (·.kind? = some .noInterfaceObject)) (by decide +kernel) known

/-- The attributes that ask for a constructor. -/
theorem constructs_iff (known : AttributeAction.ofName? (attributeName row) = some action) :
    action.constructs = true ↔ attributeName row ∈ constructorNames :=
  action_iff (Q := (·.constructs = true)) (by decide +kernel) known

/-- The attribute of the main global interface. -/
theorem primary_iff (known : AttributeAction.ofName? (attributeName row) = some action) :
    action.modifiers.contains Modifiers.primaryGlobal = true ↔
      attributeName row ∈ ["PrimaryGlobal"] :=
  action_iff (Q := (·.modifiers.contains Modifiers.primaryGlobal = true)) (by decide +kernel) known

/-- A property of tokens occurs if and only if the same property of effects does. -/
theorem occurs_iff {names : List String} {Q : AttributeEffect → Prop}
    (means : List.Forall₂ Means rows effects)
    (same : ∀ {row effect}, Means row effect → (Q effect ↔ attributeName row ∈ names)) :
    (∃ effect ∈ effects, Q effect) ↔ Occurs names rows := by
  rw [Occurs]
  induction means with
  | nil => simp
  | cons first _ ih => simp [same first, ih]

/-- A kind is asked for if one of the names that ask for it occurs. -/
theorem mem_kinds_iff {kind : Kind} {names : List String} (means : List.Forall₂ Means rows effects)
    (table : ∀ {row action}, AttributeAction.ofName? (attributeName row) = some action →
      (action.kind? = some kind ↔ attributeName row ∈ names)) :
    some kind ∈ effects.map AttributeEffect.kind? ↔ Occurs names rows := by
  rw [List.mem_map]
  refine occurs_iff means fun first => ?_
  obtain ⟨action, known, gives⟩ := first.gives
  rw [gives.kind, table known]

/-- The kind that is asked for is told from the names. -/
theorem requestedKind_eq (means : List.Forall₂ Means rows effects) :
    (DeclarationAttributes.ofEffects effects).kind = requestedKind rows := by
  simp only [DeclarationAttributes.kind_ofEffects, requestedKind,
    mem_kinds_iff means kind_global_iff, mem_kinds_iff means kind_objectless_iff]

/-- The qualifiers that are asked for are told from the names. -/
theorem requestedModifiers_eq (means : List.Forall₂ Means rows effects) :
    (DeclarationAttributes.ofEffects effects).modifiers = requestedModifiers rows := by
  have each : effects.map AttributeEffect.modifiers = rows.map attributeModifiers := by
    induction means with
    | nil => rfl
    | cons first _ ih =>
      obtain ⟨action, known, gives⟩ := first.gives
      rw [List.map_cons, List.map_cons, ih, gives.modifiers, attributeModifiers, known]
      rfl
  rw [DeclarationAttributes.modifiers_ofEffects, each, requestedModifiers]

/-- The word after the equals sign is the name of the constructor. -/
theorem AsksFor.constructor_name {member : Member} (asks : AsksFor row (.constructor member)) :
    member.name =
      if attributeName row = "Constructor" then "" else (nextToken (row.drop 2)).text := by
  obtain ⟨l, c, u, read, -⟩ := asks
  obtain ⟨action, -, known, after⟩ := attributeEffect_of_read read
  have bare : action = .constructor ↔ attributeName row ∈ ["Constructor"] :=
    action_iff (Q := (· = .constructor)) (by decide +kernel) known
  have constructs := (gives_of_read after).constructs
  cases action with
  | constructor =>
    obtain ⟨parameters, t, -, answer⟩ := bind_ok after
    cases answer
    rw [if_pos (by simpa using bare.1 rfl)]
    rfl
  | namedConstructor =>
    obtain ⟨_, t, equals, inside⟩ := bind_ok after
    obtain ⟨name, v, word, last⟩ := bind_ok inside
    obtain ⟨parameters, w, -, answer⟩ := bind_ok last
    cases answer
    obtain ⟨-, rfl⟩ := require_ok equals
    obtain ⟨_, x, required, -⟩ := bind_ok word
    cases (takes_identifier (require_ok required).1 l).symm.trans word
    rw [if_neg fun same => by cases bare.2 (by simp [same])]
    have place : (ReadState.start row c).advance.advance.rest = row.drop 2 :=
      (ReadState.start row c).rest_drop 2
    exact congrArg Token.text (ReadState.peek_eq place)
  | _ => cases constructs

/-- A constructor that is read in some place is the one that stands alone. -/
theorem Means.constructs {member : Member} (means : Means row (.constructor member)) :
    Constructs row member := by
  obtain ⟨l, k, w, alone, asks, related⟩ := means
  cases related with
  | constructor related => exact ⟨related.1.name ▸ asks.constructor_name, _, asks, related.1⟩

/-- The constructors are those of the attributes that ask for one, in their order. -/
theorem constructors_eq (means : List.Forall₂ Means rows effects) :
    List.Forall₂ Constructs (rows.filter fun row => attributeName row ∈ constructorNames)
      (DeclarationAttributes.ofEffects effects).constructors := by
  rw [DeclarationAttributes.constructors_ofEffects]
  induction means with
  | nil => exact .nil
  | @cons row effect _ _ first _ ih =>
    obtain ⟨action, known, gives⟩ := first.gives
    have named := constructs_iff known
    rw [← gives.constructs] at named
    cases effect with
    | constructor member =>
      rw [List.filter_cons_of_pos (by simpa using named.1 rfl)]
      exact .cons first.constructs ih
    | _ =>
      rw [List.filter_cons_of_neg
        (by simpa using fun inside => Bool.false_ne_true (named.2 inside))]
      exact ih

/-! ### The main global interface -/

/-- The flag is one bit. -/
theorem contains_primaryGlobal (a : Modifiers) :
    a.contains Modifiers.primaryGlobal = a.bits.getLsbD 10 := by
  have same : a &&& Modifiers.primaryGlobal = Modifiers.primaryGlobal ↔
      a.bits &&& BitVec.twoPow 16 10 = BitVec.twoPow 16 10 :=
    ⟨congrArg Modifiers.bits, congrArg Modifiers.mk⟩
  simp only [Modifiers.contains, same, BitVec.and_twoPow]
  cases a.bits.getLsbD 10 <;> decide

/-- The union has the flag if one of the sets has. -/
theorem contains_foldl (modifiers : List Modifiers) (a : Modifiers) :
    (modifiers.foldl (· ||| ·) a).contains Modifiers.primaryGlobal = true ↔
      a.contains Modifiers.primaryGlobal = true ∨
        ∃ b ∈ modifiers, b.contains Modifiers.primaryGlobal = true := by
  induction modifiers generalizing a with
  | nil => simp
  | cons b modifiers ih =>
    rw [List.foldl_cons, ih]
    simp only [contains_primaryGlobal, Modifiers.bits_or, BitVec.getLsbD_or, Bool.or_eq_true,
      List.mem_cons, exists_eq_or_imp, or_assoc]

/-- The flag is set exactly by the attribute for it. -/
theorem primaryGlobal_iff (means : List.Forall₂ Means rows effects) :
    (DeclarationAttributes.ofEffects effects).modifiers.contains Modifiers.primaryGlobal = true ↔
      Occurs ["PrimaryGlobal"] rows := by
  rw [DeclarationAttributes.modifiers_ofEffects, contains_foldl]
  have empty : Modifiers.empty.contains Modifiers.primaryGlobal = false := by decide
  simp only [empty, Bool.false_eq_true, false_or, List.mem_map, exists_exists_and_eq_and]
  refine occurs_iff means fun first => ?_
  obtain ⟨action, known, gives⟩ := first.gives
  rw [gives.modifiers, primary_iff known]

/-! ### In any order -/

/-- Which names occur does not depend on the order. -/
theorem occurs_perm {names : List String} {rows' : List (List Token)} (perm : rows.Perm rows') :
    Occurs names rows ↔ Occurs names rows' := by
  simp only [Occurs, perm.mem_iff]

/-- The kind does not depend on the order. -/
theorem requestedKind_perm {rows' : List (List Token)} (perm : rows.Perm rows') :
    requestedKind rows = requestedKind rows' := by
  simp only [requestedKind, occurs_perm perm]

/-- Nor do the qualifiers. -/
theorem requestedModifiers_perm {rows' : List (List Token)} (perm : rows.Perm rows') :
    requestedModifiers rows = requestedModifiers rows' :=
  (perm.map attributeModifiers).foldl_op_eq

/-- What attributes ask for together that stand in the blocks: kind and qualifiers, and the
constructors in their order. -/
structure AskedBy (rows : List (List Token)) (blocks : List (List (List Token)))
    (d : DeclarationAttributes) : Prop where
  kind : d.kind = requestedKind rows
  modifiers : d.modifiers = requestedModifiers rows
  primary : d.modifiers.contains Modifiers.primaryGlobal = true ↔ Occurs ["PrimaryGlobal"] rows
  constructors : List.Forall₂ Constructs
    (blocks.flatten.filter fun row => attributeName row ∈ constructorNames) d.constructors

/-- Attributes are read in every order and in all blocks, before whatever comes. -/
theorem declarationAttributes_reads (each : ∀ row ∈ rows, IsAttribute row)
    (perm : blocks.flatten.Perm rows) (nonempty : [] ∉ blocks)
    (stands : s.rest = blocksTokens blocks ++ rest)
    (ends : (nextToken rest).category ≠ .bracketOpen) (l : LibraryId) :
    ∃ d u, declarationAttributes l s = (.ok d, u) ∧ u.rest = rest ∧ AskedBy rows blocks d := by
  have attributes : ∀ row ∈ blocks.flatten, IsAttribute row := fun row inside =>
    each row (perm.mem_iff.1 inside)
  obtain ⟨found, u, read, left, related⟩ := blocks_read attributes nonempty stands ends l
  have means : List.Forall₂ Means blocks.flatten found.flatten := List.rel_flatten related
  refine ⟨.ofEffects found.flatten, u, ?_, left, ?_⟩
  · rw [declarationAttributes, Parser.bind_apply, read]
    rfl
  · exact ⟨(requestedKind_eq means).trans (requestedKind_perm perm),
      (requestedModifiers_eq means).trans (requestedModifiers_perm perm),
      (primaryGlobal_iff means).trans (occurs_perm perm), constructors_eq means⟩

end IdlCatalog
