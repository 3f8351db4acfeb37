/-
# IdlCatalog.Proofs.Grammar.MemberOutcome — what an accepted operation says

An operation that was read can be written down again: its types are named as references are written,
the names of its parameters are spelled like words, and no parameter has a name that would be read
along with its type. `Member.Written` says so about a member in a catalog. What the reading passes
over, attributes, defaults and the exceptions of an operation, leaves no trace.

Printing is done from a catalog and not from a text, so it has to be known which members of a
catalog can be printed. The invariant is stated on the member: `Written` holds of a member when it
is read, and lasts, since types keep their names. Nothing is said about how types are related to
each other; for the text of a signature their names are enough.
-/
import IdlCatalog.Proofs.Grammar.MemberSyntax
import IdlCatalog.Proofs.Grammar.TypeOutcome

namespace IdlCatalog

open Grammar Catalog Lexer IdlCatalog.Parser

variable {α β : Type} {b c d : Catalog} {l : LibraryId} {s u : ReadState} {t : TypeId}
  {e : TypeExpr} {p : Parameter} {a : Member}

/-! ## Qualifiers

Qualifiers are bits, and a qualifier that was set stays set when others are added. -/

/-- What is added is contained. -/
theorem Modifiers.contains_or_right (a b : Modifiers) : (a ||| b).contains b = true := by
  refine decide_eq_true (congrArg Modifiers.mk ?_)
  rw [Modifiers.bits_or]
  ext i
  simpa using Or.inr

/-- What was contained stays so. -/
theorem Modifiers.contains_or_left {a b : Modifiers} (h : a.contains b = true)
    (others : Modifiers) : (a ||| others).contains b = true := by
  have bits : a.bits &&& b.bits = b.bits := congrArg Modifiers.bits (of_decide_eq_true h)
  refine decide_eq_true (congrArg Modifiers.mk ?_)
  rw [Modifiers.bits_or]
  ext i inside
  have bit := congrArg (·.getLsbD i) bits
  simp at bit ⊢
  grind

/-! ## Members that can be written down

That a name is written as a reference is weaker than that the reference stands for the type. It does
not depend on look-ups, and so it survives declarations, which `Means` does not. -/

namespace Catalog

/-- The types that there are keep their names, and the iterables among them. -/
structure KeepsNames (c d : Catalog) : Prop where
  size_le : c.types.size ≤ d.types.size
  name : ∀ {t : TypeId}, t.index < c.types.size → d.typeName t = c.typeName t
  iterable : ∀ {t : TypeId}, t.index < c.types.size → (d.type t).iterable = (c.type t).iterable

/-- Quiet changes rename no type. -/
theorem Quiet.keepsNames (quiet : Quiet c d) : KeepsNames c d :=
  ⟨quiet.size_le, fun bound => (quiet.old _ bound).name, fun bound => (quiet.old _ bound).iterable⟩

/-- References rename no type. -/
theorem Mentioning.keepsNames (later : Mentioning c d) : KeepsNames c d :=
  ⟨later.size_le, fun bound => congrArg TypeNode.name (later.type bound),
    fun bound => congrArg TypeNode.iterable (later.type bound)⟩

/-- The type is named as the reference is written, and is an iterable where the reference is to
one. -/
structure WrittenAs (c : Catalog) (e : TypeExpr) (t : TypeId) : Prop where
  bound : t.index < c.types.size
  name : c.typeName t = e.text
  iterable : e.IsIterable → (c.type t).iterable ≠ none

/-- A type stays written as it was. -/
theorem WrittenAs.later (h : c.WrittenAs e t) (keeps : KeepsNames c d) : d.WrittenAs e t where
  bound := Nat.lt_of_lt_of_le h.bound keeps.size_le
  name := (keeps.name h.bound).trans h.name
  iterable isIterable := by
    rw [keeps.iterable h.bound]
    exact h.iterable isIterable

/-- What a reference stands for is written like it. -/
theorem Means.writtenAs (registry : Registry c) (h : c.Means l e t) : c.WrittenAs e t where
  bound := h.bound registry
  name := h.typeName registry
  iterable isIterable := by
    cases h with
    | named | sequence | union => exact isIterable.elim
    | generic head length tail holds mark =>
      obtain ⟨iterable, rfl⟩ := isIterable
      cases mark
      rw [holds.iterable_eq, genericNode, if_pos iterable]
      rintro ⟨⟩

end Catalog

/-- The parameter can be written down, and read again. -/
structure Parameter.Written (c : Catalog) (p : Parameter) : Prop where
  spelled : Spells .word p.name.toList
  type : ∃ e, c.WrittenAs e p.type ∧ (p.isVariadic = false → p.name = "long" → ¬e.TakesLong)

/-- The types of the member have names as references are written, and its parameters can be written
down. -/
structure Member.Written (c : Catalog) (a : Member) : Prop where
  type : ∀ t ∈ a.type, ∃ e, c.WrittenAs e t
  parameters : ∀ p ∈ a.parameters, p.Written c

/-- A parameter can be written down later if it can be now. -/
theorem Parameter.Written.later (h : p.Written c) (keeps : KeepsNames c d) : p.Written d := by
  obtain ⟨e, written, apart⟩ := h.type
  exact ⟨h.spelled, e, written.later keeps, apart⟩

/-- A member can be written down later if it can be now. -/
theorem Member.Written.later (h : a.Written c) (keeps : KeepsNames c d) : a.Written d where
  type t of := by
    obtain ⟨e, written⟩ := h.type t of
    exact ⟨e, written.later keeps⟩
  parameters p inside := (h.parameters p inside).later keeps

/-! ## Parsers that only read tokens

Much of a member is passed over: its attributes, its defaults, the names of exceptions. That this
leaves the catalog alone is read off the couplings. `idle` demands of both catalogs that they be the
one at the start, and a parser in step under every coupling is in step under this one. -/

/-- Both readings are for one library and leave one catalog as it is. -/
def Coupling.idle (l : LibraryId) (c : Catalog) : Coupling where
  lib₁ := l
  lib₂ := l
  holds w := w.first.catalog = c
  type _ _ _ := True
  named _ _ _ := True
  refuses _ := False

namespace Parser

variable {f : α → Parser β} {Q : β → ReadState → Prop} {p : Parser α}

/-- The parser does not touch the catalog. -/
abbrev Idles (p : Parser α) (l : LibraryId) (s : ReadState) : Prop :=
  p.Yields l s fun _ u => u.catalog = s.catalog

/-- A parser that is in step with itself under every coupling only reads tokens. -/
theorem idles_of_sim {r : α → Nat} {V : Stores → α → α → Prop}
    (sim : ∀ (K : Coupling) w n, K.Sim w n r V p p) (sound : s.Sound) : p.Idles l s := by
  intro a u run
  have outcome := (sim (.idle l s.catalog) (.of s s) (s.left + 1)).outcome ⟨rfl, rfl⟩
    sound.spelled rfl
  change (Coupling.idle l s.catalog).Outcome s s r V (p l s) (p l s) at outcome
  rw [run] at outcome
  cases outcome with
  | ok after _ _ holds => exact ⟨after.suffix, holds⟩

theorem idles_require {category : Category} (other : category ≠ .eof) (sound : s.Sound) :
    (require category).Idles l s :=
  idles_of_sim (fun _ _ _ => Coupling.Sim.require other) sound

theorem idles_acceptKeyword (keyword : String) (sound : s.Sound) :
    (acceptKeyword keyword).Idles l s :=
  idles_of_sim (fun _ _ _ => Coupling.Sim.acceptKeyword keyword) sound

/-- A question about the catalog leaves it alone. -/
theorem idles_view (f : Catalog → α) : (view f).Idles l s := by
  rintro _ _ ⟨⟩
  exact ⟨List.suffix_refl _, rfl⟩

/-- What only reads tokens may come first. -/
theorem Idles.bind (h : p.Idles l s) (sound : s.Sound)
    (next : ∀ a u, u.Sound → u.catalog = s.catalog → (f a).Yields l u Q) :
    (p >>= f).Yields l s Q :=
  Yields.bind h fun a u suffix catalog => next a u (sound.later suffix (catalog ▸ .refl _)) catalog

/-- A list whose elements are read one after the other. -/
theorem yields_collect {step : Parser (Option α)} {R : α → Catalog → Prop}
    (keeps : ∀ {a c d}, R a c → KeepsNames c d → R a d)
    (each : ∀ s : ReadState, s.Sound → step.Yields l s fun found u =>
      Mentioning s.catalog u.catalog ∧ ∀ a ∈ found, R a u.catalog) (sound : s.Sound) :
    (collect step).Yields l s fun found u =>
      Mentioning s.catalog u.catalog ∧ ∀ a ∈ found, R a u.catalog := by
  refine Yields.fix (P := ReadState.Sound) (Q := fun s found u =>
    Mentioning s.catalog u.catalog ∧ ∀ a ∈ found, R a u.catalog) ?_ sound
  intro self s recursion sound
  refine (each s sound).bind ?_
  rintro (_ | a) u suffix ⟨later, found⟩
  · exact .pure ⟨later, nofun⟩
  refine (recursion u (sound.later suffix later)).bind ?_
  rintro as v _ ⟨later', others⟩
  refine .pure ⟨later.trans later', List.forall_mem_cons.2 ⟨?_, others⟩⟩
  exact keeps (found a rfl) later'.keepsNames

end Parser

/-! ## Parameters

A parameter is written from its modifiers, its type and its name. Only a name that is `long` needs
care: the parser would have read it along with a type that takes it, so after such a type it does
not occur unless dots stand in between. -/

/-- What the reading of a parameter comes to that starts with the catalog. -/
abbrev ParameterRead (c : Catalog) (p : Parameter) (u : ReadState) : Prop :=
  Mentioning c u.catalog ∧ p.Written u.catalog

/-- What stands after the qualifiers of a parameter. -/
theorem parameterTail_yields (sound : s.Sound) {modifiers : Bool → Modifiers}
    (variadic : (modifiers true).contains Modifiers.variadic = true) :
    (parameterTail modifiers).Yields l s (ParameterRead s.catalog) := by
  refine (typeReference_yields sound).bind ?_
  rintro t u suffix ⟨later, e, means, long⟩
  have sound : u.Sound := sound.later suffix later
  have writtenAs := means.writtenAs sound.registry
  refine (yields_accept .dotDotDot).bind ?_
  rintro isVariadic v suffix' ⟨catalog, -, same⟩
  refine (yields_identifier (sound.spelled.suffix suffix')).bind ?_
  rintro _ w suffix'' ⟨catalog', rfl, word, spelled⟩
  have written : Parameter.Written u.catalog ⟨v.peek.text, t, modifiers isVariadic⟩ := by
    refine ⟨spelled, e, writtenAs, fun fixed named takes => ?_⟩
    -- a `long` that stands right after such a type is read along with it
    cases isVariadic with
    | true => exact Bool.false_ne_true (fixed.symm.trans variadic)
    | false =>
      obtain rfl := same rfl
      have named : v.peek.text = "long" := named
      have here : v.peek.isKeyword "long" = true := by simp [Token.isKeyword, word, named]
      rw [long takes] at here
      cases here
  have done {x : ReadState} (left : x.catalog = w.catalog) :
      (pure ⟨v.peek.text, t, modifiers isVariadic⟩ : Parser Parameter).Yields l x
        (ParameterRead s.catalog) := by
    refine .pure ?_
    rw [ParameterRead, left, catalog', catalog]
    exact ⟨later, written⟩
  refine (yields_accept .equals).bind ?_
  rintro default x suffix₃ ⟨left, -⟩
  have sound : x.Sound := by
    refine sound.later (suffix₃.trans (suffix''.trans suffix')) ?_
    rw [left, catalog', catalog]
    exact .refl _
  refine Yields.ite ?_ (done left)
  have skips := idles_of_sim (l := l) (p := skipBalanced [.comma, .parenthesisClose])
    (fun K w n => Coupling.Sim.skipBalanced _) sound
  exact skips.bind sound fun _ y _ left' => done (left'.trans left)

/-- A parameter that was read can be written down. -/
theorem parameter_yields (sound : s.Sound) : parameter.Yields l s (ParameterRead s.catalog) := by
  have attributes {s : ReadState} (sound : s.Sound) : memberAttributes.Idles l s :=
    idles_of_sim (fun K w n => Coupling.memberAttributes_keeps) sound
  refine (attributes sound).bind sound fun leading u sound catalog => ?_
  refine (idles_acceptKeyword "optional" sound).bind sound fun isOptional v sound catalog' => ?_
  have words := idles_of_sim (l := l)
    (fun K w n => Coupling.Sim.atAnyKeyword ["in", "out", "inout"]) sound
  refine words.bind sound fun isDirected w sound catalog'' => ?_
  have left : w.catalog = s.catalog := catalog''.trans (catalog'.trans catalog)
  have tail {x : ReadState} (sound : x.Sound) (left : x.catalog = s.catalog) :
      (memberAttributes >>= fun trailing => parameterTail fun isVariadic =>
        leading ||| (if isOptional then Modifiers.optional else Modifiers.empty) |||
          trailing ||| (if isVariadic then Modifiers.variadic else Modifiers.empty)).Yields l x
        (ParameterRead s.catalog) := by
    refine (attributes sound).bind sound fun trailing y sound left' => ?_
    rw [← left, ← left']
    exact parameterTail_yields sound (Modifiers.contains_or_right _ _)
  refine Yields.ite ?_ (tail sound left)
  have skips := idles_of_sim (l := l) (fun K w n => Coupling.Sim.next) sound
  exact skips.bind sound fun _ x sound left' => tail sound (left'.trans left)

/-- Parameters that a reading came to, which started with the catalog. -/
abbrev ParametersRead (c : Catalog) (ps : List Parameter) (u : ReadState) : Prop :=
  Mentioning c u.catalog ∧ ∀ p ∈ ps, p.Written u.catalog

/-- A parameter in a list can be written down. -/
theorem listedParameter_yields (sound : s.Sound) :
    listedParameter.Yields l s fun found u => ParametersRead s.catalog found.toList u := by
  refine yields_peekCategory.bind ?_
  rintro _ _ _ ⟨rfl, rfl⟩
  refine Yields.ite (.pure ⟨.refl _, nofun⟩) ?_
  refine (parameter_yields sound).bind ?_
  rintro p u suffix ⟨later, written⟩
  have sound : u.Sound := sound.later suffix later
  have noted : (note (.parameter p)).Idles l u := by
    rintro _ _ ⟨⟩
    exact ⟨List.suffix_refl _, rfl⟩
  refine noted.bind sound fun _ v sound catalog => ?_
  refine (idles_of_sim (fun K w n => Coupling.Sim.accept (by decide)) sound).bind sound
    fun comma w sound catalog' => ?_
  rw [← catalog, ← catalog'] at later written
  have done : (pure (some p) : Parser (Option Parameter)).Yields l w fun found u =>
      ParametersRead s.catalog found.toList u := .pure ⟨later, by simpa using written⟩
  refine Yields.ite done ?_
  refine yields_peekCategory.bind ?_
  rintro _ _ _ ⟨rfl, rfl⟩
  exact Yields.ite done (by rintro _ _ ⟨⟩)

/-- All parameters of a list can be written down. -/
theorem parameterList_yields (sound : s.Sound) :
    parameterList.Yields l s (ParametersRead s.catalog) := by
  refine (idles_require (by decide) sound).bind sound fun _ u sound catalog => ?_
  refine (yields_collect (R := fun p c => p.Written c) (fun h keeps => h.later keeps)
    (fun s sound => (listedParameter_yields sound).imp fun found u _ read => ?_) sound).bind ?_
  · exact ⟨read.1, fun p of => read.2 p (by simpa using of)⟩
  rintro ps v suffix ⟨later, written⟩
  have sound : v.Sound := sound.later suffix later
  refine (idles_require (by decide) sound).bind sound fun _ w sound catalog' => ?_
  refine (idles_acceptKeyword "raises" sound).bind sound fun found x sound catalog'' => ?_
  rw [catalog] at later
  rw [← catalog', ← catalog''] at later written
  refine Yields.ite ?_ (.pure ⟨later, written⟩)
  refine (idles_require (by decide) sound).bind sound fun _ y sound left => ?_
  refine (typeReference_yields sound).bind ?_
  rintro _ z suffix ⟨later', -⟩
  refine (idles_require (by decide) (sound.later suffix later')).bind
    (sound.later suffix later') fun _ o _ left' => ?_
  rw [left] at later'
  rw [← left'] at later'
  exact .pure ⟨later.trans later', fun p inside => (written p inside).later later'.keepsNames⟩

/-! ## Operations

The result type, the name and the parameters, in this order, each in a later catalog. -/

/-- A result type that was read can be written down. -/
theorem resultType_yields (sound : s.Sound) :
    resultType.Yields l s fun type u =>
      Mentioning s.catalog u.catalog ∧ ∀ t ∈ type, ∃ e, u.catalog.WrittenAs e t := by
  refine (idles_acceptKeyword "void" sound).bind sound fun void u sound catalog => ?_
  rw [← catalog]
  refine Yields.ite (.pure ⟨.refl _, nofun⟩) ?_
  refine (typeReference_yields sound).bind ?_
  rintro t v suffix ⟨later, e, means, -⟩
  have writtenAs := means.writtenAs (later.registry sound.registry)
  exact .pure ⟨later, fun u of => ⟨e, by cases of; exact writtenAs⟩⟩

/-- The parameters of an operation after its result type and its name. -/
theorem operation_written {c d : Catalog} {name : String} {type : Option TypeId}
    {modifiers : Modifiers} {ps : List Parameter} {specials : Specials}
    (result : ∀ t ∈ type, ∃ e, c.WrittenAs e t) (keeps : KeepsNames c d)
    (parameters : ∀ p ∈ ps, p.Written d) :
    (Member.operation name type modifiers ps specials).Written d where
  type t of := by
    obtain ⟨e, written⟩ := result t of
    exact ⟨e, written.later keeps⟩
  parameters := parameters

/-- An operation that was read can be written down. -/
theorem operation_yields (sound : s.Sound) (modifiers : Modifiers) :
    (operation modifiers).Yields l s fun found u => ∀ a ∈ found, a.Written u.catalog := by
  refine (idles_of_sim (fun K w n => Coupling.Sim.collect_same Coupling.specialKeyword_sim)
    sound).bind sound fun specials u sound _ => ?_
  refine (resultType_yields sound).bind ?_
  rintro type v suffix ⟨later, result⟩
  have sound : v.Sound := sound.later suffix later
  refine (idles_view _).bind sound fun iterable w sound catalog => ?_
  refine Yields.ite ((idles_require (by decide) sound).bind sound fun _ _ _ _ => .pure nofun) ?_
  refine (idles_of_sim (fun K w n => Coupling.operationName_keeps specials) sound).bind sound
    fun name x sound catalog' => ?_
  refine (parameterList_yields sound).bind ?_
  rintro ps y suffix' ⟨later', written⟩
  have sound : y.Sound := sound.later suffix' later'
  refine (idles_require (by decide) sound).bind sound fun _ z _ left => .pure ?_
  rintro _ ⟨rfl⟩
  rw [catalog', catalog] at later'
  rw [left]
  exact operation_written result later'.keepsNames written

/-- The operation of a callback function can be written down. -/
theorem callbackOperation_yields (sound : s.Sound) (t : TypeId) :
    (callbackOperation t).Yields l s fun a u => a.Written u.catalog := by
  refine (idles_require (by decide) sound).bind sound fun _ u sound _ => ?_
  refine (resultType_yields sound).bind ?_
  rintro type v suffix ⟨later, result⟩
  have sound : v.Sound := sound.later suffix later
  refine (idles_view _).bind sound fun name w sound catalog => ?_
  refine (parameterList_yields sound).bind ?_
  rintro ps x suffix' ⟨later', written⟩
  have sound : x.Sound := sound.later suffix' later'
  refine (idles_require (by decide) sound).bind sound fun _ y _ left => .pure ?_
  rw [catalog] at later'
  rw [left]
  exact operation_written result later'.keepsNames written

end IdlCatalog
