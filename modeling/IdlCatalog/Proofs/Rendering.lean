/-
# IdlCatalog.Proofs.Rendering — the name of a type reads back as the type

A composite is named as it is written. Reading this name for the same library gives a type of the
same shape again, and takes all of the name: an accepted reference stands for a `TypeExpr`, whose
text is the name of the answer; the text has the tokens of the expression; and these are read to a
type for which the same expression stands.

## Why the same shape and not the same type

A composite is created anew each time a reference to it is read, so the second reading does not
answer with the first type. It answers with one that is made in the same way of the same named
types. `SameShape` says this by recursion over the parts: a named type has its shape to itself, and
composites have one shape if they agree in kind and name and if their parts do, place by place.

Between the two readings stands an expression. What a reference means depends on the library and on
the catalog, but not on the text: `Means` ties the expression to the type, and its text is the name
of the type.
-/
import IdlCatalog.Proofs.Grammar.TypeOutcome
import IdlCatalog.Proofs.Grammar.TypeText
import IdlCatalog.Proofs.Session

namespace IdlCatalog

open Grammar Catalog Lexer

/-! ## Shapes

All types that one expression can mean have one shape. The proof goes along the expression: at each
level both types hold entries that are computed from their parts in the same way. -/

/-- Key and value types are related. -/
inductive Iterable.Related (R : TypeId → TypeId → Prop) : Iterable → Iterable → Prop
  | intro {t u : TypeId} {v w : Option TypeId} (key : R t u) (value : Option.Rel R v w) :
      Related R ⟨t, v⟩ ⟨u, w⟩

/-- Two types have one shape: a type that has a name has it to itself, and composites agree in their
kinds and names and, part by part, in the shapes of what they are made of. -/
inductive Catalog.SameShape (c : Catalog) : TypeId → TypeId → Prop
  | named {t : TypeId} (declared : (c.type t).kind.isSynthesized = false) : SameShape c t t
  | composite {t u : TypeId} (synthesized : (c.type t).kind.isSynthesized = true)
      (kind : (c.type u).kind = (c.type t).kind) (name : c.typeName u = c.typeName t)
      (iterable : Option.Rel (Iterable.Related (SameShape c)) (c.type t).iterable
        (c.type u).iterable)
      (superType : Option.Rel (SameShape c) (c.type t).superType (c.type u).superType)
      (types : List.Forall₂ (SameShape c) (c.type t).types.toList (c.type u).types.toList) :
      SameShape c t u

namespace Catalog

variable {c : Catalog} {l : LibraryId} {e : TypeExpr} {t u v w : TypeId} {kind : Kind}
  {rendered : String → String}

/-- Types of one shape have one name. -/
theorem SameShape.typeName (h : c.SameShape t u) : c.typeName u = c.typeName t := by
  cases h with
  | named => rfl
  | composite _ _ name => exact name

/-- Types of one kind and name, made of parts of the same shapes. -/
theorem SameShape.of_holds {node node' : TypeNode} (holds : c.Holds v node)
    (holds' : c.Holds w node') (synthesized : node.kind.isSynthesized = true)
    (kind : node'.kind = node.kind) (name : node'.name = node.name)
    (iterable : Option.Rel (Iterable.Related c.SameShape) node.iterable node'.iterable)
    (superType : Option.Rel c.SameShape node.superType node'.superType)
    (types : List.Forall₂ c.SameShape node.types.toList node'.types.toList) : c.SameShape v w := by
  refine .composite ?_ ?_ ?_ ?_ ?_ ?_
  · rwa [holds.kind_eq]
  · rwa [holds.kind_eq, holds'.kind_eq]
  · rwa [holds.typeName, holds'.typeName]
  · rwa [holds.iterable_eq, holds'.iterable_eq]
  · rwa [holds.superType_eq, holds'.superType_eq]
  · rwa [holds.types_eq, holds'.types_eq]

/-- Wrappers of one kind around types of one shape. -/
theorem SameShape.wrapper (synthesized : kind.isSynthesized = true) (inner : c.SameShape t u)
    (holds : c.Holds v (c.wrapperNode kind rendered t))
    (holds' : c.Holds w (c.wrapperNode kind rendered u)) : c.SameShape v w := by
  have name : rendered (c.typeName u) = rendered (c.typeName t) := by rw [inner.typeName]
  exact .of_holds holds holds' synthesized rfl name .none (.some inner) .nil

theorem Marked.sameShape {nullable : Bool} (synthesized : kind.isSynthesized = true)
    (inner : c.SameShape t u) (marked : c.Marked kind rendered nullable t v)
    (marked' : c.Marked kind rendered nullable u w) : c.SameShape v w := by
  cases marked with
  | plain =>
    cases marked' with
    | plain => exact inner
  | wrapped holds =>
    cases marked' with
    | wrapped holds' => exact inner.wrapper synthesized holds holds'

/-- So have rows of them. -/
theorem typeNames_of_sameShape {ts us : List TypeId} (related : List.Forall₂ c.SameShape ts us) :
    us.map c.typeName = ts.map c.typeName := by
  induction related with
  | nil => rfl
  | cons same _ ih => rw [List.map_cons, List.map_cons, ih, same.typeName]

theorem head?_related {R : TypeId → TypeId → Prop} {ts us : List TypeId}
    (related : List.Forall₂ R ts us) : Option.Rel R ts.head? us.head? := by
  cases related with
  | nil => exact .none
  | cons same _ => exact .some same

/-- Generic types of one name with arguments of the same shapes. -/
theorem SameShape.generic {name : String} {ts us : List TypeId}
    (related : List.Forall₂ c.SameShape ts us) (holds : c.Holds v (c.genericNode name ts))
    (holds' : c.Holds w (c.genericNode name us)) : c.SameShape v w := by
  have last : Option.Rel c.SameShape ts.getLast? us.getLast? := by
    rw [List.getLast?_eq_head?_reverse, List.getLast?_eq_head?_reverse]
    exact head?_related (List.rel_reverse related)
  have pair : Option.Rel (Iterable.Related c.SameShape) (iterableOf ts) (iterableOf us) := by
    cases related with
    | nil => exact .none
    | cons key others => exact .some (.intro key (head?_related others))
  have name : (c.genericNode name us).name = (c.genericNode name ts).name := by
    rw [genericNode, genericNode, typeNames_of_sameShape related]
  refine .of_holds holds holds' rfl rfl name ?_ last (by simpa [genericNode] using related)
  rw [genericNode, genericNode]
  dsimp only
  split
  · exact pair
  · exact .none

theorem SameShape.union {ts us : List TypeId} (related : List.Forall₂ c.SameShape ts us)
    (holds : c.Holds v (c.unionNode ts)) (holds' : c.Holds w (c.unionNode us)) :
    c.SameShape v w := by
  have name : (c.unionNode us).name = (c.unionNode ts).name := by
    rw [unionNode, unionNode, typeNames_of_sameShape related]
  exact .of_holds holds holds' rfl rfl name .none .none (by simpa [unionNode] using related)

/-- Types in a row for which the same references stand, one by one. -/
theorem sameShape_row {others : List TypeExpr} {ts us : List TypeId}
    (length : others.length = ts.length)
    (same : ∀ e t, (e, t) ∈ others.zip ts → ∀ {u}, c.Means l e u → c.SameShape t u)
    (length' : others.length = us.length)
    (means : ∀ e u, (e, u) ∈ others.zip us → c.Means l e u) : List.Forall₂ c.SameShape ts us := by
  have left : List.Forall₂ (fun e t => ∀ u, c.Means l e u → c.SameShape t u) others ts :=
    List.forall₂_iff_zip.2 ⟨length, fun {e t} inside u => same e t inside⟩
  have right : List.Forall₂ (c.Means l) others us :=
    List.forall₂_iff_zip.2 ⟨length', fun {e u} => means e u⟩
  clear length same length' means
  induction left generalizing us with
  | nil =>
    cases right
    exact .nil
  | cons first _ ih =>
    cases right with
    | cons means others => exact .cons (first _ means) (ih others)

/-- All types for which one reference stands have one shape. -/
theorem Means.sameShape (registry : Registry c) (h : c.Means l e t) (h' : c.Means l e u) :
    c.SameShape t u := by
  -- on the expression, by way of how the first type means it
  induction h generalizing u with
  | @named name _ _ _ _ _ _ _ _ found first second third =>
    cases h' with
    | named found' first' second' third' =>
      -- a name is looked up to one type in both cases
      have plain := name.ne_globalsName
      obtain rfl := Option.some.inj (found.symm.trans found')
      have same := SameShape.named (lookUp_isEntry registry plain found).declared
      have same := Marked.sameShape rfl same first first'
      have same := Marked.sameShape rfl same second second'
      exact Marked.sameShape rfl same third third'
  | sequence _ holds mark ih =>
    cases h' with
    | sequence inner' holds' mark' =>
      exact Marked.sameShape rfl ((ih inner').wrapper rfl holds holds') mark mark'
  | generic _ length tail holds mark ih ihs =>
    cases h' with
    | generic head' length' tail' holds' mark' =>
      have related := List.Forall₂.cons (ih head') (sameShape_row length ihs length' tail')
      exact Marked.sameShape rfl (.generic related holds holds') mark mark'
  | union _ length tail holds ih ihs =>
    cases h' with
    | union head' length' tail' holds' =>
      exact .union (.cons (ih head') (sameShape_row length ihs length' tail')) holds holds'

end Catalog

/-! ## Reading names back

The first reading gives the expression. Its text has its tokens, and these are read to a type that
the same expression means, in a catalog that has kept the first type. -/

/-- The name of an accepted type, read for the same library where the reading ended, is read to its
end and gives a type of the same shape. -/
theorem rendered_reads_back (commands : List Command) (l : LibraryId) (source : String)
    (t : TypeId) (accepted : ((after commands).read l typeReference source).outcome = .ok t) :
    let c := ((after commands).read l typeReference source).catalog
    ∃ u s, typeReference l (ReadState.start (Lexer.tokens (c.typeName t).toList) c) = (.ok u, s) ∧
      s.rest = [Token.endOfInput] ∧ s.catalog.SameShape t u := by
  have registry := registry_after commands
  have sound : (ReadState.start (Lexer.tokens source.toList) (after commands)).Sound :=
    ⟨fun t inside => tokens_spells inside, registry⟩
  cases run : typeReference l (ReadState.start (Lexer.tokens source.toList) (after commands)) with
  | mk outcome v =>
    simp only [Catalog.read, run] at accepted ⊢
    cases outcome with
    | error e => cases accepted
    | ok t' =>
      cases accepted
      -- the expression for which the answer stands
      obtain ⟨-, later, e, means, -⟩ := typeReference_yields sound t v run
      have registry' := later.registry registry
      have text : Lexer.tokens e.text.toList = e.tokens ++ [Token.endOfInput] := by
        have read := e.readsAs breaks_nil
        rwa [ReadsAs, List.append_nil] at read
      have ends : EndsType [Token.endOfInput] := endsType_of_token (by decide) (by decide) []
      rw [means.typeName registry', text]
      obtain ⟨u, _, s, again, left, -, -, later', means'⟩ := e.readBy l _
        (s := ReadState.start (e.tokens ++ [Token.endOfInput]) v.catalog) (Nat.lt_succ_self _) rfl
        (ends e) registry'
      -- the second reading adds types and changes none, so the first one still means the expression
      have still := means.stays registry' (later'.retains registry')
      exact ⟨u, s, again, left, still.sameShape (later'.registry registry') means'⟩

/-- A sequence, with a name in it that is not known so far. -/
theorem rendered_reads_back_sequence :
    let commands := [Command.addLibrary "dom" false .silent]
    let run := (after commands).read ⟨2⟩ typeReference "sequence < unsigned ? [ ] > ?"
    run.outcome = .ok ⟨24⟩ ∧ run.catalog.typeName ⟨24⟩ = "sequence<unsigned int?[]>?" ∧
    ∃ u s, typeReference ⟨2⟩
        (ReadState.start (Lexer.tokens (run.catalog.typeName ⟨24⟩).toList) run.catalog) =
        (.ok u, s) ∧
      s.rest = [Token.endOfInput] ∧ s.catalog.SameShape ⟨24⟩ u := by
  have accepted : ((after [Command.addLibrary "dom" false .silent]).read ⟨2⟩ typeReference
      "sequence < unsigned ? [ ] > ?").outcome = .ok ⟨24⟩ := by
    decide +kernel
  exact ⟨accepted, by decide +kernel, rendered_reads_back _ _ _ _ accepted⟩

end IdlCatalog
