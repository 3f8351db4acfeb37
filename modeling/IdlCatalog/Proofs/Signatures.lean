/-
# IdlCatalog.Proofs.Signatures — the signature of an operation reads back as the operation

After every session the operations of the catalog can be written down: their types are named as
references are written, and the names of their parameters are words, those that merging joined
included. So the signature of an operation is the text of a `Signature`, whose tokens are read as
the member of an interface that they spell. The type then has one operation, and its signature says
the same.

A signature says less where a word means something else in front of a member or a parameter, and so
types must not have one of these words as their names. Operations of callback functions can have
signatures that no member of an interface has: an iterable declares no operation there, and a `long`
after a type that takes it along is no name.

## Why the conditions are needed

Three conditions concern the names of types: the words that lead a member or a parameter must not
stand among them. They are stated with `NamedIn`, which speaks about the text of a type and not
about its parts, because a composite keeps only its name. The other two exclude what no member of an
interface can be: an iterable as a result, and the name `long` after a type that would take it
along.
-/
import IdlCatalog.Catalog.Describe
import IdlCatalog.Proofs.Grammar.MemberReading
import IdlCatalog.Proofs.Grammar.Writing
import IdlCatalog.Proofs.Session

namespace IdlCatalog

open Grammar Catalog Lexer

variable {c d : Catalog} {l : LibraryId} {t : TypeId} {m : MemberId} {e : TypeExpr}
  {a b : Member} {p : Parameter} {ps : List Parameter} {words : List String}

/-! ## Names in references

The names in a reference are those of the types in it. A word that occurs in no name of a type
starts no reference to it. -/

namespace TypeExpr

mutual

/-- The names of types and the names in front of type arguments. -/
def names : TypeExpr → List String
  | .named name _ _ _ _ => [name.text]
  | .sequence element _ => element.names
  | .generic name first others _ => name.text :: (first.names ++ namesOf others)
  | .union first others => first.names ++ namesOf others

/-- The names in several references. -/
def namesOf : List TypeExpr → List String
  | [] => []
  | e :: others => e.names ++ namesOf others

end

theorem mem_namesOf {es : List TypeExpr} {n : String} :
    n ∈ namesOf es ↔ ∃ e ∈ es, n ∈ e.names := by
  induction es with
  | nil => simp [namesOf]
  | cons e es ih => simp [namesOf, ih]

/-- A name stands in the text of the reference. -/
theorem infix_of_mem_names {n : String} (inside : n ∈ e.names) :
    n.toList <:+: e.text.toList := by
  have row {first : TypeExpr} {others : List TypeExpr} (separator : String)
      (head : n ∈ first.names → n.toList <:+: first.text.toList)
      (each : ∀ e ∈ others, n ∈ e.names → n.toList <:+: e.text.toList)
      (inside : n ∈ first.names ++ namesOf others) :
      n.toList <:+: (separator.intercalate (first.text :: texts others)).toList := by
    rw [toList_intercalate]
    rcases List.mem_append.1 inside with inside | inside
    · exact (head inside).trans (List.prefix_append _ _).isInfix
    · obtain ⟨e, listed, inside⟩ := mem_namesOf.1 inside
      have here : e.text.toList <:+: others.flatMap fun e => separator.toList ++ e.text.toList :=
        (List.suffix_append separator.toList _).isInfix.trans
          (List.infix_of_mem_flatten (List.mem_map_of_mem listed))
      exact ((each e listed inside).trans here).trans (List.suffix_append _ _).isInfix
  induction e with
  | named name =>
    obtain rfl := List.mem_singleton.1 (by simpa [names] using inside)
    simp only [text, String.toList_append, List.append_assoc]
    exact (List.prefix_append _ _).isInfix
  | sequence element nullable ih =>
    simp only [text, String.toList_append, List.append_assoc]
    exact (ih (by simpa [names] using inside)).trans
      ((List.prefix_append _ _).isInfix.trans (List.suffix_append _ _).isInfix)
  | generic name first others nullable ih ihs =>
    simp only [text, String.toList_append, List.append_assoc]
    rw [names] at inside
    rcases List.mem_cons.1 inside with rfl | inside
    · exact (List.prefix_append _ _).isInfix
    · exact (row ", " ih ihs inside).trans (((List.prefix_append _ _).isInfix.trans
        (List.suffix_append _ _).isInfix).trans (List.suffix_append _ _).isInfix)
  | union first others ih ihs =>
    simp only [text, String.toList_append, List.append_assoc]
    rw [names] at inside
    exact (row " or " ih ihs inside).trans
      ((List.prefix_append _ _).isInfix.trans (List.suffix_append _ _).isInfix)

/-- The word of a type that is written first, if it is one of these, is all of a name. -/
theorem avoids (words : List String)
    (other : ∀ word ∈ words, word ∉ ["unrestricted", "unsigned", "sequence"] ∧
      endsInLong word = false)
    (unnamed : ∀ word ∈ words, word ∉ e.names) : e.Avoids words := by
  have named (name : TypeName) (rest : List Token) (unnamed : ∀ word ∈ words, word ≠ name.text) :
      ∀ t ∈ (name.tokens ++ rest).head?, ∀ word ∈ words, t.isKeyword word = false := by
    intro t first word inside
    obtain ⟨qualified, short⟩ := other word inside
    have differs := unnamed word inside
    have extended := name.isName.extended
    rw [TypeWords.tokens, TypeWords.segmentTokens] at first
    rw [TypeWords.text, TypeWords.segment] at differs
    rw [TypeWords.segment] at extended
    cases qualifier : name.qualifier with
    | some q =>
      obtain rfl : (⟨.word, q.text⟩ : Token) = t := by simpa [qualifier] using first
      have same : q.text ≠ word := by
        rintro rfl
        cases q <;> exact qualified (by decide)
      simp [Token.isKeyword, same]
    | none =>
      obtain rfl : (⟨.word, name.word⟩ : Token) = t := by simpa [qualifier] using first
      have same : name.word ≠ word := by
        rintro rfl
        rw [qualifier] at differs extended
        cases long : name.long with
        | false => simp [long] at differs
        | true => exact Bool.noConfusion (short.symm.trans (extended long))
      simp [Token.isKeyword, same]
  cases e with
  | named name nullable array again marked =>
    rw [TypeExpr.Avoids, tokens]
    refine named name _ fun word inside => ?_
    simpa [names] using unnamed word inside
  | sequence element nullable =>
    rintro t ⟨⟩ word inside
    have same : "sequence" ≠ word := by
      rintro rfl
      exact (other _ inside).1 (by decide)
    simp [Token.isKeyword, same]
  | generic name first others nullable =>
    rw [TypeExpr.Avoids, tokens]
    refine named name _ fun word inside same => ?_
    exact unnamed word inside (same ▸ List.mem_cons_self)
  | union first others =>
    rintro t ⟨⟩ word -
    rfl

end TypeExpr

/-! ## What the types of a catalog are called

Types are named as they are written, so it can be asked of the name of a type which words stand in
it. In examples it is enough that a word is no part of the text at all. -/

namespace Catalog

/-- The name stands in the name of the type, for a type or in front of type arguments. -/
def NamedIn (c : Catalog) (n : String) (t : TypeId) : Prop :=
  ∃ e : TypeExpr, e.text = c.typeName t ∧ n ∈ e.names

/-- After the name of the type a `long` would be read along with it. -/
def TakesLong (c : Catalog) (t : TypeId) : Prop :=
  ∃ e : TypeExpr, e.text = c.typeName t ∧ e.TakesLong

theorem not_namedIn {n : String} (outside : ¬n.toList <:+: (c.typeName t).toList) :
    ¬c.NamedIn n t := by
  rintro ⟨e, text, inside⟩
  exact outside (text ▸ e.infix_of_mem_names inside)

/-- All operations of a session but constructors can be written down. -/
theorem written_after (commands : List Command) : (after commands).Written := by
  refine after_induction (P := Catalog.Written) written_initial ?_ ?_ ?_ commands
  · intro c _ _ written name readOnly docs
    exact written.addLibrary name readOnly docs
  · intro c _ _ written l
    exact written.removeLibrary l
  · intro c l readable written source
    exact ingest_written readable written source

/-- All that a signature says about a parameter is the same about two of them. -/
structure SameParameter (c : Catalog) (p : Parameter) (d : Catalog) (q : Parameter) : Prop where
  name : q.name = p.name
  type : d.typeName q.type = c.typeName p.type
  isOptional : q.isOptional = p.isOptional
  isVariadic : q.isVariadic = p.isVariadic

/-- All that a signature says is the same about two operations, each in its catalog. -/
structure SameSignature (c : Catalog) (a : Member) (d : Catalog) (b : Member) : Prop where
  name : b.name = a.name
  isStatic : b.modifiers.contains Modifiers.static = a.modifiers.contains Modifiers.static
  isUnforgeable :
    b.modifiers.contains Modifiers.unforgeable = a.modifiers.contains Modifiers.unforgeable
  type : b.type.map d.typeName = a.type.map c.typeName
  parameters : List.Forall₂ (fun p q => c.SameParameter p d q) a.parameters b.parameters

/-- The type has the operation and no other one, and no property. -/
structure HasOnly (c : Catalog) (t : TypeId) (m : MemberId) : Prop where
  isOperation : (c.member m).IsOperation
  owner : (c.member m).owner = some t
  operations : ∀ n : String, (c.type t).operations[n]? =
    if n = (c.member m).name then some m else none
  properties : ∀ n : String, (c.type t).properties[n]? = none

end Catalog

/-! ## Signatures of operations

`Shows` relates a tree to an operation by what can be seen: names, qualifiers, and the texts of
types. Every operation that can be written down has such a tree under the conditions, and the text
of the tree is the signature. -/

/-- The parameter is written so. -/
structure WrittenParameter.Shows (c : Catalog) (q : WrittenParameter) (p : Parameter) : Prop where
  name : q.name = p.name
  type : q.type.text = c.typeName p.type
  isOptional : q.isOptional = p.isOptional
  isVariadic : q.isVariadic = p.isVariadic

/-- The signature is that of the operation. -/
structure Signature.Shows (c : Catalog) (x : Signature) (a : Member) : Prop where
  isUnforgeable : x.isUnforgeable = a.modifiers.contains Modifiers.unforgeable
  isStatic : x.isStatic = a.modifiers.contains Modifiers.static
  result : Option.Rel (fun e t => e.text = c.typeName t) x.result a.type
  name : x.name = a.name
  parameters : List.Forall₂ (WrittenParameter.Shows c) x.parameters a.parameters

/-- The words that mean something in front of a member or a parameter. -/
def leadingWords : List String := memberWords ++ parameterWords

theorem leadingWords_plain : ∀ word ∈ leadingWords,
    word ∉ ["unrestricted", "unsigned", "sequence"] ∧ endsInLong word = false := by
  decide

theorem Catalog.WrittenAs.avoids (h : c.WrittenAs e t)
    (unnamed : ∀ word ∈ leadingWords, ¬c.NamedIn word t) (words : List String)
    (among : ∀ word ∈ words, word ∈ leadingWords) : e.Avoids words :=
  e.avoids words (fun word inside => leadingWords_plain word (among word inside))
    fun word inside named => unnamed word (among word inside) ⟨e, h.name.symm, named⟩

theorem Parameter.Written.exists_shows (h : p.Written c)
    (unnamed : ∀ word ∈ leadingWords, ¬c.NamedIn word p.type) :
    ∃ q : WrittenParameter, q.Shows c p := by
  obtain ⟨e, writtenAs, apart⟩ := h.type
  refine ⟨⟨p.isOptional, e, p.isVariadic, p.name, h.spelled, ?_, ?_⟩, rfl, writtenAs.name.symm, rfl,
    rfl⟩
  · exact writtenAs.avoids unnamed _ fun word inside => List.mem_append_right _ inside
  · exact fun fixed takes named => apart fixed named takes

theorem exists_shows_parameters (h : ∀ p ∈ ps, p.Written c)
    (unnamed : ∀ p ∈ ps, ∀ word ∈ leadingWords, ¬c.NamedIn word p.type) :
    ∃ qs, List.Forall₂ (WrittenParameter.Shows c) qs ps := by
  induction ps with
  | nil => exact ⟨[], .nil⟩
  | cons p ps ih =>
    obtain ⟨first, others⟩ := List.forall_mem_cons.1 h
    obtain ⟨unnamed, unnamed'⟩ := List.forall_mem_cons.1 unnamed
    obtain ⟨q, shows⟩ := first.exists_shows unnamed
    obtain ⟨qs, related⟩ := ih others unnamed'
    exact ⟨q :: qs, .cons shows related⟩

/-- An operation has a signature of which all parts are read for what they are. -/
theorem Member.Written.exists_shows (h : a.Written c) (word : Spells .word a.name.toList)
    (unnamed : ∀ t ∈ a.referencedTypes, ∀ word ∈ leadingWords, ¬c.NamedIn word t)
    (declares : isIterable c a.type = false)
    (apart : a.name = "long" → ∀ t ∈ a.type, ¬c.TakesLong t) : ∃ x : Signature, x.Shows c a := by
  obtain ⟨qs, parameters⟩ := exists_shows_parameters h.parameters fun p inside =>
    unnamed p.type (List.mem_append_right _ (List.mem_map_of_mem inside))
  cases result : a.type with
  | none =>
    refine ⟨⟨_, _, none, a.name, qs, word, nofun⟩, rfl, rfl, ?_, rfl, parameters⟩
    rw [result]
    exact .none
  | some t =>
    obtain ⟨e, writtenAs⟩ := h.type t result
    have unnamed := unnamed t (List.mem_append_left _ (by simp [result]))
    have avoids : e.Avoids memberWords :=
      writtenAs.avoids unnamed _ fun word inside => List.mem_append_left _ inside
    have declares : ¬e.IsIterable := fun iterable => by
      rw [result, isIterable, Option.isSome_eq_false_iff, Option.isNone_iff_eq_none] at declares
      exact writtenAs.iterable iterable declares
    have apart : e.TakesLong → a.name ≠ "long" := fun takes named =>
      apart named t result ⟨e, writtenAs.name.symm, takes⟩
    have shown : Option.Rel (fun e t => e.text = c.typeName t) (some e) a.type := by
      rw [result]
      exact .some writtenAs.name.symm
    refine ⟨⟨_, _, some e, a.name, qs, word, ?_⟩, rfl, rfl, shown, rfl, parameters⟩
    rintro _ ⟨⟩
    exact ⟨avoids, declares, apart⟩

theorem WrittenParameter.Shows.text {q : WrittenParameter} (h : q.Shows c p) :
    q.text = c.parameterText p := by
  rw [WrittenParameter.text, parameterText, h.name, h.type, h.isOptional, h.isVariadic]

theorem Signature.Shows.text {x : Signature} (h : x.Shows c (c.member m))
    (isOperation : (c.member m).IsOperation) (ordinary : (c.member m).isConstructor = false) :
    x.text = c.signature m := by
  obtain ⟨ps, specials, body⟩ := isOperation
  have list : x.parameters.map WrittenParameter.text = ps.map c.parameterText := by
    have related := h.parameters
    rw [Member.parameters, body] at related
    rw [← List.forall₂_eq_eq_eq]
    refine List.forall₂_map_left_iff.2 (List.forall₂_map_right_iff.2 ?_)
    exact related.imp fun _ _ shows => shows.text
  -- without a result type the word `void` stands in its place on both sides
  have result : resultText x.result =
      if (c.member m).type.isNone then "void " else c.typeText (c.member m).type := by
    have related := h.result
    generalize (c.member m).type = type at related
    generalize x.result = result at related
    cases related with
    | none => rfl
    | some text => rw [resultText, text]; rfl
  rw [Signature.text, signature, body, h.isUnforgeable, h.isStatic, h.name, list, result]
  simp only [ordinary, Bool.false_eq_true, if_false]

/-- In front of a semicolon the signature is read as its tokens. -/
theorem Signature.tokens_text (x : Signature) :
    Lexer.tokens (x.text ++ ";").toList = x.tokens ++ [⟨.semicolon, ";"⟩, Token.endOfInput] := by
  have semicolon : ReadsAs [';'] [⟨.semicolon, ";"⟩] [] :=
    readsAs_operator (by decide +kernel) (by decide) nofun
  have nothing : Lexer.tokens [] = [Token.endOfInput] := by decide +kernel
  have front : ReadsAs x.text.toList x.tokens ([';'] ++ []) :=
    x.readsAs (endsOperator_cons (by decide) [])
  have whole := front.append semicolon
  rw [ReadsAs, List.append_nil, nothing, List.append_assoc] at whole
  rw [String.toList_append]
  exact whole

/-! ## Reading back

The tokens of the signature are read as a member of a new interface. What comes back need not be the
same types, since composites are created once more; it has the same names. -/

theorem Catalog.SameSignature.of_bare (h : c.SameSignature a d b.bare) : c.SameSignature a d b :=
  ⟨h.name, h.isStatic, h.isUnforgeable, h.type, h.parameters⟩

/-- Parameters that are read as others are written. -/
theorem sameParameters {qs : List WrittenParameter} {ps' : List Parameter} (registry : Registry d)
    (shown : List.Forall₂ (WrittenParameter.Shows c) qs ps)
    (read : List.Forall₂ (WrittenParameter.ReadAs (d.Means l)) qs ps') :
    List.Forall₂ (fun p q => c.SameParameter p d q) ps ps' := by
  induction shown generalizing ps' with
  | nil =>
    cases read
    exact .nil
  | @cons q p qs ps shows _ ih =>
    cases read with
    | @cons _ p' _ ps' readAs others =>
      refine .cons ⟨?_, ?_, ?_, ?_⟩ (ih others)
      · exact readAs.name.trans shows.name
      · exact (readAs.type.typeName registry).trans shows.type
      · exact readAs.isOptional.trans shows.isOptional
      · exact readAs.isVariadic.trans shows.isVariadic

/-- What is read for the signature of an operation has this signature. -/
theorem Signature.ReadAs.sameSignature {x : Signature} (read : x.ReadAs (d.Means l) b)
    (registry : Registry d) (shows : x.Shows c a) : c.SameSignature a d b := by
  obtain ⟨result, parameters⟩ := read
  refine ⟨shows.name, ?_, ?_, ?_, sameParameters registry shows.parameters parameters⟩
  · exact x.contains_static.trans shows.isStatic
  · exact x.contains_unforgeable.trans shows.isUnforgeable
  · have shown := shows.result
    rw [Member.operation]
    generalize x.result = written at result shown
    generalize a.type = type at shown
    cases shown with
    | none =>
      cases result
      rfl
    | some text =>
      cases result with
      | some means => exact congrArg some ((means.typeName registry).trans text)

theorem Table.isOperation_of_home (home : Table.home a = .operations) : a.IsOperation := by
  have holds := Table.holds_home a
  rwa [home] at holds

/-- A type that was given an operation has no other one. -/
theorem Catalog.Declaring.hasOnly (h : d.Declaring t [b]) (home : Table.home b = .operations) :
    ∃ k, (d.member k).bare = b ∧ d.HasOnly t k := by
  -- the tables of the type are what the one member comes to
  have listed (n : String) : d.listed .operations t n = if n = b.name then some b else none := by
    rw [h.lists, Table.united]
    by_cases same : n = b.name
    · simp [same, home, Table.unite]
    · simp [same, Ne.symm same, Table.unite]
  have none (n : String) : d.listed .properties t n = none := by
    rw [h.lists, Table.united]
    simp [home, Table.unite]
  obtain ⟨k, entry, bare⟩ := Option.map_eq_some_iff.1 ((listed b.name).trans (if_pos rfl))
  obtain ⟨-, owner, name, holds⟩ := h.tables .operations t b.name k entry
  refine ⟨k, bare, holds, owner, fun n => ?_, fun n => Option.map_eq_none_iff.1 (none n)⟩
  rw [name]
  split
  · next same => exact same ▸ entry
  · next other => exact Option.map_eq_none_iff.1 ((listed n).trans (if_neg other))

/-- A new type that was not given anything. -/
theorem declaring_newType (registry : Registry c) (tables : c.Tables) (n : String) :
    (c.newType n .interface).2.Declaring (c.newType n .interface).1 [] := by
  have type : (c.newType n .interface).2.type ⟨c.types.size⟩ = TypeNode.new n .interface := by
    rw [newType, type_pushType, if_pos rfl]
  refine ⟨registry.quiet (quiet_pushType c _ (.inl rfl)),
    (keepsLists_newType c n .interface).grows.tables tables, ?_, ?_, .nil fun table => ?_⟩
  · show c.types.size < _
    rw [newType, types_size_pushType]
    exact Nat.lt_succ_self _
  · exact congrArg (fun node : TypeNode => decide (node.kind = .reopening)) type
  · refine (congrArg table.of type).trans ?_
    cases table <;> rfl

/-- The signature of an operation reads back as the operation. After every session, for every
library and for every operation of the catalog that is no constructor: if its name is a word, its
types are not named like the words that mean something in front of members and parameters, and a
member of an interface can have its result type and its name, then its signature with a semicolon
after it is read to its end as a member of a new type, and the type then has this one operation. -/
theorem signature_reads_back (commands : List Command) (l : LibraryId) (m : MemberId) (n : String)
    (isOperation : ((after commands).member m).IsOperation)
    (ordinary : ((after commands).member m).isConstructor = false)
    (word : Spells .word ((after commands).member m).name.toList)
    (unnamed : ∀ t ∈ ((after commands).member m).referencedTypes, ∀ word ∈ leadingWords,
      ¬(after commands).NamedIn word t)
    (declares : isIterable (after commands) ((after commands).member m).type = false)
    (apart : ((after commands).member m).name = "long" →
      ∀ t ∈ ((after commands).member m).type, ¬(after commands).TakesLong t) :
    let c := after commands
    let fresh := c.newType n .interface
    ∃ u k, interfaceMember fresh.1 l
        (ReadState.start (Lexer.tokens (c.signature m ++ ";").toList) fresh.2) = (.ok (), u) ∧
      u.rest = [Token.endOfInput] ∧ u.catalog.HasOnly fresh.1 k ∧
        c.SameSignature (c.member m) u.catalog (u.catalog.member k) := by
  intro c fresh
  have written := (written_after commands).members m isOperation ordinary
  obtain ⟨x, shows⟩ := written.exists_shows word unnamed declares apart
  have declaring : fresh.2.Declaring fresh.1 [] :=
    declaring_newType (registry_after commands) (tables_after commands) n
  -- the text is that of a tree, and its tokens are those of the tree
  rw [← shows.text isOperation ordinary, x.tokens_text]
  let s := ReadState.start (x.tokens ++ [⟨.semicolon, ";"⟩, Token.endOfInput]) fresh.2
  obtain ⟨_, _, u, run, rest, -, b, read, -, -, given⟩ :=
    signature_declared (l := l) (s := s) declaring rfl
  have home : Table.home b = .operations := by
    cases read
    rfl
  obtain ⟨k, rfl, only⟩ := given.hasOnly home
  exact ⟨u, k, run, rest, only, (read.sameSignature given.registry shows).of_bare⟩

/-- An operation into which an overload was merged. -/
theorem merged_signature_reads_back :
    let c := after [.addLibrary "dom" false .silent, .ingest ⟨2⟩
      ("interface A \x7b [Unforgeable] static sequence<A?> f(A a, long... more);\n" ++
        "  void f(double b); \x7d;")]
    let fresh := c.newType "B" .interface
    (c.member ⟨0⟩).IsOperation ∧ (c.member ⟨0⟩).isConstructor = false ∧
    Spells .word (c.member ⟨0⟩).name.toList ∧
    (∀ t ∈ (c.member ⟨0⟩).referencedTypes, ∀ word ∈ leadingWords, ¬c.NamedIn word t) ∧
    isIterable c (c.member ⟨0⟩).type = false ∧
    ((c.member ⟨0⟩).name = "long" → ∀ t ∈ (c.member ⟨0⟩).type, ¬c.TakesLong t) ∧
    c.signature ⟨0⟩ = "[Unforgeable] static sequence<A?> f(any a_b, optional long... more)" ∧
    ∃ u k, interfaceMember fresh.1 ⟨2⟩
        (ReadState.start (Lexer.tokens (c.signature ⟨0⟩ ++ ";").toList) fresh.2) = (.ok (), u) ∧
      u.rest = [Token.endOfInput] ∧ u.catalog.HasOnly fresh.1 k ∧
        c.SameSignature (c.member ⟨0⟩) u.catalog (u.catalog.member k) := by
  intro c fresh
  -- everything that can be computed about the session
  obtain ⟨home, ordinary, name, outside, declares, text⟩ :
      Table.home (c.member ⟨0⟩) = .operations ∧ (c.member ⟨0⟩).isConstructor = false ∧
        (c.member ⟨0⟩).name = "f" ∧
        (∀ t ∈ (c.member ⟨0⟩).referencedTypes, ∀ word ∈ leadingWords,
          ¬word.toList <:+: (c.typeName t).toList) ∧
        isIterable c (c.member ⟨0⟩).type = false ∧
        c.signature ⟨0⟩ =
          "[Unforgeable] static sequence<A?> f(any a_b, optional long... more)" := by
    decide +kernel
  have isOperation : (c.member ⟨0⟩).IsOperation := Table.isOperation_of_home home
  have word : Spells .word (c.member ⟨0⟩).name.toList := by
    rw [name]
    exact spells_word (by decide) (by decide)
  have unnamed : ∀ t ∈ (c.member ⟨0⟩).referencedTypes, ∀ word ∈ leadingWords,
      ¬c.NamedIn word t :=
    fun t mentioned word inside => not_namedIn (outside t mentioned word inside)
  have apart : (c.member ⟨0⟩).name = "long" → ∀ t ∈ (c.member ⟨0⟩).type, ¬c.TakesLong t :=
    fun long => absurd (name.symm.trans long) (by decide)
  exact ⟨isOperation, ordinary, word, unnamed, declares, apart, text,
    signature_reads_back _ ⟨2⟩ ⟨0⟩ "B" isOperation ordinary word unnamed declares apart⟩

/-- Operations of callback functions whose signatures mean something else where a member is read:
one that answers an iterable, and one that is called `long` and answers a `long`. -/
theorem callback_signatures_refused :
    let c := after [.addLibrary "dom" false .silent,
      .ingest ⟨2⟩ "callback F = iterable<long> (); callback long = long ();"]
    let fresh := c.newType "B" .interface
    c.signature ⟨0⟩ = "iterable<long> F()" ∧ c.signature ⟨1⟩ = "long long()" ∧
    ∀ m ∈ [(⟨0⟩ : MemberId), ⟨1⟩], (c.member m).owner ≠ none ∧
      (c.member m).IsOperation ∧ (c.member m).isConstructor = false ∧
      Spells .word (c.member m).name.toList ∧
      (∀ t ∈ (c.member m).referencedTypes, ∀ word ∈ leadingWords, ¬c.NamedIn word t) ∧
      ∀ u, interfaceMember fresh.1 ⟨2⟩
        (ReadState.start (Lexer.tokens (c.signature m ++ ";").toList) fresh.2) ≠ (.ok (), u) := by
  intro c fresh
  obtain ⟨first, second, facts⟩ :
      c.signature ⟨0⟩ = "iterable<long> F()" ∧ c.signature ⟨1⟩ = "long long()" ∧
        ∀ m ∈ [(⟨0⟩ : MemberId), ⟨1⟩], (c.member m).owner ≠ none ∧
          Table.home (c.member m) = .operations ∧ (c.member m).isConstructor = false ∧
          (c.member m).name ∈ ["F", "long"] ∧
          (∀ t ∈ (c.member m).referencedTypes, ∀ word ∈ leadingWords,
            ¬word.toList <:+: (c.typeName t).toList) ∧
          (interfaceMember fresh.1 ⟨2⟩ (ReadState.start
            (Lexer.tokens (c.signature m ++ ";").toList) fresh.2)).1.isOk = false := by
    decide +kernel
  refine ⟨first, second, fun m listed => ?_⟩
  obtain ⟨owned, home, ordinary, name, outside, refused⟩ := facts m listed
  refine ⟨owned, Table.isOperation_of_home home, ordinary, ?_, ?_, fun u run => ?_⟩
  · rcases List.mem_pair.1 name with name | name <;> rw [name] <;>
      exact spells_word (by decide) (by decide)
  · exact fun t mentioned word inside => not_namedIn (outside t mentioned word inside)
  · rw [run] at refused
    cases refused

end IdlCatalog
