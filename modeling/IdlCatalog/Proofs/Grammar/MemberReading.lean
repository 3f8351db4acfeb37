/-
# IdlCatalog.Proofs.Grammar.MemberReading — the members of an interface are read as they are written

The tokens of a member are read to their end, to the member for which they were written, and that
member is attached to the type. So after a body the tables of the type list what all its members
come to, in the order in which they stand there.

## Two accounts of a body

What a body comes to is told twice. For a type that was just created everything that is known of it
stands in the text, so the tables are described in full: `bodyOf_declared`. For any other type, one
that had members before or one that only reopens another, only what the events note is described:
`bodyOf_noted`. Both rest on the same lemmas about reading a member; `GoesOn` leaves open what is
done with it.
-/
import IdlCatalog.Proofs.Grammar.Declaring
import IdlCatalog.Proofs.Grammar.SignatureReading

namespace IdlCatalog

open Grammar Catalog Lexer IdlCatalog.Parser

/-! ## Words -/

variable {α β : Type} {l : LibraryId} {s u : ReadState} {rest rest' : List Token} {t : TypeId}
  {as : List Member} {a : Member}

/-- A name that is not `long` ends every type. -/
theorem Identifier.endsType (name : Identifier) (rest : List Token) :
    EndsType (name.token :: rest) :=
  fun _ => TypeExpr.endsBefore_word (fun _ => name.short) rest

/-! ## Properties

The two forms of a property. A constant is an attribute with a value; the value is put together from
the texts of its tokens with single blanks. -/

/-- An attribute is read to a property. -/
theorem property_tells {isReadOnly : Bool} {e : TypeExpr} {name : Identifier}
    (stands : s.rest = (MemberSyntax.property isReadOnly e name).tokens ++ rest)
    (registry : Registry s.catalog) :
    (property Modifiers.empty).TellsMember id l
      (MemberSyntax.ReadAs · (.property isReadOnly e name)) s rest := by
  simp only [MemberSyntax.tokens, List.append_assoc, List.cons_append, List.nil_append] at stands
  refine acceptKeyword_tells stands (fun _ => rfl) fun u left catalog => ?_
  obtain ⟨peek, left⟩ := ReadState.peek_of_rest left
  refine (takes_requireKeyword (by rw [peek]; rfl)).tells ?_
  rw [← catalog, ← u.catalog_advance] at registry ⊢
  -- behind the keywords stand the type, the name and a semicolon
  refine (TypeExpr.reads left (name.endsType _ _) registry).bind ?_
  rintro t v left ⟨later, means⟩
  obtain ⟨takes, left⟩ := identifier_takes left
  refine takes.tells ?_
  rw [← v.catalog_advance] at later means
  obtain ⟨peek, left⟩ := ReadState.peek_of_rest left
  refine (passes_acceptRaises (by rw [peek]; decide)).tells ?_
  refine (takes_require (by rw [peek])).tells ?_
  rw [← v.advance.catalog_advance] at later means
  refine ⟨_, [], v.advance.advance, rfl, left, (List.append_nil _).symm, _, rfl, rfl, later, ?_⟩
  rw [Modifiers.empty_or]
  exact .property means

/-- The value of a constant, up to the semicolon after it. -/
theorem rawUntilSemicolon_answers {value : List Token}
    (plain : ∀ t ∈ value, IsToken t ∧ t.category ≠ .semicolon)
    (stands : s.rest = value ++ ⟨.semicolon, ";"⟩ :: rest) :
    rawUntilSemicolon.Answers l s (⟨.semicolon, ";"⟩ :: rest) fun text d =>
      text = " ".intercalate (value.map (·.text)) ∧ d = s.catalog := by
  have continues : ∀ t ∈ value, continuesValue t = true := fun t inside => by
    simp [continuesValue, (plain t inside).1.1, (plain t inside).2]
  have split : s.rest.takeWhile continuesValue = value := by
    rw [stands, List.takeWhile_append_of_pos continues]
    simp [continuesValue]
  refine answers_of_run (u := s.drop value.length) ?_ ?_ ?_ ⟨rfl, s.catalog_drop _⟩
  · rw [rawUntilSemicolon, split]
  · rw [s.rest_drop, stands, List.drop_left]
  · exact ReadState.told_congr s.store_drop

/-- A constant is read to a property that cannot be changed. -/
theorem constant_tells {e : TypeExpr} {name : Identifier} {value : List Token} {plain}
    (stands : s.rest = (MemberSyntax.constant e name value plain).tokens ++ rest)
    (registry : Registry s.catalog) :
    constant.TellsMember id l (MemberSyntax.ReadAs · (.constant e name value plain)) s rest := by
  simp only [MemberSyntax.tokens, List.append_assoc, List.cons_append, List.nil_append] at stands
  obtain ⟨peek, left⟩ := ReadState.peek_of_rest stands
  refine (takes_requireKeyword (by rw [peek]; rfl)).tells ?_
  rw [← s.catalog_advance] at registry ⊢
  refine (TypeExpr.reads left (name.endsType _ _) registry).bind ?_
  rintro t v left ⟨later, means⟩
  obtain ⟨takes, left⟩ := identifier_takes left
  refine takes.tells ?_
  rw [← v.catalog_advance] at later means
  obtain ⟨peek, left⟩ := ReadState.peek_of_rest left
  refine (takes_require (by rw [peek])).tells ?_
  rw [← v.advance.catalog_advance] at later means
  -- the value is taken as it stands
  refine (rawUntilSemicolon_answers plain left).bind ?_
  rintro _ w left ⟨rfl, catalog⟩
  obtain ⟨peek, left⟩ := ReadState.peek_of_rest left
  rw [← catalog, ← w.catalog_advance] at later means
  refine (takes_require (by rw [peek])).tells ?_
  exact ⟨_, [], w.advance, rfl, left, (List.append_nil _).symm, _, rfl, rfl, later, .constant means⟩

/-! ## Attaching

A property is appended to its table. An operation is looked up by name first, and folded into the
one that is there; otherwise it is appended and gets an entry under its name. -/

/-- A member is attached as what it is: an operation may be an overload of one that is there. -/
def attachMember (t : TypeId) (a : Member) : Parser Unit :=
  match Table.home a with
  | .properties => attachProperty t a
  | .operations => attachOverload t a

/-- Of an attached member it is told that it was attached; the question for its documentation is no
such event. -/
theorem told_attachedStore (s : ReadState) (l : LibraryId) (t : TypeId)
    (added : MemberId × Catalog) :
    (s.put (attachedStore s l t added)).told = s.told ++ [.attached t added.1] := by
  have journal := congrArg Event.told (journal_attachedStore s l t added)
  rw [Event.told_append] at journal
  exact journal

/-- What attaching comes to: the member enters its table, or it is folded into an operation of its
name. Either is told of. -/
theorem attachMember_tells {Q : Unit → List Event → Catalog → Prop}
    (enters : (Table.home a = .operations → s.catalog.operation? t a.name = none) →
      Q () [.attached t (enter (Table.home a) s.catalog t a).1]
        (documentMember l t (enter (Table.home a) s.catalog t a)).2)
    (merges : ∀ m, Table.home a = .operations → s.catalog.operation? t a.name = some m →
      Q () [.merged t m] (s.catalog.mergeOperation m a)) :
    (attachMember t a).Tells l s s.rest Q := by
  rw [attachMember]
  cases home : Table.home a with
  | properties =>
    rw [home] at enters
    let u := s.put (attachedStore s l t (s.catalog.addProperty t a))
    exact ⟨(), _, u, rfl, rfl, told_attachedStore s l t _, enters nofun⟩
  | operations =>
    rw [home] at enters
    cases known : s.catalog.operation? t a.name with
    | none =>
      have looked : (view (·.operation? t a.name)).Passes s none := fun _ => by rw [← known]; rfl
      let u := s.put (attachedStore s l t (s.catalog.addOperation t a))
      exact looked.tells
        ⟨(), _, u, rfl, rfl, told_attachedStore s l t _, enters fun _ => known⟩
    | some m =>
      have looked : (view (·.operation? t a.name)).Passes s (some m) :=
        fun _ => by rw [← known]; rfl
      let u := s.put ⟨s.catalog.mergeOperation m a, s.journal.push (.merged t m)⟩
      refine looked.tells ⟨(), [.merged t m], u, rfl, rfl, ?_, merges m home known⟩
      simp [ReadState.told, ReadState.put, Event.told, Event.isTold, u]

/-- A type that is being declared gains the member, and no parameter is told of. -/
theorem attachMember_gains (declaring : s.catalog.Declaring t as) (bare : a.bare = a) :
    (attachMember t a).Tells l s s.rest fun _ noted d =>
      Event.parameters noted = [] ∧ Gains s.catalog t as a d := by
  refine attachMember_tells (fun new => ⟨rfl, ?_⟩) fun m home known =>
    ⟨rfl, declaring.overload home known⟩
  cases home : Table.home a with
  | properties =>
    exact (declaring.property bare home).document l (.member (s.catalog.addProperty t a).1)
  | operations =>
    exact (declaring.operation bare home (new home)).document l
      (.member (s.catalog.addOperation t a).1)

/-! ### Notes -/

/-- The events of which a body tells: its parameters, and what became of its members. -/
def Event.IsOfBody : Event → Prop
  | .parameter _ | .attached _ _ | .merged _ _ => True
  | _ => False

namespace Catalog

/-- Names and tables are in order, and constructors are members that exist. -/
structure Orderly (c : Catalog) : Prop where
  registry : Registry c
  tables : c.Tables
  constructors : ∀ u, ∀ m ∈ (c.type u).constructors, m.index < c.members.size

/-- The event notes that a member of this name, which belongs into the table, was declared for the
type: it was attached, and not as a constructor, or it was folded into an operation. -/
inductive Notes (d : Catalog) (t : TypeId) (table : Table) (name : String) : Event → Prop
  | attached {m : MemberId} (known : m.index < d.members.size)
      (named : (d.member m).name = name) (holds : table.Holds (d.member m))
      (unlisted : m ∉ (d.type t).constructors) : Notes d t table name (.attached t m)
  | merged {m : MemberId} (home : table = .operations) (known : m.index < d.members.size)
      (named : (d.member m).name = name) : Notes d t table name (.merged t m)

variable {c d : Catalog} {table : Table} {name : String} {e : Event}

/-- A note about a member is an event of a body. -/
theorem Notes.isOfBody (notes : d.Notes t table name e) : e.IsOfBody := by
  cases notes <;> exact trivial

/-- Names and tables stay in order while a catalog grows. -/
theorem Orderly.later (orderly : c.Orderly) (grows : Extends c d) (registry : Registry d) :
    d.Orderly := by
  refine ⟨registry, grows.tables orderly.tables, fun u m inside => ?_⟩
  rcases grows.gained u m inside with earlier | ⟨-, bound⟩
  · exact Nat.lt_of_lt_of_le (orderly.constructors u m earlier) grows.size_le
  · exact bound

/-- What was noted stays so: a member that is there keeps its name, and becomes no constructor. -/
theorem Notes.later (notes : c.Notes t table name e) (grows : Extends c d) :
    d.Notes t table name e := by
  cases notes with
  | @attached m known named holds unlisted =>
    have alike := grows.member m known
    refine .attached (Nat.lt_of_lt_of_le known grows.size_le) (alike.name.trans named)
      ((alike.holds table).2 holds) fun listed => ?_
    exact (grows.gained t m listed).elim unlisted fun new => absurd known (Nat.not_lt.2 new.1)
  | @merged m home known named =>
    exact .merged home (Nat.lt_of_lt_of_le known grows.size_le)
      ((grows.member m known).name.trans named)

end Catalog

/-- Whatever type a member is declared for, the one event that is told of notes it. -/
theorem attachMember_notes (orderly : s.catalog.Orderly) :
    (attachMember t a).Tells l s s.rest fun _ noted d =>
      ∃ e, noted = [e] ∧ d.Notes t (Table.home a) a.name e ∧ Extends s.catalog d ∧ Registry d := by
  -- the member enters a table, or its parameters are merged into one that is there
  refine attachMember_tells (fun _ => ?_) fun m home known => ?_
  · have holds := Table.holds_home a
    have placed := placed_enter (Table.home a) s.catalog t a
    have filed := (filed_enter (Table.home a) s.catalog t holds).1
    have final := filed_documentMember l t filed
    have same := sameContents_document (enter (Table.home a) s.catalog t a).2 l
      (.member (enter (Table.home a) s.catalog t a).1)
    refine ⟨_, rfl, .attached final.bound final.alike.name ((final.alike.holds _).2 holds) ?_,
      final.grows, ?_⟩
    · rw [documentMember, same.constructors, placed.constructors]
      exact fun listed => absurd (orderly.constructors t _ listed) (Nat.lt_irrefl _)
    · have entered := orderly.registry.quiet (quiet_enter (Table.home a) s.catalog t a)
      exact entered.quiet (quiet_document _ l (.member (enter (Table.home a) s.catalog t a).1))
  · obtain ⟨bound, -, named, -⟩ := orderly.tables .operations _ a.name m known
    have grows := (sameContents_mergeOperation s.catalog m a).toExtends
    exact ⟨_, rfl, .merged home (Nat.lt_of_lt_of_le bound grows.size_le)
      ((grows.member m bound).name.trans named), grows,
      orderly.registry.quiet (quiet_mergeOperation _ m a)⟩

/-! ## Members

The words in front of a member are read first: blocks of attributes, and `static`. By what stands
after them the three forms are told apart, and each form is passed on to the parser for it. -/

/-- What comes after a member was read: it is attached, whatever that comes to. `R` says which
member it is, given the types for which references stand. -/
abbrev Parser.GoesOn (l : LibraryId) (t : TypeId) (R : (TypeExpr → TypeId → Prop) → Member → Prop)
    (s : ReadState) (rest : List Token) (Q : Unit → List Event → Catalog → Prop) : Prop :=
  ∀ a u, u.rest = rest → Mentioning s.catalog u.catalog → R (u.catalog.Means l) a →
    (attachMember t a).Tells l u rest fun x more d => Q x (a.parameters.map .parameter ++ more) d

/-- Members of interfaces by what stands after the words in front of them. -/
theorem interfaceMember_tells (isUnforgeable isStatic : Bool)
    {Q : Unit → List Event → Catalog → Prop}
    (stands : s.rest = unforgeableIf isUnforgeable ++ (tokenIf ⟨.word, "static"⟩ isStatic ++ rest))
    (starts : StartsType rest)
    (plain : ∀ word ∈ ["static", "stringifier", "inherit"], (nextToken rest).isKeyword word = false)
    (next : ∀ u, u.rest = rest → u.catalog = s.catalog → (interfaceMemberNamed t
      ((if isUnforgeable then Modifiers.unforgeable else Modifiers.empty) |||
        if isStatic then Modifiers.static else Modifiers.empty)).Tells l u rest' Q) :
    (interfaceMember t).Tells l s rest' Q := by
  refine (gives_memberAttributes stands (starts.tokenIf.ne (by decide))).bind ?_
  rintro _ u left ⟨rfl, catalog⟩
  refine acceptKeyword_tells left (fun _ => plain _ (by decide)) fun v left catalog' => ?_
  have other (word : String) (inside : word ∈ ["static", "stringifier", "inherit"]) :
      v.peek.isKeyword word = false := ReadState.peek_eq left ▸ plain word inside
  refine (passes_acceptKeyword (other "stringifier" (by decide))).tells ?_
  dsimp only
  rw [if_neg Bool.false_ne_true]
  refine (passes_acceptKeyword (other "inherit" (by decide))).tells ?_
  exact next v left (catalog'.trans catalog)

/-- A member is read, and then it is attached. -/
theorem attached_tells {R : (TypeExpr → TypeId → Prop) → Member → Prop}
    {Q : Unit → List Event → Catalog → Prop} {p : Parser α} {got : Member → α}
    {attach : α → Parser Unit} (read : p.TellsMember got l R s rest)
    (next : ∀ a u, u.rest = rest → Mentioning s.catalog u.catalog → R (u.catalog.Means l) a →
      (attach (got a)).Tells l u rest fun x more d =>
        Q x (a.parameters.map .parameter ++ more) d) :
    (p >>= attach).Tells l s rest Q := by
  refine Tells.bind read ?_
  rintro _ _ u left ⟨a, rfl, rfl, later, readAs⟩
  exact next a u left later readAs

/-- A word is not another keyword. -/
theorem isKeyword_word {first : Token} {w word : String} (eq : first = ⟨.word, w⟩)
    (other : w ≠ word) : first.isKeyword word = false := by
  simp [eq, Token.isKeyword, other]

/-- An attribute among the members of an interface. -/
theorem interfaceMember_property {isReadOnly : Bool} {e : TypeExpr} {name : Identifier}
    {Q : Unit → List Event → Catalog → Prop} (registry : Registry s.catalog)
    (stands : s.rest = (MemberSyntax.property isReadOnly e name).tokens ++ rest)
    (next : GoesOn l t (MemberSyntax.ReadAs · (.property isReadOnly e name)) s rest Q) :
    (interfaceMember t).Tells l s rest Q := by
  obtain ⟨w, first, words⟩ : ∃ w,
      nextToken ((MemberSyntax.property isReadOnly e name).tokens ++ rest) = ⟨.word, w⟩ ∧
        (w = "readonly" ∨ w = "attribute") := by
    cases isReadOnly with
    | false => exact ⟨_, rfl, .inr rfl⟩
    | true => exact ⟨_, rfl, .inl rfl⟩
  generalize whole : (MemberSyntax.property isReadOnly e name).tokens ++ rest = more at stands first
  refine interfaceMember_tells false false stands (.inl (by rw [first])) (fun word inside => ?_)
    fun u left catalog => ?_
  · refine isKeyword_word first ?_
    rintro rfl
    rcases words with rfl | rfl <;> exact absurd inside (by decide)
  have here : (atAnyKeyword ["readonly", "attribute"]).Passes u true := by
    have looked := passes_look (fun t => ["readonly", "attribute"].any t.isKeyword) u
    rw [ReadState.peek_eq left, first] at looked
    rcases words with rfl | rfl <;> exact looked
  rw [← catalog] at registry
  refine here.tells ?_
  rw [if_pos rfl, if_neg Bool.false_ne_true, if_neg Bool.false_ne_true, Modifiers.empty_or]
  have read := property_tells (l := l) (left.trans whole.symm) registry
  refine attached_tells read fun a v left later read => ?_
  rw [catalog] at later
  cases read with
  | property type => exact next _ v left later (.property type)

/-- A constant among the members of an interface. -/
theorem interfaceMember_constant {e : TypeExpr} {name : Identifier} {value : List Token} {plain}
    {Q : Unit → List Event → Catalog → Prop} (registry : Registry s.catalog)
    (stands : s.rest = (MemberSyntax.constant e name value plain).tokens ++ rest)
    (next : GoesOn l t (MemberSyntax.ReadAs · (.constant e name value plain)) s rest Q) :
    (interfaceMember t).Tells l s rest Q := by
  refine interfaceMember_tells false false stands (.inl rfl) (fun word inside => ?_)
    fun u left catalog => ?_
  · refine isKeyword_word rfl ?_
    rintro rfl
    exact absurd inside (by decide)
  have peek := (ReadState.peek_of_rest left).1
  have other : (atAnyKeyword ["readonly", "attribute"]).Passes u false :=
    passes_anyKeyword fun word inside => isKeyword_word peek (by
      rintro rfl
      exact absurd inside (by decide))
  have here : (atKeyword "const").Passes u true := by
    have looked := passes_look (·.isKeyword "const") u
    rwa [peek] at looked
  rw [← catalog] at registry
  -- the keyword decides between the productions
  refine other.tells (here.tells ?_)
  rw [if_neg Bool.false_ne_true, if_pos rfl]
  have read : constant.TellsMember id l
      (MemberSyntax.ReadAs · (.constant e name value plain)) u rest :=
    constant_tells left registry
  refine attached_tells read fun a v left later read => ?_
  rw [catalog] at later
  cases read with
  | constant type =>
    simp only [id, Member.property, Bool.false_eq_true, if_false, Modifiers.or_empty]
    exact next _ v left later (.constant type)

/-- An operation is read as its signature says. -/
theorem interfaceMember_signature {x : Signature} {Q : Unit → List Event → Catalog → Prop}
    (registry : Registry s.catalog) (stands : s.rest = x.tokens ++ ⟨.semicolon, ";"⟩ :: rest)
    (next : GoesOn l t (Signature.ReadAs · x) s rest Q) : (interfaceMember t).Tells l s rest Q := by
  rw [Signature.tokens, List.append_assoc, List.append_assoc] at stands
  have other (word : String) (inside : word ∈ memberWords) (noVoid : word ≠ "void")
      (more : List Token) :
      (nextToken (x.bodyTokens ++ more)).isKeyword word = false := by
    rw [Signature.bodyTokens, List.append_assoc]
    exact nextToken_result (fun e of => (x.plain e of).1) inside noVoid _
  have starts (more : List Token) : StartsType (x.bodyTokens ++ more) := by
    rw [Signature.bodyTokens, List.append_assoc]
    cases x.result with
    | none => exact .inl rfl
    | some e => exact (e.nextToken_tokens _).2
  refine interfaceMember_tells x.isUnforgeable x.isStatic stands (starts _)
    (fun word inside => ?_) fun u left catalog => ?_
  · refine other word ?_ ?_ _
    · revert word; decide
    · revert word; decide
  have here (word : String) (inside : word ∈ memberWords) (noVoid : word ≠ "void") :
      u.peek.isKeyword word = false := ReadState.peek_eq left ▸ other word inside noVoid _
  have looked (word : String) (inside : word ∈ memberWords) (noVoid : word ≠ "void") :
      (atKeyword word).Passes u false :=
    here word inside noVoid ▸ passes_look (·.isKeyword word) u
  have words : (atAnyKeyword ["readonly", "attribute"]).Passes u false :=
    passes_anyKeyword fun word inside => by
      refine here word ?_ ?_
      · revert word; decide
      · revert word; decide
  rw [← catalog] at registry
  -- no keyword of another member is there, so that this is an operation
  refine words.tells ((looked "const" (by decide) (by decide)).tells ?_)
  rw [if_neg Bool.false_ne_true]
  refine (passes_acceptKeyword (here "serializer" (by decide) (by decide))).tells ?_
  rw [if_neg Bool.false_ne_true]
  refine (looked "typedef" (by decide) (by decide)).tells ?_
  rw [if_neg Bool.false_ne_true]
  refine (passes_acceptKeyword (here "constructor" (by decide) (by decide))).tells ?_
  rw [if_neg Bool.false_ne_true]
  refine attached_tells (operation_tells left registry) fun a v left later read => ?_
  rw [catalog] at later
  cases read with
  | operation answer parameters => exact next _ v left later (.operation answer parameters)

/-- An operation that is written down as a member has the signature with its name and words. -/
def Signature.ofSyntax (isStatic : Bool) (result : Option TypeExpr) (name : Identifier)
    (qs : List WrittenParameter)
    (plain : ∀ e ∈ result, e.Avoids memberWords ∧ ¬e.IsIterable) : Signature where
  isUnforgeable := false
  isStatic := isStatic
  result := result
  name := name.text
  parameters := qs
  spelled := name.spelled
  plain e of := ⟨(plain e of).1, (plain e of).2, fun _ => name.short⟩

/-- An operation among the members of an interface. -/
theorem interfaceMember_operation {isStatic : Bool} {result : Option TypeExpr} {name : Identifier}
    {qs : List WrittenParameter} {plain} {Q : Unit → List Event → Catalog → Prop}
    (registry : Registry s.catalog)
    (stands : s.rest = (MemberSyntax.operation isStatic result name qs plain).tokens ++ rest)
    (next : GoesOn l t (MemberSyntax.ReadAs · (.operation isStatic result name qs plain)) s rest Q) :
    (interfaceMember t).Tells l s rest Q := by
  let x : Signature := .ofSyntax isStatic result name qs plain
  have stands : s.rest = x.tokens ++ ⟨.semicolon, ";"⟩ :: rest := by
    simpa [x, Signature.ofSyntax, Signature.tokens, Signature.bodyTokens, unforgeableIf,
      Signature.nameToken, Identifier.token, MemberSyntax.tokens] using stands
  refine interfaceMember_signature registry stands fun a u left later read => ?_
  refine next a u left later ?_
  obtain ⟨answer, parameters⟩ := read
  have modifiers : x.modifiers = if isStatic then Modifiers.static else Modifiers.empty :=
    Modifiers.empty_or _
  rw [modifiers]
  exact .operation answer parameters

/-- A member is read as it is written, and goes on to be attached. -/
theorem interfaceMember_reads {m : MemberSyntax} {Q : Unit → List Event → Catalog → Prop}
    (registry : Registry s.catalog) (stands : s.rest = m.tokens ++ rest)
    (next : GoesOn l t (MemberSyntax.ReadAs · m) s rest Q) :
    (interfaceMember t).Tells l s rest Q := by
  cases m with
  | property => exact interfaceMember_property registry stands next
  | constant => exact interfaceMember_constant registry stands next
  | operation => exact interfaceMember_operation registry stands next

/-! ### In a type that is being declared

`Declaring` describes the tables of the type by the members that were read so far, and `Gains` says
that one more was read. -/

/-- What is known of the parser that reads a member of the type and attaches it; `R` says which
member it is, given the types for which references stand. -/
abbrev Parser.TellsAttached (p : Parser Unit) (l : LibraryId) (t : TypeId) (as : List Member)
    (R : (TypeExpr → TypeId → Prop) → Member → Prop) (s : ReadState) (rest : List Token) : Prop :=
  p.Tells l s rest fun _ noted d => ∃ a, R (d.Means l) a ∧ Event.parameters noted = a.parameters ∧
    Retains s.catalog d ∧ d.Declaring t (as ++ [a])

/-- The parameters noted in two rows of events. -/
theorem Event.parameters_append (es fs : List Event) :
    parameters (es ++ fs) = parameters es ++ parameters fs := List.filterMap_append

/-- Parameters that were noted are read off their notes. -/
theorem Event.parameters_map (ps : List Parameter) : parameters (ps.map .parameter) = ps := by
  rw [parameters, List.filterMap_map]
  exact List.filterMap_some

/-- A type that is being declared gains what is read. -/
theorem goesOn_gains {R : (TypeExpr → TypeId → Prop) → Member → Prop}
    (imp : ∀ {M M' : TypeExpr → TypeId → Prop} {a}, R M a → (∀ e t, M e t → M' e t) → R M' a)
    (bare : ∀ {M : TypeExpr → TypeId → Prop} {a}, R M a → a.bare = a)
    (declaring : s.catalog.Declaring t as) :
    GoesOn l t R s rest fun _ noted d => ∃ a, R (d.Means l) a ∧
      Event.parameters noted = a.parameters ∧ Retains s.catalog d ∧ d.Declaring t (as ++ [a]) := by
  rintro a u rfl later readAs
  have retains := later.retains declaring.registry
  have declaring := declaring.mentioning later
  refine (attachMember_gains declaring (bare readAs)).imp ?_
  rintro _ more d ⟨none, gains⟩
  refine ⟨a, ?_, ?_, retains.trans gains.retains, gains.declaring⟩
  · exact imp readAs fun e t means => means.stays declaring.registry gains.retains
  · rw [Event.parameters_append, Event.parameters_map, none, List.append_nil]

/-- A member that was read has neither owner nor documentation. -/
theorem Signature.ReadAs.bare {x : Signature} {M : TypeExpr → TypeId → Prop}
    (read : x.ReadAs M a) : a.bare = a := by
  cases read
  rfl

/-- A member that was read has neither owner nor documentation. -/
theorem MemberSyntax.ReadAs.bare {m : MemberSyntax} {M : TypeExpr → TypeId → Prop}
    (read : m.ReadAs M a) : a.bare = a := by
  cases read <;> rfl

/-- An operation that stands in the body of a new type is gained by it. -/
theorem signature_declared {x : Signature} (declaring : s.catalog.Declaring t as)
    (stands : s.rest = x.tokens ++ ⟨.semicolon, ";"⟩ :: rest) :
    (interfaceMember t).TellsAttached l t as (Signature.ReadAs · x) s rest :=
  interfaceMember_signature declaring.registry stands (goesOn_gains .imp (·.bare) declaring)

/-- The name of a member. -/
def MemberSyntax.name : MemberSyntax → String
  | .property _ _ name | .constant _ name _ _ | .operation _ _ name _ _ => name.text

/-- The table into which a member belongs. -/
def MemberSyntax.table : MemberSyntax → Table
  | .property _ _ _ | .constant _ _ _ _ => .properties
  | .operation _ _ _ _ _ => .operations

/-- The name and the table of a member can be read off its tree. -/
theorem MemberSyntax.ReadAs.noted {m : MemberSyntax} {M : TypeExpr → TypeId → Prop}
    (read : m.ReadAs M a) : a.name = m.name ∧ Table.home a = m.table := by
  cases read <;> exact ⟨rfl, rfl⟩

/-- Whatever the type has so far, a member that is written for it is noted. -/
theorem member_noted {m : MemberSyntax} (orderly : s.catalog.Orderly)
    (stands : s.rest = m.tokens ++ rest) :
    (interfaceMember t).Tells l s rest fun _ noted d => (∀ e ∈ noted, e.IsOfBody) ∧
      (∃ e ∈ noted, d.Notes t m.table m.name e) ∧ Extends s.catalog d ∧ d.Orderly := by
  refine interfaceMember_reads orderly.registry stands ?_
  rintro a u rfl later readAs
  have grows := later.keepsLists.grows
  have orderly := orderly.later grows (later.registry orderly.registry)
  refine (attachMember_notes orderly).imp ?_
  rintro _ _ d ⟨e, rfl, notes, gained, registry⟩
  obtain ⟨name, table⟩ := readAs.noted
  rw [name, table] at notes
  refine ⟨fun told inside => ?_, ⟨e, by simp, notes⟩, grows.trans gained,
    orderly.later gained registry⟩
  rcases List.mem_append.1 inside with parameter | last
  · obtain ⟨p, -, rfl⟩ := List.mem_map.1 parameter
    exact trivial
  · obtain rfl := List.mem_singleton.1 last
    exact notes.isOfBody

/-! ## Bodies

One member after the other, up to the brace. What a body tells of is what its members tell of, in a
row. -/

section Bodies

variable {m : MemberSyntax} {ms : List MemberSyntax} {Q : Unit → List Event → Catalog → Prop}

/-- A body without members ends with its brace. -/
theorem bodyOf_tells_nil (stands : s.rest = ⟨.braceClose, "\x7d"⟩ :: rest)
    (h : Q () [] s.catalog) : (bodyOf (interfaceMember t)).Tells l s rest Q := by
  obtain ⟨peek, left⟩ := ReadState.peek_of_rest stands
  refine ⟨(), [], s.advance, bodyOf_close (by rw [peek]), left, ?_, ?_⟩
  · rw [s.told_advance, List.append_nil]
  · rwa [s.catalog_advance]

/-- A body is its first member and a body of the others. -/
theorem bodyOf_tells_cons {P : Unit → List Event → Catalog → Prop}
    (stands : s.rest = m.tokens ++ rest')
    (read : (interfaceMember t).Tells l s rest' P)
    (next : ∀ noted u, u.rest = rest' → P () noted u.catalog →
      (bodyOf (interfaceMember t)).Tells l u rest fun x more d => Q x (noted ++ more) d) :
    (bodyOf (interfaceMember t)).Tells l s rest Q := by
  have starts : s.peek.category.startsEntry = true := by
    obtain ⟨_, _, u, run, -⟩ := read
    exact (interfaceMember_isEntry t).starts_of_ok run
  refine .of_apply (bodyOf_apply starts) (Tells.bind read ?_)
  rintro _ noted u left given
  have fewer : u.left < s.left := by
    have nonempty : 0 < m.tokens.length :=
      List.length_pos_of_mem (a := ⟨.semicolon, ";"⟩) (by cases m <;> simp [MemberSyntax.tokens])
    rw [u.left_eq, s.left_eq, left, stands, List.length_append]
    omega
  exact (next noted u left given).below fewer

/-- Whatever the type has so far, each member of a body that is written for it is noted. -/
theorem bodyOf_noted (orderly : s.catalog.Orderly)
    (stands : s.rest = ms.flatMap MemberSyntax.tokens ++ ⟨.braceClose, "\x7d"⟩ :: rest) :
    (bodyOf (interfaceMember t)).Tells l s rest fun _ noted d => (∀ e ∈ noted, e.IsOfBody) ∧
      (∀ m ∈ ms, ∃ e ∈ noted, d.Notes t m.table m.name e) ∧ Extends s.catalog d ∧ d.Orderly := by
  induction ms generalizing s with
  | nil => exact bodyOf_tells_nil stands ⟨nofun, nofun, .refl _, orderly⟩
  | cons m ms ih =>
    rw [List.flatMap_cons, List.append_assoc] at stands
    refine bodyOf_tells_cons stands (member_noted orderly stands) ?_
    rintro noted u left ⟨first, ⟨e, inside, notes⟩, grows, orderly'⟩
    refine (ih orderly' left).imp ?_
    rintro _ more d ⟨rest, others, grows', orderly''⟩
    refine ⟨List.forall_mem_append.2 ⟨first, rest⟩,
      List.forall_mem_cons.2 ⟨?_, fun m listed => ?_⟩, grows.trans grows', orderly''⟩
    · exact ⟨e, List.mem_append_left _ inside, notes.later grows'⟩
    · obtain ⟨e, inside, notes⟩ := others m listed
      exact ⟨e, List.mem_append_right _ inside, notes⟩

end Bodies

end IdlCatalog
