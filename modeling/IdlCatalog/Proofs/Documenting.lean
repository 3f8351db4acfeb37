/-
# IdlCatalog.Proofs.Documenting — what providers are asked

A reading asks the provider of its library, and no other one, about everything that it declares. A
member is asked about once: at once after it was attached, under the path that it has then. A type
is asked about each time that it is entered into the library, under a path that stays the same. What
the provider knows is kept with the entry, and nothing in a reading depends on it.

The proof follows the moves of a reading. `Effect` says what one move does to documentation, and to
the names and owners that paths are made of.

## Questions and answers

Three layers are kept apart. What a provider is asked is a list of questions, given by the functions
that ask it: a summary and a link for each path. What it says is kept as documentation, and
`DocumentationProvider.Informs` relates the two: the documentation is put together from the answers
to exactly these questions. And what was asked is noted, with the path, in the journal. The
statement about a description uses all three, for each member and each type that is new.

To say that nothing depends on the answers, a reading is run again with another provider and the two
catalogs are compared after all documentation was wiped out. That part is in
`Proofs.Grammar.Muting`.
-/
import IdlCatalog.Proofs.Grammar.Calling
import IdlCatalog.Proofs.Grammar.Muting
import IdlCatalog.Proofs.Session

namespace IdlCatalog

open Catalog

variable {b c d : Catalog} {l k : LibraryId} {t u : TypeId} {m : MemberId} {deeds more : List Deed}
  {name : String}

/-! ## Questions

The questions of a call, of a deed and of an event. A call asks only if it documents an entry, and
then it asks the provider of the library about the path of the entry at this moment. -/

/-- The questions of which an event tells, in order. -/
def Event.questions : Event → List (LibraryId × Question)
  | .asked l _ path => [(l, .summary path), (l, .link path)]
  | _ => []

/-- The questions that a call puts to providers, in order. -/
def Call.questions (c : Catalog) : Call → List (LibraryId × Question)
  | .document l artifact =>
    ((c.library l).docs.questions (c.artifactPath artifact)).map fun question => (l, question)
  | _ => []

/-- The questions that are put to providers while deeds are done, in order. Only calls put any: a
note is a record, and asks nobody. -/
def Deed.questions (c : Catalog) : List Deed → List (LibraryId × Question)
  | [] => []
  | .call made :: deeds => made.questions c ++ questions (made.run c) deeds
  | .note _ :: deeds => questions c deeds

/-- The provider is asked for the summary and then for the link under the path, and what it answers
is what is kept: both answers, unless it knows neither. -/
structure DocumentationProvider.Informs (provider : DocumentationProvider) (path : ArtifactPath)
    (kept : Option Documentation) : Prop where
  inquiry : (provider.inquire path).run [] = (kept, [.summary path, .link path])
  summary : kept.bind (·.summary) = provider.summary path
  link : kept.bind (·.link) = provider.link path
  none_iff : kept = none ↔ provider.summary path = none ∧ provider.link path = none

theorem DocumentationProvider.questions_eq (provider : DocumentationProvider)
    (path : ArtifactPath) : provider.questions path = [.summary path, .link path] := rfl

/-- What a provider knows is what it answers to the two questions. -/
theorem DocumentationProvider.informs_lookup (provider : DocumentationProvider)
    (path : ArtifactPath) : provider.Informs path (provider.lookup path) := by
  have found : provider.lookup path =
      if (provider.summary path).isSome || (provider.link path).isSome then
        some ⟨provider.summary path, provider.link path⟩ else none := rfl
  refine ⟨Prod.ext rfl (provider.questions_eq path), ?_, ?_, ?_⟩ <;> rw [found] <;>
    cases provider.summary path <;> cases provider.link path <;> simp

namespace Deed

theorem questions_append (c : Catalog) (deeds more : List Deed) :
    questions c (deeds ++ more) = questions c deeds ++ questions (replay c deeds) more := by
  induction deeds generalizing c with
  | nil => rfl
  | cons deed deeds ih =>
    cases deed with
    | call made =>
      have rest := congrArg (made.questions c ++ ·) (ih (made.run c))
      exact rest.trans (List.append_assoc _ _ _).symm
    | note event => exact ih c

end Deed

/-! ## What changes leave alone

Most of what a reading does is wordless: it documents nothing, renames nothing, and changes no
owner, so the paths of all entries are what they were. -/

namespace Catalog

/-- The documentation of a type stays, and so does what its path is made of. -/
structure SameDescription (c d : Catalog) (t : TypeId) : Prop where
  documentation : (d.type t).documentation = (c.type t).documentation
  name : d.typeName t = c.typeName t
  library : (d.type t).library = (c.type t).library

/-- No documentation changes, and nothing that paths are made of; the library keeps its entries. -/
structure Wordless (l : LibraryId) (c d : Catalog) : Prop where
  library : d.library l = c.library l
  types_le : c.types.size ≤ d.types.size
  type : ∀ t, t.index < c.types.size → SameDescription c d t
  members_le : c.members.size ≤ d.members.size
  member : ∀ m : MemberId, m.index < c.members.size →
    (d.member m).documentation = (c.member m).documentation

theorem SameDescription.of_eq (same : d.type t = c.type t) : SameDescription c d t :=
  ⟨by rw [same], by rw [typeName, typeName, same], by rw [same]⟩

theorem SameDescription.trans (h : SameDescription b c t) (h' : SameDescription c d t) :
    SameDescription b d t :=
  ⟨h'.documentation.trans h.documentation, h'.name.trans h.name, h'.library.trans h.library⟩

namespace Wordless

theorem refl (c : Catalog) : Wordless l c c :=
  ⟨rfl, Nat.le_refl _, fun _ _ => .of_eq rfl, Nat.le_refl _, fun _ _ => rfl⟩

theorem trans (h : Wordless l b c) (h' : Wordless l c d) : Wordless l b d where
  library := h'.library.trans h.library
  types_le := Nat.le_trans h.types_le h'.types_le
  type t bound := (h.type t bound).trans (h'.type t (Nat.lt_of_lt_of_le bound h.types_le))
  members_le := Nat.le_trans h.members_le h'.members_le
  member m bound :=
    (h'.member m (Nat.lt_of_lt_of_le bound h.members_le)).trans (h.member m bound)

theorem modifyType {f : TypeNode → TypeNode} (t : TypeId)
    (documentation : ∀ node, (f node).documentation = node.documentation)
    (name : ∀ node, (f node).name = node.name)
    (library : ∀ node, (f node).library = node.library) : Wordless l c (c.modifyType t f) where
  library := rfl
  types_le := Nat.le_of_eq (types_size_modifyType c t f).symm
  type u _ :=
    ⟨type_modifyType_of_eq c t u TypeNode.documentation documentation,
      type_modifyType_of_eq c t u TypeNode.name name,
      type_modifyType_of_eq c t u TypeNode.library library⟩
  members_le := Nat.le_refl _
  member _ _ := rfl

theorem pushType (node : TypeNode) : Wordless l c (c.pushType node).2 where
  library := rfl
  types_le := by rw [types_size_pushType]; exact Nat.le_succ _
  type t bound := .of_eq (by rw [type_pushType, if_neg (Nat.ne_of_lt bound)])
  members_le := Nat.le_refl _
  member _ _ := rfl

theorem modifyMember {f : Member → Member} (m : MemberId)
    (documentation : ∀ member, (f member).documentation = member.documentation) :
    Wordless l c (c.modifyMember m f) where
  library := rfl
  types_le := Nat.le_refl _
  type _ _ := .of_eq rfl
  members_le := Nat.le_of_eq (members_size_modifyMember c m f).symm
  member k _ := member_modifyMember_of_eq c m k Member.documentation documentation

theorem addPlaceholder (other : l ≠ hidden) (name : String) :
    Wordless l c (c.addPlaceholder name).2 := by
  rw [Catalog.addPlaceholder]
  split
  · exact .refl c
  · refine (pushType _).trans ⟨?_, Nat.le_refl _, fun _ _ => .of_eq rfl, Nat.le_refl _,
      fun _ _ => rfl⟩
    rw [library_modifyLibrary, if_neg fun both => other both.1]

theorem addImplementer (t u : TypeId) : Wordless l c (c.addImplementer t u) :=
  modifyType t (fun _ => rfl) (fun _ => rfl) fun _ => rfl

theorem setSuperType (t u : TypeId) : Wordless l c (c.setSuperType t u) := by
  have first : Wordless l c (c.modifyType t fun node => { node with superType := some u }) :=
    modifyType t (fun _ => rfl) (fun _ => rfl) fun _ => rfl
  unfold Catalog.setSuperType
  dsimp only
  split
  · exact first.trans (addImplementer u t)
  · exact first

theorem addReferences (ts : List TypeId) (m : MemberId) : Wordless l c (c.addReferences ts m) := by
  have note (c : Catalog) (t : TypeId) : Wordless l c (noteReference m c t) :=
    modifyType t (fun _ => rfl) (fun _ => rfl) fun _ => rfl
  have one (c : Catalog) (t : TypeId) : Wordless l c (c.addReference t m) :=
    related_foldl refl trans note _ c
  exact related_foldl refl trans one ts c

theorem pushMember (a : Member) (owner : TypeId) : Wordless l c (c.pushMember a owner).2 := by
  have pushed : Wordless l c
      { c with members := c.members.push { a with owner := some owner } } := by
    refine ⟨rfl, Nat.le_refl _, fun _ _ => .of_eq rfl, by simp, fun m bound => ?_⟩
    simp [Catalog.member, Array.getElem?_push, Nat.ne_of_lt bound]
  exact pushed.trans (addReferences _ _)

theorem detach (replaced : Option MemberId) : Wordless l c (c.detach replaced) := by
  cases replaced with
  | none => exact .refl c
  | some m => exact modifyMember m fun _ => rfl

theorem enter (table : Table) (t : TypeId) (a : Member) : Wordless l c (enter table c t a).2 := by
  refine (pushMember a (c.storage t)).trans (trans ?_ (detach _))
  refine modifyType _ ?_ ?_ ?_ <;> intro node <;> cases table <;> rfl

theorem addConstructor (t : TypeId) (a : Member) : Wordless l c (c.addConstructor t a).2 :=
  (pushMember _ t).trans (modifyType t (fun _ => rfl) (fun _ => rfl) fun _ => rfl)

theorem mergeOperation (m : MemberId) (a : Member) : Wordless l c (c.mergeOperation m a) := by
  refine (modifyMember m fun member => ?_).trans (addReferences _ _)
  unfold Member.withParameters
  split <;> rfl

/-- Plain calls document nothing. -/
theorem plain {call : Call} (other : l ≠ hidden) (plain : call.IsPlain) :
    Wordless l c (call.run c) := by
  cases call with
  | addPlaceholder name => exact addPlaceholder other name
  | newType | newSynthesized => exact pushType _
  | setSuperType t u => exact setSuperType t u
  | addImplements t u =>
    have first : Wordless l c (c.pushTypeArgument t u) :=
      modifyType t (fun _ => rfl) (fun _ => rfl) fun _ => rfl
    exact first.trans (addImplementer u t)
  | mergeOperation m a => exact mergeOperation m a
  | setKind t | addModifiers t | pushTypeArgument t | addLiteral t | setIterable t =>
    exact modifyType t (fun _ => rfl) (fun _ => rfl) fun _ => rfl
  | _ => exact plain.elim

/-- Calls that attach members document nothing yet. -/
theorem attaches {call : Call} (attaches : call.Attaches t) : Wordless l c (call.run c) := by
  cases attaches with
  | property member => exact enter .properties t member
  | operation member => exact enter .operations t member
  | constructor member => exact addConstructor t member

/-- Documenting a member leaves the others alone. -/
theorem documentMember (inside : c.members.size ≤ m.index) (le : Wordless l c d) :
    Wordless l c (d.document l (.member m)) where
  library := le.library
  types_le := le.types_le
  type u bound :=
    ⟨(le.type u bound).documentation, (le.type u bound).name, (le.type u bound).library⟩
  members_le := by
    rw [document, members_size_modifyMember]
    exact le.members_le
  member k bound := by
    rw [document, member_modifyMember, if_neg]
    · exact le.member k bound
    · rintro ⟨rfl, -⟩
      exact absurd bound (Nat.not_lt.2 inside)

end Wordless

/-! ## What a move does

A move that enters a type may describe it a second time, under the same path as before. Everything
else that was described stays so. -/

/-- The library owns the type, and what its provider knows about it is kept. -/
structure Described (l : LibraryId) (c : Catalog) (t : TypeId) : Prop where
  library : (c.type t).library = some l
  documentation : (c.type t).documentation =
    (c.library l).docs.lookup (c.artifactPath (.type t))

/-- What a move does to documentation and to paths. Types may be described anew. -/
structure Effect (l : LibraryId) (c d : Catalog) : Prop where
  docs : (d.library l).docs = (c.library l).docs
  libraryName : (d.library l).name = (c.library l).name
  types_le : c.types.size ≤ d.types.size
  name : ∀ t, t.index < c.types.size → d.typeName t = c.typeName t
  type : ∀ t, t.index < c.types.size → SameDescription c d t ∨ Described l d t
  members_le : c.members.size ≤ d.members.size
  member : ∀ m : MemberId, m.index < c.members.size →
    (d.member m).documentation = (c.member m).documentation

theorem artifactPath_type (owned : (c.type t).library = some l) :
    c.artifactPath (.type t) = ⟨(c.library l).name, none, c.typeName t⟩ := by
  simp only [artifactPath, libraryNameOf, owned]

/-- The path of a type of the library stays the same. -/
theorem Effect.path (effect : Effect l c d) (bound : t.index < c.types.size)
    (before : (c.type t).library = some l) (after : (d.type t).library = some l) :
    d.artifactPath (.type t) = c.artifactPath (.type t) := by
  rw [artifactPath_type before, artifactPath_type after, effect.libraryName, effect.name t bound]

/-- What is described stays described. -/
theorem Described.later (described : Described l c t) (effect : Effect l c d)
    (bound : t.index < c.types.size) : Described l d t := by
  rcases effect.type t bound with same | anew
  · have owned : (d.type t).library = some l := same.library.trans described.library
    refine ⟨owned, ?_⟩
    rw [effect.path bound described.library owned, effect.docs, same.documentation]
    exact described.documentation
  · exact anew

theorem Wordless.effect (h : Wordless l c d) : Effect l c d where
  docs := by rw [h.library]
  libraryName := by rw [h.library]
  types_le := h.types_le
  name t bound := (h.type t bound).name
  type t bound := .inl (h.type t bound)
  members_le := h.members_le
  member := h.member

theorem Effect.trans (h : Effect l b c) (h' : Effect l c d) : Effect l b d where
  docs := h'.docs.trans h.docs
  libraryName := h'.libraryName.trans h.libraryName
  types_le := Nat.le_trans h.types_le h'.types_le
  name t bound := (h'.name t (Nat.lt_of_lt_of_le bound h.types_le)).trans (h.name t bound)
  type t bound := by
    have later := Nat.lt_of_lt_of_le bound h.types_le
    rcases h.type t bound with same | described
    · exact (h'.type t later).imp same.trans id
    · exact .inr (described.later h' later)
  members_le := Nat.le_trans h.members_le h'.members_le
  member m bound :=
    (h'.member m (Nat.lt_of_lt_of_le bound h.members_le)).trans (h.member m bound)

/-- A library keeps its provider when a type is entered into it. -/
theorem docs_addType (entered : c.addType l t = .ok d) :
    (d.library l).docs = (c.library l).docs := by
  have inserted {a : Library} (insert : (c.library l).insert (c.typeName t) t = .ok a) :
      a.docs = (c.library l).docs := by
    rw [Library.insert] at insert
    split at insert
    · split at insert
      · cases insert
        rfl
      · cases insert
    · cases insert
      rfl
  rw [addType] at entered
  cases insert : (c.library l).insert (c.typeName t) t with
  | error e =>
    rw [insert] at entered
    cases entered
  | ok a =>
    rw [insert] at entered
    cases entered
    show ((c.modifyLibrary l fun _ => a).library l).docs = _
    rw [library_modifyLibrary]
    split
    · exact inserted insert
    · rfl

/-- What entering a type into the library and asking about it comes to; `e` is the catalog in
between. -/
structure Registers (l : LibraryId) (t : TypeId) (c e d : Catalog) : Prop where
  effect : Effect l c d
  described : Described l d t
  path : d.artifactPath (.type t) = e.artifactPath (.type t)
  members : d.members = c.members
  entries : ∀ (name : String) u, (d.library l).types[name]? = some u →
    u = t ∨ (c.library l).types[name]? = some u

theorem registers_document {e : Catalog} (bound : t.index < c.types.size)
    (inside : l.index < c.libraries.size) (ok : c.addType l t = .ok e) :
    Registers l t c e (e.document l (.type t)) := by
  obtain ⟨_, free, -, -⟩ := addType_eq_ok ok
  obtain ⟨e', ok', entered⟩ := addType_ok inside free
  obtain rfl : e = e' := Except.ok.inj (ok.symm.trans ok')
  generalize eq : e.document l (.type t) = d
  have quiet : Quiet e d := eq ▸ quiet_document e l (.type t)
  have within : t.index < e.types.size := entered.types_size.symm ▸ bound
  have owned : (e.type t).library = some l := by
    rw [entered.type, if_pos ⟨rfl, bound⟩]
  -- the entry of the type itself, and the entries of all others
  have self : d.type t = { e.type t with
      documentation := (e.library l).docs.lookup (e.artifactPath (.type t)) } := by
    rw [← eq]
    exact type_modifyType_self e t _ within
  have others (u : TypeId) (other : u ≠ t) : d.type u = c.type u := by
    rw [← eq, document, type_modifyType_of_ne _ _ _ _ other, entered.type,
      if_neg fun both => other both.1]
  have owned' : (d.type t).library = some l := by rw [self, owned]
  have name : d.typeName t = e.typeName t := (quiet.old t within).name
  have path : d.artifactPath (.type t) = e.artifactPath (.type t) := by
    rw [artifactPath_type owned, artifactPath_type owned', quiet.library, name]
  have described : Described l d t := ⟨owned', by rw [self, quiet.library, path]⟩
  have members : d.members = c.members := by
    rw [← eq]
    exact entered.members
  -- the effect, field by field, and then what it comes to for the type
  refine ⟨⟨?_, ?_, ?_, fun u inside => ?_, fun u inside => ?_, ?_, fun m _ => ?_⟩, described, path,
    members, fun n u entry => ?_⟩
  · rw [quiet.library, docs_addType ok]
  · rw [quiet.library, entered.libraryName]
  · exact Nat.le_trans (Nat.le_of_eq entered.types_size.symm) quiet.size_le
  · by_cases here : u = t
    · subst here
      rw [name, typeName, typeName, entered.type]
      split <;> rfl
    · rw [typeName, typeName, others u here]
  · by_cases here : u = t
    · exact .inr (here ▸ described)
    · exact .inl (.of_eq (others u here))
  · rw [members]
  · rw [Catalog.member, Catalog.member, members]
  · rw [quiet.library, entered.lookup] at entry
    split at entry
    · exact .inl (Option.some.inj entry).symm
    · exact .inr entry

end Catalog

/-! ## Moves

The shape of a move decides everything. The inquiry is at its end, and between the call that creates
an entry and the inquiry about it there is nothing but a note. -/

open Deed (replay inquiry)

/-- What a move does, whatever move it is. -/
theorem Move.effect (other : l ≠ Catalog.hidden) (move : Move l c more) :
    Effect l c (replay c more) := by
  cases move with
  | call plain => exact (Wordless.plain other plain).effect
  | note => exact (Wordless.refl c).effect
  | @introduce t d name reopens bound inside entered =>
    have registers := (registers_document bound inside entered).effect
    rw [← run_addType entered] at registers
    exact registers
  | attach attaches =>
    exact (Wordless.documentMember (Nat.le_refl _) (.attaches attaches)).effect

theorem Moves.effect (other : l ≠ Catalog.hidden) (moves : Moves l c deeds d) : Effect l c d := by
  induction moves with
  | start => exact (Wordless.refl c).effect
  | move _ move ih => exact ih.trans (move.effect other)

/-- In a move only the provider of the library is asked, and about no member but a new one. -/
theorem Move.consults (move : Move l c more) {deed : Deed} {artifact : Artifact}
    (inside : deed ∈ more) (consults : deed.Consults k artifact) :
    k = l ∧ ∀ m, artifact = .member m →
      c.members.size ≤ m.index ∧ m.index < (replay c more).members.size := by
  cases move with
  | call plain =>
    obtain rfl := List.mem_singleton.1 inside
    cases consults
    exact plain.elim
  | note plain =>
    obtain rfl := List.mem_singleton.1 inside
    cases consults with
    | note path => exact absurd rfl (plain k artifact path)
  | @introduce t d =>
    -- the call and the note ask nobody; what is left is the inquiry
    rcases List.mem_cons.1 inside with rfl | inside
    · cases consults
    rcases List.mem_cons.1 inside with rfl | inside
    · cases consults
    obtain ⟨library, rfl⟩ := consults.of_inquiry inside
    refine ⟨library, fun m member => ?_⟩
    cases member
  | @attach t call attaches =>
    rcases List.mem_cons.1 inside with rfl | inside
    · cases consults
      cases attaches
    rcases List.mem_cons.1 inside with rfl | inside
    · cases consults
    obtain ⟨library, rfl⟩ := consults.of_inquiry inside
    refine ⟨library, fun m member => ?_⟩
    cases member
    have size : ((call.run c).document l (.member ⟨c.members.size⟩)).members.size =
        c.members.size + 1 := by
      rw [document, members_size_modifyMember, attaches.members_size]
    exact ⟨Nat.le_refl _, Nat.lt_of_lt_of_eq (Nat.lt_succ_self _) size.symm⟩

/-- A move notes the questions that it puts. -/
theorem Move.questions (move : Move l c more) :
    Deed.questions c more = (Deed.notes more).flatMap Event.questions := by
  cases move with
  | @call call plain =>
    cases call with
    | document => exact plain.elim
    | _ => rfl
  | @note event plain =>
    cases event with
    | asked k artifact path => exact absurd rfl (plain k artifact path)
    | _ => rfl
  | introduce name reopens bound inside entered =>
    rw [← run_addType entered]
    rfl
  | attach attaches => cases attaches <;> rfl

/-- The deeds document the member: a call creates it for the type and attaches it, and at once the
provider of the library is asked about it, under the path that it has then. No other deed asks a
provider about it, and what is kept in the end is what the provider answered. -/
def DocumentsMember (l : LibraryId) (c : Catalog) (deeds : List Deed) (m : MemberId) : Prop :=
  ∃ before call t after,
    let e := replay c (before ++ [.call call])
    deeds = before ++ .call call :: .note (.attached t m) :: (inquiry l e (.member m) ++ after) ∧
    call.Attaches t ∧ (replay c before).members.size = m.index ∧
    (∀ deed ∈ before ++ after, ∀ k, ¬deed.Consults k (.member m)) ∧
    (c.library l).docs.Informs (e.artifactPath (.member m))
      ((replay c deeds).member m).documentation

/-- The deeds document the type: a call enters it into the library, and at once the provider of the
library is asked about it, under the path that it has then. What is kept in the end is what the
provider answered. -/
def DocumentsType (l : LibraryId) (c : Catalog) (deeds : List Deed) (t : TypeId) : Prop :=
  ∃ before name reopens after,
    let e := replay c (before ++ [.call (.addType l t)])
    deeds = before ++ .call (.addType l t) :: .note (.declared name t reopens) ::
      (inquiry l e (.type t) ++ after) ∧
    (c.library l).docs.Informs (e.artifactPath (.type t)) ((replay c deeds).type t).documentation

/-- Plain calls create no member. -/
theorem Call.IsPlain.members_size {call : Call} (plain : call.IsPlain) :
    (call.run c).members.size = c.members.size := by
  cases call with
  | addPlaceholder name => exact congrArg Array.size (members_addPlaceholder c name)
  | setSuperType t u =>
    rw [Call.run, Catalog.setSuperType]
    split <;> rfl
  | mergeOperation m a =>
    have merged := members_size_modifyMember c m fun member =>
      member.withParameters (Parameter.merge any (c.member m).parameters a.parameters)
    rw [Call.run, Catalog.mergeOperation, (onlyNotes_addReferences _ _ m).members, merged]
  | _ => first | rfl | exact plain.elim

/-- A member that a move creates is documented by it. -/
theorem Move.documentsMember (move : Move l c more)
    (new : c.members.size ≤ m.index) (inside : m.index < (replay c more).members.size) :
    DocumentsMember l c more m := by
  cases move with
  | @call call plain =>
    have size : (call.run c).members.size = c.members.size := plain.members_size
    exact absurd (size ▸ inside) (Nat.not_lt.2 new)
  | note => exact absurd inside (Nat.not_lt.2 new)
  | @introduce t d name reopens bound within entered =>
    have members := (registers_document bound within entered).members
    rw [← run_addType entered] at members
    have size := congrArg Array.size members
    exact absurd (size ▸ inside) (Nat.not_lt.2 new)
  | @attach t call attaches =>
    have size := attaches.members_size (c := c)
    have inside : m.index < c.members.size + 1 := by
      rw [← size, ← members_size_modifyMember (call.run c) ⟨c.members.size⟩]
      exact inside
    -- only one member is new, and the inquiry is about it
    obtain rfl : m = ⟨c.members.size⟩ :=
      congrArg MemberId.mk (Nat.le_antisymm (Nat.le_of_lt_succ inside) new)
    refine ⟨[], call, t, [], rfl, attaches, rfl, by simp, ?_⟩
    have bound : c.members.size < (call.run c).members.size := by
      rw [size]
      exact Nat.lt_succ_self _
    have library := (Wordless.attaches (l := l) (c := c) attaches).library
    have kept : (((call.run c).document l (.member ⟨c.members.size⟩)).member
        ⟨c.members.size⟩).documentation =
          (c.library l).docs.lookup ((call.run c).artifactPath (.member ⟨c.members.size⟩)) := by
      rw [document, member_modifyMember, if_pos ⟨rfl, bound⟩, library]
    show (c.library l).docs.Informs _
      (((call.run c).document l (.member ⟨c.members.size⟩)).member _).documentation
    rw [kept]
    exact (c.library l).docs.informs_lookup _

/-- An entry that a move gives the library is documented by it. -/
theorem Move.documentsType (other : l ≠ Catalog.hidden) (move : Move l c more) {n : String}
    (entry : ((replay c more).library l).types[n]? = some t)
    (new : (c.library l).types[n]? ≠ some t) :
    DocumentsType l c more t ∧ Described l (replay c more) t ∧ t.index < c.types.size := by
  cases move with
  | @call call plain =>
    have library : (call.run c).library l = c.library l := (Wordless.plain other plain).library
    exact absurd (library ▸ entry) new
  | note => exact absurd entry new
  | @introduce u d name reopens bound within entered =>
    have registers := registers_document bound within entered
    rw [← run_addType entered] at registers ⊢
    -- the entry is the type of this move, or it was there before
    rcases registers.entries n t entry with rfl | old
    · have kept := registers.described.documentation
      rw [registers.path, registers.effect.docs] at kept
      exact ⟨⟨[], name, reopens, [], rfl, kept ▸ (c.library l).docs.informs_lookup _⟩,
        registers.described, bound⟩
    · exact absurd old new
  | @attach u call attaches =>
    have library : (call.run c).library l = c.library l :=
      (Wordless.attaches attaches).library
    exact absurd (library ▸ entry) new

/-! ## Chains of moves

By induction on the chain. A member is created by exactly one move, and the move that creates it
documents it. A type may be entered by several moves; the last one counts, and says the same as the
first. -/

theorem Moves.consults (other : l ≠ Catalog.hidden) (moves : Moves l c deeds d) {deed : Deed}
    {artifact : Artifact} (inside : deed ∈ deeds) (consults : deed.Consults k artifact) :
    k = l ∧ ∀ m, artifact = .member m → m.index < d.members.size := by
  induction moves with
  | start => cases inside
  | move _ move ih =>
    rcases List.mem_append.1 inside with before | now
    · refine ⟨(ih before).1, fun m member => ?_⟩
      exact Nat.lt_of_lt_of_le ((ih before).2 m member) (move.effect other).members_le
    · obtain ⟨library, new⟩ := move.consults now consults
      exact ⟨library, fun m member => (new m member).2⟩

/-- A reading notes the questions that it puts, all of them and in order. -/
theorem Moves.questions (moves : Moves l c deeds d) :
    Deed.questions c deeds = (Deed.notes deeds).flatMap Event.questions := by
  induction moves with
  | start => rfl
  | move moves move ih =>
    rw [Deed.questions_append, Deed.notes_append, List.flatMap_append, ih, moves.replay_eq,
      move.questions]

/-- What a move documents is documented by the moves up to it. -/
theorem DocumentsMember.before (h : DocumentsMember l d more m) (moves : Moves l c deeds d)
    (docs : (d.library l).docs = (c.library l).docs)
    (apart : ∀ deed ∈ deeds, ∀ k, ¬deed.Consults k (.member m)) :
    DocumentsMember l c (deeds ++ more) m := by
  obtain rfl := moves.replay_eq
  obtain ⟨before, call, t, after, rfl, attaches, size, alone, documented⟩ := h
  refine ⟨deeds ++ before, call, t, after, ?_, attaches, ?_, fun deed inside => ?_, ?_⟩
  · simp only [List.append_assoc, Deed.replay_append]
  · rw [Deed.replay_append, size]
  · rw [List.append_assoc] at inside
    exact (List.mem_append.1 inside).elim (apart deed) (alone deed)
  · rw [List.append_assoc, Deed.replay_append c deeds, Deed.replay_append c deeds, ← docs]
    exact documented

/-- Moves that say nothing about a member leave it documented. -/
theorem DocumentsMember.later (h : DocumentsMember l c deeds m)
    (kept : ((replay c (deeds ++ more)).member m).documentation =
      ((replay c deeds).member m).documentation)
    (apart : ∀ deed ∈ more, ∀ k, ¬deed.Consults k (.member m)) :
    DocumentsMember l c (deeds ++ more) m := by
  obtain ⟨before, call, t, after, eq, attaches, size, alone, documented⟩ := h
  refine ⟨before, call, t, after ++ more, ?_, attaches, size, fun deed inside => ?_,
    kept ▸ documented⟩
  · rw [eq]
    simp only [List.append_assoc, List.cons_append]
  · rw [← List.append_assoc] at inside
    exact (List.mem_append.1 inside).elim (alone deed) (apart deed)

/-- Every member that was created is documented. -/
theorem Moves.documentsMember (other : l ≠ Catalog.hidden) (moves : Moves l c deeds d)
    (new : c.members.size ≤ m.index) (inside : m.index < d.members.size) :
    DocumentsMember l c deeds m := by
  induction moves with
  | start => exact absurd inside (Nat.not_lt.2 new)
  | @move deeds more d moves move ih =>
    by_cases known : m.index < d.members.size
    · have kept := (move.effect other).member m known
      have whole := moves.replay_eq
      refine (ih known).later ?_ fun deed now k consults => ?_
      · rw [Deed.replay_append, whole]
        exact kept
      · exact absurd known (Nat.not_lt.2 ((move.consults now consults).2 m rfl).1)
    · refine (move.documentsMember (Nat.not_lt.1 known) inside).before moves
        (moves.effect other).docs fun deed before k consults => ?_
      exact known ((moves.consults other before consults).2 m rfl)

theorem DocumentsType.before (h : DocumentsType l d more t) (moves : Moves l c deeds d)
    (docs : (d.library l).docs = (c.library l).docs) : DocumentsType l c (deeds ++ more) t := by
  obtain rfl := moves.replay_eq
  obtain ⟨before, name, reopens, after, rfl, documented⟩ := h
  refine ⟨deeds ++ before, name, reopens, after, ?_, ?_⟩
  · simp only [List.append_assoc, Deed.replay_append]
  · rw [List.append_assoc, Deed.replay_append c deeds, Deed.replay_append c deeds, ← docs]
    exact documented

theorem DocumentsType.later (h : DocumentsType l c deeds t)
    (kept : ((replay c (deeds ++ more)).type t).documentation =
      ((replay c deeds).type t).documentation) : DocumentsType l c (deeds ++ more) t := by
  obtain ⟨before, name, reopens, after, eq, documented⟩ := h
  refine ⟨before, name, reopens, after ++ more, ?_, kept ▸ documented⟩
  rw [eq]
  simp only [List.append_assoc, List.cons_append]

/-- Every entry that was given to the library is documented. -/
theorem Moves.documentsType (other : l ≠ Catalog.hidden) (moves : Moves l c deeds d) {n : String}
    (entry : (d.library l).types[n]? = some t) (new : (c.library l).types[n]? ≠ some t) :
    DocumentsType l c deeds t ∧ Described l d t ∧ t.index < d.types.size := by
  induction moves with
  | start => exact absurd entry new
  | @move deeds more d moves move ih =>
    have effect := move.effect other
    -- a type that had its entry was documented before, and is again if it is entered again
    by_cases known : (d.library l).types[n]? = some t
    · obtain ⟨documents, described, bound⟩ := ih known
      have later := described.later effect bound
      have whole := moves.replay_eq
      refine ⟨documents.later ?_, later, Nat.lt_of_lt_of_le bound effect.types_le⟩
      rw [Deed.replay_append, whole, described.documentation, ← effect.docs,
        ← effect.path bound described.library later.library]
      exact later.documentation
    · obtain ⟨documents, described, bound⟩ := move.documentsType other entry known
      exact ⟨documents.before moves (moves.effect other).docs, described,
        Nat.lt_of_lt_of_le bound effect.types_le⟩

/-! ## Whole descriptions

The deeds of a description are found by its moves. What is said of providers is then read off the
list. -/

/-- The catalog in which the library has another provider. -/
def Catalog.withProvider (c : Catalog) (l : LibraryId) (docs : DocumentationProvider) : Catalog :=
  c.modifyLibrary l fun library => { library with docs }

theorem mute_withProvider (c : Catalog) (l : LibraryId) (docs : DocumentationProvider) :
    (c.withProvider l docs).mute l = c.mute l := by
  have libraries : (c.libraries.modify l.index fun library => { library with docs }).modify l.index
        (fun library => { library with docs := .silent }) =
      c.libraries.modify l.index fun library => { library with docs := .silent } := by
    refine Array.ext (by simp) fun i _ _ => ?_
    simp only [Array.getElem_modify]
    split <;> rfl
  simp only [mute, withProvider, modifyLibrary, libraries]

/-- Everything that a description declares is documented, and nothing depends on it. Whether the
description is accepted or not, what the reading does is a list of deeds with the events of the
reading. Every member that it creates is documented exactly once, at once after it was attached;
every type that it gives the library an entry for is documented at least once. The questions that
the deeds put to providers are those that the events tell of, and only the provider of the library
is asked anything. With any other provider the reading comes to the same outcome and events, and to
a catalog that differs in nothing but documentation and the provider. -/
theorem description_documented {requests : List Request} (used : Used requests c)
    (added : c.WasAdded l) (source : String) :
    (∃ deeds, replay c deeds = (c.ingest l source).catalog ∧
      Deed.notes deeds = (c.ingest l source).events ∧
      (∀ m : MemberId, c.members.size ≤ m.index →
        m.index < (c.ingest l source).catalog.members.size → DocumentsMember l c deeds m) ∧
      (∀ (n : String) t, ((c.ingest l source).catalog.library l).types[n]? = some t →
        (c.library l).types[n]? ≠ some t → DocumentsType l c deeds t) ∧
      Deed.questions c deeds = (c.ingest l source).events.flatMap Event.questions ∧
      ∀ deed ∈ deeds, ∀ k artifact, deed.Consults k artifact → k = l) ∧
    (∀ k question, (k, question) ∈ (c.ingest l source).events.flatMap Event.questions → k = l) ∧
    ∀ docs, ((c.withProvider l docs).ingest l source).outcome = (c.ingest l source).outcome ∧
      ((c.withProvider l docs).ingest l source).events = (c.ingest l source).events ∧
      ((c.withProvider l docs).ingest l source).catalog.mute l =
        (c.ingest l source).catalog.mute l := by
  have other : l ≠ Catalog.hidden := by
    rintro rfl
    exact absurd added.1 (by decide)
  obtain ⟨calls, unfolds⟩ := used.unfolds
  obtain ⟨deeds, moves, events⟩ := ingest_moves ⟨unfolds.closed, added.2⟩ source
  have questions : Deed.questions c deeds = (c.ingest l source).events.flatMap Event.questions := by
    rw [moves.questions, events]
  have apart : ∀ deed ∈ deeds, ∀ k artifact, deed.Consults k artifact → k = l :=
    fun deed inside k artifact consults => (moves.consults other inside consults).1
  refine ⟨⟨deeds, moves.replay_eq, events.symm, fun m new inside =>
    moves.documentsMember other new inside, fun n t entry new =>
      (moves.documentsType other entry new).1, questions, apart⟩,
      fun k question put => ?_, fun docs => ?_⟩
  · -- a question was noted with its event, and the event with its deed
    obtain ⟨event, noted, asks⟩ := List.mem_flatMap.1 put
    rw [events, Deed.mem_notes] at noted
    cases event with
    | asked k' artifact path =>
      have same : k = k' := by
        simp only [Event.questions, List.mem_cons, Prod.mk.injEq, List.not_mem_nil,
          or_false] at asks
        exact asks.elim And.left And.left
      rw [same]
      exact apart _ noted k' artifact (.note path)
    | _ => cases asks
  · -- both readings are the same once all documentation is wiped out
    have first := ingest_mute c l source
    have second := ingest_mute (c.withProvider l docs) l source
    rw [mute_withProvider, first] at second
    simp only [Report.mk.injEq] at second
    exact ⟨second.1.symm, second.2.2.symm, second.2.1.symm⟩

/-- An operation with two overloads is documented once, and so are the type that has it and the
attribute after it: the provider is asked six questions, and what it knows is kept. -/
theorem overloads_documented_once :
    let docs : DocumentationProvider := ⟨"notes", fun path => some path.name, fun _ => none⟩
    let c := (Request.call (.addLibrary "dom" false docs)).serve initial
    let read := c.ingest ⟨2⟩ "interface A { void f(); void f(long y); attribute long x; };"
    let paths : List ArtifactPath :=
      [⟨"dom", none, "A"⟩, ⟨"dom", some "A", "f"⟩, ⟨"dom", some "A", "x"⟩]
    ∃ deeds, replay c deeds = read.catalog ∧ Deed.notes deeds = read.events ∧
      DocumentsType ⟨2⟩ c deeds ⟨21⟩ ∧
      DocumentsMember ⟨2⟩ c deeds ⟨0⟩ ∧ DocumentsMember ⟨2⟩ c deeds ⟨1⟩ ∧
      Deed.questions c deeds = paths.flatMap (fun path =>
        [(⟨2⟩, .summary path), (⟨2⟩, .link path)]) ∧
      (read.catalog.type ⟨21⟩).documentation = some ⟨some "A", none⟩ ∧
      (read.catalog.member ⟨0⟩).documentation = some ⟨some "f", none⟩ ∧
      (read.catalog.member ⟨1⟩).documentation = some ⟨some "x", none⟩ := by
  intro docs c read paths
  have used : Used _ c :=
    Used.start.request (.call (.addLibrary "dom" false docs)) (by decide +kernel)
  have facts : c.WasAdded ⟨2⟩ ∧ c.members.size = 0 ∧ (c.library ⟨2⟩).types["A"]? = none ∧
      (read.catalog.library ⟨2⟩).types["A"]? = some ⟨21⟩ ∧ read.catalog.members.size = 2 := by
    decide +kernel
  have told : read.events.flatMap Event.questions = paths.flatMap (fun path =>
      [(⟨2⟩, .summary path), (⟨2⟩, .link path)]) := by
    decide +kernel
  have kept : (read.catalog.type ⟨21⟩).documentation = some ⟨some "A", none⟩ ∧
      (read.catalog.member ⟨0⟩).documentation = some ⟨some "f", none⟩ ∧
      (read.catalog.member ⟨1⟩).documentation = some ⟨some "x", none⟩ := by
    decide +kernel
  obtain ⟨added, empty, unknown, registered, members⟩ := facts
  obtain ⟨deeds, whole, events, documented, entered, questions, -⟩ :=
    (description_documented used added
      "interface A { void f(); void f(long y); attribute long x; };").1
  have new : (c.library ⟨2⟩).types["A"]? ≠ some ⟨21⟩ := by simp [unknown]
  simp only [read] at members
  rw [empty, members] at documented
  exact ⟨deeds, whole, events, entered "A" ⟨21⟩ registered new,
    documented ⟨0⟩ (by decide) (by decide), documented ⟨1⟩ (by decide) (by decide),
    questions.trans told, kept⟩

end IdlCatalog
