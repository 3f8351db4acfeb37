/-
# IdlCatalog.Proofs.Grammar.Muting — what a reading takes no heed of

A muted catalog has lost all documentation, and the provider of one library knows nothing. Every
function of a catalog comes to the same in the muted catalog: the answer is the same, and the
catalog afterwards is the muted one of what it would have been. So a reading for that library takes
no heed of documentation and of its provider, and two catalogs that look the same when they are
muted still do afterwards.

## The two directions

The muted catalog is compared with the real one function by function. That look-ups give the same is
said by equations `f (c.mute l) = f c`, and that changes come to the muted result by `f (c.mute l) =
muteSnd l (f c)` or the same for functions without an answer. Both are `simp` lemmas where they are
about reading an entry, so the proofs of functions unfold them and rewrite.

The catalog with another provider has the same muted catalog. So two readings with two providers are
compared through the one muted reading.
-/
import IdlCatalog.Proofs.Catalog.Tables
import IdlCatalog.Proofs.Grammar.Following
import IdlCatalog.Proofs.Grammar.Replaying

namespace IdlCatalog

open Grammar

variable {α β : Type} {l k : LibraryId}

/-! ## Muted catalogs

Muting takes the documentation from every type and every member, and the provider from one library.
Other providers stay, since a reading for the library does not ask them. -/

namespace Catalog

/-- The catalog without documentation, in which the provider of the library knows nothing. -/
def mute (l : LibraryId) (c : Catalog) : Catalog where
  types := c.types.map fun node => { node with documentation := none }
  members := c.members.map fun member => { member with documentation := none }
  libraries := c.libraries.modify l.index fun library => { library with docs := .silent }
  registered := c.registered

/-- Muting what a function came to. -/
def muteSnd (l : LibraryId) (found : α × Catalog) : α × Catalog := (found.1, found.2.mute l)

variable {c : Catalog} {t u : TypeId} {m : MemberId}

/-! ### Entries

What is read off an entry is the same in a muted catalog, unless it is the documentation or the
provider. -/

/-- A type is read without its documentation. -/
theorem type_mute : (c.mute l).type t = { c.type t with documentation := none } := by
  simp only [type, mute, Array.getD_eq_getD_getElem?, Array.getElem?_map]
  cases c.types[t.index]? <;> rfl

/-- So is a member. -/
theorem member_mute : (c.mute l).member m = { c.member m with documentation := none } := by
  simp only [member, mute, Array.getD_eq_getD_getElem?, Array.getElem?_map]
  cases c.members[m.index]? <;> rfl

/-- The library is read without its provider. -/
theorem library_mute : (c.mute l).library k =
    if k = l then { c.library k with docs := .silent } else c.library k := by
  have modified : (c.mute l).library k =
      (c.modifyLibrary l fun library => { library with docs := .silent }).library k := rfl
  rw [modified, library_modifyLibrary]
  by_cases here : k = l
  · subst here
    by_cases inside : k.index < c.libraries.size
    · simp only [inside, and_self, if_true]
    · rw [if_neg fun both => inside both.2, if_pos rfl,
        library_of_size_le c k (Nat.not_lt.1 inside)]
      rfl
  · rw [if_neg fun both => here both.1, if_neg here]

/-- The provider of the muted library knows nothing. -/
theorem docs_mute : ((c.mute l).library l).docs = .silent := by
  rw [library_mute, if_pos rfl]

/-- The parts of a library that have nothing to do with its provider. -/
theorem library_mute_of_eq (π : Library → β)
    (h : ∀ library : Library, π { library with docs := .silent } = π library) :
    π ((c.mute l).library k) = π (c.library k) := by
  rw [library_mute]
  split
  · exact h _
  · rfl

@[simp] theorem kind_mute : ((c.mute l).type t).kind = (c.type t).kind := by rw [type_mute]
@[simp] theorem superType_mute : ((c.mute l).type t).superType = (c.type t).superType := by
  rw [type_mute]
@[simp] theorem typeName_mute : (c.mute l).typeName t = c.typeName t := by
  rw [typeName, type_mute]; rfl
@[simp] theorem typeLibrary_mute : ((c.mute l).type t).library = (c.type t).library := by
  rw [type_mute]
@[simp] theorem entries_mute : ((c.mute l).library k).types = (c.library k).types :=
  library_mute_of_eq Library.types fun _ => rfl
@[simp] theorem libraryName_mute : ((c.mute l).library k).name = (c.library k).name :=
  library_mute_of_eq Library.name fun _ => rfl
@[simp] theorem get?_mute (name : String) :
    ((c.mute l).library k).get? name = (c.library k).get? name :=
  library_mute_of_eq (·.get? name) fun _ => rfl
@[simp] theorem types_size_mute : (c.mute l).types.size = c.types.size := Array.size_map
@[simp] theorem members_size_mute : (c.mute l).members.size = c.members.size := Array.size_map

/-! ### Writing

Entries are written in the same way. A function that writes an entry may look at it first, but it
does not look at the documentation. -/

/-- An entry may be changed before all of them are mapped, or a changed one may be put in place
after it. -/
theorem map_modify {α β : Type} {xs : Array α} {i : Nat} {f : α → α} {g : β → β} {π : α → β}
    (h : ∀ a, g (π a) = π (f a)) : (xs.modify i f).map π = (xs.map π).modify i g := by
  refine Array.ext (by simp) fun j _ _ => ?_
  simp only [Array.getElem_map, Array.getElem_modify]
  split
  · exact (h _).symm
  · rfl

/-- A change that comes to the same without documentation. -/
theorem mute_modifyType {f g : TypeNode → TypeNode}
    (h : ∀ node, g { node with documentation := none } = { f node with documentation := none }) :
    (c.modifyType t f).mute l = (c.mute l).modifyType t g := by
  have types : (c.types.modify t.index f).map (fun node => { node with documentation := none }) =
      (c.types.map fun node => { node with documentation := none }).modify t.index g :=
    map_modify h
  simp only [mute, modifyType, types]

theorem mute_modifyMember {f g : Member → Member}
    (h : ∀ member, g { member with documentation := none } =
      { f member with documentation := none }) :
    (c.modifyMember m f).mute l = (c.mute l).modifyMember m g := by
  have members : (c.members.modify m.index f).map
        (fun member => { member with documentation := none }) =
      (c.members.map fun member => { member with documentation := none }).modify m.index g :=
    map_modify h
  simp only [mute, modifyMember, members]

/-- Changing a library commutes with muting if the change does. -/
theorem mute_modifyLibrary {f : Library → Library}
    (h : ∀ library, f { library with docs := .silent } = { f library with docs := .silent }) :
    (c.modifyLibrary k f).mute l = (c.mute l).modifyLibrary k f := by
  have libraries : (c.libraries.modify k.index f).modify l.index
        (fun library => { library with docs := .silent }) =
      (c.libraries.modify l.index fun library => { library with docs := .silent }).modify
        k.index f := by
    refine Array.ext (by simp) fun i _ _ => ?_
    simp only [Array.getElem_modify]
    split <;> split
    · exact (h _).symm
    all_goals rfl
  simp only [mute, modifyLibrary, libraries]

/-- A type that is created without documentation may be created before or after. -/
theorem mute_pushType {node : TypeNode} (undocumented : node.documentation = none) :
    (c.mute l).pushType node = muteSnd l (c.pushType node) := by
  have same : { node with documentation := none } = node := by rw [← undocumented]
  simp only [muteSnd, mute, pushType, Array.map_push, same, Array.size_map]

/-! ### The functions of a catalog

Each function is a few of the above, so its proof unfolds it on both sides. -/

/-- No function that creates types documents them. -/
theorem mute_newType (name : String) (kind : Kind) :
    (c.mute l).newType name kind = muteSnd l (c.newType name kind) :=
  mute_pushType rfl

theorem mute_newSynthesized (name : String) (kind : Kind) (superType : Option TypeId) :
    (c.mute l).newSynthesized name kind superType =
      muteSnd l (c.newSynthesized name kind superType) :=
  mute_pushType rfl

/-- A placeholder is looked for in a map, which muting leaves. -/
theorem mute_addPlaceholder (name : String) :
    (c.mute l).addPlaceholder name = muteSnd l (c.addPlaceholder name) := by
  rw [addPlaceholder, addPlaceholder, entries_mute]
  cases (c.library hidden).types[name]? with
  | some t => rfl
  | none =>
    rw [mute_pushType rfl]
    exact congrArg (Prod.mk _) (mute_modifyLibrary fun _ => rfl).symm

/-- Of a change only what it makes of the entry matters. -/
theorem modifyLibrary_const (g : Library → Library) :
    (c.modifyLibrary k fun _ => g (c.library k)) = c.modifyLibrary k g := by
  have libraries : c.libraries.modify k.index (fun _ => g (c.library k)) =
      c.libraries.modify k.index g := by
    refine Array.ext (by simp) fun i inside _ => ?_
    rw [Array.size_modify] at inside
    simp only [Array.getElem_modify]
    split
    · next here =>
      have entry : c.library k = c.libraries[i] := by
        simp [library, here, inside]
      rw [entry]
    · rfl
  simp only [modifyLibrary, libraries]

/-- A name that is taken is taken in the muted catalog. -/
theorem mute_addType : (c.mute l).addType k t = (c.addType k t).map (mute l) := by
  -- the entry is there, or it is inserted, or it is another type's
  have entered {g : Library → Library} (entry : (c.library k).insert (c.typeName t) t =
        .ok (g (c.library k)))
      (entry' : ((c.mute l).library k).insert (c.typeName t) t = .ok (g ((c.mute l).library k)))
      (h : ∀ library, g { library with docs := .silent } = { g library with docs := .silent }) :
      (c.mute l).addType k t = (c.addType k t).map (mute l) := by
    have owned (d : Catalog) : (d.modifyType t fun node => { node with library := some k }).mute l =
        (d.mute l).modifyType t fun node => { node with library := some k } :=
      mute_modifyType fun _ => rfl
    rw [addType, addType, typeName_mute, entry, entry']
    refine congrArg Except.ok ?_
    rw [owned, modifyLibrary_const, modifyLibrary_const, mute_modifyLibrary h]
  cases taken : (c.library k).types[c.typeName t]? with
  | none =>
    refine entered (g := fun a => { a with types := a.types.insert (c.typeName t) t }) ?_ ?_
      fun _ => rfl
    · rw [Library.insert, taken]
    · rw [Library.insert, entries_mute, taken]
  | some u =>
    by_cases same : u = t
    · refine entered (g := fun a => a) ?_ ?_ fun _ => rfl
      · rw [Library.insert, taken]
        exact if_pos same
      · rw [Library.insert, entries_mute, taken]
        exact if_pos same
    · have taken' : ((c.mute l).library k).types[(c.mute l).typeName t]? = some u := by
        rw [entries_mute, typeName_mute, taken]
      rw [addType_error taken same, addType_error taken' same, libraryName_mute, typeName_mute]
      rfl

/-- Super types do not depend on documentation. -/
theorem mute_setSuperType : (c.setSuperType t u).mute l = (c.mute l).setSuperType t u := by
  unfold setSuperType addImplementer
  have first : (c.modifyType t fun node => { node with superType := some u }).mute l =
      (c.mute l).modifyType t fun node => { node with superType := some u } :=
    mute_modifyType fun _ => rfl
  simp only [← first, kind_mute]
  split
  · exact mute_modifyType fun _ => rfl
  · rfl

theorem mute_addImplements : (c.addImplements t u).mute l = (c.mute l).addImplements t u := by
  have first : (c.pushTypeArgument t u).mute l = (c.mute l).pushTypeArgument t u :=
    mute_modifyType fun _ => rfl
  rw [addImplements, addImplements, ← first]
  exact mute_modifyType fun _ => rfl

/-! ### Looking up

Where to look next depends on entries and kinds only. -/

/-- Names stand for the same types. -/
theorem resolve?_mute (name : String) : (c.mute l).resolve? name = c.resolve? name := by
  have declared (j : LibraryId) : (c.mute l).declaredIn? j name = c.declaredIn? j name := by
    simp only [declaredIn?, entries_mute, isReopening, kind_mute]
  simp only [resolve?, entries_mute, declared]
  rfl

/-- So a declaration finds the same type under its name. -/
theorem existing?_mute (name : String) : existing? k name (c.mute l) = existing? k name c := by
  rw [existing?, existing?, get?_mute, resolve?_mute]

/-- And a reference refers to the same one. -/
theorem refer_mute (name : String) : refer k name (c.mute l) = muteSnd l (refer k name c) := by
  simp only [refer, get?_mute, resolve?_mute, isReopening, kind_mute]
  split
  · rfl
  split
  · rfl
  · exact mute_addPlaceholder name

/-- Members go to the same type. -/
theorem storage_mute : (c.mute l).storage t = c.storage t := by
  have follow (count : Nat) (t : TypeId) :
      (c.mute l).followReopenings count t = c.followReopenings count t := by
    induction count generalizing t with
    | zero => rfl
    | succ count ih => simp only [followReopenings, kind_mute, superType_mute, ih]
  exact follow maxDepth t

/-! ### Members

The documentation of a member is lost when it is muted, so a member is given to the muted catalog
without documentation, as the grammar reads it. -/

/-- Where references are recorded does not depend on documentation. -/
theorem mute_addReferences (ts : List TypeId) :
    (c.addReferences ts m).mute l = (c.mute l).addReferences ts m := by
  have one (c : Catalog) (t : TypeId) :
      (c.mute l).addReference t m = (c.addReference t m).mute l := by
    have targets : (c.mute l).referenceTargets = c.referenceTargets := by
      funext u
      rw [referenceTargets_eq, referenceTargets_eq, type_mute]
      rfl
    simp only [addReference, targets, kind_mute]
    exact List.foldl_hom (mute l) fun c u => (mute_modifyType fun _ => rfl).symm
  exact (List.foldl_hom (mute l) one).symm

/-- Nor does what a member is created as. -/
theorem mute_pushMember {a : Member} (undocumented : a.documentation = none) (owner : TypeId) :
    (c.mute l).pushMember a owner = muteSnd l (c.pushMember a owner) := by
  let pushed (c : Catalog) : Catalog :=
    { c with members := c.members.push { a with owner := some owner } }
  have first : (pushed c).mute l = pushed (c.mute l) := by
    simp only [pushed, mute, Array.map_push, undocumented]
  have size : (c.mute l).members.size = c.members.size := members_size_mute
  have noted : ((pushed c).addReferences a.referencedTypes ⟨c.members.size⟩).mute l =
      (pushed (c.mute l)).addReferences a.referencedTypes ⟨c.members.size⟩ := by
    rw [mute_addReferences, first]
  rw [pushMember, pushMember, size]
  exact congrArg (Prod.mk _) noted.symm

/-- Nor which member gives way. -/
theorem mute_detach (replaced : Option MemberId) :
    (c.detach replaced).mute l = (c.mute l).detach replaced := by
  cases replaced with
  | none => rfl
  | some m => exact mute_modifyMember fun _ => rfl

/-- So attaching is the same in the muted catalog. -/
theorem mute_enter (table : Table) {a : Member} (undocumented : a.documentation = none) :
    enter table (c.mute l) t a = muteSnd l (enter table c t a) := by
  have entries (d : Catalog) (u : TypeId) :
      table.of ((d.mute l).type u) = table.of (d.type u) := by
    rw [type_mute]
    cases table <;> rfl
  have inserted (d : Catalog) (u : TypeId) (name : String) (m : MemberId) :
      (d.modifyType u (table.insert name m)).mute l =
        (d.mute l).modifyType u (table.insert name m) :=
    mute_modifyType fun _ => by cases table <;> rfl
  simp only [enter, storage_mute, mute_pushMember undocumented, muteSnd, entries, mute_detach,
    inserted]

/-- A constructor too. -/
theorem mute_addConstructor {a : Member} (undocumented : a.documentation = none) :
    (c.mute l).addConstructor t a = muteSnd l (c.addConstructor t a) := by
  have pushed := mute_pushMember (l := l) (c := c)
    (a := { a with modifiers := a.modifiers ||| Modifiers.constructor }) undocumented t
  simp only [addConstructor, pushed, muteSnd]
  refine congrArg (Prod.mk _) (mute_modifyType fun _ => rfl).symm

/-- And an overload that is folded in. -/
theorem mute_mergeOperation (a : Member) :
    (c.mergeOperation m a).mute l = (c.mute l).mergeOperation m a := by
  have parameters : ((c.mute l).member m).parameters = (c.member m).parameters := by
    rw [member_mute]
    rfl
  have merged (ps : List Parameter) :
      (c.modifyMember m fun member => member.withParameters ps).mute l =
        (c.mute l).modifyMember m fun member => member.withParameters ps := by
    refine mute_modifyMember fun member => ?_
    obtain ⟨_, _, _, _, _, body⟩ := member
    cases body <;> rfl
  rw [mergeOperation, mergeOperation, parameters, mute_addReferences, merged]

theorem operation?_mute (name : String) : (c.mute l).operation? t name = c.operation? t name := by
  rw [operation?, operation?, storage_mute, type_mute]

/-! ### Documentation

Documenting writes nothing but documentation, so in the muted catalog it writes what is muted again.
-/

/-- The path under which an entry is documented consists of names. -/
theorem artifactPath_mute (artifact : Artifact) :
    (c.mute l).artifactPath artifact = c.artifactPath artifact := by
  have name (u : TypeId) : (c.mute l).libraryNameOf u = c.libraryNameOf u := by
    simp only [libraryNameOf, typeLibrary_mute, libraryName_mute]
  cases artifact with
  | library k => simp only [artifactPath, libraryName_mute]
  | type t => simp only [artifactPath, name, typeName_mute]
  | member m => simp only [artifactPath, member_mute, name, typeName_mute]

/-- Asking a silent provider about an undocumented entry changes nothing. -/
theorem mute_document (artifact : Artifact) :
    (c.document l artifact).mute l = (c.mute l).document l artifact := by
  have silent (path : ArtifactPath) : ((c.mute l).library l).docs.lookup path = none := by
    rw [docs_mute]
    rfl
  cases artifact with
  | library k => rfl
  | type t =>
    simp only [document, silent]
    exact mute_modifyType fun _ => rfl
  | member m =>
    simp only [document, silent]
    exact mute_modifyMember fun _ => rfl

end Catalog

open Catalog

/-! ## Actions

An action is heedless if muting before it comes to the same as muting after it, failures and events
included. The events tell of the questions that were put, and not of the answers. -/

/-- The state in which the catalog is muted. -/
def ReadState.mute (l : LibraryId) (s : ReadState) : ReadState :=
  { s with catalog := s.catalog.mute l }

/-- Takes no heed of documentation, nor of the provider of the library that is read for. -/
def Parser.Heedless (p : Parser α) : Prop :=
  ∀ l (s : ReadState), p l (s.mute l) = ((p l s).1, (p l s).2.mute l)

namespace Parser.Heedless

variable {p q : Parser α} {a : Member}

/-- An answer takes no heed. -/
theorem pure (a : α) : (Pure.pure a : Parser α).Heedless := fun _ _ => rfl

/-- Sequences take none if their parts take none. -/
theorem bind {f : α → Parser β} (hp : p.Heedless) (hf : ∀ a, (f a).Heedless) :
    (p >>= f).Heedless := by
  intro l s
  rw [Parser.bind_apply, Parser.bind_apply, hp]
  generalize p l s = run
  obtain ⟨answer, t⟩ := run
  cases answer with
  | error e => rfl
  | ok a => exact hf a l t

theorem ite {b : Prop} [Decidable b] (hp : p.Heedless) (hq : q.Heedless) :
    (if b then p else q).Heedless := by
  split
  · exact hp
  · exact hq

theorem library : Parser.library.Heedless := fun _ _ => rfl

/-- Something is read off the catalog that is no documentation. -/
theorem view {f : Catalog → α} (same : ∀ l c, f (c.mute l) = f c) : (Parser.view f).Heedless := by
  intro l s
  exact congrArg (fun a => (Except.ok a, s.mute l)) (same l s.catalog)

theorem note (event : Event) : (Parser.note event).Heedless := fun _ _ => rfl

/-- A change of the catalog that commutes with muting. -/
theorem change {f : Catalog → α × Catalog} (same : ∀ l c, f (c.mute l) = muteSnd l (f c)) :
    (Parser.change f).Heedless := by
  intro l s
  have changed := same l s.catalog
  simp only [Parser.change, ReadState.mute, changed]
  rfl

theorem modify {f : Catalog → Catalog} (same : ∀ l c, (f c).mute l = f (c.mute l)) :
    (Parser.modify f).Heedless := by
  intro l s
  have modified := same l s.catalog
  simp only [Parser.modify, ReadState.mute, modified]

/-- Entering a type fails at the same names. -/
theorem register (t : TypeId) : (Parser.register t).Heedless := by
  intro l s
  have entered : (s.mute l).catalog.addType l t = (s.catalog.addType l t).map (Catalog.mute l) :=
    mute_addType
  cases found : s.catalog.addType l t with
  | ok d =>
    rw [found] at entered
    rw [Parser.register, Parser.register, entered, found]
    rfl
  | error e =>
    rw [found] at entered
    rw [Parser.register, Parser.register, entered, found]
    rfl

/-- Whatever the provider answers, it is lost when the catalog is muted. -/
theorem document (artifact : Artifact) : (Parser.document artifact).Heedless := by
  intro l s
  have path := artifactPath_mute (l := l) (c := s.catalog) artifact
  have documented := mute_document (l := l) (c := s.catalog) artifact
  have run (s : ReadState) : Parser.document artifact l s = (.ok (), s.put
      ⟨s.catalog.document l artifact,
        s.journal.push (.asked l artifact (s.catalog.artifactPath artifact))⟩) := rfl
  rw [run, run]
  simp only [ReadState.mute, ReadState.put, path, documented]

/-! ### The actions of the grammar

An action is heedless if the muted catalog is led to the muted result, with the same answer and the
same journal. The actions are made of look-ups and changes. -/

/-- Resolving takes no heed. -/
theorem resolve (name : String) : (resolve name).Heedless :=
  .bind .library fun k => .bind (.change fun l c => refer_mute (k := k) (l := l) (c := c) name)
    fun t => .bind (.note _) fun _ => .pure t

theorem newWithArguments (kind : Kind) (superType : Option TypeId) (arguments : List TypeId)
    (rendered : List String → String) :
    (newWithArguments kind superType arguments rendered).Heedless := by
  refine .change fun l c => ?_
  have names : arguments.map (c.mute l).typeName = arguments.map c.typeName :=
    List.map_congr_left fun _ _ => typeName_mute
  simp only [names, mute_newSynthesized, muteSnd]
  refine congrArg (Prod.mk _) (List.foldl_hom (Catalog.mute l) fun c u => ?_)
  exact (mute_modifyType fun _ => rfl).symm

theorem genericOf (name : String) (arguments : List TypeId) :
    (genericOf name arguments).Heedless := by
  refine .bind (.newWithArguments _ _ _ _) fun t => .ite ?_ (.pure t)
  cases iterableOf arguments with
  | none => exact .pure t
  | some iterable => exact .bind (.modify fun _ _ => mute_modifyType fun _ => rfl) fun _ => .pure t

theorem wrap (kind : Kind) (rendered : String → String) (t : TypeId) :
    (wrap kind rendered t).Heedless := by
  refine .change fun l c => ?_
  rw [typeName_mute, mute_newSynthesized]

theorem unionOf (branches : List TypeId) : (unionOf branches).Heedless :=
  .newWithArguments _ _ _ _

/-- Introducing a type documents it, and in the muted catalog there is nothing to write. -/
theorem introduce (name : String) (t : TypeId) (reopens : Bool) :
    (introduce name t reopens).Heedless :=
  .bind (.register t) fun _ => .bind (.note _) fun _ => .document _

theorem setSuperType (t superType : TypeId) :
    (Parser.modify (·.setSuperType t superType)).Heedless :=
  .modify fun _ _ => mute_setSuperType

/-- What a declaration does with its name depends on names, kinds and owners. -/
theorem declareNamed (kind : Kind) (reopens : Bool) (name : String) :
    (declareNamed kind reopens name).Heedless := by
  have create (kind : Kind) : (Parser.change (·.newType name kind)).Heedless :=
    .change fun _ _ => mute_newType name kind
  have created (reopens : Bool) : (createNamed kind reopens name).Heedless :=
    .bind (create kind) fun t => .bind (introduce name t reopens) fun _ => .pure t
  refine .bind .library fun l => .bind (.view fun _ _ => existing?_mute name) fun existing => ?_
  cases existing with
  | none => cases reopens <;> exact created _
  | some target =>
    cases reopens with
    | false =>
      exact .bind (.modify fun _ _ => mute_modifyType fun _ => rfl) fun _ =>
        .bind (introduce name target false) fun _ => .pure target
    | true =>
      -- of the entry only its owner is looked at
      have owner : declareOver l kind true name (some target) =
          (Parser.view fun c => (c.type target).library) >>= fun owner =>
            if owner = some l then
              Parser.note (.declared name target true) >>= fun _ => return target
            else reopenNamed true name target := rfl
      rw [owner]
      refine .bind (.view fun _ _ => typeLibrary_mute) fun _ => .ite ?_ ?_
      · exact .bind (.note _) fun _ => .pure target
      · exact .bind (create .reopening) fun t => .bind (introduce name t true) fun _ =>
          .bind (.setSuperType t target) fun _ => .pure t

theorem giveSuperType (t superType : TypeId) : (giveSuperType t superType).Heedless :=
  .bind (.setSuperType t superType) fun _ => .note _

theorem setTarget (t target : TypeId) : (setTarget t target).Heedless :=
  .ite (.giveSuperType t target) (.pure ())

/-- A member that is attached was not documented before. -/
theorem attachProperty (t : TypeId) (undocumented : a.documentation = none) :
    (attachProperty t a).Heedless :=
  .bind (.change fun _ _ => mute_enter .properties undocumented) fun _ =>
    .bind (.note _) fun _ => .document _

theorem attachOperation (t : TypeId) (undocumented : a.documentation = none) :
    (attachOperation t a).Heedless :=
  .bind (.change fun _ _ => mute_enter .operations undocumented) fun _ =>
    .bind (.note _) fun _ => .document _

theorem attachConstructor (t : TypeId) (undocumented : a.documentation = none) :
    (attachConstructor t a).Heedless :=
  .bind (.change fun _ _ => mute_addConstructor undocumented) fun _ =>
    .bind (.note _) fun _ => .document _

/-- Whether an operation is folded in depends on the tables. -/
theorem attachOverload (t : TypeId) (undocumented : a.documentation = none) :
    (attachOverload t a).Heedless := by
  refine .bind (.view fun _ _ => operation?_mute _) fun known => ?_
  cases known with
  | none => exact attachOperation t undocumented
  | some m => exact .bind (.modify fun _ _ => mute_mergeOperation a) fun _ => .note _

end Parser.Heedless

/-! ## The coupling

The second reading is the first one with a muted catalog, at every moment. -/

/-- The second reading is the first one in the muted catalog. -/
def muting (l : LibraryId) : Coupling where
  lib₁ := l
  lib₂ := l
  holds w := w.second = ⟨w.first.catalog.mute l, w.first.journal⟩
  type _ t u := t = u
  named _ t u := t = u
  refuses e := ∃ duplicate, e = .duplicate duplicate

namespace Muting

variable {w : Stores} {n : Nat}

/-- An action that leaves the tokens alone and takes no heed of documentation keeps the coupling. -/
theorem keeps {p : Parser α} {V : Stores → α → α → Prop} (neutral : p.Neutral)
    (heedless : p.Heedless) (answers : ∀ w' a, V w' a a) : (muting l).Keeps w n V p p := by
  intro s₁ s₂ tokens _ _ holds _
  have muted : (s₁.mute l).SameTokens s₂ := ⟨tokens.rest, tokens.position⟩
  obtain rfl : s₁.mute l = s₂ := muted.eq holds.symm
  obtain ⟨answer, d, run, errors, -⟩ := neutral l s₁.catalog
  obtain ⟨j, run⟩ := run s₁ rfl
  have after := ReadState.put_after s₁ ⟨d, j⟩
  have after' : (s₁.mute l).After 0 ((s₁.put ⟨d, j⟩).mute l) := ⟨rfl, rfl, Nat.zero_le _⟩
  show (muting l).Outcome s₁ (s₁.mute l) _ V (p l s₁) (p l (s₁.mute l))
  rw [heedless, run]
  cases answer with
  | ok a => exact .ok after after' (Nat.zero_le _) rfl ⟨id, id⟩ (answers _ a)
  | error e => exact .error after after' (.other (errors e rfl)) rfl

/-- Attaching a member that was just read keeps the coupling. -/
theorem attach_keeps {t u : TypeId} {a b : Member} {attach : TypeId → Member → Parser Unit}
    (neutral : (attach t a).Neutral)
    (heedless : a.documentation = none → (attach t a).Heedless) (tu : t = u)
    (ab : Member.Corresponds ((muting l).type w) a b) :
    (muting l).Keeps w n Coupling.anything (attach t a) (attach u b) := by
  obtain rfl := tu
  have undocumented := ab.documentation.1
  obtain rfl := ab.eq fun tu => tu
  exact keeps neutral (heedless undocumented) fun _ _ => trivial

end Muting

open Muting in
/-- Every reading takes no heed of documentation. -/
theorem muting_lawful (l : LibraryId) : (muting l).Lawful where
  resolve _ := keeps (.resolve _) (.resolve _) fun _ _ => rfl
  wrap _ tu := by
    obtain rfl := tu
    exact keeps (.wrap _ _ _) (.wrap _ _ _) fun _ _ => rfl
  genericOf name related := by
    obtain rfl := eq_of_related related fun tu => tu
    exact keeps (.genericOf name _) (.genericOf name _) fun _ _ => rfl
  unionOf related := by
    obtain rfl := eq_of_related related fun tu => tu
    exact keeps (.unionOf _) (.unionOf _) fun _ _ => rfl
  iterable {w t u} holds tu := by
    have second : w.second = ⟨w.first.catalog.mute l, w.first.journal⟩ := holds
    have equal : t = u := tu
    rw [second, type_mute, equal]
  typeName {w t u} holds tu := by
    have second : w.second = ⟨w.first.catalog.mute l, w.first.journal⟩ := holds
    have equal : t = u := tu
    rw [second, typeName_mute, equal]
  globals {w} holds := by
    have second : w.second = ⟨w.first.catalog.mute l, w.first.journal⟩ := holds
    show (w.first.catalog.library l).globals = (w.second.catalog.library l).globals
    rw [second]
    exact (library_mute_of_eq Library.globals fun _ => rfl).symm
  declareNamed reopens _ _ :=
    keeps (.declareNamed _ reopens _) (.declareNamed _ reopens _) fun _ _ => rfl
  setTarget tu targets := by
    obtain rfl := tu
    obtain rfl := targets
    exact keeps (.setTarget _ _) (.setTarget _ _) fun _ _ => trivial
  giveSuperType tu targets := by
    obtain rfl := tu
    obtain rfl := targets
    exact keeps (.giveSuperType _ _) (.giveSuperType _ _) fun _ _ => trivial
  addLiteral literal tu := by
    obtain rfl := tu
    exact keeps (.addLiteral _ _) (.modify fun _ _ => mute_modifyType fun _ => rfl)
      fun _ _ => trivial
  addImplements tu bases := by
    obtain rfl := tu.elim id id
    obtain rfl := bases
    exact keeps (.addImplements _ _) (.modify fun _ _ => mute_addImplements) fun _ _ => trivial
  addModifiers modifiers tu := by
    obtain rfl := tu
    exact keeps (.modify fun _ _ => rfl) (.modify fun _ _ => mute_modifyType fun _ => rfl)
      fun _ _ => trivial
  noteParameter pq := by
    obtain rfl := pq.eq fun tu => tu
    exact keeps (.note _) (.note _) fun _ _ => trivial
  attachProperty tu ab _ := attach_keeps (.attachProperty _ _) (.attachProperty _) tu ab
  attachOperation tu ab _ := attach_keeps (.attachOperation _ _) (.attachOperation _) tu ab
  attachConstructor tu ab _ := attach_keeps (.attachConstructor _ _) (.attachConstructor _) tu ab
  attachOverload tu ab _ := attach_keeps (.attachOverload _ _) (.attachOverload _) tu ab

/-! ## Whole descriptions

So a reading of the muted catalog is the muted reading. -/

/-- Ingesting a description into a muted catalog comes to the same outcome, with the same events,
and to the muted catalog. -/
theorem ingest_mute (c : Catalog) (l : LibraryId) (source : String) :
    (c.mute l).ingest l source =
      { c.ingest l source with catalog := (c.ingest l source).catalog.mute l } := by
  have outcome := (Coupling.description_keeps (muting_lawful l)).outcome
    (ReadState.start_sameTokens (Lexer.tokens source.toList) c (c.mute l))
    (ReadState.start_plain source.toList c) rfl
  have located (d : Catalog) : (d.mute l).locateFailure l source.toList =
      d.locateFailure l source.toList := by
    funext failure
    rw [locateFailure, locateFailure, libraryName_mute]
  rw [ingest_eq, ingest_eq]
  change (muting l).Outcome _ _ _ _ (description l _) (description l _) at outcome
  generalize description l (ReadState.start (Lexer.tokens source.toList) c) = first at outcome
  generalize description l (ReadState.start (Lexer.tokens source.toList) (c.mute l)) = second
    at outcome
  obtain ⟨answer, s⟩ := first
  obtain ⟨answer', t⟩ := second
  -- the second reading comes to the same answer, and its catalog is the muted one of the first
  obtain ⟨rfl, muted⟩ : answer' = answer ∧ t.store = ⟨s.catalog.mute l, s.journal⟩ := by
    cases outcome with
    | ok _ _ _ holds => exact ⟨rfl, holds⟩
    | error _ _ _ holds => exact ⟨rfl, holds⟩
  have catalog : t.catalog = s.catalog.mute l := congrArg Store.catalog muted
  have journal : t.journal = s.journal := congrArg Store.journal muted
  simp only [catalog, journal, located]

end IdlCatalog
