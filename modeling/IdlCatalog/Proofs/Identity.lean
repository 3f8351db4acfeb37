/-
# IdlCatalog.Proofs.Identity — one name, one type

A description may refer to a name before and after it declares it. All its references to a declared
name stand for one type, which is the one that the library registers and that the name stands for
afterwards — unless the first declaration of the name is a reopening and the name was known already.
Then the library gets a type of its own for the name, and a later declaration gives its kind to that
one, while the name goes on to stand for the other.

The proof follows one name along the steps of the reading. `Standing` says how the entry of the
library and the meaning of the name without the library are related.

## The three situations

In `Standing` a name is undeclared, agreed or split. While it is undeclared all references to it go
outside the library. Agreed means that the entry of the library and the meaning of the name are one
type, and that all references stood for it. Split means that the library has an entry which reopens
another type or has once done so, while the name means the other. No step leads from one of the last
two to the other, so the first declaration decides once and for all.

The meaning outside is that of the catalog without the library at hand. A library that was just
added is the latest, so that its own entry is asked for first within it and last without.
-/
import IdlCatalog.Proofs.Grammar.Meaning
import IdlCatalog.Proofs.Session

namespace IdlCatalog

open Grammar Catalog

variable {c c₀ d : Catalog} {t u : TypeId} {l k : LibraryId} {n name : String} {kind : Kind}
  {es more : List Event} {reopens : Bool}

/-! ## Events about a name

Two events are about a name: a reference and a declaration. Everything else is silent, and steps
that are silent about the name do not change where it stands. -/

/-- A reference to the name, or a declaration of it. -/
def Event.IsAbout (n : String) : Event → Prop
  | .referenced name _ => name = n
  | .declared name _ _ => name = n
  | _ => False

/-- The first declaration of the name among the events is a reopening, and the name was known
before: to the catalog, or because it was referred to. -/
def ReopensFirst (c : Catalog) (n : String) (es : List Event) : Prop :=
  ∃ before t after, es = before ++ .declared n t true :: after ∧
    (∀ u reopens, .declared n u reopens ∉ before) ∧
    (c.resolve? n ≠ none ∨ ∃ u, .referenced n u ∈ before)

theorem exists_declared_append (some : ∃ u reopens, .declared n u reopens ∈ es)
    (more : List Event) : ∃ u reopens, .declared n u reopens ∈ es ++ more := by
  obtain ⟨u, reopens, inside⟩ := some
  exact ⟨u, reopens, List.mem_append_left more inside⟩

theorem forall_referenced_append {P : TypeId → Prop} (before : ∀ u, .referenced n u ∈ es → P u)
    (later : ∀ u, .referenced n u ∈ more → P u) : ∀ u, .referenced n u ∈ es ++ more → P u :=
  fun u inside => (List.mem_append.1 inside).elim (before u) (later u)

theorem ReopensFirst.append (h : ReopensFirst c n es) (more : List Event) :
    ReopensFirst c n (es ++ more) := by
  obtain ⟨before, t, after, rfl, first, known⟩ := h
  exact ⟨before, t, after ++ more, by simp, first, known⟩

/-- After the first declaration nothing counts. -/
theorem reopensFirst_append (some : ∃ u reopens, .declared n u reopens ∈ es) :
    ReopensFirst c n (es ++ more) ↔ ReopensFirst c n es := by
  obtain ⟨u, reopens, inside⟩ := some
  constructor
  · rintro ⟨before, t, after, split, first, known⟩
    -- the first declaration comes before the end of `es`, which contains one
    rcases List.append_eq_append_iff.1 split with ⟨middle, rfl, -⟩ | ⟨middle, rfl, rest⟩
    · exact absurd (List.mem_append_left _ inside) (first u reopens)
    · cases middle with
      | nil => exact absurd (by simpa using inside) (first u reopens)
      | cons event middle =>
        obtain ⟨rfl, -⟩ := List.cons.inj rest
        exact ⟨before, t, middle, rfl, first, known⟩
  · exact fun first => first.append more

/-- The first declaration decides. -/
theorem reopensFirst_first (none : ∀ u reopens, .declared n u reopens ∉ es) :
    ReopensFirst c n (es ++ .declared n t reopens :: more) ↔
      reopens = true ∧ (c.resolve? n ≠ Option.none ∨ ∃ u, .referenced n u ∈ es) := by
  constructor
  · rintro ⟨before, t', after, split, first, known⟩
    -- the declaration that is found is this one, since there was none before and it comes first
    rcases List.append_eq_append_iff.1 split with ⟨middle, rfl, rest⟩ | ⟨middle, rfl, rest⟩
    · cases middle with
      | nil =>
        obtain ⟨same, -⟩ := List.cons.inj rest
        cases same
        exact ⟨rfl, by simpa using known⟩
      | cons event middle =>
        obtain ⟨rfl, -⟩ := List.cons.inj rest
        exact absurd (List.mem_append_right _ List.mem_cons_self) (first t reopens)
    · cases middle with
      | nil =>
        obtain ⟨same, -⟩ := List.cons.inj rest
        cases same
        exact ⟨rfl, by simpa using known⟩
      | cons event middle =>
        obtain ⟨rfl, -⟩ := List.cons.inj rest
        exact absurd (List.mem_append_right _ List.mem_cons_self) (none t' true)
  · rintro ⟨rfl, known⟩
    exact ⟨es, t, more, rfl, none, known⟩

theorem Edit.not_isAbout (edit : Edit l c es d) : ∀ event ∈ es, ¬event.IsAbout n := by
  cases edit <;> simp [documentMember, Event.IsAbout]

theorem Declaration.isAbout {answer : Except (Failure Fault) TypeId}
    (declaration : Declaration l kind name c reopens answer es d) :
    ∀ event ∈ es, event.IsAbout n → name = n := by
  cases declaration <;> simp [introducedEvents, Event.IsAbout]

/-! ## Where a name stands

One lemma for each thing that a step may do to the name, and then the step by cases. -/

/-- How the entry of the library for a name and the meaning of the name without the library are
related after some events. -/
inductive Standing (l : LibraryId) (n : String) (c₀ c : Catalog) (es : List Event) : Prop
  /-- The library has no entry, and what the references stand for is known elsewhere. -/
  | undeclared (entry : (c.library l).types[n]? = none)
      (references : ∀ u, .referenced n u ∈ es → (c.unregister l).resolve? n = some u)
      (none : ∀ u reopens, .declared n u reopens ∉ es)
      (known : (c.unregister l).resolve? n ≠ .none ↔
        c₀.resolve? n ≠ .none ∨ ∃ u, .referenced n u ∈ es)
  /-- Everything is about one type. -/
  | agreed {t : TypeId} (entry : (c.library l).types[n]? = some t)
      (stands : c.isReopening t = false)
      (outside : (c.unregister l).resolve? n = none ∨ (c.unregister l).resolve? n = some t)
      (references : ∀ u, .referenced n u ∈ es → u = t)
      (some : ∃ u reopens, .declared n u reopens ∈ es) (first : ¬ReopensFirst c₀ n es)
  /-- The library has an entry of its own beside the meaning of the name elsewhere. -/
  | split {s t : TypeId} (entry : (c.library l).types[n]? = some s) (only : c.Private l s)
      (outside : (c.unregister l).resolve? n = some t) (first : ReopensFirst c₀ n es)

namespace Standing

/-- Whatever happens to other names leaves the name where it stands. -/
theorem untouched (h : Standing l n c₀ c es) (same : SameMeaning l n c d)
    (other : ∀ event ∈ more, ¬event.IsAbout n) : Standing l n c₀ d (es ++ more) := by
  -- what the new events say of the name they said before
  have referenced (u) (inside : .referenced n u ∈ es ++ more) : .referenced n u ∈ es :=
    (List.mem_append.1 inside).resolve_right fun later => other (.referenced n u) later rfl
  have declared (u reopens) (inside : .declared n u reopens ∈ es ++ more) :
      .declared n u reopens ∈ es :=
    (List.mem_append.1 inside).resolve_right fun later => other (.declared n u reopens) later rfl
  cases h with
  | undeclared entry references none known =>
    refine .undeclared (same.entry.trans entry) ?_ ?_ ?_
    · intro u inside
      exact same.outside.trans (references u (referenced u inside))
    · intro u reopens inside
      exact none u reopens (declared u reopens inside)
    · rw [same.outside, known]
      refine or_congr_right (exists_congr fun u => ?_)
      exact ⟨fun inside => List.mem_append_left _ inside, referenced u⟩
  | agreed entry stands outside references some first =>
    refine .agreed (same.entry.trans entry) ((same.reopens _ entry).trans stands) ?_ ?_ ?_ ?_
    · rw [same.outside]
      exact outside
    · intro u inside
      exact references u (referenced u inside)
    · exact exists_declared_append some _
    · rw [reopensFirst_append some]
      exact first
  | split entry only outside first =>
    exact .split (same.entry.trans entry) (same.only _ entry only) (same.outside.trans outside)
      (first.append more)

/-- A look-up that leaves the catalog alone finds the type that everything is about. -/
theorem referenced_again (h : Standing l n c₀ c es)
    (undeclared : (c.library l).types[n]? = none → (c.unregister l).resolve? n = some t)
    (agreed : ∀ s, (c.library l).types[n]? = some s → c.isReopening s = false → t = s) :
    Standing l n c₀ c (es ++ [.referenced n t]) := by
  have only {u} (now : .referenced n u ∈ [Event.referenced n t]) : u = t := by
    cases List.mem_singleton.1 now
    rfl
  -- a further mention stands for what the name stood for before
  cases h with
  | undeclared entry references none known =>
    have outside := undeclared entry
    refine .undeclared entry ?_ (by simpa using none) ?_
    · exact forall_referenced_append references fun u now => only now ▸ outside
    · rw [outside]
      exact iff_of_true nofun (.inr ⟨t, List.mem_append_right _ List.mem_cons_self⟩)
  | agreed entry stands outside references some first =>
    refine .agreed entry stands outside ?_ ?_ ?_
    · exact forall_referenced_append references fun u now =>
        (only now).trans (agreed _ entry stands)
    · exact exists_declared_append some _
    · rw [reopensFirst_append some]
      exact first
  | split entry only outside first =>
    exact .split entry only outside (first.append _)

/-- A reference to the name. -/
theorem referenced (h : Standing l n c₀ c es) (readable : c.Readable l) (latest : c.IsLatest l)
    (reference : Reference l n c t d) :
    Standing l n c₀ d (es ++ [.referenced n t]) := by
  cases reference with
  | own entry stands =>
    refine h.referenced_again (fun none => ?_) fun s known _ => ?_
    · rw [entry] at none
      cases none
    · exact Option.some.inj (entry.symm.trans known)
  | tier passed found =>
    refine h.referenced_again (fun none => ?_) fun s known stands => ?_
    · rw [← resolve?_of_entry_none latest none]
      exact found
    · rw [passed s known] at stands
      cases stands
  | placeholder passed unknown =>
    have introduced := introduced_addPlaceholder readable.registry.hidden_lt
      (readable.registry.hidden_free unknown)
    have lookup : ((c.addPlaceholder n).2.library l).types[n]? = (c.library l).types[n]? := by
      rw [introduced.lookup, if_neg fun both => readable.ne_hidden both.1]
    have outside : (c.unregister l).resolve? n = none :=
      (Option.or_eq_none_iff.1 ((resolve?_eq_or latest n).symm.trans unknown)).1
    -- the name is unknown, so nothing that was read before can have fixed its meaning
    cases h with
    | undeclared entry references none known =>
      have found := resolve?_unregister_addPlaceholder readable.registry outside
      refine .undeclared (lookup.trans entry) ?_ (by simpa using none) ?_
      · refine forall_referenced_append (fun u before => ?_) fun u now => ?_
        · rw [references u before] at outside
          cases outside
        · cases List.mem_singleton.1 now
          exact found
      · rw [found]
        exact iff_of_true nofun (.inr ⟨_, List.mem_append_right _ List.mem_cons_self⟩)
    | agreed entry stands =>
      rw [passed _ entry] at stands
      cases stands
    | split _ _ known =>
      rw [outside] at known
      cases known

/-- A further declaration of a name for which the library has an entry. -/
theorem declared_again (h : Standing l n c₀ c es) (before : (c.library l).types[n]? = some t)
    (after : (d.library l).types[n]? = some t)
    (outside : c.isReopening t = false ∨ c.Private l t →
      (d.unregister l).resolve? n = (c.unregister l).resolve? n)
    (stands : c.isReopening t = false → d.isReopening t = false)
    (only : c.Private l t → d.Private l t) (other : ∀ u, .referenced n u ∉ more) :
    Standing l n c₀ d (es ++ more) := by
  cases h with
  | undeclared entry =>
    rw [before] at entry
    cases entry
  | agreed entry stands' outside' references some first =>
    obtain rfl := Option.some.inj (before.symm.trans entry)
    refine .agreed after (stands stands') (by rwa [outside (.inl stands')]) ?_ ?_ ?_
    · exact forall_referenced_append references fun u now => absurd now (other u)
    · exact exists_declared_append some _
    · rw [reopensFirst_append some]
      exact first
  | split entry only' outside' first =>
    obtain rfl := Option.some.inj (before.symm.trans entry)
    exact .split after (only only') ((outside (.inr only')).trans outside') (first.append more)

/-- The first declaration of a name that gives the library the type that the name stands for, or a
type for a name that stood for nothing. -/
theorem declared_first (h : Standing l n c₀ c es) (before : (c.library l).types[n]? = none)
    (after : (d.library l).types[n]? = some t)
    (outside : (d.unregister l).resolve? n = (c.unregister l).resolve? n)
    (stands : d.isReopening t = false)
    (meaning : (c.unregister l).resolve? n = none ∨
      (c.unregister l).resolve? n = some t ∧ reopens = false)
    (other : ∀ u, .referenced n u ∉ more) :
    Standing l n c₀ d (es ++ .declared n t reopens :: more) := by
  cases h with
  | agreed entry | split entry =>
    rw [before] at entry
    cases entry
  | undeclared _ references none known =>
    refine .agreed after stands ?_ ?_ ⟨t, reopens, List.mem_append_right _ List.mem_cons_self⟩ ?_
    · rw [outside]
      exact meaning.imp_right And.left
    · refine forall_referenced_append (fun u earlier => ?_) fun u now => ?_
      · have found := references u earlier
        -- every earlier mention stood for the meaning outside, which is this type or none
        rcases meaning with nothing | ⟨something, -⟩
        · rw [nothing] at found
          cases found
        · exact Option.some.inj (found.symm.trans something)
      · rcases List.mem_cons.1 now with same | later
        · cases same
        · exact absurd later (other u)
    · rw [reopensFirst_first none, ← known]
      rintro ⟨rfl, something⟩
      rcases meaning with nothing | ⟨-, impossible⟩
      · exact something nothing
      · cases impossible

/-- The first declaration of a name that is known elsewhere gives the library a type of its own. -/
theorem declared_beside (h : Standing l n c₀ c es) (before : (c.library l).types[n]? = none)
    (after : (d.library l).types[n]? = some t) (only : d.Private l t)
    (outside : (d.unregister l).resolve? n = (c.unregister l).resolve? n)
    (meaning : (c.unregister l).resolve? n = some u) :
    Standing l n c₀ d (es ++ .declared n t true :: more) := by
  cases h with
  | agreed entry | split entry =>
    rw [before] at entry
    cases entry
  | undeclared _ references none known =>
    refine .split after only (outside.trans meaning) ?_
    rw [reopensFirst_first none, ← known, meaning]
    exact ⟨rfl, nofun⟩

/-- A declaration of the name. -/
theorem declared {answer : Except (Failure Fault) TypeId} (h : Standing l n c₀ c es)
    (readable : c.Readable l) (owns : OwnsEntries c l) (latest : c.IsLatest l)
    (plain : n ≠ globalsName) (isDeclared : kind.IsDeclared)
    (declaration : Declaration l kind n c reopens answer more d) :
    Standing l n c₀ d (es ++ more) := by
  have registry := readable.registry
  have old {k} {name : String} {t : TypeId} (entry : (c.library k).types[name]? = some t) :
      t ≠ ⟨c.types.size⟩ := by
    rintro rfl
    exact absurd (registry.entry entry).bound (Nat.lt_irrefl _)
  cases declaration with
  | again known own =>
    have entry := owns.entry_of_owned readable plain (existing?_isEntry registry plain known) own
    exact h.declared_again entry entry (fun _ => rfl) id id (by simp)
  | refused _ other taken => exact absurd (owns.entry taken) other
  -- known without an entry of the library: the library gets a type of its own
  | @reopened u _ known _ free ok =>
    have introduces := introduces_reopened (u := u) readable.inside plain free ok
    refine h.declared_beside free ?_ ?_ ?_ (u := u) ?_
    · exact introduces.introduced.lookup_self
    · intro k name entry
      rcases introduces.introduced.lookup_cases entry with ⟨here, -, -⟩ | before
      · exact here
      · exact absurd rfl (old before)
    · exact introduces.outside readable fun k _ entry => absurd rfl (old entry)
    · rwa [← resolve?_of_entry_none latest free, ← Option.none_or (o := c.resolve? n), ← free,
        ← existing?_eq plain]
  | @upgraded t _ known free ok =>
    have introduces := introduces_upgraded registry readable.inside plain isDeclared known free ok
    have after := introduces.introduced.lookup_self
    have stands := introduces.introduced.stands isDeclared.2
    have outside (alike : c.isReopening t = false ∨ c.Private l t) :=
      introduces.outside (n := n) readable fun k other entry => alike.elim
        (fun stood => stands.trans stood.symm) fun only => absurd (only k n entry) other
    -- the library takes over the type that the name stands for, or it had an entry before
    rcases free with free | entry
    · have meaning : (c.unregister l).resolve? n = some t := by
        rwa [← resolve?_of_entry_none latest free, ← Option.none_or (o := c.resolve? n), ← free,
          ← existing?_eq plain]
      have stood := (resolve?_unregister_entry registry readable.two_le meaning).2
      exact h.declared_first free after (outside (.inl stood)) stands (.inr ⟨meaning, rfl⟩)
        (by simp)
    · refine h.declared_again entry after outside (fun _ => stands) ?_ (by simp [introducedEvents])
      exact introduces.private (registry.entry entry).bound
  | created unknown ok =>
    obtain ⟨free, nothing⟩ := existing?_eq_none plain unknown
    have introduces := introduces_created readable.inside plain isDeclared free ok
    have after := introduces.introduced.lookup_self
    have stands := introduces.introduced.stands isDeclared.2
    refine h.declared_first free after ?_ stands (.inl ?_) (by simp)
    · exact introduces.outside readable fun k _ entry => absurd rfl (old entry)
    · rwa [← resolve?_of_entry_none latest free]

/-- Every step keeps the name where it stands or moves it on. -/
theorem step (h : Standing l n c₀ c es) (readable : c.Readable l) (owns : OwnsEntries c l)
    (latest : c.IsLatest l) (step : Step l c more d) : Standing l n c₀ d (es ++ more) := by
  -- a step that is not about the name leaves it where it stands
  cases step with
  | edit edit => exact h.untouched (edit.quiet.sameMeaning readable) edit.not_isAbout
  | @reference name t _ plain reference =>
    by_cases here : name = n
    · subst here
      exact h.referenced readable latest reference
    · have other : ∀ event ∈ [Event.referenced name t], ¬event.IsAbout n := by
        simpa [Event.IsAbout] using here
      rcases reference.naming readable.registry plain with rfl | introduces
      · exact h.untouched (.refl l n _) other
      · exact h.untouched (introduces.sameMeaning readable here) other
  | @declaration name _ _ _ _ _ plain isDeclared declaration =>
    by_cases here : name = n
    · subst here
      exact h.declared readable owns latest plain isDeclared declaration
    · have other : ∀ event ∈ more, ¬event.IsAbout n := fun event inside about =>
        here (declaration.isAbout event inside about)
      rcases declaration.naming readable.registry readable.inside plain isDeclared with
        ⟨_, _, rfl, _⟩ | ⟨_, _, _, introduces⟩ | ⟨_, _, _, quiet, _⟩
      · exact h.untouched (.refl l n _) other
      · exact h.untouched (introduces.sameMeaning readable here) other
      · exact h.untouched (quiet.sameMeaning readable) other

/-- At the end all agrees unless a reopening came first. -/
theorem agrees_iff (h : Standing l n c₀ c es) (readable : c.Readable l) (latest : c.IsLatest l)
    (declared : ∃ t reopens, .declared n t reopens ∈ es) :
    (∃ t, (c.library l).types[n]? = some t ∧ c.resolve? n = some t ∧
      ∀ u, .referenced n u ∈ es → u = t) ↔ ¬ReopensFirst c₀ n es := by
  have meaning := resolve?_eq_or latest n
  cases h with
  | undeclared _ _ none =>
    obtain ⟨t, reopens, inside⟩ := declared
    exact absurd inside (none t reopens)
  | @agreed t entry stands outside references _ first =>
    have found : c.declaredIn? l n = some t := by
      rw [declaredIn?, entry, Option.filter_some, stands]
      rfl
    refine iff_of_true ⟨t, entry, ?_, references⟩ first
    rcases outside with outside | outside <;> simp [meaning, outside, found]
  | @split s t entry only outside first =>
    refine iff_of_false ?_ (not_not.2 first)
    rintro ⟨u, entry', found, -⟩
    obtain rfl := Option.some.inj (entry.symm.trans entry')
    -- the entry is private to the library, and the meaning is an entry of another one
    obtain rfl : t = s := by simpa [outside, found] using meaning.symm
    obtain ⟨⟨k, other, elsewhere⟩, -⟩ :=
      resolve?_unregister_entry readable.registry readable.two_le outside
    exact other (only k n elsewhere)

end Standing

/-- Where a name stands along a reading for a library that was just added. -/
theorem Reading.standing {h : History} (readable : c.Readable l) (owns : OwnsEntries c l)
    (latest : c.IsLatest l) (fresh : (c.library l).types[n]? = none) (reading : Reading l c h d) :
    Standing l n c d h.events ∧ d.IsLatest l := by
  induction reading with
  | start =>
    refine ⟨.undeclared fresh nofun nofun ?_, latest⟩
    rw [resolve?_of_entry_none latest fresh]
    simp
  | step reading step ih =>
    obtain ⟨standing, latest⟩ := ih
    have now := reading.readable readable
    refine ⟨?_, ?_⟩
    · rw [History.events_append]
      exact standing.step now (reading.ownsEntries readable owns) latest step
    · rw [IsLatest, step.registered now]
      exact latest

/-! ## References to declared names

From `Standing` at the end of the reading: agreed is the one side of the equivalence, and split the
other. -/

/-- Let a library be added after any session and a description be read for it, and let the
description declare a name other than by reopening. Then everything that the description says of the
name is about one type: its references to it, before and after the declaration, stand for the type
that the library registers and that the name stands for afterwards. The one exception is a name that
was known and that the description reopens first. -/
theorem declared_agrees_iff (commands : List Command) (library : String) (readOnly : Bool)
    (docs : DocumentationProvider) (source n : String) :
    let added := (after commands).addLibrary library readOnly docs
    let report := added.2.ingest added.1 source
    (∃ t, .declared n t false ∈ report.events) →
      ((∃ t, (report.catalog.library added.1).types[n]? = some t ∧
          report.catalog.resolve? n = some t ∧ ∀ u, .referenced n u ∈ report.events → u = t) ↔
        ¬ReopensFirst added.2 n report.events) := by
  intro added report declared
  have registry := registry_after commands
  have readable := readable_addLibrary registry library readOnly docs
  have owns := ownsEntries_addLibrary registry library readOnly docs
  have latest := isLatest_addLibrary registry library readOnly docs
  have fresh : (added.2.library added.1).types[n]? = none := by
    rw [library_addLibrary, addLibrary_fst, if_pos rfl]
    simp
  obtain ⟨h, reading, events⟩ := ingest_reading readable source
  -- the chain of the whole reading, from a library without entries
  obtain ⟨standing, latest⟩ := reading.standing readable owns latest fresh
  rw [events] at standing
  exact standing.agrees_iff (reading.readable readable) latest
    (declared.imp fun t inside => ⟨false, inside⟩)

/-- A reference before the declaration. -/
theorem declared_agrees_forward :
    let added := (after []).addLibrary "x" false .silent
    let report := added.2.ingest added.1 "interface A { attribute B b; }; interface B { };"
    (∃ t, .declared "B" t false ∈ report.events) ∧
      ((∃ t, (report.catalog.library added.1).types["B"]? = some t ∧
          report.catalog.resolve? "B" = some t ∧ ∀ u, .referenced "B" u ∈ report.events → u = t) ↔
        ¬ReopensFirst added.2 "B" report.events) := by
  intro added report
  have declared : ∃ t, .declared "B" t false ∈ report.events := ⟨⟨22⟩, by decide +kernel⟩
  exact ⟨declared, declared_agrees_iff [] "x" false .silent _ "B" declared⟩

/-- A name that is referred to, then reopened, then declared: the description is accepted, but no
type is the one that the library registers, the one that the name stands for and the one that the
reference stands for. -/
theorem reopened_first_disagrees :
    let added := (after []).addLibrary "x" false .silent
    let report := added.2.ingest added.1
      "interface A { attribute X x; }; partial interface X { }; interface X { };"
    report.outcome = .ok () ∧ (∃ t, .declared "X" t false ∈ report.events) ∧
      ¬∃ t, (report.catalog.library added.1).types["X"]? = some t ∧
        report.catalog.resolve? "X" = some t ∧ ∀ u, .referenced "X" u ∈ report.events → u = t := by
  intro added report
  have facts : report.outcome = .ok () ∧ .declared "X" ⟨23⟩ false ∈ report.events ∧
      (report.catalog.library added.1).types["X"]? = some ⟨23⟩ ∧
      report.catalog.resolve? "X" = some ⟨22⟩ := by
    decide +kernel
  obtain ⟨accepted, declared, registered, named⟩ := facts
  refine ⟨accepted, ⟨_, declared⟩, ?_⟩
  rintro ⟨t, entry, found, -⟩
  rw [registered] at entry
  rw [named, ← entry] at found
  exact absurd found (by decide)

end IdlCatalog
