/-
# IdlCatalog.Proofs.ReverseIndex — what the index of mentions contains

The index says of a type which members mention it. A member is recorded when it is attached and when
a further overload is folded into it, at the types that it mentions then; nothing else changes the
index, and nothing is ever taken out of it. So the index is exact about the past: `History.Records`
says which step recorded a member at a type.

Kinds and targets may change later. A name that is declared as a typedef after a member mentioned it
passes the mention on from then on, but the member was not recorded at the target. The index is
complete if and only if every type that an owned member mentions now was recorded for it.

## The index and the history

The steps that record something are those with the events `attached` and `merged`. What such a step
records depends on the catalog at its end, in which the member already has its types: all of them if
it was attached, those of its parameters if an overload was folded in. This is `Catalog.Records`,
which speaks about the step alone; that the index is the union over all steps is then an induction
without any case analysis.
-/
import IdlCatalog.Proofs.Catalog.Recording
import IdlCatalog.Proofs.Session

namespace IdlCatalog

open Grammar Catalog

variable {c d : Catalog} {t u : TypeId} {m k : MemberId} {l : LibraryId} {name : String}
  {es : List Event} {h : History}

/-! ## What steps record

Only members with parameters are folded into, which needs that tables of operations hold operations
(`Tabled`). The invariant is carried along with the index. -/

/-- The tables of operations hold operations. -/
def Catalog.Tabled (c : Catalog) : Prop :=
  ∀ u (name : String) m, (c.type u).operations[name]? = some m →
    m.index < c.members.size ∧ (c.member m).IsOperation

/-- A step with these events that ends with the catalog records the member at the type: the member
was attached and mentions the type, or an overload was folded in and a parameter mentions it. -/
def Catalog.Records (c : Catalog) (es : List Event) (m : MemberId) (u : TypeId) : Prop :=
  ((∃ t, .attached t m ∈ es) ∧ c.Mentions (c.member m).referencedTypes u) ∨
    ((∃ t, .merged t m ∈ es) ∧ c.Mentions ((c.member m).parameters.map Parameter.type) u)

/-- What a step does to members and the index. -/
inductive Recording (c : Catalog) (es : List Event) (d : Catalog) : Prop
  | nothing (same : SameMembers c d) (none : ∀ t m, .attached t m ∉ es ∧ .merged t m ∉ es)
  | attached {m : MemberId} {a : Member} (attached : Attached m a c d)
      (events : ∀ k, (∃ t, .attached t k ∈ es) ↔ k = m) (none : ∀ t k, .merged t k ∉ es)
  | folded {m : MemberId} {ps : List Parameter} (folded : Folded m ps c d)
      (events : ∀ k, (∃ t, .merged t k ∈ es) ↔ k = m) (none : ∀ t k, .attached t k ∉ es)

theorem recording_documentMember (l : LibraryId) (t : TypeId) {added : MemberId × Catalog}
    {a : Member} (attached : Attached added.1 a c added.2) :
    Recording c (documentMember l t added).1 (documentMember l t added).2 :=
  .attached (attached.settles (settles_document added.2 l added.1))
    (fun k => by simp [documentMember]) fun _ _ => by simp [documentMember]

/-- Every edit is one of the three. -/
theorem Edit.recording (tabled : c.Tabled) (edit : Edit l c es d) : Recording c es d := by
  -- three edits attach a member, one folds one in, and the others record nothing
  cases edit with
  | nothing => exact .nothing (.refl c) (by simp)
  | parameter => exact .nothing (.refl c) (by simp)
  | compose composite =>
    refine .nothing ?_ (by simp)
    cases composite <;> exact sameMembers_pushType c _ rfl rfl
  | superType => exact .nothing (sameMembers_setSuperType c _ _) (by simp)
  | literal owned literal =>
    exact .nothing (sameMembers_modifyType c _ (fun _ => rfl) fun _ => rfl) (by simp)
  | modifiers owned modifiers =>
    exact .nothing (sameMembers_modifyType c _ (fun _ => rfl) fun _ => rfl) (by simp)
  | mixin => exact .nothing (sameMembers_addImplements c _ _) (by simp)
  | property => exact recording_documentMember l _ (attached_addProperty c _ _)
  | operation _ _ body => exact recording_documentMember l _ (attached_addOperation c _ body)
  | constructor => exact recording_documentMember l _ (attached_addConstructor c _ _)
  | @merged t m a _ _ _ known =>
    obtain ⟨bound, body⟩ := tabled _ _ _ known
    obtain ⟨ps, folded⟩ := folded_mergeOperation bound body a
    exact .folded folded (by simp) (by simp)

/-- References and declarations record nothing. -/
theorem Step.recording (tabled : c.Tabled) (step : Step l c es d) : Recording c es d := by
  cases step with
  | edit edit => exact edit.recording tabled
  | reference plain reference =>
    exact .nothing reference.sameMembers (by simp)
  | declaration plain declared declaration =>
    refine .nothing declaration.sameMembers ?_
    cases declaration <;> simp [introducedEvents]

namespace Recording

theorem tabled (h : Recording c es d) (tabled : c.Tabled) : d.Tabled := by
  intro u name k entry
  cases h with
  | nothing same =>
    rw [same.operations] at entry
    rw [same.members, same.member]
    exact tabled u name k entry
  | attached attached =>
    rw [attached.size]
    rcases attached.operations u name k entry with old | ⟨rfl, body⟩
    · obtain ⟨bound, body⟩ := tabled u name k old
      refine ⟨Nat.lt_succ_of_lt bound, ?_⟩
      rw [Member.IsOperation, attached.others k bound]
      exact body
    · refine ⟨by rw [attached.fresh]; exact Nat.lt_succ_self _, ?_⟩
      rw [Member.IsOperation, attached.body]
      exact body
  | @folded m _ folded =>
    rw [folded.operations] at entry
    rw [folded.size]
    obtain ⟨bound, body⟩ := tabled u name k entry
    by_cases here : k = m
    · exact ⟨bound, here ▸ folded.isOperation⟩
    · exact ⟨bound, (folded.members k here).symm ▸ body⟩

/-- A step adds to the index what it records. -/
theorem referencedBy (h : Recording c es d) : k ∈ (d.type u).referencedBy ↔
    k ∈ (c.type u).referencedBy ∨ d.Records es k u := by
  cases h with
  | nothing same none =>
    rw [same.referencedBy]
    refine ⟨.inl, fun found => found.elim id ?_⟩
    rintro (⟨⟨t, inside⟩, -⟩ | ⟨⟨t, inside⟩, -⟩)
    · exact absurd inside (none t k).1
    · exact absurd inside (none t k).2
  | @attached m a attached events none =>
    -- at the end of the step the member still has the types with which it was attached
    have types : (d.member m).referencedTypes = a.referencedTypes :=
      Member.referencedTypes_congr attached.type attached.body
    rw [attached.referencedBy, ← attached.graph.mentions]
    refine or_congr_right ⟨?_, ?_⟩
    · rintro ⟨rfl, mentioned⟩
      exact .inl ⟨(events k).2 rfl, types.symm ▸ mentioned⟩
    · rintro (⟨inside, mentioned⟩ | ⟨⟨t, inside⟩, -⟩)
      · obtain rfl := (events k).1 inside
        exact ⟨rfl, types ▸ mentioned⟩
      · exact absurd inside (none t k)
  | @folded m ps folded events none =>
    rw [folded.referencedBy, ← folded.graph.mentions]
    refine or_congr_right ⟨?_, ?_⟩
    · rintro ⟨rfl, mentioned⟩
      exact .inr ⟨(events k).2 rfl, folded.parameters.symm ▸ mentioned⟩
    · rintro (⟨⟨t, inside⟩, -⟩ | ⟨inside, mentioned⟩)
      · exact absurd inside (none t k)
      · obtain rfl := (events k).1 inside
        exact ⟨rfl, folded.parameters ▸ mentioned⟩

end Recording

/-! ## What a session records

Recording is passed on from steps to readings and from readings to sessions. -/

/-- Some step of the history records the member at the type. -/
def History.Records (h : History) (m : MemberId) (u : TypeId) : Prop :=
  ∃ x ∈ h, x.2.Records x.1 m u

theorem History.records_append {h g : History} :
    History.Records (h ++ g) m u ↔ h.Records m u ∨ g.Records m u := by
  simp only [History.Records, List.mem_append, or_and_right, exists_or]

theorem History.records_singleton : History.Records [(es, d)] m u ↔ d.Records es m u := by
  simp [History.Records]

/-- Tables of operations hold operations after a reading. -/
theorem Reading.tabled (tabled : c.Tabled) (reading : Reading l c h d) : d.Tabled := by
  induction reading with
  | start => exact tabled
  | step _ step ih => exact (step.recording ih).tabled ih

/-- A reading adds to the index what its steps record. -/
theorem Reading.referencedBy (tabled : c.Tabled) (reading : Reading l c h d) :
    m ∈ (d.type u).referencedBy ↔ m ∈ (c.type u).referencedBy ∨ h.Records m u := by
  induction reading with
  | start => simp [History.Records]
  -- recording a merged overload needs that tables hold operations, along the whole reading
  | step reading step ih =>
    rw [(step.recording (reading.tabled tabled)).referencedBy, ih, History.records_append,
      History.records_singleton, or_assoc]

/-- A command adds to the index what its steps record, and keeps the tables in order. -/
theorem Command.Takes.recording {command : Command} (tabled : c.Tabled)
    (takes : command.Takes c h) : (c.perform command).Tabled ∧ ∀ m u,
      m ∈ ((c.perform command).type u).referencedBy ↔
        m ∈ (c.type u).referencedBy ∨ h.Records m u := by
  have idle {d} (same : SameMembers c d) : d.Tabled ∧ ∀ m u, m ∈ (d.type u).referencedBy ↔
      m ∈ (c.type u).referencedBy ∨ History.Records [] m u := by
    have recording : Recording c [] d := .nothing same (by simp)
    refine ⟨recording.tabled tabled, fun m u => ?_⟩
    rw [same.referencedBy]
    simp [History.Records]
  cases command with
  | addLibrary name readOnly docs =>
    obtain rfl := takes
    exact idle (sameMembers_addLibrary c name readOnly docs)
  | removeLibrary l =>
    obtain rfl := takes
    exact idle (sameMembers_removeLibrary c l)
  | ingest l source =>
    rw [Command.Takes] at takes
    rw [perform]
    split at takes
    · next added =>
      rw [if_pos added]
      exact ⟨takes.1.tabled tabled, fun m u => takes.1.referencedBy tabled⟩
    · next skipped =>
      obtain rfl := takes
      rw [if_neg skipped]
      exact idle (.refl c)

/-- The index of a session is what its steps recorded. -/
theorem Course.recording {commands : List Command} (course : Course commands h) :
    (after commands).Tabled ∧
      ∀ m u, m ∈ ((after commands).type u).referencedBy ↔ h.Records m u := by
  -- on the commands
  induction course with
  | start =>
    refine ⟨fun u name m entry => ?_, fun m u => ?_⟩
    · rw [after_nil, (initial_blank u).1] at entry
      simp at entry
    · rw [after_nil, (initial_blank u).2]
      simp [History.Records]
  | command course command takes ih =>
    obtain ⟨tabled, index⟩ := takes.recording ih.1
    rw [after_concat]
    refine ⟨tabled, fun m u => ?_⟩
    rw [index, ih.2, History.records_append]

/-! ## When the index is complete

The index says what was mentioned, and completeness asks for what is mentioned. The two differ where
a mention came to pass later than the member. -/

/-- Every owned member is in the index of every type that it mentions. -/
def Catalog.IndexComplete (c : Catalog) : Prop :=
  ∀ m u, (c.member m).owner ≠ none → c.Mentions (c.member m).referencedTypes u →
    m ∈ (c.type u).referencedBy

/-- Every session has a history, and for each of its histories the index contains what the steps
recorded, no less and no more. So the index is complete if and only if every type that an owned
member mentions now was recorded for it: when the member was attached and mentioned it then, or when
an overload was folded in and a parameter mentioned it then. -/
theorem indexComplete_iff (commands : List Command) :
    (∃ h, Course commands h) ∧ ∀ h, Course commands h →
      (∀ m u, m ∈ ((after commands).type u).referencedBy ↔ h.Records m u) ∧
      ((after commands).IndexComplete ↔ ∀ m u, ((after commands).member m).owner ≠ none →
        (after commands).Mentions ((after commands).member m).referencedTypes u →
          h.Records m u) := by
  refine ⟨exists_course commands, fun h course => ?_⟩
  have index := course.recording.2
  refine ⟨index, ?_⟩
  simp only [IndexComplete, index]

/-- Where the typedef comes first, some step records the member at the target of the typedef. -/
theorem indexComplete_iff_typedef_first :
    let commands := [.addLibrary "x" false .silent,
      .ingest ⟨2⟩ "typedef long X; interface A { attribute X x; };"]
    ∃ h, Course commands h ∧ h.Records ⟨0⟩ ⟨12⟩ := by
  intro commands
  obtain ⟨⟨h, course⟩, index⟩ := indexComplete_iff commands
  have recorded : ⟨0⟩ ∈ ((after commands).type ⟨12⟩).referencedBy := by decide +kernel
  exact ⟨h, course, ((index h course).1 _ _).1 recorded⟩

/-- A member is owned and mentions a name, and then the name becomes a typedef for `long`. The
member mentions `long` then and is not in the index of it. -/
theorem typedef_later_incomplete :
    ¬(after [.addLibrary "x" false .silent,
      .ingest ⟨2⟩ "interface A { attribute X x; }; typedef long X;"]).IndexComplete := by
  intro complete
  have facts : let c := after [.addLibrary "x" false .silent,
        .ingest ⟨2⟩ "interface A { attribute X x; }; typedef long X;"]
      ⟨0⟩ ∉ (c.type ⟨12⟩).referencedBy ∧ (c.member ⟨0⟩).owner ≠ none ∧ 12 < c.types.size ∧
        (c.type ⟨12⟩).kind.isTransparent = false ∧ ⟨22⟩ ∈ (c.member ⟨0⟩).referencedTypes ∧
        ⟨12⟩ ∈ c.referenceTargets ⟨22⟩ := by
    decide +kernel
  -- nothing else about the catalog is needed, and evaluating it again would be slow
  generalize after _ = c at complete facts
  obtain ⟨unrecorded, owned, bound, stops, mentioned, passed⟩ := facts
  have path : LeadsTo c.referenceTargets maxDepth ⟨22⟩ ⟨12⟩ := .step passed (.here 63 _)
  exact unrecorded (complete ⟨0⟩ ⟨12⟩ owned ⟨bound, stops, ⟨22⟩, mentioned, path⟩)

end IdlCatalog
