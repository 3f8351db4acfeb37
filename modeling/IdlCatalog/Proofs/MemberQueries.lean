/-
# IdlCatalog.Proofs.MemberQueries — where looking a member up and listing the members agree

Two questions about the members of a type are answered by two walks. A look-up by name follows
reopenings to the type that stores the members. A listing begins at the type itself and goes along
what is implemented, through mixins of mixins.

For a type that stands on its own the storing type is the type itself, at which every listing
begins, so what is found is listed. A type that reopens another one points to it by its super type,
and along super types no listing goes. What is found through such a type is listed only where mixins
happen to lead to the storing type as well.
-/
import IdlCatalog.Proofs.Grammar.Gathering
import IdlCatalog.Proofs.Mixins
import IdlCatalog.Proofs.Session

namespace IdlCatalog

namespace Catalog

variable {c : Catalog} {t u : TypeId} {m : MemberId} {name : String}

/-- What the two look-ups find is in the two listings. -/
structure QueriesAgree (c : Catalog) (t : TypeId) : Prop where
  properties : ∀ (name : String) m, c.property? t name = some m →
    m ∈ c.ownAndInterfaceProperties t
  operations : ∀ (name : String) m, c.operation? t name = some m →
    m ∈ c.ownAndInterfaceOperations t

/-- The type stores no members. -/
def Memberless (c : Catalog) (u : TypeId) : Prop :=
  ∀ (table : Table) m, ¬c.HasMember table.of u m

/-- A member that is in the table of `u` is listed for `t` if and only if mixins lead from `t` to
`u`: no other type has it. -/
theorem Tables.listed_iff (tables : c.Tables) (table : Table)
    (entry : (table.of (c.type u))[name]? = some m) :
    m ∈ c.sortByName (c.membersWithin table.of t) ↔ LeadsTo c.mixins maxDepth t u := by
  rw [(perm_sortByName c _).mem_iff, mem_membersWithin]
  constructor
  · rintro ⟨v, leads, n, held⟩
    obtain ⟨rfl, -, -⟩ := tables.unique held entry
    exact leads
  · intro leads
    exact ⟨u, leads, name, entry⟩

/-- The queries agree for a type if and only if mixins lead from it to the type that stores its
members, or no members are stored. -/
theorem Tables.agree_iff (tables : c.Tables) :
    c.QueriesAgree t ↔
      LeadsTo c.mixins maxDepth t (c.storage t) ∨ c.Memberless (c.storage t) := by
  constructor
  · intro agree
    by_cases bare : c.Memberless (c.storage t)
    · exact .inr bare
    -- any member that is stored tells whether mixins lead to it
    · simp only [Memberless, not_forall, not_not] at bare
      obtain ⟨table, m, name, entry⟩ := bare
      refine .inl ((tables.listed_iff table entry).1 ?_)
      cases table with
      | properties => exact agree.properties name m entry
      | operations => exact agree.operations name m entry
  · rintro (leads | bare)
    · refine ⟨fun name m found => ?_, fun name m found => ?_⟩
      · exact (tables.listed_iff .properties found).2 leads
      · exact (tables.listed_iff .operations found).2 leads
    · refine ⟨fun name m found => ?_, fun name m found => ?_⟩
      · exact absurd ⟨name, found⟩ (bare .properties m)
      · exact absurd ⟨name, found⟩ (bare .operations m)

end Catalog

open Catalog

/-! ## The main statement -/

/-- After every session, the members of a type that are found by name are among those that are
listed for it, unless the type reopens another one: then this holds if and only if mixins lead from
it, in at most `maxDepth` steps, to the type that stores its members, or that type has none. -/
theorem queriesAgree_iff (commands : List Command) (t : TypeId) :
    (after commands).QueriesAgree t ↔
      ((after commands).isReopening t = true →
        LeadsTo (after commands).mixins maxDepth t ((after commands).storage t) ∨
          (after commands).Memberless ((after commands).storage t)) := by
  rw [(tables_after commands).agree_iff]
  cases reopens : (after commands).isReopening t with
  | true => exact ⟨fun agree _ => agree, fun agree => agree rfl⟩
  | false =>
    have stores : (after commands).storage t = t := followReopenings_of_stands _ reopens
    rw [stores]
    exact iff_of_true (.inl (.here _ t)) fun wrong => nomatch wrong

/-- A library reopens a type of another one. The attribute of the type is found through the
reopening, which is registered, but is not listed for it. -/
theorem found_through_reopening_not_listed :
    let c := after [.addLibrary "a" true .silent,
      .ingest ⟨2⟩ "interface X { attribute long a; };", .addLibrary "b" true .silent,
      .ingest ⟨3⟩ "partial interface X { };"]
    ⟨3⟩ ∈ c.registered ∧ (c.library ⟨3⟩).types["X"]? = some ⟨23⟩ ∧
      c.property? ⟨23⟩ "a" = some ⟨0⟩ ∧ ⟨0⟩ ∉ c.ownAndInterfaceProperties ⟨23⟩ := by
  decide +kernel

end IdlCatalog
