/-
# IdlCatalog.Catalog.Ids — names for the entries of a catalog

Types, members and libraries refer to each other by number, so a catalog may hold cycles. A
number is an entry's place in the order of creation and never changes.
-/
import Std.Data.TreeSet

namespace IdlCatalog

/-- The number of a type. -/
structure TypeId where
  index : Nat
deriving DecidableEq, Repr, Inhabited

/-- The number of a member. -/
structure MemberId where
  index : Nat
deriving DecidableEq, Repr, Inhabited

/-- The number of a library. -/
structure LibraryId where
  index : Nat
deriving DecidableEq, Repr, Inhabited

/-- Members are ordered by age. -/
instance : Ord MemberId := ⟨compareOn MemberId.index⟩

instance : Std.TransOrd MemberId := inferInstanceAs (Std.TransCmp (compareOn MemberId.index))

instance : Std.LawfulEqOrd MemberId where
  eq_of_compare {a b} h := by
    have same : compare a.index b.index = .eq := h
    have index : a.index = b.index := Nat.compare_eq_eq.1 same
    cases a; cases b; simp_all

/-- Anything that documentation can be attached to. -/
inductive Artifact
  | library (id : LibraryId)
  | type (id : TypeId)
  | member (id : MemberId)
deriving DecidableEq, Repr

end IdlCatalog
