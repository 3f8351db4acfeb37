/-
# IdlCatalog.Catalog.Reach — what can be reached in the type graph

Both questions that follow chains through the graph are asked to a bounded depth, because the
graph may be cyclic: which types a member mentions, and which members a type has through mixins.
`reachWithin` answers both one step at a time, with each step's types listed once, so the cost
stays polynomial where the number of paths does not.
-/
import IdlCatalog.Catalog.Basic
import IdlCatalog.Text.Lowercase

namespace IdlCatalog

/-- Everything reached from `front` by at most `steps` steps along `next`. -/
def reachWithin {α : Type} [BEq α] (next : α → List α) : (steps : Nat) → (front : List α) → List α
  | 0, front => front
  | steps + 1, front => front ++ reachWithin next steps (front.flatMap next).eraseDups

namespace Catalog

/-! ## References -/

/-- The types to which a reference to `t` is passed on: the part of a wrapper, the target of a
typedef, the branches of a union. -/
def referenceTargets (c : Catalog) (t : TypeId) : List TypeId :=
  match (c.type t).kind with
  | .array | .sequence | .nullable | .typedef => (c.type t).superType.toList
  | .union => (c.type t).types.toList
  | _ => []

/-- Notes that a member mentions a type. -/
def noteReference (m : MemberId) (c : Catalog) (t : TypeId) : Catalog :=
  c.modifyType t fun node => { node with referencedBy := node.referencedBy.insert m }

/-- Notes that `m` mentions `t`. Wrappers and unions pass the reference on and take no note of it;
typedefs do both. -/
def addReference (c : Catalog) (t : TypeId) (m : MemberId) : Catalog :=
  let mentioned := (reachWithin c.referenceTargets maxDepth [t]).filter fun u =>
    !(c.type u).kind.isTransparent
  mentioned.foldl (noteReference m) c

/-! ## Members through mixins -/

/-- The members that `table` gives for a type or for any type that it implements, each once, from
the oldest to the newest. -/
def membersWithin (c : Catalog) (table : TypeNode → NameMap MemberId) (t : TypeId) :
    List MemberId :=
  let types := (reachWithin (fun u => (c.type u).types.toList) maxDepth [t]).eraseDups
  (types.foldl (fun (found : Std.TreeSet MemberId) u => found.insertMany (table (c.type u)).values)
    ∅).toList

/-- Sorts members by name without regard to case, and by age where the names agree. -/
def sortByName (c : Catalog) (ms : List MemberId) : List MemberId :=
  let keyed := ms.map fun m => (lowercase (c.member m).name, m)
  let before (a b : String × MemberId) : Bool :=
    a.1 < b.1 || (a.1 = b.1 && a.2.index ≤ b.2.index)
  (keyed.mergeSort before).map (·.2)

/-- The operations of a type and of everything it implements. -/
def ownAndInterfaceOperations (c : Catalog) (t : TypeId) : List MemberId :=
  c.sortByName (c.membersWithin (·.operations) t)

/-- The properties of a type and of everything it implements. -/
def ownAndInterfaceProperties (c : Catalog) (t : TypeId) : List MemberId :=
  c.sortByName (c.membersWithin (·.properties) t)

end Catalog

end IdlCatalog
