/-
# IdlCatalog.Catalog.Modifiers — qualifiers of types, members and parameters

Modifiers are a set of flags in sixteen bits. Bits without a name are kept as they are, so that
the union of two sets is the union of their bits.
-/

namespace IdlCatalog

/-! ## Modifiers -/

/-- A set of qualifiers. -/
structure Modifiers where
  bits : BitVec 16
deriving DecidableEq, Repr, Inhabited

namespace Modifiers

/-- The set without qualifiers. -/
def empty : Modifiers := ⟨0⟩

/-- The set whose only bit is number `n`. -/
def flag (n : Nat) : Modifiers := ⟨1#16 <<< n⟩

/-- A property that never changes. -/
def constant : Modifiers := flag 0

/-- An operation that makes an object. -/
def constructor : Modifiers := flag 1

/-- A parameter that may be left out. -/
def optional : Modifiers := flag 2

/-- A property that cannot be set. -/
def readOnly : Modifiers := flag 3

/-- A member of the interface object. -/
def static : Modifiers := flag 4

/-- A parameter that stands for any number of arguments. -/
def variadic : Modifiers := flag 5

/-- A member that an object cannot replace. -/
def unforgeable : Modifiers := flag 6

/-- An interface whose objects behave like arrays. -/
def arrayClass : Modifiers := flag 8

/-- An interface whose named properties come before its members. -/
def overrideBuiltins : Modifiers := flag 9

/-- The main one among the global interfaces. -/
def primaryGlobal : Modifiers := flag 10

/-- The flags that have a name, in bit order. -/
def named : List (Modifiers × String) :=
  [(constant, "constant"), (constructor, "constructor"), (optional, "optional"),
    (readOnly, "read_only"), (static, "static"), (variadic, "variadic"),
    (unforgeable, "unforgeable"), (arrayClass, "array_class"),
    (overrideBuiltins, "override_builtins"), (primaryGlobal, "primary_global")]

/-- The qualifiers that are in one of the two sets. -/
instance : OrOp Modifiers := ⟨fun a b => ⟨a.bits ||| b.bits⟩⟩

/-- The qualifiers that are in both sets. -/
instance : AndOp Modifiers := ⟨fun a b => ⟨a.bits &&& b.bits⟩⟩

/-- Whether every qualifier of `b` is in `a`. -/
def contains (a b : Modifiers) : Bool := a &&& b = b

/-- Whether there is no qualifier at all, named or not. -/
def isEmpty (a : Modifiers) : Bool := a = empty

@[simp] theorem bits_or (a b : Modifiers) : (a ||| b).bits = a.bits ||| b.bits := rfl

@[simp] theorem bits_and (a b : Modifiers) : (a &&& b).bits = a.bits &&& b.bits := rfl

theorem empty_or (a : Modifiers) : empty ||| a = a :=
  congrArg mk BitVec.zero_or

theorem or_empty (a : Modifiers) : a ||| empty = a :=
  congrArg mk BitVec.or_zero

theorem or_self (a : Modifiers) : a ||| a = a :=
  congrArg mk BitVec.or_self

theorem or_comm (a b : Modifiers) : a ||| b = b ||| a :=
  congrArg mk (BitVec.or_comm a.bits b.bits)

theorem or_assoc (a b c : Modifiers) : a ||| b ||| c = a ||| (b ||| c) :=
  congrArg mk (BitVec.or_assoc a.bits b.bits c.bits)

instance : Std.Commutative (fun a b : Modifiers => a ||| b) := ⟨or_comm⟩

instance : Std.Associative (fun a b : Modifiers => a ||| b) := ⟨or_assoc⟩

/-- The names of the flags in the set, in bit order. -/
def names (a : Modifiers) : List String :=
  (named.filter fun entry => a.contains entry.1).map (·.2)

/-- The flag with the given name. -/
def ofName? (s : String) : Option Modifiers := (named.find? fun entry => entry.2 = s).map (·.1)

end Modifiers

/-! ## Specials -/

/-- The special roles of an operation that the catalog keeps. -/
structure Specials where
  getter : Bool
  setter : Bool
deriving DecidableEq, Repr

namespace Specials

/-- No special role. -/
def empty : Specials := ⟨false, false⟩

instance : Inhabited Specials := ⟨empty⟩

/-- The roles that one of the two sets has. -/
def union (a b : Specials) : Specials := ⟨a.getter || b.getter, a.setter || b.setter⟩

/-- The role that a keyword gives; most of the special keywords give none. -/
def ofKeyword (keyword : String) : Specials := ⟨keyword = "getter", keyword = "setter"⟩

/-- The names of the roles. -/
def names (s : Specials) : List String :=
  (if s.getter then ["getter"] else []) ++ (if s.setter then ["setter"] else [])

end Specials

end IdlCatalog
