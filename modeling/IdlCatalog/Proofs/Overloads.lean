/-
# IdlCatalog.Proofs.Overloads — one signature for many overloads

Overloads of an operation are folded into it one after the other, each time into a parameter list
that already stands for several. What comes out can be said place by place, without the order in
which it was made: `commonType` of the parameters at the place, all their modifiers, and `optional`
where some overload is too short to have the place. Only names remember the order.

The fold over lists is, at each place, a fold over what the lists have there (`getElem?_merged`),
and `Sums` is kept by every step of that fold.

## Columns and rows

A list of overloads is a table whose rows are parameter lists of different lengths. Folding goes row
by row; the result is said column by column. `join` is the one function that ties the two: what the
merged list has at a place is the join of what its parts have there, where a list that is too short
has nothing. The order of the rows is forgotten where the column of a place is described by its
elements alone.
-/
import Mathlib.Data.List.Induction
import Mathlib.Data.List.Perm.Basic
import IdlCatalog.Catalog.Member

namespace IdlCatalog

/-- The type for all of these: theirs if they agree, and `any` if they do not. -/
def commonType (any : TypeId) : List TypeId → TypeId
  | [] => any
  | t :: ts => if ∀ u ∈ ts, u = t then t else any

/-- All the qualifiers of several sets. -/
def Modifiers.union (sets : List Modifiers) : Modifiers := sets.foldr (· ||| ·) empty

/-- The overloads with these parameter lists, folded into the first of them. -/
def Parameter.merged (any : TypeId) (first : List Parameter) (others : List (List Parameter)) :
    List Parameter :=
  others.foldl (merge any) first

/-- What the lists have at a place, in their order. -/
def Parameter.column (lists : List (List Parameter)) (i : Nat) : List Parameter :=
  lists.filterMap fun list => list[i]?

/-- Whether some list has no parameter at a place. -/
def Parameter.someShort (lists : List (List Parameter)) (i : Nat) : Bool :=
  lists.any fun list => list.length ≤ i

/-! ## The parts of a signature

A common type can be found one type after the other: the type so far, or `any` once two have
differed. -/

section Parts

variable {any t : TypeId} {ts us : List TypeId}

theorem commonType_of_same (some : ts ≠ []) (same : ∀ u ∈ ts, u = t) : commonType any ts = t := by
  cases ts with
  | nil => exact absurd rfl some
  | cons u ts =>
    obtain rfl : u = t := same u List.mem_cons_self
    exact if_pos fun v inside => same v (List.mem_cons_of_mem u inside)

theorem commonType_of_ne (differ : ¬∃ t, ∀ u ∈ ts, u = t) : commonType any ts = any := by
  cases ts with
  | nil => rfl
  | cons u ts =>
    apply if_neg
    intro same
    exact differ ⟨u, List.forall_mem_cons.2 ⟨rfl, same⟩⟩

/-- One more type changes nothing if it is the common one; any other leaves `any`. -/
theorem commonType_concat (some : ts ≠ []) (u : TypeId) :
    commonType any (ts ++ [u]) = if commonType any ts = u then commonType any ts else any := by
  by_cases same : ∃ t, ∀ v ∈ ts, v = t
  · obtain ⟨t, same⟩ := same
    -- all types so far agree, and the new one may agree with them
    rw [commonType_of_same some same]
    split
    · next agrees =>
      subst agrees
      apply commonType_of_same (by simp)
      intro v inside
      rcases List.mem_append.1 inside with old | new
      · exact same v old
      · exact List.mem_singleton.1 new
    · next differs =>
      apply commonType_of_ne
      rintro ⟨v, all⟩
      obtain ⟨w, inside⟩ := List.exists_mem_of_ne_nil ts some
      apply differs
      rw [← same w inside, all w (by simp [inside]), all u (by simp)]
  · rw [commonType_of_ne same, ite_self]
    apply commonType_of_ne
    rintro ⟨t, all⟩
    exact same ⟨t, fun v inside => all v (List.mem_append_left _ inside)⟩

/-- The common type does not depend on an order. -/
theorem commonType_perm (perm : ts.Perm us) : commonType any ts = commonType any us := by
  by_cases some : ts = []
  · subst some
    rw [List.nil_perm.1 perm]
  by_cases same : ∃ t, ∀ u ∈ ts, u = t
  · obtain ⟨t, same⟩ := same
    have other : us ≠ [] := fun none => some (List.perm_nil.1 (none ▸ perm))
    rw [commonType_of_same some same,
      commonType_of_same other fun u inside => same u (perm.mem_iff.2 inside)]
  · rw [commonType_of_ne same, commonType_of_ne]
    rintro ⟨t, all⟩
    exact same ⟨t, fun u inside => all u (perm.mem_iff.1 inside)⟩

theorem Modifiers.union_concat (sets : List Modifiers) (a : Modifiers) :
    union (sets ++ [a]) = union sets ||| a := by
  induction sets with
  | nil => exact (or_empty a).trans (empty_or a).symm
  | cons b sets ih =>
    show b ||| union (sets ++ [a]) = b ||| union sets ||| a
    rw [ih, or_assoc]

/-- Sets of qualifiers may be united in any order. -/
theorem Modifiers.union_perm {sets others : List Modifiers} (perm : sets.Perm others) :
    union sets = union others := by
  have : LeftCommutative fun a b : Modifiers => a ||| b := ⟨fun a b c => by ac_rfl⟩
  exact perm.foldr_eq empty

end Parts

namespace Parameter

variable {any : TypeId} {first : List Parameter} {others lists : List (List Parameter)} {i : Nat}
  {p q : Parameter} {row : List (Option Parameter)}

/-! ## One place

The recursion of the merge runs along both lists at once, so its place-wise form is by induction on
them. -/

/-- What a merged list has at a place, from what its two parts have there. -/
def join (any : TypeId) : Option Parameter → Option Parameter → Option Parameter
  | some a, some b => some (unify any a b)
  | some a, none => some a.orAbsent
  | none, some b => some b.orAbsent
  | none, none => none

/-- Merging joins what the two lists have at each place. -/
theorem getElem?_merge (existing incoming : List Parameter) (i : Nat) :
    (merge any existing incoming)[i]? = join any existing[i]? incoming[i]? := by
  induction existing generalizing incoming i with
  | nil =>
    cases incoming with
    | nil => rfl
    | cons b incoming =>
      simp only [merge, List.getElem?_map, List.getElem?_nil]
      cases (b :: incoming)[i]? <;> rfl
  | cons a existing ih =>
    cases incoming with
    | nil =>
      simp only [merge, List.getElem?_map, List.getElem?_nil]
      cases (a :: existing)[i]? <;> rfl
    | cons b incoming =>
      cases i with
      | zero => rfl
      | succ i => simpa [merge] using ih incoming i

theorem getElem?_merged (first : List Parameter) (others : List (List Parameter)) (i : Nat) :
    (merged any first others)[i]? =
      (others.map fun list => list[i]?).foldl (join any) first[i]? := by
  unfold merged
  induction others generalizing first with
  | nil => rfl
  | cons list others ih =>
    rw [List.foldl_cons, ih, getElem?_merge, List.map_cons, List.foldl_cons]

/-- A merged list is as long as the longer one of the two. -/
theorem length_merge (existing incoming : List Parameter) :
    (merge any existing incoming).length = max existing.length incoming.length := by
  induction existing generalizing incoming with
  | nil => cases incoming <;> simp [merge]
  | cons a existing ih =>
    cases incoming with
    | nil => simp [merge]
    | cons b incoming =>
      simp only [merge, List.length_cons, ih]
      omega

/-- The list that comes out is as long as the longest overload. -/
theorem length_merged (first : List Parameter) (others : List (List Parameter)) :
    ((first :: others).map List.length).max? = some (merged any first others).length := by
  rw [List.map_cons, List.max?_cons']
  unfold merged
  congr 1
  induction others generalizing first with
  | nil => rfl
  | cons list others ih =>
    rw [List.foldl_cons, ← ih, length_merge, List.map_cons, List.foldl_cons]

/-! ## What a parameter stands for

The invariant of the fold at one place. It allows for places at which no overload so far has had a
parameter. -/

/-- The parameter stands for the ones at its place, of which some overload may have none: it has
their common type and all their modifiers, and its name begins with the first of their names. -/
structure StandsFor (any : TypeId) (ps : List Parameter) (short : Bool) (p : Parameter) :
    Prop where
  type : p.type = commonType any (ps.map Parameter.type)
  modifiers : p.modifiers = Modifiers.union (ps.map Parameter.modifiers) |||
    if short then Modifiers.optional else Modifiers.empty
  name : ∃ q rest, ps.head? = some q ∧ p.name = q.name ++ rest

/-- What comes of a row of parameters, where some lists may have none. -/
def Sums (any : TypeId) (row : List (Option Parameter)) : Option Parameter → Prop
  | none => row.filterMap id = []
  | some p => StandsFor any (row.filterMap id) (row.contains none) p

theorem sums_single (a : Option Parameter) : Sums any [a] a := by
  cases a with
  | none => rfl
  | some p =>
    refine ⟨(commonType_of_same (by simp) (by simp)).symm, ?_, p, "", rfl, ?_⟩
    · show p.modifiers = p.modifiers ||| Modifiers.empty ||| Modifiers.empty
      rw [Modifiers.or_empty, Modifiers.or_empty]
    · rw [String.append_empty]

theorem StandsFor.ne_nil {ps : List Parameter} {short : Bool} (h : StandsFor any ps short p) :
    ps ≠ [] := by
  rintro rfl
  obtain ⟨q, _, found, -⟩ := h.name
  cases found

/-- A further parameter at the place. -/
theorem StandsFor.unify {ps : List Parameter} {short : Bool} (h : StandsFor any ps short p)
    (q : Parameter) : StandsFor any (ps ++ [q]) short (Parameter.unify any p q) where
  type := by
    have some : ps.map Parameter.type ≠ [] := by simpa using h.ne_nil
    rw [List.map_append, List.map_singleton, commonType_concat some, ← h.type]
    rfl
  modifiers := by
    show p.modifiers ||| q.modifiers = _
    rw [List.map_append, List.map_singleton, Modifiers.union_concat, h.modifiers]
    ac_rfl
  name := by
    obtain ⟨r, rest, found, name⟩ := h.name
    refine ⟨r, ?_⟩
    rw [List.head?_append_of_ne_nil ps h.ne_nil, Parameter.unify]
    split
    · exact ⟨rest, found, name⟩
    · refine ⟨rest ++ "_" ++ q.name, found, ?_⟩
      rw [name, String.append_assoc, String.append_assoc, String.append_assoc]

/-- An overload without a parameter at the place. -/
theorem StandsFor.orAbsent {ps : List Parameter} {short : Bool} (h : StandsFor any ps short p) :
    StandsFor any ps true p.orAbsent where
  type := h.type
  modifiers := by
    show p.modifiers ||| Modifiers.optional = _
    rw [h.modifiers, if_pos rfl, Modifiers.or_assoc]
    cases short with
    | true => rw [if_pos rfl, Modifiers.or_self]
    | false => rw [if_neg Bool.false_ne_true, Modifiers.empty_or]
  name := h.name

theorem Sums.join {a : Option Parameter} (some_row : row ≠ []) (h : Sums any row a)
    (b : Option Parameter) : Sums any (row ++ [b]) (join any a b) := by
  cases a with
  | some p =>
    have h : StandsFor any (row.filterMap id) (row.contains none) p := h
    cases b with
    | some q =>
      show StandsFor any ((row ++ [some q]).filterMap id) ((row ++ [some q]).contains none)
        (Parameter.unify any p q)
      simpa using h.unify q
    | none =>
      show StandsFor any ((row ++ [none]).filterMap id) ((row ++ [none]).contains none) p.orAbsent
      simpa using h.orAbsent
  | none =>
    have empty : row.filterMap id = [] := h
    cases b with
    | some q =>
      -- the earlier lists have nothing at the place, so that the parameter may be left out
      have short : row.contains none = true := by
        obtain ⟨a, inside⟩ := List.exists_mem_of_ne_nil row some_row
        have absent : a = none := List.filterMap_eq_nil_iff.1 empty a inside
        simpa using absent ▸ inside
      have alone : StandsFor any [q] false q := by simpa [Sums] using sums_single (some q)
      show StandsFor any ((row ++ [some q]).filterMap id) ((row ++ [some q]).contains none)
        q.orAbsent
      rw [List.filterMap_append, empty, List.contains_append, short]
      exact alone.orAbsent
    | none =>
      show (row ++ [none]).filterMap id = []
      rw [List.filterMap_append, empty]
      rfl

theorem sums_foldl (a : Option Parameter) (bs : List (Option Parameter)) :
    Sums any (a :: bs) (bs.foldl (Parameter.join any) a) := by
  -- from the right, as the fold goes
  induction bs using List.reverseRecOn with
  | nil => exact sums_single a
  | append_singleton bs b ih =>
    rw [List.foldl_concat, ← List.cons_append]
    exact ih.join (List.cons_ne_nil a bs) b

/-! ## Whole lists

All places together, and what is left when the order of the overloads is forgotten. -/

theorem filterMap_places (lists : List (List Parameter)) (i : Nat) :
    (lists.map fun list => list[i]?).filterMap id = column lists i := by
  rw [List.filterMap_map]
  rfl

theorem contains_places (lists : List (List Parameter)) (i : Nat) :
    (lists.map fun list => list[i]?).contains none = someShort lists i := by
  rw [Bool.eq_iff_iff, someShort]
  simp

/-- Each parameter that comes out stands for the ones at its place, and there is one wherever some
overload has one. -/
theorem merged_place (first : List Parameter) (others : List (List Parameter)) (i : Nat) :
    ((merged any first others)[i]? = none → column (first :: others) i = []) ∧
      ∀ p, (merged any first others)[i]? = some p →
        StandsFor any (column (first :: others) i) (someShort (first :: others) i) p := by
  have sums : Sums any ((first :: others).map fun list => list[i]?)
      (merged any first others)[i]? := by
    rw [getElem?_merged]
    exact sums_foldl _ _
  rw [← filterMap_places, ← contains_places]
  constructor
  · intro none
    rwa [none] at sums
  · intro p found
    rwa [found] at sums

theorem StandsFor.perm {ps qs : List Parameter} {short : Bool} (perm : ps.Perm qs)
    (h : StandsFor any ps short p) (h' : StandsFor any qs short q) :
    p.type = q.type ∧ p.modifiers = q.modifiers := by
  constructor
  · rw [h.type, h'.type, commonType_perm (perm.map Parameter.type)]
  · rw [h.modifiers, h'.modifiers, Modifiers.union_perm (perm.map Parameter.modifiers)]

theorem someShort_perm {lists lists' : List (List Parameter)} (perm : lists.Perm lists') (i : Nat) :
    someShort lists i = someShort lists' i := by
  rw [Bool.eq_iff_iff, someShort, someShort, List.any_eq_true, List.any_eq_true]
  simp only [perm.mem_iff]

/-- Types and modifiers do not depend on the order of the overloads. -/
theorem merged_perm {first first' : List Parameter} {others others' : List (List Parameter)}
    (perm : (first :: others).Perm (first' :: others')) :
    (merged any first others).map (fun p => (p.type, p.modifiers)) =
      (merged any first' others').map fun p => (p.type, p.modifiers) := by
  apply List.ext_getElem?
  -- place by place
  intro i
  -- what stands at a place is permuted with the overloads
  have columns : (column (first :: others) i).Perm (column (first' :: others') i) :=
    perm.filterMap _
  obtain ⟨absent, present⟩ := @merged_place any first others i
  obtain ⟨absent', present'⟩ := @merged_place any first' others' i
  rw [List.getElem?_map, List.getElem?_map]
  cases found : (merged any first others)[i]? with
  | none =>
    cases found' : (merged any first' others')[i]? with
    | none => rfl
    | some q =>
      rw [absent found] at columns
      exact absurd (List.nil_perm.1 columns) (present' q found').ne_nil
  | some p =>
    cases found' : (merged any first' others')[i]? with
    | none =>
      rw [absent' found'] at columns
      exact absurd (List.perm_nil.1 columns) (present p found).ne_nil
    | some q =>
      have stands := present' q found'
      rw [← someShort_perm perm] at stands
      obtain ⟨types, modifiers⟩ := (present p found).perm columns stands
      simp [types, modifiers]

/-- Overloads that are folded together, from the first on, come to a list as long as the longest of
them. Each of its parameters has the common type of those at its place, or else `any`, and all their
modifiers; it is optional besides if and only if some overload is too short to have the place; and
its name begins with the name that the first overload has there that has one. So the lengths, the
types and the modifiers are the same for the overloads in any other order. -/
theorem overloads_unite (any : TypeId) (first : List Parameter) (others : List (List Parameter)) :
    ((first :: others).map List.length).max? = some (merged any first others).length ∧
    (∀ i p, (merged any first others)[i]? = some p →
      StandsFor any (column (first :: others) i) (someShort (first :: others) i) p) ∧
    ∀ first' others', (first :: others).Perm (first' :: others') →
      (merged any first' others').length = (merged any first others).length ∧
      (merged any first' others').map Parameter.type =
        (merged any first others).map Parameter.type ∧
      (merged any first' others').map Parameter.modifiers =
        (merged any first others).map Parameter.modifiers := by
  refine ⟨length_merged first others, fun i => (merged_place first others i).2, ?_⟩
  intro first' others' perm
  have same := (@merged_perm any _ _ _ _ perm).symm
  refine ⟨?_, ?_, ?_⟩
  · simpa using congrArg List.length same
  · simpa [Function.comp_def] using congrArg (List.map Prod.fst) same
  · simpa [Function.comp_def] using congrArg (List.map Prod.snd) same

/-- An overload of two parameters and one of a single parameter of another type, in either order. -/
theorem overloads_unite_ragged :
    let short : List Parameter := [⟨"x", ⟨12⟩, Modifiers.empty⟩]
    let long : List Parameter := [⟨"y", ⟨4⟩, Modifiers.empty⟩, ⟨"z", ⟨12⟩, Modifiers.empty⟩]
    (merged ⟨7⟩ long [short]).map Parameter.type = [⟨7⟩, ⟨12⟩] ∧
      (merged ⟨7⟩ long [short]).map Parameter.modifiers =
        [Modifiers.empty, Modifiers.optional] := by
  intro short long
  have swapped : [short, long].Perm [long, short] := .swap long short []
  obtain ⟨-, -, order⟩ := overloads_unite ⟨7⟩ short [long]
  obtain ⟨-, types, modifiers⟩ := order long [short] swapped
  rw [types, modifiers]
  decide +kernel

end Parameter

end IdlCatalog
