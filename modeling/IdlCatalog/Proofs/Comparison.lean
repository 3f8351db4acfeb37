/-
# IdlCatalog.Proofs.Comparison — what a comparison prints

A comparison prints names that files of the candidate register and that the baseline does not
declare, in the order of their bytes. On the side of the candidate every entry of an accepted
library counts. On the side of the baseline a name has to stand for a declared type, and a library
that only reopens a placeholder has an entry for the name without declaring it. So a name is printed
although the baseline registers it, if every file of the baseline that registers it reopens it
first.
-/
import IdlCatalog.CommandLine.Run
import IdlCatalog.Proofs.Batches
import IdlCatalog.Proofs.Text.ByteOrder

namespace IdlCatalog

open Catalog

variable {n : String} {b baseline candidate : Batch}

/-- The primitive types are named by the entries of the library of the primitives. -/
theorem mem_primitiveNames :
    n ∈ primitiveNames ↔ ∃ t, (initial.library primitives).types[n]? = some t := by
  rw [← Option.isSome_iff_exists, ← Std.TreeMap.mem_iff_isSome_getElem?]
  have forward : ∀ n ∈ primitiveNames, n ∈ (initial.library primitives).types := by decide +kernel
  have backward : ∀ n ∈ (initial.library primitives).types.keys, n ∈ primitiveNames := by
    decide +kernel
  exact ⟨forward n, fun inside => backward n (Std.TreeMap.mem_keys.2 inside)⟩

namespace Batch

theorem declares_iff : b.declares n = true ↔ b.catalog.Declares n := by
  rw [declares, Catalog.Declares]
  cases b.catalog.resolve? n <;> simp

/-- The missing names come in the order of their bytes, each once. -/
theorem missingFrom_ordered (baseline candidate : Batch) :
    (missingFrom baseline candidate).Pairwise fun a b => utf8Bytes a < utf8Bytes b := by
  rw [missingFrom]
  refine List.Pairwise.imp (fun less => ?_) Std.TreeSet.ordered_toList
  exact utf8Bytes_lt (compareOfLessAndEq_eq_lt.1 less)

theorem mem_missingFrom : n ∈ missingFrom baseline candidate ↔
    n ∈ candidate.names ∧ ¬baseline.catalog.Declares n := by
  rw [missingFrom, Std.TreeSet.mem_toList, Std.TreeSet.mem_insertMany_list]
  simp [← declares_iff]

theorem not_settled_iff {sources : List Source} : ¬Settled sources n ↔
    ∀ before s later, sources = before ++ s :: later → s.Registers n →
      (ofSources before).Reopens s n := by
  simp only [Settled, Settles, not_exists, not_and, not_not]

/-- What a batch of files does not declare are the names that no file registers but by reopening
them first, primitive ones apart. -/
theorem not_declares_iff (sources : List Source) : ¬(ofSources sources).catalog.Declares n ↔
    n ∉ primitiveNames ∧ ∀ before s later, sources = before ++ s :: later → s.Registers n →
      (ofSources before).Reopens s n := by
  have sound := sound_ofSources sources
  cases primitive : (initial.library primitives).types[n]? with
  | some t =>
    have declared := declares_primitive sound.owners ((sound.primitive n).trans primitive)
    exact iff_of_false (not_not.2 declared) fun other =>
      other.1 (mem_primitiveNames.2 ⟨t, primitive⟩)
  | none =>
    have other : n ∉ primitiveNames := by
      rw [mem_primitiveNames, primitive]
      simp
    rw [declares_ofSources primitive, not_settled_iff, and_iff_right other]

end Batch

/-- A comparison prints lines of one name each, in the order of their bytes. They are the names that
some file of the candidate registers, but for those of primitive types and those that some file of
the baseline registers otherwise than by reopening them first. -/
theorem compare_prints (look : String → Place) (baseline candidate : List String) :
    ∃ lines : List String,
      ((Invocation.compare baseline candidate).run look).output = unlines lines ∧
      lines.Pairwise (fun a b => utf8Bytes a < utf8Bytes b) ∧
      ∀ n, n ∈ lines ↔ (∃ s ∈ sourcesOf look candidate, s.Registers n) ∧ n ∉ primitiveNames ∧
        ∀ before s later, sourcesOf look baseline = before ++ s :: later → s.Registers n →
          (Batch.ofSources before).Reopens s n := by
  refine ⟨_, rfl, Batch.missingFrom_ordered _ _, fun n => ?_⟩
  rw [Batch.mem_missingFrom, Batch.mem_names_ofSources, Batch.not_declares_iff]

/-- A file that refers to a name and then reopens it, compared with itself, lacks the name. Where
the two are done by two files, the order of the files decides. -/
theorem compare_self_prints :
    let refers := "interface A { attribute X x; };"
    let reopens := "partial interface X { };"
    let look := fun path : String =>
      Place.file (.ok (if path = "a.idl" then refers else if path = "b.idl" then reopens
        else refers ++ reopens))
    (Invocation.compare ["f.idl"] ["f.idl"]).run look = ⟨0, "X\n", ""⟩ ∧
      (Invocation.compare ["a.idl", "b.idl"] ["b.idl"]).run look = ⟨0, "X\n", ""⟩ ∧
      (Invocation.compare ["b.idl", "a.idl"] ["b.idl"]).run look = ⟨0, "", ""⟩ := by
  decide +kernel

end IdlCatalog
