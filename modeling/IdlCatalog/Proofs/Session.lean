/-
# IdlCatalog.Proofs.Session — catalogs that are reached by adding, reading and removing

A session adds libraries, reads descriptions into libraries that were added, whether the readings
succeed or not, and removes libraries, in any order. What holds of the first catalog and is kept by
the three commands holds after every session; in particular the registry of names is sound.

## Commands and requests

Commands are what a user does who adds, reads and removes libraries. They are fewer than the
requests of `Proofs.Validity`, which may be any call with numbers in range; what holds for all
sessions need not hold after such calls, since a call may give a type another owner or another kind.
In return much more can be said here: names are in order, and what a library owns is known.

A session is a list of commands, and its catalog is computed from the list. Its history is not: the
steps of a reading are known to exist, but nothing picks them. So `Course` relates a session to its
histories, of which there is at least one.
-/
import Mathlib.Data.List.Induction
import IdlCatalog.Proofs.Grammar.Filing
import IdlCatalog.Proofs.Grammar.Following
import IdlCatalog.Proofs.Grammar.Meaning

namespace IdlCatalog

open Catalog

/-- What a user of a catalog may ask for. -/
inductive Command
  | addLibrary (name : String) (readOnly : Bool) (docs : DocumentationProvider)
  | ingest (l : LibraryId) (source : String)
  | removeLibrary (l : LibraryId)

namespace Catalog

/-- Whether the library was added, so that descriptions may be read into it. -/
def WasAdded (c : Catalog) (l : LibraryId) : Prop := 2 ≤ l.index ∧ l.index < c.libraries.size

instance (c : Catalog) (l : LibraryId) : Decidable (c.WasAdded l) :=
  inferInstanceAs (Decidable (_ ∧ _))

/-- The catalog after a command. Reading into a library that was not added is no command. -/
def perform (c : Catalog) : Command → Catalog
  | .addLibrary name readOnly docs => (c.addLibrary name readOnly docs).2
  | .ingest l source => if c.WasAdded l then (c.ingest l source).catalog else c
  | .removeLibrary l => (c.removeLibrary l).2

/-- The catalog after a session. -/
def after (commands : List Command) : Catalog := commands.foldl perform initial

@[simp] theorem after_nil : after [] = initial := rfl

@[simp] theorem after_concat (commands : List Command) (command : Command) :
    after (commands ++ [command]) = (after commands).perform command := by
  simp [after]

variable {c : Catalog} {l : LibraryId}

/-- A library that was added can be read for. -/
theorem Registry.readable (h : Registry c) (added : c.WasAdded l) : c.Readable l :=
  ⟨h, added.1, added.2⟩

/-- Every command keeps the registry sound. -/
theorem Registry.perform (h : Registry c) (command : Command) : Registry (c.perform command) := by
  cases command with
  | addLibrary name readOnly docs => exact h.addLibrary name readOnly docs
  | removeLibrary l => exact h.removeLibrary l
  | ingest l source =>
    rw [Catalog.perform]
    split
    · next added => exact (ingest_readable (h.readable added) source).registry
    · exact h

/-- The registry of names is sound after every session. -/
theorem registry_after (commands : List Command) : Registry (after commands) := by
  induction commands using List.reverseRecOn with
  | nil => exact registry_initial
  | append_singleton commands command ih =>
    rw [after_concat]
    exact ih.perform command

/-- Every command keeps owners in order. -/
theorem Owners.perform (owners : Owners c) (registry : Registry c) (command : Command) :
    Owners (c.perform command) := by
  cases command with
  | addLibrary name readOnly docs => exact owners.addLibrary registry name readOnly docs
  | removeLibrary l => exact owners.removeLibrary registry l
  | ingest l source =>
    rw [Catalog.perform]
    split
    · next added =>
      obtain ⟨h, reading, -⟩ := ingest_reading (registry.readable added) source
      exact reading.owners (registry.readable added) owners
    · exact owners

/-- Owners are in order after every session. -/
theorem owners_after (commands : List Command) : Owners (after commands) := by
  induction commands using List.reverseRecOn with
  | nil => exact .initial
  | append_singleton commands command ih =>
    rw [after_concat]
    exact ih.perform (registry_after commands) command

/-- What holds of the first catalog, and is kept by adding and removing libraries and by reading for
a library that was added, holds after every session. Each of the commands may rely on the registry
and on the owners. -/
theorem after_induction {P : Catalog → Prop} (start : P initial)
    (add : ∀ {c}, Registry c → Owners c → P c → ∀ name readOnly docs,
      P (c.addLibrary name readOnly docs).2)
    (remove : ∀ {c}, Registry c → Owners c → P c → ∀ l, P (c.removeLibrary l).2)
    (read : ∀ {c l}, c.Readable l → P c → ∀ source, P (c.ingest l source).catalog)
    (commands : List Command) : P (after commands) := by
  -- on the commands, the last one first
  induction commands using List.reverseRecOn with
  | nil => exact start
  | append_singleton commands command ih =>
    have registry := registry_after commands
    have owners := owners_after commands
    rw [after_concat]
    cases command with
    | addLibrary name readOnly docs => exact add registry owners ih name readOnly docs
    | removeLibrary l => exact remove registry owners ih l
    | ingest l source =>
      rw [perform]
      split
      · next added => exact read (registry.readable added) ih source
      · exact ih

/-- Added libraries own their globals and otherwise only what they have entries for. -/
theorem ownsOnly_after (commands : List Command) {l : LibraryId} (added : 2 ≤ l.index) :
    (after commands).OwnsOnly l := by
  -- before the library is added its number is that of none, and nothing belongs to it
  refine after_induction (P := fun c => c.OwnsOnly l) ?_ ?_ ?_ ?_ commands
  · have size : initial.libraries.size = 2 := by decide +kernel
    intro t owned
    exact absurd (registry_initial.owner owned) (by rw [size]; exact Nat.not_lt.2 added)
  · intro c registry _ only name readOnly docs
    exact ownsOnly_addLibrary registry name readOnly docs fun _ => only
  · intro c registry _ only k
    exact only.removeLibrary registry k
  · intro c k readable only source
    have other : l ≠ hidden := by
      rintro rfl
      exact absurd added (by decide)
    obtain ⟨h, reading, -⟩ := ingest_reading readable source
    exact reading.ownsOnly readable only other

/-- What tables have belongs to their types after every session. -/
theorem tables_after (commands : List Command) : (after commands).Tables := by
  -- adding and removing libraries leaves members and tables alone
  refine after_induction (P := Catalog.Tables) tables_initial ?_ ?_ ?_ commands
  · intro c _ _ tables name readOnly docs
    exact (sameContents_addLibrary c name readOnly docs).tables tables
  · intro c _ _ tables l
    exact (sameContents_removeLibrary c l).tables tables
  · intro c l readable tables source
    obtain ⟨h, reading, -⟩ := ingest_reading readable source
    exact (reading.grows readable).tables tables

/-- A library that is added to a sound catalog can be read for. -/
theorem readable_addLibrary (h : Registry c) (name : String) (readOnly : Bool)
    (docs : DocumentationProvider) :
    (c.addLibrary name readOnly docs).2.Readable (c.addLibrary name readOnly docs).1 where
  registry := h.addLibrary name readOnly docs
  two_le := h.two_le
  inside := by
    rw [libraries_size_addLibrary]
    exact Nat.lt_succ_self _

end Catalog

/-! ## The steps of a session

A history has the steps of all readings in turn, each with its events and with the catalog after it.
Adding and removing libraries is no step of a reading. -/

/-- The steps that a command takes in a catalog: those of the reading that it asks for. -/
def Command.Takes (c : Catalog) : Command → History → Prop
  | .ingest l source, h =>
    if c.WasAdded l then
      Reading l c h (c.ingest l source).catalog ∧ h.events = (c.ingest l source).events
    else h = []
  | _, h => h = []

/-- A history of a session. -/
inductive Course : List Command → History → Prop
  | start : Course [] []
  | command {commands : List Command} {h g : History} (course : Course commands h)
      (command : Command) (takes : command.Takes (after commands) g) :
      Course (commands ++ [command]) (h ++ g)

/-- Every command has steps. -/
theorem Command.takes (command : Command) {c : Catalog} (registry : Registry c) :
    ∃ h, command.Takes c h := by
  cases command with
  | addLibrary | removeLibrary => exact ⟨[], rfl⟩
  | ingest l source =>
    by_cases added : c.WasAdded l
    · obtain ⟨h, reading, events⟩ := ingest_reading (registry.readable added) source
      exact ⟨h, by rw [Takes, if_pos added]; exact ⟨reading, events⟩⟩
    · exact ⟨[], by rw [Takes, if_neg added]⟩

/-- Every session has a history. -/
theorem exists_course (commands : List Command) : ∃ h, Course commands h := by
  induction commands using List.reverseRecOn with
  | nil => exact ⟨[], .start⟩
  | append_singleton commands command ih =>
    obtain ⟨h, course⟩ := ih
    obtain ⟨g, takes⟩ := command.takes (registry_after commands)
    exact ⟨h ++ g, course.command command takes⟩

end IdlCatalog
