/-
# IdlCatalog.CommandLine.Arguments — what the command line asks for

There are two commands. `parse` takes paths and lists what they declare; `compare` takes two groups
of paths and lists what only the second one declares. Words that start with a hyphen are options,
except the hyphen alone, and except after `--`, which ends the options. Everything else that does
not fit is a usage error.

`--trace` asks for a log of the run. It is accepted once; a run keeps no log.
-/

namespace IdlCatalog

/-- What a command line asks for. -/
inductive Invocation
  /-- List what the files declare, one library for each file or one library with a given name. -/
  | parse (paths : List String) (library : Option String) (json : Bool)
  /-- List what the candidate files declare and the baseline files do not. -/
  | compare (baseline candidate : List String)
deriving DecidableEq, Repr

namespace Arguments

/-- Whether a word is an option: it starts with a hyphen and goes on. -/
def isOption (word : String) : Bool :=
  match word.toList with
  | '-' :: _ :: _ => true
  | _ => false

/-- The value that is attached to a word by an equals sign after `option`. -/
def attached? (option word : String) : Option String :=
  let stem := (option ++ "=").toList
  if stem.isPrefixOf word.toList then some (String.ofList (word.toList.drop stem.length))
  else none

/-- The word as a path. A path is never empty. -/
def path? (word : String) : Option String := if word.isEmpty then none else some word

/-- The words as paths. -/
def paths? (words : List String) : Option (List String) := words.mapM path?

/-! ## The first command -/

/-- What was read of the words after `parse`. -/
structure ParseWords where
  paths : List String
  library : Option String
  json : Bool
  trace : Bool
deriving DecidableEq, Repr

namespace ParseWords

/-- Sets the library, which may be set once. -/
def setLibrary (w : ParseWords) (name : String) : Option ParseWords :=
  if w.library.isSome then none else some { w with library := some name }

/-- Asks for structured output, which may be asked for once. -/
def setJson (w : ParseWords) : Option ParseWords :=
  if w.json then none else some { w with json := true }

/-- Asks for a log, which may be asked for once. -/
def setTrace (w : ParseWords) : Option ParseWords :=
  if w.trace then none else some { w with trace := true }

/-- Adds paths after those that are there. -/
def addPaths (w : ParseWords) (words : List String) : Option ParseWords := do
  return { w with paths := w.paths ++ (← paths? words) }

/-- Reads the words after `parse`. -/
def read (w : ParseWords) : List String → Option ParseWords
  | [] => some w
  | [word] => do
    if word = "--" then return w
    else if word = "--json" then w.setJson
    else if word = "--trace" then w.setTrace
    else if let some name := attached? "--library" word then w.setLibrary name
    else if isOption word then none
    else w.addPaths [word]
  | word :: value :: rest => do
    if word = "--" then w.addPaths (value :: rest)
    else if word = "--json" then (← w.setJson).read (value :: rest)
    else if word = "--trace" then (← w.setTrace).read (value :: rest)
    else if word = "--library" then
      if isOption value then none else (← w.setLibrary value).read rest
    else if let some name := attached? "--library" word then
      (← w.setLibrary name).read (value :: rest)
    else if isOption word then none
    else (← w.addPaths [word]).read (value :: rest)

end ParseWords

/-! ## The second command -/

/-- The two groups of paths of a comparison. -/
inductive Side
  | baseline
  | candidate
deriving DecidableEq, Repr

/-- What was read of the words after `compare`. -/
structure CompareWords where
  baseline : List String
  candidate : List String
  trace : Bool
deriving DecidableEq, Repr

/-- The option that starts a group. -/
def Side.option : Side → String
  | baseline => "--baseline"
  | candidate => "--candidate"

/-- The group that a word starts. -/
def Side.ofOption? (word : String) : Option Side :=
  [baseline, candidate].find? fun side => side.option = word

/-- The group for which a word brings one path, attached by an equals sign. -/
def Side.ofAttached? (word : String) : Option (Side × String) :=
  [baseline, candidate].findSome? fun side => (attached? side.option word).map (side, ·)

namespace CompareWords

/-- Adds a path to a group. -/
def add (w : CompareWords) (side : Side) (path : String) : CompareWords :=
  match side with
  | .baseline => { w with baseline := w.baseline ++ [path] }
  | .candidate => { w with candidate := w.candidate ++ [path] }

/-- Asks for a log, which may be asked for once. -/
def setTrace (w : CompareWords) : Option CompareWords :=
  if w.trace then none else some { w with trace := true }

/-- Reads the words after `compare`. `group` is the group to which a path belongs here, if it may
stand here, and `due` says that the group still lacks the path its option promised. -/
def read (w : CompareWords) (group : Option Side) (due : Bool) :
    List String → Option CompareWords
  | [] => if due then none else some w
  | word :: rest => do
    if isOption word then
      if due then none
      else if word = "--" then if rest.isEmpty then some w else none
      else if word = "--trace" then (← w.setTrace).read none false rest
      else if let some side := Side.ofOption? word then w.read (some side) true rest
      else if let some (side, value) := Side.ofAttached? word then
        (w.add side (← path? value)).read none false rest
      else none
    else
      match group with
      | some side => (w.add side (← path? word)).read group false rest
      | none => none

end CompareWords

end Arguments

open Arguments in
/-- What the words of a command line ask for; `none` is a usage error. -/
def Invocation.ofArguments? : List String → Option Invocation
  | "parse" :: words => do
    let w ← ParseWords.read ⟨[], none, false, false⟩ words
    if w.paths.isEmpty then none else return .parse w.paths w.library w.json
  | "compare" :: words => do
    let w ← CompareWords.read ⟨[], [], false⟩ none false words
    if w.baseline.isEmpty || w.candidate.isEmpty then none
    else return .compare w.baseline w.candidate
  | _ => none

end IdlCatalog
