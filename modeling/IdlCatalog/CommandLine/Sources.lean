/-
# IdlCatalog.CommandLine.Sources — the files that paths stand for

A path names a file, or a directory that stands for the description files directly inside it, in
the order of their names. A file that cannot be read as text is a source all the same: its fault is
reported where its text would be read.
-/

namespace IdlCatalog

/-! ## Sources -/

/-- Why a file has no text. -/
inductive ReadFault
  /-- There is no such file. -/
  | missing
  /-- The path goes through a file as if it were a directory. -/
  | throughFile
  /-- The bytes are no UTF-8. -/
  | notText
  /-- The system says so. -/
  | other (reason : String)
deriving DecidableEq, Repr

/-- The report of a fault. -/
def ReadFault.message : ReadFault → String
  | missing => "No such file or directory (os error 2)"
  | throughFile => "Not a directory (os error 20)"
  | notText => "stream did not contain valid UTF-8"
  | other reason => reason

/-- The text of the bytes of a file. -/
def decodeText (bytes : ByteArray) : Except ReadFault String :=
  match String.fromUTF8? bytes with
  | some text => .ok text
  | none => .error .notText

/-- A file by the path under which it is reported. -/
structure Source where
  path : String
  text : Except ReadFault String

/-! ## File names -/

/-- The parts of a text between slashes. -/
def pathParts : List Char → List (List Char)
  | [] => [[]]
  | c :: text =>
    if c = '/' then [] :: pathParts text
    else
      match pathParts text with
      | [] => [[c]]
      | part :: parts => (c :: part) :: parts

/-- A file name without its extension, and the extension: what follows the last point, unless the
name starts with that point. -/
def splitExtension (name : List Char) : List Char × Option (List Char) :=
  match name.reverse.dropWhile (· ≠ '.') with
  | [] | [_] => (name, none)
  | _ :: stem => (stem.reverse, some (name.reverse.takeWhile (· ≠ '.')).reverse)

/-- The name of the library for a file: the last part of its path, without extension. -/
def libraryNameFor (path : String) : String :=
  String.ofList (splitExtension ((pathParts path.toList).getLast?.getD [])).1

/-- Whether a directory stands for the file of this name among others. -/
def isDescriptionFile (name : String) : Bool :=
  (splitExtension name.toList).2 = some "idl".toList

/-- The path of an entry of a directory. -/
def joinPath (directory name : String) : String :=
  if directory.toList.getLast? = some '/' then directory ++ name else directory ++ "/" ++ name

/-! ## Places -/

/-- What a path leads to. A directory is known by the files directly inside it. -/
inductive Place
  | file (text : Except ReadFault String)
  | directory (files : List (String × Except ReadFault String))

/-- The sources that a path stands for. -/
def Place.sources (path : String) : Place → List Source
  | file text => [⟨path, text⟩]
  | directory files =>
    let found := files.filter fun file => isDescriptionFile file.1
    (found.mergeSort fun a b => a.1 ≤ b.1).map fun file => ⟨joinPath path file.1, file.2⟩

/-- The sources that paths stand for, in the order of the paths. -/
def sourcesOf (look : String → Place) (paths : List String) : List Source :=
  paths.flatMap fun path => (look path).sources path

end IdlCatalog
