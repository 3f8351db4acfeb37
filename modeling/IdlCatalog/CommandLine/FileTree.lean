/-
# IdlCatalog.CommandLine.FileTree — files held in memory

A tree of files is a working directory for a run that touches no disk. Paths are walked part by
part. Every part of a path asks for a directory, empty parts and points included, so a path that
ends in a slash never leads to a file.
-/
import IdlCatalog.CommandLine.Sources

namespace IdlCatalog

/-- A file, or a directory of named entries. -/
inductive FileTree
  | file (bytes : ByteArray)
  | directory (entries : List (String × FileTree))

namespace FileTree

/-- The directory without entries. -/
def empty : FileTree := directory []

/-- The entries of a directory; a file has none. -/
def entries : FileTree → List (String × FileTree)
  | file _ => []
  | directory entries => entries

/-- The entry of the given name. -/
def child? (tree : FileTree) (name : String) : Option FileTree :=
  (tree.entries.find? fun entry => entry.1 = name).map (·.2)

/-- The directory with an entry under the given name, in place of the one that was there. -/
def setChild (tree : FileTree) (name : String) (entry : FileTree) : FileTree :=
  directory ((tree.entries.filter fun e => e.1 ≠ name) ++ [(name, entry)])

/-- Puts a node at the end of a path of names. The directories on the way are made; a directory
that is there already keeps its entries. -/
def insert (tree : FileTree) (node : FileTree) : List String → FileTree
  | [] =>
    match tree, node with
    | directory present, directory [] => directory present
    | _, node => node
  | name :: rest => tree.setChild name (((tree.child? name).getD empty).insert node rest)

/-- Walks a path, part by part. `above` holds the directories that enclose the current node, the
closest first. -/
def walk (above : List FileTree) : FileTree → List (List Char) → Except ReadFault FileTree
  | node, [] => .ok node
  | file _, _ :: _ => .error .throughFile
  | node, part :: parts =>
    if part = [] || part = ['.'] then walk above node parts
    else if part = ['.', '.'] then
      match above with
      | [] => .error .missing
      | parent :: above => walk above parent parts
    else
      match node.child? (String.ofList part) with
      | none => .error .missing
      | some child => walk (node :: above) child parts

/-- The text of a node if it is a file. -/
def fileText? : FileTree → Option (Except ReadFault String)
  | file bytes => some (decodeText bytes)
  | directory _ => none

/-- What a path leads to from the root of the tree. A path from the root of the system leads
nowhere. -/
def look (tree : FileTree) (path : String) : Place :=
  if path.toList.head? = some '/' then .file (.error .missing) else
  match walk [] tree (pathParts path.toList) with
  | .error fault => .file (.error fault)
  | .ok (file bytes) => .file (decodeText bytes)
  | .ok (directory entries) =>
    .directory (entries.filterMap fun entry => entry.2.fileText?.map (entry.1, ·))

end FileTree

end IdlCatalog
