/-
# Files

A file holds text, or bytes that are no text; a directory holds named entries. A path is followed
name by name, from the root if it starts with a slash and from the working directory otherwise. The
sources under a directory are its files with the extension of sources, at any depth, in the order in
which a walk meets them that visits the entries of each directory by name.
-/

namespace Scriptlet.Command

/-- A file or a directory. -/
inductive Entry
  /-- A file with its text, if its bytes are text. -/
  | file (text : Option String)
  | directory (entries : List (String × Entry))

/-- The names of a path. -/
def segments (path : String) : List String := (path.toList.splitOn '/').map String.ofList

namespace Entry

/-- Whether an entry is a file. -/
def isFile : Entry → Bool
  | file _ => true
  | directory _ => false

/-- The text of a file. -/
def text? : Entry → Option String
  | file text => text
  | directory _ => none

/-- The directories that are still entered after the innermost one has been left. The root, which
comes last, is never left. -/
def leave : List Entry → List Entry
  | [] => []
  | [root] => [root]
  | _ :: outer => outer

/-- Follows the names of a path. The innermost of the directories that have been entered comes
first. -/
def follow : List Entry → List String → Option Entry
  | entered, [] => entered.head?
  | directory entries :: outer, name :: rest =>
    if name = "" ∨ name = "." then follow (directory entries :: outer) rest
    else if name = ".." then follow (leave (directory entries :: outer)) rest
    else
      match entries.find? fun entry => entry.1 = name with
      | some entry => follow (entry.2 :: directory entries :: outer) rest
      | none => none
  | _, _ :: _ => none

/-- The entry to which the names of a path lead from a root. -/
def at? (root : Entry) (path : String) : Option Entry := follow [root] (segments path)

mutual

/-- The files of an entry, each with the names that lead to it. -/
def files (names : List String) : Entry → List (List String × Entry)
  | file text => [(names, file text)]
  | directory entries => filesAll names entries

/-- The files of all entries of a directory. -/
def filesAll (names : List String) : List (String × Entry) → List (List String × Entry)
  | [] => []
  | (name, entry) :: rest => files (names ++ [name]) entry ++ filesAll names rest

end

end Entry

/-- All files, and the directory in which a command is given. -/
structure FileSystem where
  root : Entry
  /-- A path from the root. -/
  working : String

namespace FileSystem

/-- A path as it is from the root. -/
def absolute (system : FileSystem) (path : String) : String :=
  if path.startsWith "/" then path else system.working ++ "/" ++ path

/-- The entry at a path. A blank path leads nowhere. -/
def at? (system : FileSystem) (path : String) : Option Entry :=
  if path = "" then none else system.root.at? (system.absolute path)

end FileSystem

/-- Whether a file of this name is a source. A name that is all extension has none. -/
def isSourceName (name : String) : Bool := name.endsWith ".jsl" && name != ".jsl"

/-- The path of what lies under another path. -/
def joinPath (path : String) (names : List String) : String :=
  (if path.endsWith "/" then path else path ++ "/") ++ "/".intercalate names

/-- Whether one path comes before another, name by name. -/
def comesBefore (first second : List String) : Bool :=
  first.lex second fun name other => decide (name < other)

/-- The sources at a path: the entry itself if it is a file, otherwise the source files beneath it,
in the order of their names. -/
def sourcesAt (path : String) (entry : Entry) : List (String × Entry) :=
  if entry.isFile then [(path, entry)]
  else
    let sources := (entry.files []).filter fun found =>
      (found.1.getLast?.map isSourceName).getD false
    (sources.mergeSort fun first second => !comesBefore second.1 first.1).map fun found =>
      (joinPath path found.1, found.2)

end Scriptlet.Command
