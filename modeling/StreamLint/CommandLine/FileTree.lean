import StreamLint.Concrete.Form
import StreamLint.Text.Path
/-!
# Trees of files

Files in directories, and what is found at a path. A path is followed name by name, from the working
directory or, if it begins with a slash, from the outermost one: an empty name and a dot stay where
they are, two dots go back, and any name but the last one has to belong to a directory.

* `StreamLint.FileTree` – a file, or a directory with all that is in it;
* `StreamLint.FileSystem` – a working directory with the directories around it.
-/

namespace StreamLint

/-- A file: its text, unless its bytes are none, and its concrete tree in pre-order. -/
structure StoredFile where
  /-- The text. -/
  text : Option String
  /-- The nodes of the concrete tree; none for files that are no programs. -/
  rows : List Concrete.Row := []
  deriving Repr, Inhabited

/-- A file or a directory. -/
inductive FileTree where
  /-- A file. -/
  | file (file : StoredFile)
  /-- A directory with named entries. -/
  | directory (entries : List (String × FileTree))
  deriving Repr, Inhabited

/-- Why there is nothing to be read at a path. -/
inductive AccessError where
  /-- There is no entry of that name. -/
  | missing
  /-- A name before the last one belongs to a file. -/
  | notDirectory
  /-- The last name belongs to a directory. -/
  | isDirectory
  /-- The bytes of the file are no text. -/
  | notText
  deriving DecidableEq, Repr, Inhabited

/-- What is wrong, as the system says it. -/
def AccessError.message : AccessError → String
  | missing => "No such file or directory (os error 2)"
  | notDirectory => "Not a directory (os error 20)"
  | isDirectory => "Is a directory (os error 21)"
  | notText => "stream did not contain valid UTF-8"

namespace FileTree

/-- The entry of a name is replaced by what becomes of it, or put at the end if there is none. -/
def setEntry (name : String) (change : Option FileTree → FileTree) :
    List (String × FileTree) → List (String × FileTree)
  | [] => [(name, change none)]
  | (n, tree) :: rest =>
    if n == name then (n, change (some tree)) :: rest else (n, tree) :: setEntry name change rest

/-- The tree with an entry put below names, each of which but the last one becomes a directory. -/
def place (entry : FileTree) : List String → FileTree → FileTree
  | [], _ => entry
  | name :: rest, tree =>
    let entries := match tree with
      | directory entries => entries
      | file _ => []
    directory (setEntry name (fun inner => place entry rest (inner.getD (directory []))) entries)

/-- The tree with an entry at a path. -/
def insert (tree : FileTree) (path : String) (entry : FileTree) : FileTree :=
  place entry ((Path.names path).filter fun name => name != "" && name != ".") tree

/-- What is found by following names from a place, given the directories around it, the nearest
first. Around the outermost directory there is nothing but itself. -/
def follow : List FileTree → FileTree → List String → Except AccessError FileTree
  | _, place, [] => .ok place
  | _, file _, _ :: _ => .error .notDirectory
  | outer, directory entries, name :: rest =>
    if name == "" || name == "." then follow outer (directory entries) rest
    else if name == ".." then
      match outer with
      | [] => follow [] (directory entries) rest
      | place :: outer => follow outer place rest
    else
      match entries.lookup name with
      | some place => follow (directory entries :: outer) place rest
      | none => .error .missing

end FileTree

/-- A working directory in its surroundings. -/
structure FileSystem where
  /-- The directories around the working directory, the nearest first. -/
  outer : List FileTree
  /-- The working directory. -/
  here : FileTree
  deriving Repr, Inhabited

namespace FileSystem

/-- A working directory with these files. All that is known of its surroundings is that it lies in
another directory. -/
def ofTree (tree : FileTree) : FileSystem where
  outer := [.directory []]
  here := tree

/-- The outermost directory. -/
def root (files : FileSystem) : FileTree :=
  files.outer.getLast?.getD files.here

/-- What is found at a path. The empty path is none. -/
def find (files : FileSystem) (path : String) : Except AccessError FileTree :=
  match Path.names path with
  | [""] => .error .missing
  | "" :: names => FileTree.follow [] files.root names
  | names => FileTree.follow files.outer files.here names

/-- The text of the file at a path. -/
def readText (files : FileSystem) (path : String) : Except AccessError String := do
  match ← files.find path with
  | .directory _ => throw .isDirectory
  | .file f =>
    match f.text with
    | some text => return text
    | none => throw .notText

end FileSystem

end StreamLint
