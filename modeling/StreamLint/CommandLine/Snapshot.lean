import StreamLint.CommandLine.FileTree
/-!
# Snapshots of the working directory

The program reads no directories. Whoever parses the files hands over the working directory as one
JSON object: under `files` a list of objects that each hold a `path` with one of

* `source` and `cst`, the text of a program and the nodes of its concrete tree;
* `text`, any other text;
* `bytes`, the bytes of a file that need not be a text;

and under `dirs` the paths of directories that hold nothing.
-/

namespace StreamLint

/-- The items under a key; none if there is no list. -/
def Json.itemsAt (value : Json) (key : String) : List Json :=
  match value.get? key with
  | some (.array items) => items
  | _ => []

/-- A string as a text. -/
def Json.text? : Json → Option String
  | .string text => some text
  | _ => none

/-- The text under a key. -/
def Json.textAt? (value : Json) (key : String) : Option String :=
  (value.get? key).bind Json.text?

/-- A whole number of 8 bits; a greater one is reduced, and what is no number is zero. -/
def Json.toByte : Json → UInt8
  | .number (.integer n) => n.toNat.toUInt8
  | _ => 0

/-- A file as a snapshot describes it. -/
def StoredFile.ofJson (entry : Json) : StoredFile :=
  match entry.textAt? "source", entry.textAt? "text" with
  | some source, _ => ⟨some source, Concrete.Row.listOfJson source ((entry.get? "cst").getD .null)⟩
  | none, some text => ⟨some text, []⟩
  | none, none => ⟨String.fromUTF8? ⟨((entry.itemsAt "bytes").map Json.toByte).toArray⟩, []⟩

namespace FileTree

/-- The tree with the file that a snapshot describes; an entry without a path is left out. -/
def insertFile (tree : FileTree) (entry : Json) : FileTree :=
  match entry.textAt? "path" with
  | some path => tree.insert path (.file (.ofJson entry))
  | none => tree

/-- The tree with a directory in which nothing is, unless it is there already. -/
def insertDirectory (tree : FileTree) (path : String) : FileTree :=
  match (FileSystem.ofTree tree).find path with
  | .ok _ => tree
  | .error _ => tree.insert path (.directory [])

/-- The working directory of a snapshot. -/
def ofSnapshot (snapshot : Json) : FileTree :=
  ((snapshot.itemsAt "dirs").filterMap Json.text?).foldl insertDirectory
    ((snapshot.itemsAt "files").foldl insertFile (.directory []))

end FileTree

end StreamLint
