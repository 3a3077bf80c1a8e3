import StreamLint.Text.Split
/-!
# Paths of files

A path is a text in which slashes separate names. Empty names and names that are a single dot say
nothing, except for a dot at the very front; two paths that differ in nothing else are equal, and
paths are ordered by their components, one after the other.

* `StreamLint.Path.components` – the components of a path;
* `StreamLint.Path.fileName?`, `StreamLint.Path.extension?` – the last name, and what follows its
  last dot;
* `StreamLint.Path.compare` – the order of paths.
-/

namespace StreamLint

namespace Path

/-- A component of a path. -/
inductive Component where
  /-- The slash at the front of an absolute path. -/
  | root
  /-- The dot at the front of a relative path. -/
  | current
  /-- Two dots. -/
  | parent
  /-- Any other name. -/
  | normal (name : String)
  deriving DecidableEq, Repr, Inhabited

/-- The component that a name stands for, if it stands for any. -/
def Component.ofName? (name : String) : Option Component :=
  if name == "" || name == "." then none
  else if name == ".." then some .parent
  else some (.normal name)

/-- The rank of the kind of a component. -/
def Component.rank : Component → Nat
  | root => 0
  | current => 1
  | parent => 2
  | normal _ => 3

/-- Components are ordered by kind, and names by their characters. -/
def Component.compare (a b : Component) : Ordering :=
  match a, b with
  | normal a, normal b => Ord.compare a b
  | a, b => Ord.compare a.rank b.rank

/-- The names between the slashes of a path. -/
def names (path : String) : List String :=
  (splitWhen (· == '/') path.toList).map String.ofList

/-- The components of a path. -/
def components (path : String) : List Component :=
  match names path with
  | [] => []
  | first :: rest =>
    let start : List Component :=
      if first == "" then (if rest.isEmpty then [] else [.root])
      else if first == "." then [.current]
      else (Component.ofName? first).toList
    start ++ rest.filterMap Component.ofName?

/-- The last name of a path, unless it ends in a root, a dot or two dots. -/
def fileName? (path : String) : Option String :=
  match (components path).getLast? with
  | some (.normal name) => some name
  | _ => none

/-- What follows the last dot of the last name, provided that something stands before that dot. -/
def extension? (path : String) : Option String := do
  let name ← fileName? path
  let after := (name.toList.reverse.takeWhile (· != '.')).reverse
  if after.length + 1 < name.toList.length then some (String.ofList after) else none

/-- Paths are ordered component by component; a path comes after its own front. -/
def compareComponents : List Component → List Component → Ordering
  | [], [] => .eq
  | [], _ :: _ => .lt
  | _ :: _, [] => .gt
  | a :: as, b :: bs => (a.compare b).then (compareComponents as bs)

/-- The order of paths. -/
def compare (a b : String) : Ordering :=
  compareComponents (components a) (components b)

/-- The path of `name` in the directory `directory`. -/
def join (directory name : String) : String :=
  if directory == "" then name
  else if directory.toList.getLast? == some '/' then directory ++ name
  else directory ++ "/" ++ name

end Path

end StreamLint
