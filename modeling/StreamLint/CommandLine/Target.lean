import StreamLint.CommandLine.FileTree
/-!
# Finding the files to check

A path on the command line is a file, which has to have a known extension, or a directory, in which
all files with known extensions are taken. Below a directory hidden entries are left out and so are
installed packages; the directory itself may be either. The files are put in the order of their
paths, and of files with one path the first is kept.

A directory is searched with a stack of the directories in it that have still to be gone through
(`StreamLint.Search`).
-/

namespace StreamLint

/-- A file to be checked. -/
structure Target where
  /-- The path as it was given or found. -/
  path : String
  /-- The dialect by the extension. -/
  dialect : Dialect
  /-- The file. -/
  file : StoredFile
  deriving Repr, Inhabited

/-- Why the files to check cannot be found. -/
inductive TargetError where
  /-- There is nothing at a path. -/
  | unreadable (path : String) (why : AccessError)
  /-- A file has no known extension. -/
  | unsupported (path : String) (why : DialectError)
  deriving DecidableEq, Repr

/-- What is wrong, for people. -/
def TargetError.message : TargetError → String
  | unreadable path why => s!"failed to read {path}: {why.message}"
  | unsupported path why => s!"cannot check {path}: {why.message}"

namespace Target

/-- Whether an entry of a directory is left out. -/
def isLeftOut (name : String) : Bool :=
  name.startsWith "." || name == "node_modules"

end Target

/-- A search through directories. -/
structure Search where
  /-- The directories still to be gone through, each with its entries; the one met last comes
  first. -/
  pending : List (String × List (String × FileTree)) := []
  /-- The files found so far. -/
  found : List Target := []

namespace Search

/-- An entry of a directory is met: a directory has to wait, and a file with a known extension is
found. -/
def visit (directory : String) (search : Search) (entry : String × FileTree) : Search :=
  if Target.isLeftOut entry.1 then search
  else
    let path := Path.join directory entry.1
    match entry.2 with
    | .directory entries => { search with pending := (path, entries) :: search.pending }
    | .file file =>
      match Dialect.detect path with
      | .ok dialect => { search with found := search.found ++ [⟨path, dialect, file⟩] }
      | .error _ => search

/-- A directory is gone through, entry by entry. -/
def explore (search : Search) (directory : String) (entries : List (String × FileTree)) : Search :=
  entries.foldl (visit directory) search

/-- The size of the directories that wait. -/
noncomputable def sizeOfPending : List (String × List (String × FileTree)) → Nat
  | [] => 0
  | (_, entries) :: pending => sizeOf entries + sizeOfPending pending

/-- An entry adds no more than itself to the directories that wait. -/
theorem sizeOfPending_visit_le (directory : String) (search : Search) (entry : String × FileTree) :
    sizeOfPending (search.visit directory entry).pending ≤
      sizeOfPending search.pending + sizeOf entry := by
  obtain ⟨name, tree⟩ := entry
  rw [visit]
  split
  · omega
  · cases tree with
    | directory entries =>
      simp only [sizeOfPending, Prod.mk.sizeOf_spec, FileTree.directory.sizeOf_spec]
      omega
    | file file =>
      dsimp only
      split <;> exact Nat.le_add_right ..

/-- A directory that is gone through adds less than its entries. -/
theorem sizeOfPending_explore_lt (search : Search) (directory : String)
    (entries : List (String × FileTree)) :
    sizeOfPending (search.explore directory entries).pending <
      sizeOfPending search.pending + sizeOf entries := by
  rw [explore]
  induction entries generalizing search with
  | nil =>
    rw [List.foldl_nil, List.nil.sizeOf_spec]
    omega
  | cons entry entries ih =>
    have hentry := sizeOfPending_visit_le directory search entry
    have hentries := ih (search.visit directory entry)
    rw [List.foldl_cons, List.cons.sizeOf_spec]
    omega

/-- The search goes on until no directory is left; the one met last is gone through next. -/
def run : Search → List Target
  | ⟨[], found⟩ => found
  | ⟨(directory, entries) :: pending, found⟩ =>
    run (explore ⟨pending, found⟩ directory entries)
  termination_by search => sizeOfPending search.pending
  decreasing_by
    have hlt := sizeOfPending_explore_lt ⟨pending, found⟩ directory entries
    simp only [sizeOfPending] at hlt ⊢
    omega

end Search

namespace Target

/-- The files to be checked at a path of the command line. -/
def atPath (files : FileSystem) (path : String) : Except TargetError (List Target) :=
  match files.find path with
  | .error why => .error (.unreadable path why)
  | .ok (.directory entries) => .ok (Search.run { pending := [(path, entries)] })
  | .ok (.file file) =>
    match Dialect.detect path with
    | .ok dialect => .ok [⟨path, dialect, file⟩]
    | .error why => .error (.unsupported path why)

/-- The files to be checked at several paths, one path after the other. -/
def atPaths (files : FileSystem) : List String → Except TargetError (List Target)
  | [] => .ok []
  | path :: rest => do
    let first ← atPath files path
    let others ← atPaths files rest
    return first ++ others

/-- Files in the order of their paths, each path once. -/
def ordered (targets : List Target) : List Target :=
  (targets.mergeSort fun a b => Path.compare a.path b.path != .gt).eraseRepsBy
    fun a b => Path.compare a.path b.path == .eq

/-- The files to be checked. -/
def ofPaths (files : FileSystem) (paths : List String) : Except TargetError (List Target) :=
  (atPaths files paths).map ordered

end Target

end StreamLint
