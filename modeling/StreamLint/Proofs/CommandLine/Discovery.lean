import StreamLint.CommandLine.Target
import StreamLint.Proofs.CommandLine.Places
import StreamLint.Proofs.Repetitions
/-!
# The files that are checked

What is to be checked at the paths of the command line is a matter of the files alone
(`StreamLint.Target.IsWanted`): the files that are named themselves, and those with known extensions
that lie below the directories that are named, where nothing on the way is hidden or an installed
package. Below a directory the search has found some of them at any time, and the others lie in the
directories that wait; a directory that is gone through takes nothing from both together and adds
nothing to them, so that in the end all is found that lies there (`StreamLint.Search.mem_run_iff`).

What is found is put in the order of the paths, and of the files with one path the first is kept.
Nothing is lost by that, for files with one path are one file
(`StreamLint.Target.IsWanted.located_eq`), although the path may be spelled in different ways.

So the outcome is a list in increasing order of all that is wanted (`StreamLint.Target.IsFound`), and
it is the same for any other order of the entries and for any list of the same paths
(`StreamLint.Target.ofPaths_determined`).
-/

namespace StreamLint

open FileTree (At)

namespace Target

/-! ### What is wanted -/

/-- Hidden entries and installed packages are passed over. -/
def IsPassedOver (name : String) : Prop :=
  name.toList.head? = some '.' ∨ name = "node_modules"

instance (name : String) : Decidable (IsPassedOver name) :=
  inferInstanceAs (Decidable (_ ∨ _))

/-- **A file of a tree at a path:** no name on the way to it is passed over, and its extension is
known. -/
def LiesIn (path : String) (tree : FileTree) (target : Target) : Prop :=
  ∃ names, At tree names (.file target.file) ∧ (∀ name ∈ names, ¬IsPassedOver name) ∧
    target.path = names.foldl Path.join path ∧ target.dialect.IsOf target.path

/-- **What is to be checked at a path** of the command line. -/
inductive IsWantedAt (files : FileSystem) (path : String) (target : Target) : Prop
  /-- A file that is named itself. -/
  | named (hpath : target.path = path) (hfind : files.find path = .ok (.file target.file))
      (hdialect : target.dialect.IsOf path)
  /-- A file below a directory that is named; the directory itself may be hidden. -/
  | below {entries : List (String × FileTree)} (hfind : files.find path = .ok (.directory entries))
      (hin : LiesIn path (.directory entries) target)

/-- What is to be checked at several paths. -/
def IsWanted (files : FileSystem) (paths : List String) (target : Target) : Prop :=
  ∃ path ∈ paths, IsWantedAt files path target

/-- **A path that cannot be checked.** -/
inductive IsUnusable (files : FileSystem) (path : String) : Prop
  /-- It leads nowhere. -/
  | missing {why : AccessError} (hfind : files.find path = .error why)
  /-- It leads to a file whose extension is not known. -/
  | unsupported {file : StoredFile} (hfind : files.find path = .ok (.file file))
      (hdialect : ∀ dialect : Dialect, ¬dialect.IsOf path)

/-- A file to be checked, whatever the spelling of its path. -/
def located (target : Target) : List Path.Component × Dialect × StoredFile :=
  (Path.components target.path, target.dialect, target.file)

/-- **All that is to be checked, in increasing order of the paths.** Of the spellings of a path one
is there. -/
structure IsFound (files : FileSystem) (paths : List String) (targets : List Target) : Prop where
  /-- No path is there twice. -/
  increasing : targets.Pairwise fun a b => Path.compare a.path b.path = .lt
  /-- Nothing else is there. -/
  wanted : ∀ target ∈ targets, IsWanted files paths target
  /-- Nothing is missing. -/
  complete : ∀ target, IsWanted files paths target → ∃ found ∈ targets, found.located = target.located

variable {files files' : FileSystem} {path : String} {paths paths' : List String} {target : Target}

theorem isLeftOut_iff {name : String} : isLeftOut name = true ↔ IsPassedOver name := by
  rw [isLeftOut, Bool.or_eq_true, String.startsWith_string_iff, beq_iff_eq, IsPassedOver]
  exact or_congr_left List.singleton_prefix_iff_head?_eq_some

/-! ### The search -/

/-- A file lies in a directory if it lies in an entry that is not passed over. -/
theorem liesIn_directory_iff {entries : List (String × FileTree)} :
    LiesIn path (.directory entries) target ↔ ∃ entry ∈ entries, ¬IsPassedOver entry.1 ∧
      LiesIn (Path.join path entry.1) entry.2 target := by
  constructor
  · rintro ⟨_, _ | @⟨_, name, tree, names, _, hentry, hat⟩, hnames, hpath, hdialect⟩
    rw [List.forall_mem_cons] at hnames
    exact ⟨(name, tree), hentry, hnames.1, names, hat, hnames.2, hpath, hdialect⟩
  · rintro ⟨⟨name, tree⟩, hentry, hname, names, hat, hnames, hpath, hdialect⟩
    exact ⟨name :: names, .inside hentry hat, List.forall_mem_cons.mpr ⟨hname, hnames⟩, hpath,
      hdialect⟩

/-- A file lies in itself. -/
theorem liesIn_file_iff {file : StoredFile} : LiesIn path (.file file) target ↔
    target.file = file ∧ target.path = path ∧ target.dialect.IsOf path := by
  constructor
  · rintro ⟨names, hat, -, hpath, hdialect⟩
    generalize hfile : FileTree.file target.file = found at hat
    cases hat with
    | here =>
      obtain rfl : target.path = path := hpath
      exact ⟨FileTree.file.inj hfile, rfl, hdialect⟩
  · rintro ⟨rfl, rfl, hdialect⟩
    exact ⟨[], .here _, by simp, rfl, hdialect⟩

theorem mem_of_detect {file : StoredFile} :
    target ∈ (match Dialect.detect path with
      | .ok dialect => [⟨path, dialect, file⟩]
      | .error _ => [] : List Target) ↔
    target.file = file ∧ target.path = path ∧ target.dialect.IsOf path := by
  rw [← Dialect.detect_eq_ok_iff]
  obtain ⟨path', dialect', file'⟩ := target
  cases Dialect.detect path <;> simp [and_comm, and_assoc, eq_comm]

end Target

namespace Search

open Target (LiesIn IsPassedOver)

variable {directory : String} {entries : List (String × FileTree)} {search : Search}
  {target : Target}

/-- **What a search comes to:** what it has found, and what lies in the directories that wait. -/
def Reaches (search : Search) (target : Target) : Prop :=
  target ∈ search.found ∨
    ∃ waiting ∈ search.pending, LiesIn waiting.1 (.directory waiting.2) target

/-- An entry that is met adds what lies in it, whether it is found at once or has to wait. -/
theorem reaches_visit_iff {entry : String × FileTree} :
    (search.visit directory entry).Reaches target ↔ search.Reaches target ∨
      ¬IsPassedOver entry.1 ∧ LiesIn (Path.join directory entry.1) entry.2 target := by
  obtain ⟨name, tree⟩ := entry
  rw [visit, ← Target.isLeftOut_iff]
  split
  case isTrue hname => simp [hname]
  case isFalse hname =>
    rw [and_iff_right hname]
    cases tree with
    | directory entries =>
      simp only [Reaches, List.mem_cons, exists_eq_or_imp]
      rw [or_comm (a := LiesIn _ _ _), or_assoc]
    | file file =>
      rw [Target.liesIn_file_iff, ← Target.mem_of_detect]
      dsimp only
      cases Dialect.detect (Path.join directory name) with
      | ok dialect =>
        simp only [Reaches, List.mem_append]
        rw [or_right_comm]
      | error why => simp

/-- **A directory that is gone through** adds what lies in it. -/
theorem reaches_explore_iff : (search.explore directory entries).Reaches target ↔
    search.Reaches target ∨ LiesIn directory (.directory entries) target := by
  rw [explore, Target.liesIn_directory_iff]
  induction entries generalizing search with
  | nil => simp
  | cons entry entries ih =>
    rw [List.foldl_cons, ih, reaches_visit_iff, or_assoc]
    simp only [List.mem_cons, exists_eq_or_imp]

/-- **The search finds what it comes to**: no turn adds to that or takes from it. -/
theorem mem_run_iff (search : Search) : target ∈ search.run ↔ search.Reaches target := by
  fun_induction run search with
  | case1 found => simp [Reaches]
  | case2 directory entries pending found ih =>
    rw [ih, reaches_explore_iff]
    simp only [Reaches, List.mem_cons, exists_eq_or_imp]
    rw [or_assoc, or_comm (b := LiesIn _ _ _)]

/-- **The files found below a directory** are those that lie there. -/
theorem mem_run_directory_iff : target ∈ run { pending := [(directory, entries)] } ↔
    LiesIn directory (.directory entries) target := by
  simp [mem_run_iff, Reaches]

end Search

namespace Target

variable {files files' : FileSystem} {path : String} {paths paths' : List String} {target : Target}

/-- A path that can be checked gives what is wanted there. -/
theorem mem_of_atPath {targets : List Target} (h : atPath files path = .ok targets) :
    target ∈ targets ↔ IsWantedAt files path target := by
  unfold atPath at h
  rcases hfind : files.find path with why | ⟨file⟩ | ⟨entries⟩ <;> rw [hfind] at h
  · exact absurd h nofun
  · have htargets : targets = (match Dialect.detect path with
        | .ok dialect => [⟨path, dialect, file⟩]
        | .error _ => [] : List Target) := by
      cases hdetect : Dialect.detect path <;> simp_all
    rw [htargets, mem_of_detect]
    constructor
    · rintro ⟨rfl, hpath, hdialect⟩
      exact .named hpath hfind hdialect
    · rintro (⟨hpath, hfile, hdialect⟩ | ⟨hfile, -⟩)
      · rw [hfind, Except.ok.injEq, FileTree.file.injEq] at hfile
        exact ⟨hfile.symm, hpath, hdialect⟩
      · exact absurd (hfind.symm.trans hfile) (by simp)
  · obtain rfl := Except.ok.inj h
    rw [Search.mem_run_directory_iff]
    constructor
    · exact .below hfind
    · rintro (⟨-, hfile, -⟩ | ⟨hentries, hin⟩)
      · exact absurd (hfind.symm.trans hfile) (by simp)
      · rw [hfind, Except.ok.injEq, FileTree.directory.injEq] at hentries
        exact hentries ▸ hin

/-- A path gives nothing if it cannot be checked, and only then. -/
theorem exists_atPath_eq_error_iff :
    (∃ why, atPath files path = .error why) ↔ IsUnusable files path := by
  unfold atPath
  rcases hfind : files.find path with why | ⟨file⟩ | ⟨entries⟩
  · simpa using IsUnusable.missing hfind
  · cases hdetect : Dialect.detect path with
    | ok dialect =>
      have hdialect := Dialect.detect_eq_ok_iff.mp hdetect
      refine iff_of_false (by simp) ?_
      rintro (⟨hmissing⟩ | ⟨-, hnone⟩)
      · exact absurd (hfind.symm.trans hmissing) nofun
      · exact hnone dialect hdialect
    | error why =>
      refine iff_of_true (by simp) (.unsupported hfind fun dialect hdialect => ?_)
      exact absurd (hdetect.symm.trans (Dialect.detect_eq_ok_iff.mpr hdialect)) nofun
  · refine iff_of_false (by simp) ?_
    rintro (⟨hmissing⟩ | ⟨hfile, -⟩)
    · exact absurd (hfind.symm.trans hmissing) nofun
    · exact absurd (hfind.symm.trans hfile) (by simp)

/-- Several paths give what each of them gives. -/
theorem mem_of_atPaths {targets : List Target} (h : atPaths files paths = .ok targets) :
    target ∈ targets ↔ IsWanted files paths target := by
  induction paths generalizing targets with
  | nil =>
    obtain rfl := Except.ok.inj h
    simp [IsWanted]
  | cons path paths ih =>
    cases hfirst : atPath files path with
    | error why => simp [atPaths, hfirst, bind, Except.bind] at h
    | ok first =>
      cases hothers : atPaths files paths with
      | error why => simp [atPaths, hfirst, hothers, bind, Except.bind] at h
      | ok others =>
        obtain rfl : first ++ others = targets := by
          simpa [atPaths, hfirst, hothers, bind, Except.bind, pure, Except.pure] using h
        rw [List.mem_append, mem_of_atPath hfirst, ih hothers]
        simp only [IsWanted, List.mem_cons, exists_eq_or_imp]

theorem exists_atPaths_eq_error_iff :
    (∃ why, atPaths files paths = .error why) ↔ ∃ path ∈ paths, IsUnusable files path := by
  induction paths with
  | nil => simp [atPaths]
  | cons path paths ih =>
    simp only [List.mem_cons, exists_eq_or_imp]
    rw [← ih, ← exists_atPath_eq_error_iff]
    cases hfirst : atPath files path with
    | error why => simp [atPaths, hfirst, bind, Except.bind]
    | ok first =>
      cases hothers : atPaths files paths <;>
        simp [atPaths, hfirst, hothers, bind, Except.bind, pure, Except.pure]

/-! ### One path, one file -/

/-- What is wanted lies where its path says. -/
theorem IsWanted.find_path (h : IsWanted files paths target) (hproper : files.IsProper) :
    files.find target.path = .ok (.file target.file) := by
  obtain ⟨path, -, ⟨rfl, hfind, -⟩ | ⟨hfind, names, hat, -, hpath, -⟩⟩ := h
  · exact hfind
  · rw [hpath]
    exact FileSystem.find_foldl_join hfind (hproper.of_find hfind) hat

theorem IsWanted.isOf (h : IsWanted files paths target) : target.dialect.IsOf target.path := by
  obtain ⟨path, -, ⟨rfl, -, hdialect⟩ | ⟨-, names, -, -, -, hdialect⟩⟩ := h <;> exact hdialect

/-- **Files with one path are one file**, whatever the spelling of the path. -/
theorem IsWanted.located_eq {target' : Target} (h : IsWanted files paths target)
    (h' : IsWanted files paths target') (hproper : files.IsProper)
    (hpath : Path.compare target.path target'.path = .eq) : target.located = target'.located := by
  have hcomponents := Path.compare_eq_iff.mp hpath
  have hfile := FileSystem.eq_of_components_eq (h.find_path hproper) (h'.find_path hproper)
    hcomponents
  have hdialect := ((Dialect.isOf_congr hcomponents).mp h.isOf).unique h'.isOf
  simp only [located, Prod.mk.injEq]
  exact ⟨hcomponents, hdialect, FileTree.file.inj hfile⟩

/-! ### Putting in order -/

instance : Std.TransCmp fun a b : Target => Path.compare a.path b.path where
  eq_swap {_ _} := @Std.OrientedCmp.eq_swap _ Path.compare _ _ _
  isLE_trans {_ _ _} := @Std.TransCmp.isLE_trans _ Path.compare _ _ _ _

/-- What is found is put in order, and nothing is lost. -/
theorem isFound_ordered {targets : List Target} (hproper : files.IsProper)
    (h : ∀ target, target ∈ targets ↔ IsWanted files paths target) :
    IsFound files paths (ordered targets) where
  increasing := pairwise_lt_eraseRepsBy_mergeSort
    (fun a b : Target => Path.compare a.path b.path) targets
  wanted target htarget := (h target).mp (List.mem_mergeSort.mp (mem_of_mem_eraseRepsBy htarget))
  complete target hwanted := by
    obtain ⟨found, hfound, hsame⟩ := exists_mem_eraseRepsBy
      (fun a b : Target => Path.compare a.path b.path)
      (List.mem_mergeSort.mpr ((h target).mpr hwanted))
    have hfound' := (h found).mp (List.mem_mergeSort.mp (mem_of_mem_eraseRepsBy hfound))
    exact ⟨found, hfound, hfound'.located_eq hwanted hproper hsame⟩

/-- Lists in increasing order with the same elements are equal. -/
theorem eq_of_increasing {l l' : List (List Path.Component × Dialect × StoredFile)}
    (hl : l.Pairwise fun a b => Path.compareComponents a.1 b.1 = .lt)
    (hl' : l'.Pairwise fun a b => Path.compareComponents a.1 b.1 = .lt)
    (h : ∀ a, a ∈ l ↔ a ∈ l') : l = l' := by
  have hne : ∀ {a b : List Path.Component × Dialect × StoredFile},
      Path.compareComponents a.1 b.1 = .lt → a ≠ b := by
    rintro a _ hlt rfl
    rw [@Std.ReflCmp.compare_self _ Path.compareComponents] at hlt
    exact absurd hlt nofun
  have hperm := (List.perm_ext_iff_of_nodup (hl.imp hne) (hl'.imp hne)).mpr h
  refine hperm.eq_of_pairwise (fun a b _ _ hlt hlt' => ?_) hl hl'
  rw [@Std.OrientedCmp.eq_swap _ Path.compareComponents, hlt] at hlt'
  exact absurd hlt' nofun

theorem IsFound.mem_map_located_iff {targets : List Target} (h : IsFound files paths targets)
    {place : List Path.Component × Dialect × StoredFile} :
    place ∈ targets.map located ↔ ∃ target, IsWanted files paths target ∧ target.located = place := by
  rw [List.mem_map]
  constructor
  · rintro ⟨target, htarget, hplace⟩
    exact ⟨target, h.wanted target htarget, hplace⟩
  · rintro ⟨target, hwanted, rfl⟩
    exact h.complete target hwanted

/-- **What is found is determined by what is wanted**, up to the spelling of the paths. -/
theorem IsFound.map_located_eq {targets targets' : List Target} (h : IsFound files paths targets)
    (h' : IsFound files' paths' targets')
    (hsame : ∀ target, IsWanted files paths target ↔ IsWanted files' paths' target) :
    targets.map located = targets'.map located := by
  refine eq_of_increasing (List.pairwise_map.mpr h.increasing) (List.pairwise_map.mpr h'.increasing)
    fun place => ?_
  simp only [h.mem_map_located_iff, h'.mem_map_located_iff, hsame]

/-! ### Listing in another order -/

theorem LiesIn.of_relisted {tree tree' : FileTree} (h : LiesIn path tree target)
    (hrelisted : tree.Relisted tree') : LiesIn path tree' target := by
  obtain ⟨names, hat, hrest⟩ := h
  exact ⟨names, hrelisted.at_file hat, hrest⟩

theorem IsWantedAt.of_relisted (h : IsWantedAt files path target) (hproper : files.IsProper)
    (hrelisted : files.Relisted files') : IsWantedAt files' path target := by
  rcases h with ⟨hpath, hfind, hdialect⟩ | ⟨hfind, hin⟩
  · obtain ⟨tree', hfind', htree⟩ := hrelisted.exists_find hproper hfind
    exact .named hpath (htree.eq_file ▸ hfind') hdialect
  · obtain ⟨tree', hfind', htree⟩ := hrelisted.exists_find hproper hfind
    obtain ⟨entries', rfl⟩ := htree.eq_directory
    exact .below hfind' (hin.of_relisted htree)

theorem IsUnusable.of_relisted (h : IsUnusable files path) (hproper : files.IsProper)
    (hrelisted : files.Relisted files') : IsUnusable files' path := by
  rcases h with ⟨hfind⟩ | ⟨hfind, hdialect⟩
  · rcases hfind' : files'.find path with why' | tree'
    · exact .missing hfind'
    · obtain ⟨tree, hfound, -⟩ := hrelisted.symm.exists_find (hrelisted.isProper hproper) hfind'
      exact absurd (hfind.symm.trans hfound) nofun
  · obtain ⟨tree', hfind', htree⟩ := hrelisted.exists_find hproper hfind
    exact .unsupported (htree.eq_file ▸ hfind') hdialect

/-- **The files to be checked are determined by the files and the paths.** The search fails just if
one of the paths cannot be checked. Otherwise it finds all that is wanted, in increasing order; and
neither the order in which directories list their entries nor the order of the paths, nor how often
one is given, changes that. -/
theorem ofPaths_determined (hproper : files.IsProper) (paths : List String) :
    ((∃ why, ofPaths files paths = .error why) ↔ ∃ path ∈ paths, IsUnusable files path) ∧
    (∀ targets, ofPaths files paths = .ok targets → IsFound files paths targets) ∧
    ∀ files' paths', files.Relisted files' → (∀ path, path ∈ paths' ↔ path ∈ paths) →
      (ofPaths files' paths').toOption.map (·.map located) =
        (ofPaths files paths).toOption.map (·.map located) := by
  have hfails : ∀ {files : FileSystem} {paths : List String},
      (∃ why, ofPaths files paths = .error why) ↔ ∃ path ∈ paths, IsUnusable files path := by
    intro files paths
    rw [← exists_atPaths_eq_error_iff, ofPaths]
    cases atPaths files paths <;> simp [Except.map]
  have hfound : ∀ {files : FileSystem} {paths : List String} {targets : List Target},
      files.IsProper → ofPaths files paths = .ok targets → IsFound files paths targets := by
    intro files paths targets hproper h
    rw [ofPaths] at h
    cases hall : atPaths files paths with
    | error why => simp [hall, Except.map] at h
    | ok all =>
      obtain rfl : ordered all = targets := by simpa [hall, Except.map] using h
      exact isFound_ordered hproper fun target => mem_of_atPaths hall
  refine ⟨hfails, fun targets => hfound hproper, fun files' paths' hrelisted hpaths => ?_⟩
  have hproper' := hrelisted.isProper hproper
  have hunusable : (∃ path ∈ paths, IsUnusable files path) ↔
      ∃ path ∈ paths', IsUnusable files' path := by
    simp only [hpaths]
    exact exists_congr fun path => and_congr_right' ⟨fun h => h.of_relisted hproper hrelisted,
      fun h => h.of_relisted hproper' hrelisted.symm⟩
  have hwanted : ∀ target, IsWanted files paths target ↔ IsWanted files' paths' target := by
    intro target
    simp only [IsWanted, hpaths]
    exact exists_congr fun path => and_congr_right' ⟨fun h => h.of_relisted hproper hrelisted,
      fun h => h.of_relisted hproper' hrelisted.symm⟩
  rw [← hfails, ← hfails] at hunusable
  cases h : ofPaths files paths with
  | error why =>
    obtain ⟨why', h'⟩ := hunusable.mp ⟨why, h⟩
    rw [h']
    rfl
  | ok targets =>
    cases h' : ofPaths files' paths' with
    | error why' =>
      obtain ⟨why, hwhy⟩ := hunusable.mpr ⟨why', h'⟩
      exact absurd (h.symm.trans hwhy) nofun
    | ok targets' =>
      have heq := (hfound hproper h).map_located_eq (hfound hproper' h') hwanted
      exact congrArg some heq.symm

/-- A file below a directory is named itself as well, in another spelling; a hidden directory is
listed first in the second file system. -/
theorem ofPaths_overlapping :
    let file (text : String) : FileTree := .file { text := some text }
    let lib : FileTree := .directory [("a.ts", file "a")]
    let cache : FileTree := .directory [("c.ts", file "c")]
    let files : FileSystem := ⟨[], .directory
      [("src", .directory [("lib", lib), ("b.TSX", file "b"), (".cache", cache)])]⟩
    let files' : FileSystem := ⟨[], .directory
      [("src", .directory [(".cache", cache), ("lib", lib), ("b.TSX", file "b")])]⟩
    (files.IsProper ∧ files.Relisted files') ∧
    (ofPaths files ["src//lib/a.ts", "src"]).toOption.map (·.map Target.path) =
      some ["src/b.TSX", "src//lib/a.ts"] ∧
    (ofPaths files' ["src", "src//lib/a.ts", "src"]).toOption.map (·.map located) =
      (ofPaths files ["src//lib/a.ts", "src"]).toOption.map (·.map located) := by
  intro file lib cache files files'
  have hproper : files.IsProper := by
    refine ⟨?_, by simp [files]⟩
    simp [files, lib, cache, file, FileTree.isProper_directory_iff, FileTree.IsProper.file]
    decide
  have hrelisted : files.Relisted files' := by
    refine ⟨@FileTree.Relisted.inside [] [] _ _ _ (.reordered ?_), .nil⟩
    exact @List.perm_append_comm _ [("lib", lib), ("b.TSX", file "b")] [(".cache", cache)]
  have hkept : isLeftOut "lib" = false ∧ isLeftOut "a.ts" = false ∧ isLeftOut "b.TSX" = false ∧
      isLeftOut ".cache" = true := by
    simp only [← Bool.not_eq_true, isLeftOut_iff]
    decide
  have hfile : files.find "src//lib/a.ts" = .ok (file "a") := rfl
  have hdirectory : files.find "src" = .ok
      (.directory [("lib", lib), ("b.TSX", file "b"), (".cache", cache)]) := rfl
  let found : Target := ⟨"src/b.TSX", .tsx, { text := some "b" }⟩
  have hsrc : Search.explore {} "src" [("lib", lib), ("b.TSX", file "b"), (".cache", cache)] =
      ⟨[("src/lib", [("a.ts", file "a")])], [found]⟩ := by
    simp only [Search.explore, Search.visit, List.foldl_cons, List.foldl_nil, hkept, lib, cache,
      file]
    rfl
  have hlib : Search.explore ⟨[], [found]⟩ "src/lib" [("a.ts", file "a")] =
      ⟨[], [found, ⟨"src/lib/a.ts", .typeScript, { text := some "a" }⟩]⟩ := by
    simp only [Search.explore, Search.visit, List.foldl_cons, List.foldl_nil, hkept, file]
    rfl
  have hall : atPaths files ["src//lib/a.ts", "src"] = .ok
      [⟨"src//lib/a.ts", .typeScript, { text := some "a" }⟩,
        found, ⟨"src/lib/a.ts", .typeScript, { text := some "a" }⟩] := by
    simp only [atPaths, atPath, hfile, hdirectory, Search.run, hsrc, hlib]
    rfl
  have hsame : Path.compare "src//lib/a.ts" "src/lib/a.ts" = .eq := by decide
  have hgreater : Path.compare "src//lib/a.ts" "src/b.TSX" = .gt := by decide
  have hless : Path.compare "src/b.TSX" "src//lib/a.ts" = .lt ∧
      Path.compare "src/b.TSX" "src/lib/a.ts" = .lt := by decide
  refine ⟨⟨hproper, hrelisted⟩, ?_, ?_⟩
  · simp [ofPaths, hall, Except.map, Except.toOption, ordered, List.mergeSort, found, hsame,
      hgreater, hless, eraseRepsBy_cons_cons]
  exact (ofPaths_determined hproper _).2.2 files' _ hrelisted (by simp)

end Target

end StreamLint
