import Mathlib.Data.List.Forall2
import StreamLint.CommandLine.FileTree
import StreamLint.Proofs.Text.Paths
/-!
# Places in a tree of files

What lies in a directory is told by names, one below the other (`StreamLint.FileTree.At`), and what a
path leads to by its components: two paths with the same components that both lead somewhere lead to
the same place (`StreamLint.FileSystem.eq_of_components_eq`). The converse of the second half fails,
since a slash after the name of a file makes its path lead nowhere and is no component. Where a
directory is found, the names below it may be joined to its path
(`StreamLint.FileSystem.find_foldl_join`).

None of this depends on the order in which directories list their entries: in a file system that is
listed in another order (`StreamLint.FileSystem.Relisted`) a path leads to the same place, listed in
another order (`StreamLint.FileSystem.Relisted.exists_find`).
-/

namespace StreamLint

namespace FileTree

/-- **What lies in a tree, below names.** -/
inductive At : FileTree → List String → FileTree → Prop
  /-- The tree itself. -/
  | here (tree : FileTree) : At tree [] tree
  /-- What lies in an entry of a directory. -/
  | inside {entries : List (String × FileTree)} {name : String} {tree : FileTree}
      {names : List String} {place : FileTree} (hentry : (name, tree) ∈ entries)
      (hplace : At tree names place) : At (directory entries) (name :: names) place

/-- **A tree as there can be one:** the entries of a directory have different names, each of which
can be the name of an entry. -/
inductive IsProper : FileTree → Prop
  /-- A file. -/
  | file (file : StoredFile) : IsProper (.file file)
  /-- A directory. -/
  | directory {entries : List (String × FileTree)} (hnodup : (entries.map Prod.fst).Nodup)
      (hnames : ∀ entry ∈ entries, Path.IsEntryName entry.1)
      (htrees : ∀ entry ∈ entries, IsProper entry.2) : IsProper (.directory entries)

/-- **The same files, listed in another order**, in any of the directories. -/
inductive Relisted : FileTree → FileTree → Prop
  /-- Nothing is moved. -/
  | refl (tree : FileTree) : Relisted tree tree
  /-- A directory lists its entries in another order. -/
  | reordered {entries entries' : List (String × FileTree)} (h : entries.Perm entries') :
      Relisted (.directory entries) (.directory entries')
  /-- An entry of a directory is listed in another order. -/
  | inside {before after : List (String × FileTree)} {name : String} {tree tree' : FileTree}
      (h : Relisted tree tree') : Relisted (.directory (before ++ (name, tree) :: after))
        (.directory (before ++ (name, tree') :: after))
  /-- One after the other. -/
  | trans {a b c : FileTree} (h : Relisted a b) (h' : Relisted b c) : Relisted a c

/-! ### Entries -/

section Proper

variable {entries : List (String × FileTree)}

theorem IsProper.nodup (h : IsProper (.directory entries)) : (entries.map Prod.fst).Nodup := by
  cases h
  assumption

theorem IsProper.isEntryName (h : IsProper (.directory entries)) {entry : String × FileTree}
    (hentry : entry ∈ entries) : Path.IsEntryName entry.1 := by
  obtain _ | ⟨-, hnames, -⟩ := h
  exact hnames entry hentry

theorem IsProper.entry (h : IsProper (.directory entries)) {entry : String × FileTree}
    (hentry : entry ∈ entries) : IsProper entry.2 := by
  obtain _ | ⟨-, -, htrees⟩ := h
  exact htrees entry hentry

theorem isProper_directory_iff : IsProper (.directory entries) ↔
    (entries.map Prod.fst).Nodup ∧ ∀ entry ∈ entries, Path.IsEntryName entry.1 ∧ IsProper entry.2 :=
  ⟨fun h => ⟨h.nodup, fun _ hentry => ⟨h.isEntryName hentry, h.entry hentry⟩⟩,
    fun ⟨hnodup, h⟩ => .directory hnodup (fun _ hentry => (h _ hentry).1) fun _ hentry =>
      (h _ hentry).2⟩

end Proper

theorem lookup_eq_some_iff {entries : List (String × FileTree)} (h : (entries.map Prod.fst).Nodup)
    {name : String} {tree : FileTree} :
    entries.lookup name = some tree ↔ (name, tree) ∈ entries := by
  induction entries with
  | nil => simp
  | cons entry entries ih =>
    obtain ⟨first, sub⟩ := entry
    rw [List.map_cons, List.nodup_cons] at h
    rw [List.lookup_cons, List.mem_cons, Prod.mk.injEq]
    by_cases heq : name = first
    · subst heq
      have hrest : (name, tree) ∉ entries := fun hmem =>
        h.1 (List.mem_map.mpr ⟨_, hmem, rfl⟩)
      simp only [beq_self_eq_true, Option.some.injEq, true_and, hrest, or_false]
      exact eq_comm
    · simp only [beq_eq_false_iff_ne.mpr heq, heq, false_and, false_or]
      exact ih h.2

/-- What is listed in another order is as proper as before. -/
theorem Relisted.isProper {a b : FileTree} (h : Relisted a b) (ha : IsProper a) : IsProper b := by
  induction h with
  | refl => exact ha
  | reordered h =>
    cases ha with
    | directory hnodup hnames htrees =>
      exact .directory ((h.map Prod.fst).nodup_iff.mp hnodup)
        (fun entry hentry => hnames entry (h.mem_iff.mpr hentry))
        (fun entry hentry => htrees entry (h.mem_iff.mpr hentry))
  | @inside before after name tree tree' h ih =>
    cases ha with
    | directory hnodup hnames htrees =>
      simp only [List.forall_mem_append, List.forall_mem_cons] at hnames htrees
      refine .directory (by simpa using hnodup) ?_ ?_
      · simp only [List.forall_mem_append, List.forall_mem_cons]
        exact hnames
      · simp only [List.forall_mem_append, List.forall_mem_cons]
        exact ⟨htrees.1, ih htrees.2.1, htrees.2.2⟩
  | trans _ _ ih ih' => exact ih' (ih ha)

theorem Relisted.symm {a b : FileTree} (h : Relisted a b) : Relisted b a := by
  induction h with
  | refl => exact .refl _
  | reordered h => exact .reordered h.symm
  | inside _ ih => exact .inside ih
  | trans _ _ ih ih' => exact .trans ih' ih

theorem Relisted.eq_file {file : StoredFile} {b : FileTree} (h : Relisted (.file file) b) :
    b = .file file := by
  generalize ha : FileTree.file file = a at h
  induction h with
  | refl => rfl
  | reordered | inside => exact absurd ha (by simp)
  | trans _ _ ih ih' =>
    obtain rfl := ih ha
    exact ih' ha

theorem Relisted.eq_directory {entries : List (String × FileTree)} {b : FileTree}
    (h : Relisted (.directory entries) b) : ∃ entries', b = .directory entries' := by
  cases b with
  | file file => exact absurd h.symm.eq_file (by simp)
  | directory entries' => exact ⟨entries', rfl⟩

/-- An entry is still there, listed in another order. -/
theorem Relisted.exists_entry {a b : FileTree} (h : Relisted a b) :
    ∀ {entries entries' : List (String × FileTree)}, a = directory entries → b = directory entries' →
      ∀ {name tree}, (name, tree) ∈ entries → ∃ tree', (name, tree') ∈ entries' ∧ Relisted tree tree' := by
  induction h with
  | refl =>
    rintro entries entries' rfl heq name tree hentry
    obtain rfl := FileTree.directory.inj heq
    exact ⟨tree, hentry, .refl tree⟩
  | reordered h =>
    rintro entries entries' ⟨⟩ ⟨⟩ name tree hentry
    exact ⟨tree, h.mem_iff.mp hentry, .refl tree⟩
  | @inside before after first sub sub' h ih =>
    rintro entries entries' ⟨⟩ ⟨⟩ name tree hentry
    simp only [List.mem_append, List.mem_cons, Prod.mk.injEq] at hentry ⊢
    rcases hentry with hbefore | ⟨rfl, rfl⟩ | hafter
    · exact ⟨tree, .inl hbefore, .refl tree⟩
    · exact ⟨sub', .inr (.inl ⟨rfl, rfl⟩), h⟩
    · exact ⟨tree, .inr (.inr hafter), .refl tree⟩
  | trans h h' ih ih' =>
    rintro entries entries' rfl rfl name tree hentry
    obtain ⟨middle, rfl⟩ := h.eq_directory
    obtain ⟨tree', hentry', htree⟩ := ih rfl rfl hentry
    obtain ⟨tree'', hentry'', htree'⟩ := ih' rfl rfl hentry'
    exact ⟨tree'', hentry'', .trans htree htree'⟩

/-- **What lies in a tree still lies there when it is listed in another order.** -/
theorem Relisted.exists_at {a b place : FileTree} {names : List String} (h : Relisted a b)
    (hplace : At a names place) : ∃ place', At b names place' ∧ Relisted place place' := by
  induction hplace generalizing b with
  | here => exact ⟨b, .here b, h⟩
  | inside hentry _ ih =>
    obtain ⟨entries', rfl⟩ := h.eq_directory
    obtain ⟨tree', hentry', htree⟩ := h.exists_entry rfl rfl hentry
    obtain ⟨place', hplace', hrelisted⟩ := ih htree
    exact ⟨place', .inside hentry' hplace', hrelisted⟩

theorem Relisted.at_file {a b : FileTree} {names : List String} {file : StoredFile}
    (h : Relisted a b) (hfile : At a names (.file file)) : At b names (.file file) := by
  obtain ⟨place, hplace, hrelisted⟩ := h.exists_at hfile
  rwa [hrelisted.eq_file] at hplace

end FileTree

namespace FileSystem

open FileTree (At)

/-- **A name is followed:** what becomes of the working directory. It may become a file, from where
nothing can be followed. -/
inductive Step : FileSystem → String → FileSystem → Prop
  /-- An empty name and a dot say nothing. -/
  | stay {outer : List FileTree} {entries : List (String × FileTree)} {name : String}
      (hname : name = "" ∨ name = ".") :
      Step ⟨outer, .directory entries⟩ name ⟨outer, .directory entries⟩
  /-- Around the outermost directory there is nothing else. -/
  | top {entries : List (String × FileTree)} :
      Step ⟨[], .directory entries⟩ ".." ⟨[], .directory entries⟩
  /-- Two dots lead to the directory around. -/
  | back {outer : List FileTree} {tree : FileTree} {entries : List (String × FileTree)} :
      Step ⟨tree :: outer, .directory entries⟩ ".." ⟨outer, tree⟩
  /-- Any other name leads to an entry. -/
  | enter {outer : List FileTree} {entries : List (String × FileTree)} {name : String}
      {tree : FileTree} (hname : name ≠ "" ∧ name ≠ ".") (hdots : name ≠ "..")
      (hlookup : entries.lookup name = some tree) :
      Step ⟨outer, .directory entries⟩ name ⟨.directory entries :: outer, tree⟩

/-- **Names are followed**, one after the other. -/
inductive Steps : FileSystem → List String → FileSystem → Prop
  /-- There are no names. -/
  | nil (files : FileSystem) : Steps files [] files
  /-- The first name is followed, and then the others. -/
  | cons {files files' files'' : FileSystem} {name : String} {names : List String}
      (hstep : Step files name files') (hsteps : Steps files' names files'') :
      Steps files (name :: names) files''

/-- A file system as there can be one. -/
structure IsProper (files : FileSystem) : Prop where
  /-- The working directory. -/
  here : files.here.IsProper
  /-- The directories around it. -/
  outer : ∀ tree ∈ files.outer, tree.IsProper

/-- The same file system, listed in another order. -/
structure Relisted (files files' : FileSystem) : Prop where
  /-- The working directory. -/
  here : files.here.Relisted files'.here
  /-- The directories around it. -/
  outer : List.Forall₂ FileTree.Relisted files.outer files'.outer

variable {files files' place place' : FileSystem} {name : String} {names : List String}

theorem Relisted.symm (h : files.Relisted files') : files'.Relisted files where
  here := h.here.symm
  outer := h.outer.flip.imp fun _ _ => FileTree.Relisted.symm

theorem Relisted.isProper (h : files.Relisted files') (hproper : files.IsProper) :
    files'.IsProper where
  here := h.here.isProper hproper.here
  outer := by
    intro tree' htree'
    obtain ⟨i, hi, rfl⟩ := List.mem_iff_getElem.mp htree'
    have hlength := h.outer.length_eq
    exact (h.outer.get (by omega) hi).isProper (hproper.outer _ (List.getElem_mem (by omega)))

/-! ### A step -/

theorem Step.unique (h : Step files name place) (h' : Step files name place') : place = place' := by
  cases h <;> cases h' <;> simp_all

/-- What is found in a proper file system is proper. -/
theorem Step.isProper (h : Step files name place) (hproper : files.IsProper) : place.IsProper := by
  obtain ⟨hhere, houter⟩ := hproper
  cases h with
  | stay | top => exact ⟨hhere, houter⟩
  | back => exact ⟨houter _ List.mem_cons_self, (List.forall_mem_cons.mp houter).2⟩
  | enter _ _ hlookup =>
    have hentry := (FileTree.lookup_eq_some_iff hhere.nodup).mp hlookup
    exact ⟨hhere.entry hentry, List.forall_mem_cons.mpr ⟨hhere, houter⟩⟩

/-- **A name leads to the same place when all is listed in another order.** -/
theorem Step.exists_of_relisted (h : Step files name place) (hproper : files.IsProper)
    (hrelisted : files.Relisted files') :
    ∃ place', Step files' name place' ∧ place.Relisted place' := by
  obtain ⟨outer', here'⟩ := files'
  obtain ⟨hhere, houter⟩ := hrelisted
  cases h with
  | stay hname =>
    obtain ⟨entries', rfl⟩ := hhere.eq_directory
    exact ⟨_, .stay hname, hhere, houter⟩
  | top =>
    obtain ⟨entries', rfl⟩ := hhere.eq_directory
    obtain rfl := List.forall₂_nil_left_iff.mp houter
    exact ⟨_, .top, hhere, houter⟩
  | back =>
    obtain ⟨entries', rfl⟩ := hhere.eq_directory
    obtain ⟨tree', outer', htree, hrest, rfl⟩ := List.forall₂_cons_left_iff.mp houter
    exact ⟨_, .back, htree, hrest⟩
  | enter hname hdots hlookup =>
    have hproper' := hhere.isProper hproper.here
    obtain ⟨entries', rfl⟩ := hhere.eq_directory
    have hentry := (FileTree.lookup_eq_some_iff hproper.here.nodup).mp hlookup
    obtain ⟨tree', hentry', htree⟩ := hhere.exists_entry rfl rfl hentry
    have hlookup' := (FileTree.lookup_eq_some_iff hproper'.nodup).mpr hentry'
    exact ⟨_, .enter hname hdots hlookup', htree, .cons hhere houter⟩

/-! ### Any number of steps -/

theorem Steps.unique (h : Steps files names place) (h' : Steps files names place') :
    place = place' := by
  induction h with
  | nil => cases h'; rfl
  | cons hstep _ ih =>
    obtain _ | ⟨hstep', hsteps'⟩ := h'
    obtain rfl := hstep.unique hstep'
    exact ih hsteps'

theorem Step.steps_cons_iff {middle : FileSystem} (h : Step files name middle) :
    Steps files (name :: names) place ↔ Steps middle names place := by
  constructor
  · rintro (_ | ⟨hstep, hsteps⟩)
    exact h.unique hstep ▸ hsteps
  · exact .cons h

theorem Steps.isProper (h : Steps files names place) (hproper : files.IsProper) :
    place.IsProper := by
  induction h with
  | nil => exact hproper
  | cons hstep _ ih => exact ih (hstep.isProper hproper)

theorem Steps.exists_of_relisted (h : Steps files names place) (hproper : files.IsProper)
    (hrelisted : files.Relisted files') :
    ∃ place', Steps files' names place' ∧ place.Relisted place' := by
  induction h generalizing files' with
  | nil => exact ⟨files', .nil files', hrelisted⟩
  | cons hstep _ ih =>
    obtain ⟨middle, hstep', hmiddle⟩ := hstep.exists_of_relisted hproper hrelisted
    obtain ⟨place', hsteps', hplace⟩ := ih (hstep.isProper hproper) hmiddle
    exact ⟨place', .cons hstep' hsteps', hplace⟩

theorem steps_concat_iff {before : List String} : Steps files (before ++ [name]) place ↔
    ∃ middle, Steps files before middle ∧ Step middle name place := by
  induction before generalizing files with
  | nil =>
    constructor
    · rintro (_ | ⟨hstep, _ | _⟩)
      exact ⟨files, .nil files, hstep⟩
    · rintro ⟨middle, _ | _, hstep⟩
      exact .cons hstep (.nil place)
  | cons first before ih =>
    constructor
    · rintro (_ | ⟨hstep, hsteps⟩)
      obtain ⟨middle, hbefore, hlast⟩ := ih.mp hsteps
      exact ⟨middle, .cons hstep hbefore, hlast⟩
    · rintro ⟨middle, _ | ⟨hstep, hbefore⟩, hlast⟩
      exact .cons hstep (ih.mpr ⟨middle, hbefore, hlast⟩)

/-- Names that say nothing may be passed over. -/
theorem Steps.filter (h : Steps files names place) :
    Steps files (names.filter fun name => name != "" && name != ".") place := by
  induction h with
  | nil => exact .nil _
  | cons hstep _ ih =>
    cases hstep with
    | stay hname =>
      rwa [List.filter_cons_of_neg (by rcases hname with rfl | rfl <;> decide)]
    | top =>
      rw [List.filter_cons_of_pos (by decide)]
      exact .cons .top ih
    | back =>
      rw [List.filter_cons_of_pos (by decide)]
      exact .cons .back ih
    | enter hname hdots hlookup =>
      rw [List.filter_cons_of_pos (by simpa using hname)]
      exact .cons (.enter hname hdots hlookup) ih

/-- **To follow names is to take one step for each.** -/
theorem follow_eq_ok_iff {outer : List FileTree} {here tree : FileTree} :
    FileTree.follow outer here names = .ok tree ↔
      ∃ place, Steps ⟨outer, here⟩ names place ∧ place.here = tree := by
  fun_induction FileTree.follow outer here names with
  | case1 outer here =>
    rw [Except.ok.injEq]
    constructor
    · exact fun h => ⟨_, .nil _, h⟩
    · rintro ⟨_, ⟨⟩, h⟩
      exact h
  | case2 => simpa using fun place => nofun
  | case3 outer entries name rest hname ih =>
    have hstay : Step ⟨outer, .directory entries⟩ name ⟨outer, .directory entries⟩ :=
      .stay (by simpa using hname)
    simp only [ih, hstay.steps_cons_iff]
  | case4 entries name rest _ hdots ih =>
    obtain rfl := eq_of_beq hdots
    simp only [ih, Step.top.steps_cons_iff]
  | case5 entries name rest _ hdots here outer ih =>
    obtain rfl := eq_of_beq hdots
    simp only [ih, Step.back.steps_cons_iff]
  | case6 outer entries name rest hname hdots tree hlookup ih =>
    have henter : Step ⟨outer, .directory entries⟩ name ⟨.directory entries :: outer, tree⟩ :=
      .enter (by simpa using hname) (by simpa using hdots) hlookup
    simp only [ih, henter.steps_cons_iff]
  | case7 outer entries name rest hname hdots hlookup =>
    constructor
    · nofun
    · rintro ⟨place, _ | ⟨hstep, -⟩, -⟩
      cases hstep <;> simp_all

/-! ### Paths -/

/-- The outermost directory, with nothing around it. -/
def outermost (files : FileSystem) : FileSystem where
  outer := []
  here := files.root

/-- **What a path leads to.** -/
inductive Leads (files : FileSystem) (path : String) (place : FileSystem) : Prop
  /-- An absolute path is followed from the outermost directory. -/
  | absolute {names : List String} (hpath : Path.names path = "" :: names) (hnames : names ≠ [])
      (hsteps : Steps files.outermost names place)
  /-- Any other path is followed from the working directory. -/
  | relative (hpath : path ≠ "") (hrelative : ¬Path.IsAbsolute path)
      (hsteps : Steps files (Path.names path) place)

theorem find_eq_ok_iff {path : String} {tree : FileTree} :
    files.find path = .ok tree ↔ ∃ place, files.Leads path place ∧ place.here = tree := by
  unfold find
  split
  next hnames =>
    obtain rfl := Path.eq_empty_of_names_eq hnames
    constructor
    · nofun
    · rintro ⟨place, ⟨hpath, hne, -⟩ | ⟨hpath, -, -⟩, -⟩
      · exact absurd (List.tail_eq_of_cons_eq (hnames.symm.trans hpath)).symm hne
      · exact absurd rfl hpath
  next names hne hnames =>
    have hnil : names ≠ [] := fun h => hne (h ▸ rfl)
    rw [follow_eq_ok_iff]
    refine exists_congr fun place => and_congr_left' ⟨fun h => .absolute hnames hnil h, ?_⟩
    rintro (⟨hpath, -, hsteps⟩ | ⟨-, hrelative, -⟩)
    · exact List.tail_eq_of_cons_eq (hpath.symm.trans hnames) ▸ hsteps
    · obtain ⟨first, rest, rfl⟩ := List.exists_cons_of_ne_nil hnil
      exact absurd ⟨first, rest, hnames⟩ hrelative
  next hempty habsolute =>
    have hpath : path ≠ "" := by
      rintro rfl
      exact hempty rfl
    have hrelative : ¬Path.IsAbsolute path := by
      rintro ⟨first, rest, hnames⟩
      exact habsolute _ hnames
    rw [follow_eq_ok_iff]
    refine exists_congr fun place => and_congr_left' ⟨fun h => .relative hpath hrelative h, ?_⟩
    rintro (⟨hnames, -, -⟩ | ⟨-, -, hsteps⟩)
    · exact absurd hnames (habsolute _)
    · exact hsteps

theorem IsProper.outermost (h : files.IsProper) : files.outermost.IsProper := by
  refine ⟨?_, by simp [FileSystem.outermost]⟩
  unfold FileSystem.outermost root
  rcases hlast : files.outer.getLast? with _ | tree
  · exact h.here
  · exact h.outer tree (List.mem_of_getLast? hlast)

theorem Relisted.outermost (h : files.Relisted files') :
    files.outermost.Relisted files'.outermost := by
  obtain ⟨outer, here⟩ := files
  obtain ⟨outer', here'⟩ := files'
  obtain ⟨hhere, houter⟩ := h
  refine ⟨?_, .nil⟩
  change List.Forall₂ FileTree.Relisted outer outer' at houter
  change FileTree.Relisted (outer.getLast?.getD here) (outer'.getLast?.getD here')
  induction houter generalizing here here' with
  | nil => exact hhere
  | cons hfirst _ ih =>
    simp only [List.getLast?_cons, Option.getD_some]
    exact ih _ _ hfirst

/-- What a path leads to in a proper file system is proper. -/
theorem IsProper.of_find {path : String} {tree : FileTree} (h : files.IsProper)
    (hfind : files.find path = .ok tree) : tree.IsProper := by
  obtain ⟨place, ⟨-, -, hsteps⟩ | ⟨-, -, hsteps⟩, rfl⟩ := find_eq_ok_iff.mp hfind
  · exact (hsteps.isProper h.outermost).here
  · exact (hsteps.isProper h).here

/-- **A path leads to the same place when all is listed in another order.** -/
theorem Relisted.exists_find {path : String} {tree : FileTree} (h : files.Relisted files')
    (hproper : files.IsProper) (hfind : files.find path = .ok tree) :
    ∃ tree', files'.find path = .ok tree' ∧ tree.Relisted tree' := by
  obtain ⟨place, ⟨hpath, hnames, hsteps⟩ | ⟨hpath, hrelative, hsteps⟩, rfl⟩ :=
    find_eq_ok_iff.mp hfind
  · obtain ⟨place', hsteps', hplace⟩ := hsteps.exists_of_relisted hproper.outermost h.outermost
    exact ⟨_, find_eq_ok_iff.mpr ⟨place', .absolute hpath hnames hsteps', rfl⟩, hplace.here⟩
  · obtain ⟨place', hsteps', hplace⟩ := hsteps.exists_of_relisted hproper h
    exact ⟨_, find_eq_ok_iff.mpr ⟨place', .relative hpath hrelative hsteps', rfl⟩, hplace.here⟩

/-- A path is told by its names that say something and by its slash at the front. -/
theorem Leads.steps {path : String} (h : files.Leads path place) :
    (Path.IsAbsolute path ∧ Steps files.outermost (Path.steps path) place) ∨
      (¬Path.IsAbsolute path ∧ Steps files (Path.steps path) place) := by
  rcases h with @⟨names, hpath, hnames, hsteps⟩ | ⟨-, hrelative, hsteps⟩
  · obtain ⟨first, rest, rfl⟩ := List.exists_cons_of_ne_nil hnames
    refine .inl ⟨⟨first, rest, hpath⟩, ?_⟩
    rw [Path.steps, hpath, List.filter_cons_of_neg (by decide)]
    exact hsteps.filter
  · exact .inr ⟨hrelative, hsteps.filter⟩

/-- **Paths with the same components lead to the same place**, if they both lead somewhere. -/
theorem eq_of_components_eq {path path' : String} {tree tree' : FileTree}
    (hfind : files.find path = .ok tree) (hfind' : files.find path' = .ok tree')
    (h : Path.components path = Path.components path') : tree = tree' := by
  have hsteps : Path.steps path = Path.steps path' := by
    rw [← Path.filterMap_components, h, Path.filterMap_components]
  have habsolute : Path.IsAbsolute path ↔ Path.IsAbsolute path' := by
    rw [Path.isAbsolute_iff, h, ← Path.isAbsolute_iff]
  obtain ⟨place, hleads, rfl⟩ := find_eq_ok_iff.mp hfind
  obtain ⟨place', hleads', rfl⟩ := find_eq_ok_iff.mp hfind'
  rcases hleads.steps with ⟨hslash, hplace⟩ | ⟨hrelative, hplace⟩ <;>
    rcases hleads'.steps with ⟨hslash', hplace'⟩ | ⟨hrelative', hplace'⟩
  · rw [hplace.unique (hsteps ▸ hplace')]
  · exact absurd (habsolute.mp hslash) hrelative'
  · exact absurd (habsolute.mpr hslash') hrelative
  · rw [hplace.unique (hsteps ▸ hplace')]

/-! ### Joining -/

theorem Steps.of_concat_empty (h : Steps files (names ++ [""]) place) :
    Steps files names place := by
  obtain ⟨middle, hsteps, hlast⟩ := steps_concat_iff.mp h
  generalize hempty : "" = name at hlast
  cases hlast with
  | stay => exact hsteps
  | top | back => exact absurd hempty (by decide)
  | enter hname => exact absurd hempty.symm hname.1

/-- **The path of an entry** is that of the directory, with the name of the entry joined to it. -/
theorem find_join {directory : String} {entries : List (String × FileTree)} {tree : FileTree}
    (hfind : files.find directory = .ok (.directory entries))
    (hproper : FileTree.IsProper (.directory entries)) (hentry : (name, tree) ∈ entries) :
    files.find (Path.join directory name) = .ok tree := by
  have hname : Path.IsEntryName name := hproper.isEntryName hentry
  have henter : ∀ {outer}, Step ⟨outer, .directory entries⟩ name ⟨.directory entries :: outer, tree⟩ :=
    .enter ⟨hname.ne_empty, hname.ne_dot⟩ hname.ne_dots
      ((FileTree.lookup_eq_some_iff hproper.nodup).mpr hentry)
  obtain ⟨⟨outer, here⟩, hleads, hhere⟩ := find_eq_ok_iff.mp hfind
  obtain rfl : here = .directory entries := hhere
  refine find_eq_ok_iff.mpr ⟨⟨.directory entries :: outer, tree⟩, ?_, rfl⟩
  have hdirectory : directory ≠ "" := by
    rintro rfl
    exact absurd hfind nofun
  have hcomponents := Path.components_join hdirectory hname
  have hpath : Path.join directory name ≠ "" := by
    intro h
    rw [h] at hcomponents
    exact absurd hcomponents.symm (by simp [Path.components, Path.names, splitWhen])
  have habsolute : Path.IsAbsolute (Path.join directory name) → Path.IsAbsolute directory := by
    rw [Path.isAbsolute_iff, Path.isAbsolute_iff, hcomponents, List.head?_append]
    cases (Path.components directory).head? <;> simp
  obtain ⟨before, hbefore, hjoin⟩ := Path.exists_names_join hdirectory hname
  rcases hleads with @⟨names, hnames, -, hsteps⟩ | ⟨-, hrelative, hsteps⟩
  · -- The slash at the front is not followed, so that the names after it are compared.
    obtain ⟨rest, rfl, hrest⟩ : ∃ rest, before = "" :: rest ∧
        (names = rest ∨ names = rest ++ [""]) := by
      rcases hbefore with h | ⟨hnil, h⟩
      · exact ⟨names, (h.symm.trans hnames), .inl rfl⟩
      · obtain ⟨first, rest, rfl⟩ := List.exists_cons_of_ne_nil hnil
        rw [hnames, List.cons_append, List.cons.injEq] at h
        exact ⟨rest, by rw [h.1], .inr h.2⟩
    refine .absolute hjoin (by simp) (steps_concat_iff.mpr ⟨_, ?_, henter⟩)
    rcases hrest with rfl | rfl
    · exact hsteps
    · exact hsteps.of_concat_empty
  · refine .relative hpath (fun h => hrelative (habsolute h)) ?_
    rw [hjoin]
    refine steps_concat_iff.mpr ⟨_, ?_, henter⟩
    rcases hbefore with h | ⟨-, h⟩
    · exact h ▸ hsteps
    · exact (h ▸ hsteps).of_concat_empty

/-- **The path of what lies below a directory** is that of the directory, with the names on the way
joined to it. -/
theorem find_foldl_join {path : String} {tree found : FileTree} (hfind : files.find path = .ok tree)
    (hproper : tree.IsProper) (hat : At tree names found) :
    files.find (names.foldl Path.join path) = .ok found := by
  induction hat generalizing path with
  | here => exact hfind
  | inside hentry _ ih => exact ih (find_join hfind hproper hentry) (hproper.entry hentry)

end FileSystem

end StreamLint
