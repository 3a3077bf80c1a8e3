import StreamLint.Dialect
import StreamLint.Proofs.Text.Splitting
/-!
# Paths and their components

A path is told by its components. They order paths linearly, except that two paths with the same
components are equal in this order although their texts may differ
(`StreamLint.Path.compare_eq_iff`); and the dialect of a file depends on nothing else
(`StreamLint.Dialect.isOf_congr`).

The names that a path is followed by are those of its components, where names that say nothing are
passed over (`StreamLint.Path.filterMap_components`), and joining a name puts one component more at
the end (`StreamLint.Path.components_join`).
-/

namespace StreamLint

namespace Path

/-! ### The order of paths -/

/-- The name of a component that is one. -/
def Component.text : Component → String
  | normal name => name
  | _ => ""

theorem Component.compare_eq :
    Component.compare = compareLex (compareOn Component.rank) (compareOn Component.text) := by
  funext a b
  cases a <;> cases b <;> simp [Component.compare, compareLex, compareOn, Component.rank,
    Component.text] <;> rfl

instance : Std.TransCmp Component.compare :=
  Component.compare_eq ▸ inferInstance

instance : Std.LawfulEqCmp Component.compare where
  eq_of_compare {a b} h := by
    rw [Component.compare_eq, compareLex_eq_eq] at h
    obtain ⟨hrank, htext⟩ := h
    cases a <;> cases b <;> simp_all [compareOn, Component.rank, Component.text]

theorem compareComponents_eq : compareComponents = List.compareLex Component.compare := by
  funext as bs
  induction as generalizing bs with
  | nil => cases bs <;> rfl
  | cons a as ih =>
    cases bs with
    | nil => rfl
    | cons b bs => rw [compareComponents, List.compareLex_cons_cons, ih]

instance : Std.TransCmp compareComponents :=
  compareComponents_eq ▸ inferInstance

instance : Std.LawfulEqCmp compareComponents :=
  compareComponents_eq ▸ inferInstance

instance : Std.TransCmp Path.compare where
  eq_swap {_ _} := @Std.OrientedCmp.eq_swap _ compareComponents _ _ _
  isLE_trans {_ _ _} := @Std.TransCmp.isLE_trans _ compareComponents _ _ _ _

/-- Paths are equal in their order if they have the same components. -/
theorem compare_eq_iff {a b : String} : Path.compare a b = .eq ↔ components a = components b :=
  @Std.LawfulEqCmp.compare_eq_iff_eq _ compareComponents _ _ _

/-! ### Names and components -/

/-- The name that is followed for a component, if there is anything to follow. -/
def Component.name? : Component → Option String
  | root | current => none
  | parent => some ".."
  | normal name => some name

/-- The names of a path that say something. -/
def steps (path : String) : List String :=
  (names path).filter fun name => name != "" && name != "."

theorem names_ne_nil (path : String) : names path ≠ [] := by
  simp [names, splitWhen_ne_nil]

theorem name?_ofName? (name : String) : (Component.ofName? name).bind Component.name? =
    if name != "" && name != "." then some name else none := by
  unfold Component.ofName?
  by_cases hempty : name = ""
  · simp [hempty]
  by_cases hdot : name = "."
  · simp [hdot]
  by_cases hdots : name = ".."
  · simp [hdots, Component.name?]
  · simp [hempty, hdot, hdots, Component.name?]

theorem filterMap_ofName? (names : List String) :
    (names.filterMap Component.ofName?).filterMap Component.name? =
      names.filter fun name => name != "" && name != "." := by
  simp only [List.filterMap_filterMap, name?_ofName?]
  exact congrFun List.filterMap_eq_filter names

theorem ofName?_ne_root {name : String} : Component.ofName? name ≠ some .root := by
  unfold Component.ofName?
  split
  · nofun
  split <;> nofun

/-- How the components of a path begin, given its names. -/
theorem components_cases {path first : String} {rest : List String}
    (h : names path = first :: rest) :
    (first = "" ∧ rest = [] ∧ components path = []) ∨
    (first = "" ∧ rest ≠ [] ∧ components path = .root :: rest.filterMap Component.ofName?) ∨
    (first = "." ∧ components path = .current :: rest.filterMap Component.ofName?) ∨
    (first ≠ "" ∧ first ≠ "." ∧
      components path = (first :: rest).filterMap Component.ofName?) := by
  by_cases hempty : first = ""
  · by_cases hrest : rest = [] <;> simp [components, h, hempty, hrest]
  by_cases hdot : first = "."
  · simp [components, h, hdot]
  · have hname : ∃ component, Component.ofName? first = some component := by
      unfold Component.ofName?
      by_cases hdots : first = ".." <;> simp [hempty, hdot, hdots]
    obtain ⟨component, hcomponent⟩ := hname
    simp [components, h, hempty, hdot, hcomponent]

/-- **What is followed is told by the components.** -/
theorem filterMap_components (path : String) :
    (components path).filterMap Component.name? = steps path := by
  rw [steps]
  rcases hnames : names path with _ | ⟨first, rest⟩
  · exact absurd hnames (names_ne_nil path)
  rcases components_cases hnames with ⟨rfl, rfl, h⟩ | ⟨rfl, -, h⟩ | ⟨rfl, h⟩ | ⟨-, -, h⟩ <;> rw [h]
  · rfl
  · exact filterMap_ofName? rest
  · exact filterMap_ofName? rest
  · exact filterMap_ofName? (first :: rest)

/-- A path with a slash at the front. -/
def IsAbsolute (path : String) : Prop :=
  ∃ name rest, names path = "" :: name :: rest

theorem isAbsolute_iff {path : String} :
    IsAbsolute path ↔ (components path).head? = some .root := by
  rcases hnames : names path with _ | ⟨first, rest⟩
  · exact absurd hnames (names_ne_nil path)
  rcases components_cases hnames with ⟨rfl, rfl, h⟩ | ⟨rfl, hrest, h⟩ | ⟨rfl, h⟩ | ⟨hempty, -, h⟩ <;>
    rw [IsAbsolute, hnames, h]
  · simp
  · obtain ⟨name, others, rfl⟩ := List.exists_cons_of_ne_nil hrest
    simp
  · simp
  · simp only [List.cons.injEq, hempty, false_and, exists_const, false_iff]
    intro hhead
    obtain ⟨name, -, hname⟩ := List.mem_filterMap.mp (List.mem_of_mem_head? hhead)
    exact ofName?_ne_root hname

/-! ### Joining -/

/-- **A name that an entry of a directory can have.** -/
structure IsEntryName (name : String) : Prop where
  /-- It is not empty. -/
  ne_empty : name ≠ ""
  /-- It does not stand for the directory itself. -/
  ne_dot : name ≠ "."
  /-- It does not stand for the directory around it. -/
  ne_dots : name ≠ ".."
  /-- There is no slash in it. -/
  not_slash : '/' ∉ name.toList

instance (name : String) : Decidable (IsEntryName name) :=
  decidable_of_iff (name ≠ "" ∧ name ≠ "." ∧ name ≠ ".." ∧ '/' ∉ name.toList)
    ⟨fun ⟨hempty, hdot, hdots, hslash⟩ => ⟨hempty, hdot, hdots, hslash⟩,
      fun ⟨hempty, hdot, hdots, hslash⟩ => ⟨hempty, hdot, hdots, hslash⟩⟩

theorem IsEntryName.ofName?_eq {name : String} (h : IsEntryName name) :
    Component.ofName? name = some (.normal name) := by
  simp [Component.ofName?, h.ne_empty, h.ne_dot, h.ne_dots]

/-- The names of a path that is joined from two: a slash at the end of the first one is not doubled. -/
theorem exists_names_join {directory name : String} (hdirectory : directory ≠ "")
    (hname : IsEntryName name) :
    ∃ before, (names directory = before ∨ before ≠ [] ∧ names directory = before ++ [""]) ∧
      names (join directory name) = before ++ [name] := by
  have hwhole : splitWhen (· == '/') name.toList = [name.toList] :=
    splitWhen_of_forall_not fun c hc => beq_eq_false_iff_ne.mpr fun heq => hname.not_slash (heq ▸ hc)
  have happend : ∀ front : List Char, (splitWhen (· == '/') (front ++ '/' :: name.toList)).map
      String.ofList = (splitWhen (· == '/') front).map String.ofList ++ [name] := by
    intro front
    rw [splitWhen_append_cons (by rfl), hwhole, List.map_append]
    simp
  rw [join, if_neg (by simpa using hdirectory)]
  by_cases hslash : directory.toList.getLast? = some '/'
  · obtain ⟨front, hfront⟩ := List.getLast?_eq_some_iff.mp hslash
    refine ⟨(splitWhen (· == '/') front).map String.ofList, .inr ⟨?_, ?_⟩, ?_⟩
    · simp [splitWhen_ne_nil]
    · rw [names, hfront, splitWhen_append_cons (by rfl), List.map_append]
      rfl
    · rw [if_pos (by simpa using hslash), names, String.toList_append, hfront, List.append_assoc]
      exact happend front
  · refine ⟨names directory, .inl rfl, ?_⟩
    rw [if_neg (by simpa using hslash), names, String.toList_append, String.toList_append,
      List.append_assoc]
    exact happend _

theorem eq_empty_of_names_eq {path : String} (h : names path = [""]) : path = "" := by
  rw [names, List.map_eq_singleton_iff] at h
  obtain ⟨piece, hpieces, hpiece⟩ := h
  obtain rfl : piece = [] := by simpa using hpiece
  cases hpath : path.toList with
  | nil => simpa using hpath
  | cons c cs =>
    rw [hpath, splitWhen] at hpieces
    split at hpieces
    · exact absurd (List.tail_eq_of_cons_eq hpieces) (splitWhen_ne_nil _ cs)
    · split at hpieces <;> simp at hpieces

/-- **Joining a name puts one component at the end.** -/
theorem components_join {directory name : String} (hdirectory : directory ≠ "")
    (hname : IsEntryName name) :
    components (join directory name) = components directory ++ [.normal name] := by
  obtain ⟨before, hbefore, hjoin⟩ := exists_names_join hdirectory hname
  have hnil : before ≠ [] := by
    rcases hbefore with rfl | ⟨h, -⟩
    · exact names_ne_nil directory
    · exact h
  obtain ⟨first, rest, rfl⟩ := List.exists_cons_of_ne_nil hnil
  obtain ⟨others, hothers, hsame⟩ : ∃ others, names directory = first :: others ∧
      others.filterMap Component.ofName? = rest.filterMap Component.ofName? := by
    rcases hbefore with h | ⟨-, h⟩
    · exact ⟨rest, h, rfl⟩
    · exact ⟨rest ++ [""], h, by simp [Component.ofName?]⟩
  have hrest : first = "" → others ≠ [] := by
    rintro rfl rfl
    exact hdirectory (eq_empty_of_names_eq hothers)
  by_cases hempty : first = ""
  · simp [components, hjoin, hothers, hsame, hempty, hrest hempty, hname.ofName?_eq]
  · simp [components, hjoin, hothers, hsame, hempty, hname.ofName?_eq]

/-! ### Extensions -/

/-- A text is cut at its last dot. -/
theorem exists_last_dot {name : List Char}
    (h : (name.reverse.takeWhile (· != '.')).length + 1 < name.length) :
    ∃ stem ≠ [], name = stem ++ '.' :: (name.reverse.takeWhile (· != '.')).reverse := by
  have hsplit := List.takeWhile_append_dropWhile (p := (· != '.')) (l := name.reverse)
  rcases hrest : name.reverse.dropWhile (· != '.') with _ | ⟨c, before⟩
  · have hlength := congrArg List.length hsplit
    simp only [hrest, List.append_nil, List.length_reverse] at hlength
    omega
  have hc : c = '.' := by
    have hnot := List.head?_dropWhile_not (· != '.') name.reverse
    simpa [hrest] using hnot
  subst hc
  rw [hrest] at hsplit
  refine ⟨before.reverse, ?_, ?_⟩
  · rintro hnil
    have hlength := congrArg List.length hsplit
    simp only [List.reverse_eq_nil_iff.mp hnil, List.length_append, List.length_reverse,
      List.length_cons, List.length_nil] at hlength
    omega
  · simpa using (congrArg List.reverse hsplit).symm

theorem takeWhile_reverse_of_dot {stem extension : List Char} (h : '.' ∉ extension) :
    (stem ++ '.' :: extension).reverse.takeWhile (· != '.') = extension.reverse := by
  rw [List.reverse_append, List.reverse_cons, List.append_assoc, List.takeWhile_append_of_pos]
  · simp
  · intro c hc
    exact bne_iff_ne.mpr fun heq => h (heq ▸ List.mem_reverse.mp hc)

/-- The extension follows the last dot of the last name, and something stands before that dot. -/
theorem extension?_eq_some_iff {path extension : String} :
    extension? path = some extension ↔ ∃ stem ≠ "",
      fileName? path = some (stem ++ "." ++ extension) ∧ '.' ∉ extension.toList := by
  unfold extension?
  rcases fileName? path with _ | name
  · simp
  simp only [Option.bind_eq_bind, Option.bind_some, Option.some.injEq, List.length_reverse,
    Option.ite_none_right_eq_some]
  constructor
  · rintro ⟨hlength, rfl⟩
    obtain ⟨stem, hstem, hname⟩ := exists_last_dot hlength
    refine ⟨String.ofList stem, by simpa using hstem, ?_, ?_⟩
    · apply String.toList_injective
      simpa using hname
    · intro hdot
      rw [String.toList_ofList, List.mem_reverse] at hdot
      exact absurd (List.mem_takeWhile_imp hdot) (by decide)
  · rintro ⟨stem, hstem, rfl, hdot⟩
    have hafter := @takeWhile_reverse_of_dot stem.toList _ hdot
    have hlength : 0 < stem.toList.length :=
      List.length_pos_of_ne_nil fun h => hstem (String.toList_injective h)
    simp only [String.toList_append, List.append_assoc, show ".".toList = ['.'] from rfl,
      List.singleton_append, hafter]
    refine ⟨?_, by simp⟩
    simp only [List.length_reverse, List.length_append, List.length_cons]
    omega

end Path

namespace Dialect

/-- The extensions of the files of a dialect. -/
def extensions : Dialect → List String
  | typeScript => ["ts", "mts", "cts"]
  | tsx => ["tsx"]

/-- **The name of a file ends in an extension of the dialect**, whatever the case of its letters; a
name that is nothing but a dot and an extension has none. -/
def IsOf (dialect : Dialect) (path : String) : Prop :=
  ∃ stem extension : String, stem ≠ "" ∧ Path.fileName? path = some (stem ++ "." ++ extension) ∧
    '.' ∉ extension.toList ∧ asciiLower extension ∈ dialect.extensions

theorem ofExtension?_eq_some_iff {extension : String} {dialect : Dialect} :
    ofExtension? extension = some dialect ↔ asciiLower extension ∈ dialect.extensions := by
  unfold ofExtension?
  cases dialect <;> split <;> simp_all [extensions]

theorem detect_eq_ok_iff {path : String} {dialect : Dialect} :
    detect path = .ok dialect ↔ dialect.IsOf path := by
  have hdetect : detect path = .ok dialect ↔
      ∃ extension, Path.extension? path = some extension ∧ ofExtension? extension = some dialect := by
    unfold detect
    split
    next h => simp [h]
    next extension h => split <;> simp_all
  simp only [hdetect, Path.extension?_eq_some_iff, ofExtension?_eq_some_iff, IsOf]
  constructor
  · rintro ⟨extension, ⟨stem, hstem, hname, hdot⟩, hmem⟩
    exact ⟨stem, extension, hstem, hname, hdot, hmem⟩
  · rintro ⟨stem, extension, hstem, hname, hdot, hmem⟩
    exact ⟨extension, ⟨stem, hstem, hname, hdot⟩, hmem⟩

/-- **The dialect of a file is told by the components of its path.** -/
theorem isOf_congr {path path' : String} {dialect : Dialect}
    (h : Path.components path = Path.components path') : dialect.IsOf path ↔ dialect.IsOf path' := by
  simp only [IsOf, Path.fileName?, h]

theorem IsOf.unique {path : String} {dialect dialect' : Dialect} (h : dialect.IsOf path)
    (h' : dialect'.IsOf path) : dialect = dialect' := by
  rw [← detect_eq_ok_iff] at h h'
  exact Except.ok.inj (h.symm.trans h')

end Dialect

end StreamLint
