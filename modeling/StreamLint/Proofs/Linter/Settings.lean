import StreamLint.Linter.Settings
import StreamLint.Proofs.Json.Forms
/-!
# Settings are read back

The reader of settings takes what is written for them, and with the readers of limits and of reports
it reads back whatever is written (`StreamLint.isReadBack_written`).

Settings hold options that may be any value, so two things can go wrong with them, and each has its
condition. A floating-point number need not come back as the same number, so there must be none
(`StreamLint.Settings.Entry.IsLegible`). And the options stand inside three objects: the settings,
the table of the checks and the settings of the one check. So of the brackets that a reader allows
inside one another the options have three less (`StreamLint.Settings.takes_reader`). Options that
are deeper are never read back (`StreamLint.Settings.run_written_of_lt`); in particular it is not
enough that the options by themselves are not too deep (`StreamLint.not_isReadBack_nestedBrackets`).

Settings that are read back have the same entries, though the tree that holds them may be balanced
in another way, so they are compared by their entries.
-/

namespace StreamLint

open Json (Reader Takes TakesFields TakesEntry Refuses IsWritten readField takes_record
  refuses_record maxWhole nestingLimit)

namespace Settings

/-! ### The settings of one check -/

namespace Entry

/-- The fields of the settings of a check. -/
def fields : List (Reader.Field Draft) :=
  [{ name := "enabled", read := Json.into Reader.boolean fun b d => { d with enabled := some b },
     isSet := (·.enabled.isSome), required := false },
   { name := "options", read := Json.into Reader.value fun v d => { d with options := some v },
     isSet := (·.options.isSome), required := false }]

/-- The settings of a draft; what may be left out has its default. -/
def Draft.entry (draft : Draft) : Entry :=
  { enabled := draft.enabled.getD true, options := draft.options.getD .null }

/-- The options can be told from their text: no number in them is a floating-point number, and they
are held as values are. -/
def IsLegible (entry : Entry) : Prop :=
  entry.options.IsFloatFree ∧ entry.options.IsProper

/-- **The settings of a check are taken as they are** if the options are not too deep. -/
theorem takes_reader {entry : Entry} (h : entry.IsLegible) {levels : Nat}
    (hnesting : entry.options.nesting ≤ levels) :
    Takes (Entry.reader (levels + 1)) entry.toJson entry := by
  have hoptions : Takes (Reader.value levels) entry.options entry.options :=
    Json.takes_readValue entry.options h.1 h.2 hnesting
  have hfields : TakesFields (readField true fields levels)
      [("enabled", .bool entry.enabled), ("options", entry.options)] ({} : Draft)
      ⟨entry.enabled, entry.options⟩ :=
    .into rfl rfl (Json.takes_boolean levels entry.enabled) <| .into rfl rfl hoptions <| .nil _
  exact (takes_record "CheckSettings" hfields (by simp [fields])).returned Draft.entry

/-- **The settings of a check are refused** if the options are too deep. -/
theorem refuses_reader {entry : Entry} (h : entry.IsLegible) {levels : Nat}
    (hnesting : levels < entry.options.nesting) :
    Refuses (Entry.reader (levels + 1)) entry.toJson := by
  have hoptions : Refuses (Reader.value levels) entry.options :=
    Json.refuses_readValue entry.options h.1 h.2 hnesting
  have henabled : TakesFields (readField true fields levels) [("enabled", .bool entry.enabled)]
      ({} : Draft) ⟨entry.enabled, none⟩ :=
    .into rfl rfl (Json.takes_boolean levels entry.enabled) <| .nil _
  exact (refuses_record "CheckSettings" henabled rfl rfl hoptions).returned Draft.entry

theorem isFloatFree_toJson {entry : Entry} (h : entry.options.IsFloatFree) :
    entry.toJson.IsFloatFree := by
  simp [toJson, Json.isFloatFree_object, h]

end Entry

/-! ### The settings of all checks -/

/-- The fields of settings. -/
def fields : List (Reader.Field (Option (List (String × Entry)))) :=
  [{ name := "checks", read := Json.into (Reader.map Entry.reader) fun entries _ => some entries,
     isSet := (·.isSome), required := false }]

/-- The settings with given entries; none count as empty. -/
def ofEntries (entries : Option (List (String × Entry))) : Settings :=
  ⟨.ofList (entries.getD [])⟩

/-- The entries that are listed are those of the checks that are mentioned. -/
theorem mem_toList_iff {settings : Settings} {id : String} {entry : Entry} :
    (id, entry) ∈ settings.checks.toList ↔ settings.check? id = some entry :=
  Std.TreeMap.mem_toList_iff_getElem?_eq_some

/-- Entries are listed in ascending order of the identifiers. -/
theorem pairwise_toList (settings : Settings) :
    settings.checks.toList.Pairwise (·.1 < ·.1) := by
  have hordered : settings.checks.toList.Pairwise fun a b => compare a.1 b.1 = .lt :=
    Std.TreeMap.ordered_keys_toList
  exact hordered.imp compareOfLessAndEq_eq_lt.mp

/-- **Settings are made of the entries that are listed.** -/
theorem ofEntries_toList (settings : Settings) :
    (ofEntries (some settings.checks.toList)).checks.Equiv settings.checks := by
  refine Std.TreeMap.Equiv.of_forall_constGet?_eq fun id => ?_
  cases hid : settings.checks[id]? with
  | none =>
    refine Std.TreeMap.getElem?_ofList_of_contains_eq_false ?_
    rw [Bool.eq_false_iff]
    intro hcontains
    obtain ⟨⟨_, entry⟩, hmem, rfl⟩ := List.mem_map.mp (List.contains_iff_mem.mp hcontains)
    exact absurd (mem_toList_iff.mp hmem) (by simp [check?, hid])
  | some entry =>
    exact Std.TreeMap.getElem?_ofList_of_mem Std.ReflCmp.compare_self
      Std.TreeMap.distinct_keys_toList (mem_toList_iff.mpr hid)

/-- The options of every check are legible. -/
def IsLegible (settings : Settings) : Prop :=
  ∀ id entry, settings.check? id = some entry → entry.IsLegible

/-- Entries that are legible and not too deep are taken as they are. -/
theorem takesEntry_of_isLegible {entries : List (String × Entry)}
    (h : ∀ check ∈ entries, check.2.IsLegible) {levels : Nat}
    (hnesting : ∀ check ∈ entries, check.2.options.nesting ≤ levels) :
    List.Forall₂ (TakesEntry (Entry.reader (levels + 1)))
      (entries.map fun (id, check) => (id, check.toJson)) entries :=
  List.forall₂_map_left_iff.mpr <| List.forall₂_same.mpr fun check hcheck =>
    ⟨rfl, Entry.takes_reader (h check hcheck) (hnesting check hcheck)⟩

/-- **Settings are taken as they are** if no options are too deep. -/
theorem takes_reader {settings : Settings} (h : settings.IsLegible) {levels : Nat}
    (hnesting : ∀ id entry, settings.check? id = some entry → entry.options.nesting ≤ levels) :
    Takes (Settings.reader (levels + 3)) settings.toJson
      (ofEntries (some settings.checks.toList)) := by
  have hlegible : ∀ check ∈ settings.checks.toList, check.2.IsLegible :=
    fun (id, check) hcheck => h id check (mem_toList_iff.mp hcheck)
  have hshallow : ∀ check ∈ settings.checks.toList, check.2.options.nesting ≤ levels :=
    fun (id, check) hcheck => hnesting id check (mem_toList_iff.mp hcheck)
  have hchecks := takesEntry_of_isLegible hlegible hshallow
  have hfields : TakesFields (readField true fields (levels + 2))
      [("checks", .object (settings.checks.toList.map fun (id, check) => (id, check.toJson)))] none
      (some settings.checks.toList) :=
    .into rfl rfl (Json.takes_map hchecks settings.pairwise_toList) (.nil _)
  exact (takes_record "Settings" hfields (by simp [fields])).returned ofEntries

/-- **Settings are refused** if some options are too deep. -/
theorem refuses_reader {settings : Settings} (h : settings.IsLegible) {levels : Nat} {id : String}
    {entry : Entry} (hentry : settings.check? id = some entry)
    (hnesting : levels < entry.options.nesting) :
    Refuses (Settings.reader (levels + 3)) settings.toJson := by
  have hdeep : ¬∀ check ∈ settings.checks.toList, check.2.options.nesting ≤ levels := fun hall =>
    absurd (hall (id, entry) (mem_toList_iff.mpr hentry)) (Nat.not_le.mpr hnesting)
  obtain ⟨front, ⟨id, entry⟩, behind, hlist, hfront, hentry⟩ := Json.exists_first_not hdeep
  have hlegible : ∀ check ∈ front ++ (id, entry) :: behind, check.2.IsLegible := by
    rw [← hlist]
    exact fun (id, check) hcheck => h id check (mem_toList_iff.mp hcheck)
  have hascending := settings.pairwise_toList
  rw [hlist, List.pairwise_append] at hascending
  have htaken := takesEntry_of_isLegible (List.forall_mem_append.mp hlegible).1 hfront
  have hrefused := Entry.refuses_reader (hlegible (id, entry) (by simp)) (Nat.not_le.mp hentry)
  have hchecks : Refuses (Reader.map Entry.reader (levels + 2))
      (.object (settings.checks.toList.map fun (id, check) => (id, check.toJson))) := by
    rw [hlist, List.map_append, List.map_cons]
    exact Json.refuses_map htaken hascending.1 hrefused
  have hnothing : TakesFields (readField true fields (levels + 2)) [] none none := .nil none
  exact (refuses_record "Settings" hnothing rfl rfl hchecks).returned ofEntries

theorem isFloatFree_toJson {settings : Settings} (h : settings.IsLegible) :
    settings.toJson.IsFloatFree := by
  simp only [toJson, Json.isFloatFree_object, List.forall_mem_singleton, List.forall_mem_map]
  exact fun (id, entry) hentry => Entry.isFloatFree_toJson (h id entry (mem_toList_iff.mp hentry)).1

/-- **Settings whose options are too deep are not read back**: their text counts as no JSON. -/
theorem run_written_of_lt {settings : Settings} (h : settings.IsLegible) {id : String}
    {entry : Entry} (hentry : settings.check? id = some entry)
    (hnesting : nestingLimit < entry.options.nesting + 3) {text : String}
    (htext : IsWritten settings.toJson text) : Settings.reader.run text = .error .malformed := by
  have hlimit : nestingLimit = 124 + 3 := rfl
  have hdeep : 124 < entry.options.nesting := by omega
  exact (refuses_reader h hentry hdeep).run (htext.spells (isFloatFree_toJson h))

theorem ofText_eq_ok_iff {text : String} {settings : Settings} :
    Settings.ofText text = .ok settings ↔ Settings.reader.run text = .ok settings := by
  unfold ofText
  cases Settings.reader.run text <;> simp

/-- What holds of every entry holds of every entry when one more with it is put in. -/
theorem forall_check?_withEntry {p : Entry → Prop} {settings : Settings} {check : Entry}
    (h : ∀ id entry, settings.check? id = some entry → p entry) (hcheck : p check) (name : String) :
    ∀ id entry, (settings.withEntry name check).check? id = some entry → p entry := by
  intro id entry hentry
  rw [check?, withEntry, Std.TreeMap.getElem?_insert] at hentry
  split at hentry
  next => exact Option.some.inj hentry ▸ hcheck
  next => exact h id entry hentry

theorem check?_withEntry_self (settings : Settings) (id : String) (check : Entry) :
    (settings.withEntry id check).check? id = some check :=
  Std.TreeMap.getElem?_insert_self

/-- Settings of one check. -/
def only (id : String) (check : Entry) : Settings :=
  withEntry {} id check

theorem forall_check?_only {p : Entry → Prop} {check : Entry} (h : p check) (name : String) :
    ∀ id entry, (only name check).check? id = some entry → p entry :=
  forall_check?_withEntry (fun id entry hentry => by cases hentry) h name

end Settings

/-- **What is written is read back**: every report, and what a problem does not have is left out
when it is written; all settings whose options are legible and, with the three objects around them,
not too deep; and all limits of 64 bits. -/
theorem isReadBack_written :
    (∀ (report : Diagnostics) (text : String), IsWritten report.toJson text →
      Diagnostics.reader.run text = .ok report) ∧
    (∀ problem : Diagnostic, (problem.toJson.get? "origin" = none ↔ problem.origin = none) ∧
      (problem.toJson.get? "notes" = none ↔ problem.notes = [])) ∧
    (∀ (settings : Settings) (text : String), settings.IsLegible →
      (∀ id entry, settings.check? id = some entry → entry.options.nesting + 3 ≤ nestingLimit) →
      IsWritten settings.toJson text →
      ∃ restored, Settings.ofText text = .ok restored ∧
        restored.checks.Equiv settings.checks) ∧
    ∀ (limits : Limits) (text : String), limits.Fits → IsWritten limits.toJson text →
      Limits.reader.run text = .ok limits := by
  refine ⟨fun report text htext => ?_, Diagnostic.get?_toJson_eq_none_iff,
    fun settings text hlegible hnesting htext => ?_, fun limits text hfits htext => ?_⟩
  · exact (report.takes_reader 124).run (htext.spells report.isFloatFree_toJson)
  · have hshallow : ∀ id entry, settings.check? id = some entry → entry.options.nesting ≤ 124 :=
      fun id entry hentry => Nat.le_of_add_le_add_right (hnesting id entry hentry)
    have hread := (Settings.takes_reader hlegible hshallow).run
      (htext.spells (Settings.isFloatFree_toJson hlegible))
    exact ⟨_, Settings.ofText_eq_ok_iff.mpr hread, settings.ofEntries_toList⟩
  · exact (Limits.takes_reader hfits 126).run (htext.spells limits.isFloatFree_toJson)

/-- Options with a list in them. -/
def listedNames : Json :=
  .object [("depth", .ofNat 3), ("names", .array [.string "tap", .string "say \"when\""])]

theorem isLegible_listedNames : (Settings.Entry.ofOptions listedNames).IsLegible := by
  constructor
  · simp [Settings.Entry.ofOptions, listedNames, Json.isFloatFree_object, Json.isFloatFree_array]
  · have hdepth : (Json.ofNat 3).IsProper := Json.isProper_ofNat (by decide)
    refine Json.isProper_object.mpr ⟨List.pairwise_pair.mpr (by decide), ?_⟩
    simp [hdepth, Json.isProper_array]

theorem isReadBack_written_listedNames :
    let report : Diagnostics := .single .unknownCheck "no check named \"tap\"" none
    let settings := Settings.only "ban" (.ofOptions listedNames)
    Diagnostics.reader.run report.toJson.compress = .ok report ∧
      (∃ restored, Settings.ofText settings.toJson.pretty = .ok restored ∧
        restored.checks.Equiv settings.checks) ∧
      Limits.reader.run (default : Limits).toJson.compress = .ok default := by
  intro report settings
  have hsettings : settings.IsLegible :=
    Settings.forall_check?_only isLegible_listedNames "ban"
  have hnesting : ∀ id entry, settings.check? id = some entry →
      entry.options.nesting + 3 ≤ nestingLimit :=
    Settings.forall_check?_only (p := fun entry => entry.options.nesting + 3 ≤ nestingLimit)
      (by decide) "ban"
  exact ⟨isReadBack_written.1 report _ (.inl rfl),
    isReadBack_written.2.2.1 settings _ hsettings hnesting (.inr rfl),
    isReadBack_written.2.2.2 default _ ⟨by decide, by decide, by decide⟩ (.inl rfl)⟩

/-- Brackets inside one another, one more than `n`. -/
def nestedBrackets : Nat → Json
  | 0 => .array []
  | n + 1 => .array [nestedBrackets n]

theorem nesting_nestedBrackets (n : Nat) : (nestedBrackets n).nesting = n + 1 := by
  induction n with
  | zero => rfl
  | succ n ih => simp [nestedBrackets, Json.nesting, Json.nestingOfItems, ih]

theorem isLegible_nestedBrackets (n : Nat) :
    (Settings.Entry.ofOptions (nestedBrackets n)).IsLegible := by
  constructor
  · show (nestedBrackets n).IsFloatFree
    induction n with
    | zero => simp [nestedBrackets, Json.isFloatFree_array]
    | succ n ih => simp [nestedBrackets, Json.isFloatFree_array, ih]
  · show (nestedBrackets n).IsProper
    induction n with
    | zero => simp [nestedBrackets, Json.isProper_array]
    | succ n ih => simp [nestedBrackets, Json.isProper_array, ih]

/-- A depth below 128 is not enough: the settings around the options have three brackets of their
own. -/
theorem not_isReadBack_nestedBrackets :
    let settings := Settings.only "a" (.ofOptions (nestedBrackets 124))
    (∀ id entry, settings.check? id = some entry →
      entry.IsLegible ∧ entry.options.nesting < 128) ∧
    ¬∃ restored, Settings.ofText settings.toJson.compress = .ok restored := by
  intro settings
  have hlegible := isLegible_nestedBrackets 124
  have hnesting : (nestedBrackets 124).nesting = 125 := nesting_nestedBrackets 124
  constructor
  · have hbelow : (nestedBrackets 124).nesting < 128 := by omega
    exact Settings.forall_check?_only
      (p := fun entry => entry.IsLegible ∧ entry.options.nesting < 128) ⟨hlegible, hbelow⟩ "a"
  · rintro ⟨restored, hread⟩
    have hdeep : nestingLimit < (nestedBrackets 124).nesting + 3 := by
      rw [hnesting]
      decide
    have herror := Settings.run_written_of_lt (Settings.forall_check?_only hlegible "a")
      (Settings.check?_withEntry_self {} "a" (.ofOptions (nestedBrackets 124))) hdeep (.inl rfl)
    rw [Settings.ofText_eq_ok_iff] at hread
    cases herror.symm.trans hread

end StreamLint
