import StreamLint.Proofs.Model.Instances
import StreamLint.Proofs.Model.Sorts
/-!
# Written types with arguments in place of parameters

The type of a member is written in terms of the generic parameters of the class or interface that
declares it. With arguments given for the parameters it denotes another type: what is written, with
the argument wherever a parameter has been written (`StreamLint.Background.DenotesWith`).

A type that is *seen* through arguments need not be that type. Seeing goes into references, unions,
intersections, arrays and the results of functions only, so that a parameter inside a tuple, an
object type or the arguments of a name without a declaration is left as it is. Nothing else is
missed: what is seen is the type with the arguments in place of the parameters exactly if every
parameter that is written in such a place is given itself
(`StreamLint.Background.denotesWith_iff_of_instance`).
-/

namespace StreamLint

/-- The generic parameters of a declaration. -/
def Draft.paramsOf (draft : Draft) (node : NodeId) : List TypeId :=
  ((draft.typeParams[node]?).getD []).map (·.2)

/-- What a generic parameter stands for when arguments are given: the argument for it. Any other
parameter, and one that there are too few arguments for, stands for itself. -/
def givenFor (params arguments : List TypeId) (param : TypeId) : TypeId :=
  match params.idxOf? param with
  | some index => arguments[index]?.getD param
  | none => param

namespace TypeExpr

mutual

/-- How deep a written type is nested. -/
def nesting : TypeExpr → Nat
  | .keyword _ | .literal _ | .unsupported _ => 0
  | .named _ types | .union types | .intersection types | .tuple types => nestingEach types
  | .array type | .function type => nesting type + 1
  | .object members => nestingMembers members

/-- How deep a type is nested that is put together of written types. -/
def nestingEach : List TypeExpr → Nat
  | [] => 0
  | type :: rest => max (nesting type + 1) (nestingEach rest)

/-- How deep a type is nested that is put together of written members. -/
def nestingMembers : List (Member TypeExpr) → Nat
  | [] => 0
  | ⟨_, _, type⟩ :: rest => max (nesting type + 1) (nestingMembers rest)

end

end TypeExpr

/-- The type is a generic parameter. -/
def TypeEntry.isParameter : TypeEntry → Bool
  | .parameter .. => true
  | _ => false

/-- The name is that of the type of arrays. -/
def isArrayName (name : String) : Bool :=
  name == "Array" || name == "ReadonlyArray"

namespace Background

mutual

/-- **The place is that of the written type, with `given` in place of the generic parameters**. An
array has one argument; further ones say nothing. -/
def DenotesWith (background : Background) (draft : Draft) (given : TypeId → TypeId)
    (site : NodeId) : TypeExpr → TypeId → Prop
  | .keyword k, id =>
    match k.id? with
    | some place => id = place
    | none => draft.table.get? id = some (.object [])
  | .literal kind, id => id = kind.writtenId
  | .named name arguments, id =>
    match background.parameterNamed? draft name site with
    | some param => id = given param
    | none =>
      if isArrayName name then
        ∃ inner, DenotesHeadWith background draft given site arguments inner ∧
          draft.table.get? id = some (.array inner)
      else ∃ ids, DenotesEachWith background draft given site arguments ids ∧
        background.NameDenotes draft name ids id
  | .union members, id => ∃ ids, DenotesEachWith background draft given site members ids ∧
      draft.table.get? id = some (.union ids)
  | .intersection members, id => ∃ ids, DenotesEachWith background draft given site members ids ∧
      draft.table.get? id = some (.intersection ids)
  | .array element, id => ∃ inner, DenotesWith background draft given site element inner ∧
      draft.table.get? id = some (.array inner)
  | .tuple elements, id => ∃ ids, DenotesEachWith background draft given site elements ids ∧
      draft.table.get? id = some (.tuple ids)
  | .function returnType, id => ∃ inner, DenotesWith background draft given site returnType inner ∧
      draft.table.get? id = some (.function inner)
  | .object members, id => ∃ own, DenotesMembersWith background draft given site members own ∧
      draft.table.get? id = some (.object own)
  | .unsupported _, id => id = .unknown

/-- The place is that of the first of the written types, or that of the unknown type. -/
def DenotesHeadWith (background : Background) (draft : Draft) (given : TypeId → TypeId)
    (site : NodeId) : List TypeExpr → TypeId → Prop
  | [], id => id = .unknown
  | type :: _, id => DenotesWith background draft given site type id

/-- The places are those of the written types. -/
def DenotesEachWith (background : Background) (draft : Draft) (given : TypeId → TypeId)
    (site : NodeId) : List TypeExpr → List TypeId → Prop
  | [], ids => ids = []
  | type :: rest, ids => ∃ id others, ids = id :: others ∧
      DenotesWith background draft given site type id ∧
        DenotesEachWith background draft given site rest others

/-- The members are the written ones. -/
def DenotesMembersWith (background : Background) (draft : Draft) (given : TypeId → TypeId)
    (site : NodeId) : List (Member TypeExpr) → List (Member TypeId) → Prop
  | [], members => members = []
  | ⟨name, kind, type⟩ :: rest, members => ∃ id others, members = ⟨name, kind, id⟩ :: others ∧
      DenotesWith background draft given site type id ∧
        DenotesMembersWith background draft given site rest others

end

mutual

/-- **The generic parameters that are written** in a type: all of them if `inside` is set, and else
those inside a tuple, an object type or the arguments of a name without a declaration. -/
def parametersIn (background : Background) (draft : Draft) (site : NodeId) (inside : Bool) :
    TypeExpr → List TypeId
  | .keyword _ | .literal _ | .unsupported _ => []
  | .named name arguments =>
    match background.parameterNamed? draft name site with
    | some param => if inside then [param] else []
    | none =>
      if isArrayName name then parametersInHead background draft site inside arguments
      else parametersInEach background draft site
        (inside || (background.typeNamed? draft name).isNone) arguments
  | .union types | .intersection types => parametersInEach background draft site inside types
  | .array type | .function type => parametersIn background draft site inside type
  | .tuple elements => parametersInEach background draft site true elements
  | .object members => parametersInMembers background draft site members

/-- The generic parameters in the first of several written types. -/
def parametersInHead (background : Background) (draft : Draft) (site : NodeId) (inside : Bool) :
    List TypeExpr → List TypeId
  | [] => []
  | type :: _ => parametersIn background draft site inside type

/-- The generic parameters in several written types. -/
def parametersInEach (background : Background) (draft : Draft) (site : NodeId) (inside : Bool) :
    List TypeExpr → List TypeId
  | [] => []
  | type :: rest => parametersIn background draft site inside type ++
      parametersInEach background draft site inside rest

/-- The generic parameters in the members of an object type. -/
def parametersInMembers (background : Background) (draft : Draft) (site : NodeId) :
    List (Member TypeExpr) → List TypeId
  | [] => []
  | ⟨_, _, type⟩ :: rest => parametersIn background draft site true type ++
      parametersInMembers background draft site rest

end

variable {background : Background} {draft : Draft} {given : TypeId → TypeId} {site : NodeId}

/-! ### Types that are left as they are -/

/-- Something that is put together of parts at a place is what the place says. -/
theorem exists_and_get?_iff {α : Type} {parts : α → Prop} (entry : α → TypeEntry)
    (hentry : Function.Injective entry) {id : TypeId} {value : α}
    (hid : draft.table.get? id = some (entry value)) :
    (∃ other, parts other ∧ draft.table.get? id = some (entry other)) ↔ parts value := by
  refine ⟨fun ⟨other, hother, hat⟩ => ?_, fun hvalue => ⟨value, hvalue, hid⟩⟩
  obtain rfl := hentry (Option.some.inj (hid.symm.trans hat))
  exact hother

theorem nameDenotes_iff_of_isArrayName {name : String} (harray : isArrayName name = true)
    {arguments : List TypeId} {id : TypeId} :
    background.NameDenotes draft name arguments id ↔
      draft.table.get? id = some (.array (arguments.head?.getD .unknown)) := by
  unfold NameDenotes
  rw [if_pos (by simpa [isArrayName] using harray)]

theorem nameDenotes_iff_of_typeNamed {name : String} (harray : isArrayName name = false)
    {target : TypeId} (htarget : background.typeNamed? draft name = some target)
    {arguments : List TypeId} {id : TypeId} :
    background.NameDenotes draft name arguments id ↔ if arguments.isEmpty then id = target
      else draft.table.get? id = some (.reference target arguments) := by
  unfold NameDenotes
  rw [if_neg (by simpa [isArrayName] using harray), htarget]

theorem nameDenotes_iff_of_foreign {name : String} (harray : isArrayName name = false)
    (hnone : background.typeNamed? draft name = none) {arguments : List TypeId} {id : TypeId} :
    background.NameDenotes draft name arguments id ↔
      draft.table.get? id = some (.foreign name arguments) := by
  unfold NameDenotes
  rw [if_neg (by simpa [isArrayName] using harray), hnone]

theorem DenotesEach.length_eq {types : List TypeExpr} {ids : List TypeId}
    (h : background.DenotesEach draft site types ids) : types.length = ids.length := by
  simpa using (denotesEach_iff.mp h).length_eq

theorem DenotesEachWith.length_eq {types : List TypeExpr} {ids : List TypeId}
    (h : background.DenotesEachWith draft given site types ids) : types.length = ids.length := by
  induction types generalizing ids with
  | nil => exact h ▸ rfl
  | cons type rest ih =>
    obtain ⟨id, others, rfl, -, hothers⟩ := h
    simp [ih hothers]

/-- The arguments of a name can be told from its place. -/
theorem exists_and_nameDenotes_iff {name : String} (harray : isArrayName name = false)
    {types : List TypeExpr} {ids : List TypeId} (hlength : types.length = ids.length) {id : TypeId}
    (hid : background.NameDenotes draft name ids id) :
    (∃ others, background.DenotesEachWith draft given site types others ∧
      background.NameDenotes draft name others id) ↔
        background.DenotesEachWith draft given site types ids := by
  refine ⟨fun ⟨others, hothers, hother⟩ => ?_, fun hids => ⟨ids, hids, hid⟩⟩
  suffices hsame : ids = others from hsame ▸ hothers
  have hlength := hlength.symm.trans hothers.length_eq
  cases htarget : background.typeNamed? draft name with
  | some target =>
    rw [nameDenotes_iff_of_typeNamed harray htarget] at hid hother
    match ids, others with
    | [], [] => rfl
    | _ :: _, _ :: _ => exact (TypeEntry.reference.inj (Option.some.inj (hid.symm.trans hother))).2
  | none =>
    rw [nameDenotes_iff_of_foreign harray htarget] at hid hother
    exact (TypeEntry.foreign.inj (Option.some.inj (hid.symm.trans hother))).2

mutual

/-- **A type that is left as it is** is the type with arguments in place of the parameters exactly if
every parameter that is written is given itself. -/
theorem denotesWith_iff_of_denotes {type : TypeExpr} {id : TypeId}
    (h : background.Denotes draft site type id) :
    background.DenotesWith draft given site type id ↔
      ∀ param ∈ background.parametersIn draft site true type, given param = param := by
  cases type with
  | keyword k =>
    refine ⟨fun _ => by simp [parametersIn], fun _ => ?_⟩
    simp only [DenotesWith, Denotes] at h ⊢
    cases hid : k.id? <;> simpa only [hid] using h
  | literal kind => simpa [DenotesWith, Denotes, parametersIn] using h
  | named name arguments =>
    cases hparam : background.parameterNamed? draft name site with
    | some param =>
      simp only [DenotesWith, Denotes, parametersIn, hparam] at h ⊢
      obtain rfl := h
      simp only [if_true, List.forall_mem_singleton]
      exact eq_comm
    | none =>
      simp only [DenotesWith, Denotes, parametersIn, hparam] at h ⊢
      obtain ⟨ids, hids, hid⟩ := h
      rcases harray : isArrayName name with _ | _
      · simp only [Bool.true_or, Bool.false_eq_true, if_false]
        rw [← denotesEachWith_iff_of_denotesEach hids]
        exact exists_and_nameDenotes_iff harray hids.length_eq hid
      · rw [nameDenotes_iff_of_isArrayName harray] at hid
        simp only [if_true]
        rw [exists_and_get?_iff .array (fun _ _ => TypeEntry.array.inj) hid]
        exact denotesHeadWith_iff_of_denotesEach hids
  | union members =>
    obtain ⟨ids, hids, hid⟩ := h
    simp only [DenotesWith, parametersIn]
    rw [exists_and_get?_iff .union (fun _ _ => TypeEntry.union.inj) hid]
    exact denotesEachWith_iff_of_denotesEach hids
  | intersection members =>
    obtain ⟨ids, hids, hid⟩ := h
    simp only [DenotesWith, parametersIn]
    rw [exists_and_get?_iff .intersection (fun _ _ => TypeEntry.intersection.inj) hid]
    exact denotesEachWith_iff_of_denotesEach hids
  | array element =>
    obtain ⟨inner, hinner, hid⟩ := h
    simp only [DenotesWith, parametersIn]
    rw [exists_and_get?_iff .array (fun _ _ => TypeEntry.array.inj) hid]
    exact denotesWith_iff_of_denotes hinner
  | tuple elements =>
    obtain ⟨ids, hids, hid⟩ := h
    simp only [DenotesWith, parametersIn]
    rw [exists_and_get?_iff .tuple (fun _ _ => TypeEntry.tuple.inj) hid]
    exact denotesEachWith_iff_of_denotesEach hids
  | function returnType =>
    obtain ⟨inner, hinner, hid⟩ := h
    simp only [DenotesWith, parametersIn]
    rw [exists_and_get?_iff .function (fun _ _ => TypeEntry.function.inj) hid]
    exact denotesWith_iff_of_denotes hinner
  | object members =>
    obtain ⟨own, hown, hid⟩ := h
    simp only [DenotesWith, parametersIn]
    rw [exists_and_get?_iff .object (fun _ _ => TypeEntry.object.inj) hid]
    exact denotesMembersWith_iff_of_denotesMembers hown
  | unsupported text => simpa [DenotesWith, Denotes, parametersIn] using h

theorem denotesHeadWith_iff_of_denotesEach {types : List TypeExpr} {ids : List TypeId}
    (h : background.DenotesEach draft site types ids) :
    background.DenotesHeadWith draft given site types (ids.head?.getD .unknown) ↔
      ∀ param ∈ background.parametersInHead draft site true types, given param = param := by
  cases types with
  | nil =>
    obtain rfl := h
    simp [DenotesHeadWith, parametersInHead]
  | cons type rest =>
    obtain ⟨id, others, rfl, hid, -⟩ := h
    exact denotesWith_iff_of_denotes hid

theorem denotesEachWith_iff_of_denotesEach {types : List TypeExpr} {ids : List TypeId}
    (h : background.DenotesEach draft site types ids) :
    background.DenotesEachWith draft given site types ids ↔
      ∀ param ∈ background.parametersInEach draft site true types, given param = param := by
  cases types with
  | nil => simpa [DenotesEachWith, DenotesEach, parametersInEach] using h
  | cons type rest =>
    obtain ⟨id, others, rfl, hid, hothers⟩ := h
    simp only [DenotesEachWith, parametersInEach, List.forall_mem_append,
      ← denotesWith_iff_of_denotes hid, ← denotesEachWith_iff_of_denotesEach hothers]
    simp

theorem denotesMembersWith_iff_of_denotesMembers {written : List (Member TypeExpr)}
    {members : List (Member TypeId)} (h : background.DenotesMembers draft site written members) :
    background.DenotesMembersWith draft given site written members ↔
      ∀ param ∈ background.parametersInMembers draft site written, given param = param := by
  cases written with
  | nil => simpa [DenotesMembersWith, DenotesMembers, parametersInMembers] using h
  | cons member rest =>
    obtain ⟨id, others, rfl, hid, hothers⟩ := h
    simp only [DenotesMembersWith, parametersInMembers, List.forall_mem_append,
      ← denotesWith_iff_of_denotes hid, ← denotesMembersWith_iff_of_denotesMembers hothers]
    simp

end

end Background

/-! ### Types that are seen through arguments -/

namespace TypeTable

variable {table : TypeTable} {params arguments : List TypeId} {depth : Nat} {type seen : TypeId}
  {entry : TypeEntry}

/-- The places are those of generic parameters. -/
def AreParameters (table : TypeTable) (params : List TypeId) : Prop :=
  ∀ param ∈ params, ∃ name bound, table.get? param = some (.parameter name bound)

/-- What is no generic parameter is none of the given ones. -/
theorem AreParameters.idxOf?_eq_none (h : table.AreParameters params)
    (hentry : table.get? type = some entry) (hother : entry.isParameter = false) :
    params.idxOf? type = none := by
  refine List.idxOf?_eq_none_iff.mpr fun hmem => ?_
  obtain ⟨name, bound, hparam⟩ := h type hmem
  obtain rfl := Option.some.inj (hentry.symm.trans hparam)
  cases hother

/-- A generic parameter is seen as what it is given. -/
theorem Instance.eq_givenFor (h : table.Instance params arguments (depth + 1) type seen)
    {name : String} {bound : Option TypeId}
    (hentry : table.get? type = some (.parameter name bound)) :
    seen = givenFor params arguments type := by
  cases hindex : params.idxOf? type with
  | some index => simpa only [Instance, givenFor, hindex] using h
  | none =>
    simp only [Instance, givenFor, hindex] at h ⊢
    rcases h with ⟨_, _, hother, halike, -⟩ | ⟨rfl, -⟩
    · obtain rfl := Option.some.inj (hentry.symm.trans hother)
      cases halike
    · rfl

/-- A type that is not looked into, and is no generic parameter, is seen as it is. -/
theorem Instance.eq_self (h : table.Instance params arguments depth type seen)
    (hparams : table.AreParameters params) (hentry : table.get? type = some entry)
    (hother : entry.isParameter = false) (hclosed : entry.isOpen = false) :
    seen = type := by
  cases depth with
  | zero => exact h
  | succ depth =>
    simp only [Instance, hparams.idxOf?_eq_none hentry hother] at h
    rcases h with ⟨_, _, hat, halike, -⟩ | ⟨rfl, -⟩
    · obtain rfl := Option.some.inj (hentry.symm.trans hat)
      exact absurd (halike.isOpen.1.symm.trans hclosed) (by simp)
    · rfl

/-- What is looked into is seen as a type that is put together in the same way. -/
theorem Instance.exists_alike (h : table.Instance params arguments (depth + 1) type seen)
    (hparams : table.AreParameters params) (hentry : table.get? type = some entry)
    (hopen : entry.isOpen = true) : ∃ data,
      entry.Alike (table.Instance params arguments depth) data ∧ table.get? seen = some data := by
  have hother : entry.isParameter = false := by
    cases entry with
    | parameter => cases hopen
    | _ => rfl
  simp only [Instance, hparams.idxOf?_eq_none hentry hother] at h
  rcases h with ⟨_, data, hat, halike, hdata⟩ | ⟨-, hclosed⟩
  · obtain rfl := Option.some.inj (hentry.symm.trans hat)
    exact ⟨data, halike, hdata⟩
  · exact absurd (hopen.symm.trans (hclosed entry hentry)) (by simp)

end TypeTable

namespace Background

variable {background : Background} {draft : Draft} {site : NodeId} {params arguments : List TypeId}

/-- A type that needs no declaration is seen as it is. -/
theorem eq_self_of_initial (hsorts : background.Sorts draft)
    (hparams : draft.table.AreParameters params) {depth : Nat} {type seen : TypeId}
    (htype : type < TypeTable.intrinsics.size)
    (h : draft.table.Instance params arguments depth type seen) : seen = type := by
  have hall : ∀ entry ∈ TypeTable.intrinsics.toList, entry.isOpen = false ∧
      entry.isParameter = false := by
    decide
  have hentry : draft.table.get? type = some TypeTable.intrinsics[type] :=
    (hsorts.initial.get?_eq type htype).trans (Array.getElem?_eq_getElem htype)
  obtain ⟨hclosed, hother⟩ := hall _ (Array.mem_toList_iff.mpr (Array.getElem_mem htype))
  exact h.eq_self hparams hentry hother hclosed

/-- A name of a generic parameter is at a place of one. -/
theorem exists_parameter (hsorts : background.Sorts draft) {name : String} {param : TypeId}
    (hparam : background.parameterNamed? draft name site = some param) :
    ∃ name bound, draft.table.get? param = some (.parameter name bound) := by
  obtain ⟨owner, -, howner⟩ := List.exists_of_findSome?_eq_some hparam
  obtain ⟨params, hparams, hfound⟩ := Option.bind_eq_some_iff.mp howner
  obtain ⟨param, hmem, rfl⟩ := Option.map_eq_some_iff.mp hfound
  exact hsorts.params owner params hparams param (List.mem_of_find?_eq_some hmem)

/-- A declared name is seen as the same name, with its arguments as they are seen. -/
theorem nameDenotes_of_instance (hsorts : background.Sorts draft)
    (hparams : draft.table.AreParameters params) {depth : Nat} {name : String} {target : TypeId}
    (harray : isArrayName name = false) (htarget : background.typeNamed? draft name = some target)
    {ids : List TypeId} {id seen : TypeId} (hid : background.NameDenotes draft name ids id)
    (hseen : draft.table.Instance params arguments (depth + 1) id seen) :
    ∃ others, List.Forall₂ (draft.table.Instance params arguments depth) ids others ∧
      background.NameDenotes draft name others seen := by
  simp only [nameDenotes_iff_of_typeNamed harray htarget] at hid ⊢
  cases ids with
  | nil =>
    obtain rfl : id = target := hid
    obtain ⟨entry, hentry, hdeclared⟩ := hsorts.names name id htarget
    have hplain : entry.isOpen = false ∧ entry.isParameter = false := by
      cases entry <;> simp_all [TypeEntry.isDeclared, TypeEntry.isOpen, TypeEntry.isParameter]
    exact ⟨[], .nil, hseen.eq_self hparams hentry hplain.2 hplain.1⟩
  | cons first rest =>
    obtain ⟨_, halike, hdata⟩ := hseen.exists_alike hparams hid rfl
    cases halike with
    | reference hparts =>
      obtain ⟨_, _, -, -, rfl⟩ := List.forall₂_cons_left_iff.mp hparts
      exact ⟨_, hparts, hdata⟩

mutual

/-- **A written type that is seen through arguments** is the type with the arguments in place of the
parameters exactly if every parameter that is written inside a type which is not looked into is given
itself. -/
theorem denotesWith_iff_of_instance (hsorts : background.Sorts draft)
    (hparams : draft.table.AreParameters params) {depth : Nat} {type : TypeExpr}
    (hdepth : type.nesting < depth) {id seen : TypeId} (h : background.Denotes draft site type id)
    (hseen : draft.table.Instance params arguments depth id seen) :
    background.DenotesWith draft (givenFor params arguments) site type seen ↔
      ∀ param ∈ background.parametersIn draft site false type,
        givenFor params arguments param = param := by
  obtain ⟨depth, rfl⟩ := Nat.exists_eq_succ_of_ne_zero (Nat.ne_of_gt (Nat.zero_lt_of_lt hdepth))
  -- what is not looked into is left as it is
  have hleft : ∀ {entry : TypeEntry}, draft.table.get? id = some entry → entry.isOpen = false →
      entry.isParameter = false → seen = id := fun hentry hclosed hother =>
    hseen.eq_self hparams hentry hother hclosed
  cases type with
  | keyword k =>
    refine ⟨fun _ => by simp [parametersIn], fun _ => ?_⟩
    simp only [Denotes, DenotesWith] at h ⊢
    rcases hkeyword : k.id? with _ | place <;> simp only [hkeyword] at h
    · exact hleft h rfl rfl ▸ h
    · obtain rfl := h
      exact eq_self_of_initial hsorts hparams (KeywordType.lt_intrinsics hkeyword) hseen
  | literal kind =>
    obtain rfl := h
    refine ⟨fun _ => by simp [parametersIn], fun _ => ?_⟩
    exact eq_self_of_initial hsorts hparams kind.writtenId_lt hseen
  | named name types =>
    have htype := h
    simp only [Denotes] at h
    split at h
    next param hparam =>
      obtain rfl := h
      obtain ⟨_, _, hentry⟩ := exists_parameter hsorts hparam
      simpa [DenotesWith, parametersIn, hparam] using hseen.eq_givenFor hentry
    next hnone =>
      obtain ⟨ids, hids, hid⟩ := h
      rcases harray : isArrayName name with _ | _
      · rcases htarget : background.typeNamed? draft name with _ | target
        · -- the arguments of a name without a declaration are not looked into
          rw [nameDenotes_iff_of_foreign harray htarget] at hid
          obtain rfl := hleft hid rfl rfl
          rw [denotesWith_iff_of_denotes htype]
          simp only [parametersIn, hnone, harray, htarget, Option.isNone_none, Bool.or_true,
            Bool.false_eq_true, if_false]
        · obtain ⟨others, hothers, hdata⟩ :=
            nameDenotes_of_instance hsorts hparams harray htarget hid hseen
          simp only [DenotesWith, parametersIn, hnone, harray, htarget, Option.isNone_some,
            Bool.or_false, Bool.false_eq_true, if_false]
          rw [← denotesEachWith_iff_of_instance hsorts hparams (Nat.le_of_lt_succ hdepth) hids
            hothers]
          exact exists_and_nameDenotes_iff harray (hids.length_eq.trans hothers.length_eq) hdata
      · rw [nameDenotes_iff_of_isArrayName harray] at hid
        obtain ⟨_, halike, hdata⟩ := hseen.exists_alike hparams hid rfl
        cases halike with
        | array hpart =>
          simp only [DenotesWith, parametersIn, hnone, harray, if_true]
          rw [exists_and_get?_iff .array (fun _ _ => TypeEntry.array.inj) hdata]
          exact denotesHeadWith_iff_of_instance hsorts hparams (Nat.le_of_lt_succ hdepth) hids hpart
  | union members =>
    obtain ⟨ids, hids, hid⟩ := h
    obtain ⟨_, halike, hdata⟩ := hseen.exists_alike hparams hid rfl
    cases halike with
    | union hparts =>
      simp only [DenotesWith, parametersIn]
      rw [exists_and_get?_iff .union (fun _ _ => TypeEntry.union.inj) hdata]
      exact denotesEachWith_iff_of_instance hsorts hparams (Nat.le_of_lt_succ hdepth) hids hparts
  | intersection members =>
    obtain ⟨ids, hids, hid⟩ := h
    obtain ⟨_, halike, hdata⟩ := hseen.exists_alike hparams hid rfl
    cases halike with
    | intersection hparts =>
      simp only [DenotesWith, parametersIn]
      rw [exists_and_get?_iff .intersection (fun _ _ => TypeEntry.intersection.inj) hdata]
      exact denotesEachWith_iff_of_instance hsorts hparams (Nat.le_of_lt_succ hdepth) hids hparts
  | array element =>
    obtain ⟨inner, hinner, hid⟩ := h
    obtain ⟨_, halike, hdata⟩ := hseen.exists_alike hparams hid rfl
    cases halike with
    | array hpart =>
      simp only [DenotesWith, parametersIn]
      rw [exists_and_get?_iff .array (fun _ _ => TypeEntry.array.inj) hdata]
      exact denotesWith_iff_of_instance hsorts hparams (Nat.lt_of_succ_lt_succ hdepth) hinner hpart
  | tuple elements =>
    have htype := h
    obtain ⟨ids, -, hid⟩ := h
    obtain rfl := hleft hid rfl rfl
    exact denotesWith_iff_of_denotes htype
  | function returnType =>
    obtain ⟨inner, hinner, hid⟩ := h
    obtain ⟨_, halike, hdata⟩ := hseen.exists_alike hparams hid rfl
    cases halike with
    | function hpart =>
      simp only [DenotesWith, parametersIn]
      rw [exists_and_get?_iff .function (fun _ _ => TypeEntry.function.inj) hdata]
      exact denotesWith_iff_of_instance hsorts hparams (Nat.lt_of_succ_lt_succ hdepth) hinner hpart
  | object members =>
    have htype := h
    obtain ⟨own, -, hid⟩ := h
    obtain rfl := hleft hid rfl rfl
    exact denotesWith_iff_of_denotes htype
  | unsupported text =>
    obtain rfl := h
    refine ⟨fun _ => by simp [parametersIn], fun _ => ?_⟩
    exact eq_self_of_initial hsorts hparams (show TypeId.unknown < _ by decide) hseen

theorem denotesHeadWith_iff_of_instance (hsorts : background.Sorts draft)
    (hparams : draft.table.AreParameters params) {depth : Nat} {types : List TypeExpr}
    (hdepth : TypeExpr.nestingEach types ≤ depth) {ids : List TypeId} {inner : TypeId}
    (h : background.DenotesEach draft site types ids)
    (hseen : draft.table.Instance params arguments depth (ids.head?.getD .unknown) inner) :
    background.DenotesHeadWith draft (givenFor params arguments) site types inner ↔
      ∀ param ∈ background.parametersInHead draft site false types,
        givenFor params arguments param = param := by
  cases types with
  | nil =>
    obtain rfl := h
    refine ⟨fun _ => by simp [parametersInHead], fun _ => ?_⟩
    exact eq_self_of_initial hsorts hparams (show TypeId.unknown < _ by decide) hseen
  | cons type rest =>
    obtain ⟨id, others, rfl, hid, -⟩ := h
    exact denotesWith_iff_of_instance hsorts hparams
      (Nat.lt_of_succ_le (Nat.le_trans (Nat.le_max_left ..) hdepth)) hid hseen

theorem denotesEachWith_iff_of_instance (hsorts : background.Sorts draft)
    (hparams : draft.table.AreParameters params) {depth : Nat} {types : List TypeExpr}
    (hdepth : TypeExpr.nestingEach types ≤ depth) {ids others : List TypeId}
    (h : background.DenotesEach draft site types ids)
    (hseen : List.Forall₂ (draft.table.Instance params arguments depth) ids others) :
    background.DenotesEachWith draft (givenFor params arguments) site types others ↔
      ∀ param ∈ background.parametersInEach draft site false types,
        givenFor params arguments param = param := by
  cases types with
  | nil =>
    obtain rfl := h
    obtain rfl := List.forall₂_nil_left_iff.mp hseen
    simp [DenotesEachWith, parametersInEach]
  | cons type rest =>
    obtain ⟨id, inner, rfl, hid, hinner⟩ := h
    obtain ⟨seen, parts, hfirst, hrest, rfl⟩ := List.forall₂_cons_left_iff.mp hseen
    obtain ⟨htypedepth, hrestdepth⟩ := Nat.max_le.mp hdepth
    simp only [DenotesEachWith, parametersInEach, List.forall_mem_append,
      ← denotesWith_iff_of_instance hsorts hparams (Nat.lt_of_succ_le htypedepth) hid hfirst,
      ← denotesEachWith_iff_of_instance hsorts hparams hrestdepth hinner hrest]
    simp

end

end Background

end StreamLint
