import StreamLint.Proofs.Oracle.Ending
import StreamLint.Proofs.Oracle.Parts
/-!
# Instantiations as substitutions

An oracle never puts arguments into a type. It goes through the type as it is, with an instantiation
that says what the parameters stand for. One would expect this to come to the same as going through
the type with the arguments put in.

It does, as long as two things are seen to. An instantiation is passed on to a declaration or an
alias by way of the arguments of a reference, and there a parameter is replaced only if it is an
argument by itself: in `Id<T | undefined>` it is not, and when the walk comes to `T` there is
nothing left that it could stand for. So the arguments have to be *flat*
(`StreamLint.TypeTable.IsFlat`). And the members of a union that stand for the absence of a value
are left out before parameters are replaced, so that none of the parameters among them may stand for
that (`StreamLint.TypeTable.ShowsPresent`); only reference types are affected.

The two walks go side by side (`StreamLint.TypeTable.Follows`), apart from the step in which the
first one enters what a parameter stands for. The main statement is
`StreamLint.Oracle.freshAnswer_eq_of_expands`.
-/

namespace StreamLint

open Relation (ReflTransGen)

namespace TypeTable

variable (table : TypeTable)

/-! ### What an instantiation is carried to -/

/-- The types that a walk goes on to with the same instantiation. -/
def carriedTo (instantiation : Instantiation) (type : TypeId) : List TypeId :=
  match instantiation.argument? type, table.get? type with
  | none, some (.alias _ _ target) => [target]
  | none, some (.union members) | none, some (.intersection members) => members
  | none, some (.parameter _ bound) => bound.toList
  | none, some (.reference target _) => if table.isNamed target then [] else [target]
  | _, _ => []

/-- The walk through the type comes to the part with the same instantiation. -/
abbrev IsCarriedTo (instantiation : Instantiation) : TypeId → TypeId → Prop :=
  ReflTransGen fun type part => part ∈ table.carriedTo instantiation type

/-- If the type refers to a declaration or an alias, then each argument is a parameter that is
instantiated, or no such parameter stands in it. -/
def HasFlatArguments (instantiation : Instantiation) (type : TypeId) : Prop :=
  ∀ target arguments, table.get? type = some (.reference target arguments) →
    table.isNamed target = true → ∀ argument ∈ arguments,
      (instantiation.argument? argument).isSome = true ∨ table.IsFree instantiation argument

/-- Wherever the walk through the type passes an instantiation on, the arguments are flat. -/
def IsFlat (instantiation : Instantiation) (type : TypeId) : Prop :=
  ∀ part, table.IsCarriedTo instantiation type part → table.HasFlatArguments instantiation part

/-- No parameter that is a member of a union stands for the absence of a value. -/
def ShowsPresent (instantiation : Instantiation) (type : TypeId) : Prop :=
  ∀ union members, table.IsCarriedTo instantiation type union →
    table.get? union = some (.union members) → ∀ member ∈ members,
      ∀ argument, instantiation.argument? member = some argument → table.isNullish argument = false

/-- The type is a generic parameter. -/
def IsParameter (type : TypeId) : Prop :=
  ∃ name bound, table.get? type = some (.parameter name bound)

/-- The type is a reference that gives arguments to the parameters of an alias, and `seen` is the
aliased type with the arguments put in. -/
structure Expands (params arguments : List TypeId) (body type seen : TypeId) : Prop where
  /-- The reference, and the alias. -/
  entries : ∃ generic name, table.get? type = some (.reference generic arguments) ∧
    table.get? generic = some (.alias name params body)
  /-- There is an argument for each parameter. -/
  given : arguments.length = params.length
  /-- The parameters are generic parameters. -/
  parameters : ∀ param ∈ params, table.IsParameter param
  /-- The arguments are put in. -/
  substituted : table.Substituted (params.zip arguments) body seen

/-- The parameters of the first instantiation stand for copies in the second one. -/
def GivesCopies (first second : Instantiation) : Prop :=
  List.Forall₂ (fun given other => other.1 = given.1 ∧ table.Substituted [] given.2 other.2)
    first second

/-- The rule and the instantiation suit the type: wherever the walk comes to with the instantiation,
the arguments are flat, and the rule is the same for the type with the arguments put in. -/
structure Suits (rule : TypeId → AnswerRule) (instantiation : Instantiation) (type : TypeId) :
    Prop where
  /-- The arguments are flat. -/
  flat : table.IsFlat instantiation type
  /-- The rule is the same. -/
  same : ∀ part, table.IsCarriedTo instantiation type part →
    instantiation.argument? part = none → ∀ seen, table.Substituted instantiation part seen →
      rule part = rule seen

/-- Where the two walks are, when the first one has the instantiation and the second one goes
through the type with the arguments put in. -/
inductive Follows (rule : TypeId → AnswerRule) (instantiation : Instantiation) :
    WalkPlace → WalkPlace → Prop where
  /-- Within the type. -/
  | part {type seen : TypeId} (hsuits : table.Suits rule instantiation type)
    (h : table.Substituted instantiation type seen) :
    Follows rule instantiation (instantiation, type) ([], seen)
  /-- Within something that the type refers to. -/
  | within {first second : Instantiation} {type : TypeId} (h : table.GivesCopies first second) :
    Follows rule instantiation (first, type) (second, type)

variable {table} {instantiation first second : Instantiation} {type seen : TypeId}
  {rule : TypeId → AnswerRule}

/-- Where nothing is instantiated, there is nothing to lose. -/
theorem isFlat_nil (type : TypeId) : table.IsFlat [] type :=
  fun _ _ _ _ _ _ argument _ => .inr (isFree_nil argument)

theorem showsPresent_of_present
    (h : ∀ entry ∈ instantiation, table.isNullish entry.2 = false) (type : TypeId) :
    table.ShowsPresent instantiation type :=
  fun _ _ _ _ _ _ _ hgiven => h _ (Instantiation.mem_of_argument?_eq_some hgiven)

theorem Suits.carried {part : TypeId} (h : table.Suits rule instantiation type)
    (hmem : part ∈ table.carriedTo instantiation type) : table.Suits rule instantiation part where
  flat inner hinner := h.flat inner (.head hmem hinner)
  same inner hinner := h.same inner (.head hmem hinner)

/-! ### Instantiations that give copies -/

/-- A parameter stands for nothing in either, or for copies. -/
theorem GivesCopies.argument?_cases (h : table.GivesCopies first second) (param : TypeId) :
    (first.argument? param = none ∧ second.argument? param = none) ∨
      ∃ argument other, first.argument? param = some argument ∧
        second.argument? param = some other ∧ table.Substituted [] argument other := by
  unfold Instantiation.argument?
  induction h with
  | nil => exact .inl ⟨rfl, rfl⟩
  | @cons given other _ _ hhead _ ih =>
    rw [List.find?_cons, List.find?_cons, hhead.1]
    cases given.1 == param with
    | true => exact .inr ⟨given.2, other.2, rfl, rfl, hhead.2⟩
    | false => exact ih

/-- Parameters are given copies where the arguments are copies. -/
theorem givesCopies_zip {arguments others : List TypeId} (params : List TypeId)
    (h : List.Forall₂ (table.Substituted []) arguments others) :
    table.GivesCopies (params.zip arguments) (params.zip others) := by
  induction h generalizing params with
  | nil => simp [GivesCopies]
  | cons hhead _ ih =>
    cases params with
    | nil => exact .nil
    | cons param params => exact .cons ⟨rfl, hhead⟩ (ih params)

/-- Copies are passed on to what a reference refers to. -/
theorem givesCopies_ofReference {target : TypeId} {arguments others : List TypeId}
    (h : List.Forall₂ (fun argument other => table.Substituted []
      ((first.argument? argument).getD argument) ((second.argument? other).getD other))
      arguments others) :
    table.GivesCopies (Instantiation.ofReference table target arguments first)
      (Instantiation.ofReference table target others second) :=
  givesCopies_zip _ (List.forall₂_map_left_iff.mpr (List.forall₂_map_right_iff.mpr h))

/-- The same reference within two instantiations that give copies. -/
theorem GivesCopies.ofReference (h : table.GivesCopies first second) (target : TypeId)
    (arguments : List TypeId) :
    table.GivesCopies (Instantiation.ofReference table target arguments first)
      (Instantiation.ofReference table target arguments second) := by
  refine givesCopies_ofReference (List.forall₂_same.mpr fun argument _ => ?_)
  rcases h.argument?_cases argument with ⟨hfirst, hsecond⟩ | ⟨given, other, hfirst, hsecond, hcopy⟩
  · simpa [hfirst, hsecond] using Substituted.refl argument
  · simpa [hfirst, hsecond] using hcopy

/-- **Flat arguments lose nothing**: a reference with the arguments put in passes on copies of what
is passed on with the instantiation. -/
theorem givesCopies_of_flat {target : TypeId} {arguments others : List TypeId}
    (hflat : ∀ argument ∈ arguments,
      (instantiation.argument? argument).isSome = true ∨ table.IsFree instantiation argument)
    (h : List.Forall₂ (table.Substituted instantiation) arguments others) :
    table.GivesCopies (Instantiation.ofReference table target arguments instantiation)
      (Instantiation.ofReference table target others []) := by
  refine givesCopies_ofReference (((List.forall₂_and_left _ _).mpr ⟨hflat, h⟩).imp ?_)
  rintro argument other ⟨hflat, hput⟩
  change table.Substituted [] _ other
  cases hgiven : instantiation.argument? argument with
  | some given => exact hput.of_given hgiven
  | none =>
    rw [hgiven] at hflat
    exact hput.of_isFree (hflat.resolve_left Bool.false_ne_true)

/-! ### One step of both walks -/

/-- A walk enters what a parameter stands for. -/
theorem placesAfter_of_given {argument : TypeId} (hparam : table.IsParameter type)
    (h : instantiation.argument? type = some argument) :
    table.placesAfter (instantiation, type) = [([], argument)] := by
  obtain ⟨name, bound, hentry⟩ := hparam
  simp [placesAfter, hentry, h]

/-- A reference to something that has no name goes on to it. -/
theorem placesAfter_of_not_isNamed {target : TypeId} {arguments : List TypeId}
    (hentry : table.get? type = some (.reference target arguments))
    (h : table.isNamed target = false) :
    table.placesAfter (instantiation, type) = [(instantiation, target)] := by
  unfold isNamed at h
  split at h <;> simp_all [placesAfter]

/-- Both walks go on to parts of the type. -/
theorem follows_carriedTo {parts others : List TypeId}
    (hsuits : table.Suits rule instantiation type)
    (hmem : ∀ part ∈ parts, part ∈ table.carriedTo instantiation type)
    (h : List.Forall₂ (table.Substituted instantiation) parts others) :
    List.Forall₂ (table.Follows rule instantiation) (parts.map (instantiation, ·))
      (others.map ([], ·)) := by
  rw [List.forall₂_map_left_iff, List.forall₂_map_right_iff]
  refine ((List.forall₂_and_left _ _).mpr ⟨hmem, h⟩).imp ?_
  rintro part other ⟨hpart, hput⟩
  exact .part (hsuits.carried hpart) hput

/-- Both walks go on to the same types. -/
theorem GivesCopies.follows (h : table.GivesCopies first second) (types : List TypeId) :
    List.Forall₂ (table.Follows rule instantiation) (types.map (first, ·))
      (types.map (second, ·)) := by
  rw [List.forall₂_map_left_iff, List.forall₂_map_right_iff, List.forall₂_same]
  exact fun _ _ => .within h

/-- **One step within the type**, where no parameter is entered. -/
theorem Substituted.forall₂_placesAfter (h : table.Substituted instantiation type seen)
    (hsuits : table.Suits rule instantiation type)
    (hnone : instantiation.argument? type = none) :
    List.Forall₂ (table.Follows rule instantiation) (table.placesAfter (instantiation, type))
      (table.placesAfter ([], seen)) := by
  have hnil : Instantiation.argument? [] seen = none := rfl
  rcases h.cases_parts hnone with ⟨hentry, hdata⟩ | ⟨entry, data, hentry, hdata, hform, hparts⟩
  · simp [placesAfter, hentry, hdata]
  cases hform with
  | any | unknown | never | primitive | array | tuple | function | object | foreign =>
    simp [placesAfter, hentry, hdata]
  | unbounded => simp [placesAfter, hentry, hdata, hnone, hnil]
  | declared declaration =>
    simpa [placesAfter, hentry, hdata] using GivesCopies.follows .nil declaration.supertypes
  | @reference target arguments others hnamed hlength =>
    simp only [partsOfEntry, hnamed, if_true] at hparts
    have hcopies := @givesCopies_of_flat _ _ target _ _
      (hsuits.flat type .refl target arguments hentry hnamed) hparts
    unfold isNamed at hnamed
    split at hnamed
    next declaration haim =>
      simpa [placesAfter, hentry, hdata, haim] using hcopies.follows declaration.supertypes
    next name params aliased haim =>
      simpa [placesAfter, hentry, hdata, haim] using hcopies.follows [aliased]
    next => simp at hnamed
  | @applied target other arguments others hnamed hother hlength =>
    simp only [partsOfEntry, hnamed, hother, Bool.false_eq_true, if_false] at hparts
    obtain ⟨htarget, -⟩ := List.forall₂_cons.mp hparts
    rw [placesAfter_of_not_isNamed hentry hnamed, placesAfter_of_not_isNamed hdata hother]
    exact follows_carriedTo hsuits (by simp [carriedTo, hentry, hnone, hnamed])
      (List.forall₂_cons.mpr ⟨htarget, .nil⟩)
  | «alias» | union | intersection =>
    simp only [partsOfEntry] at hparts
    simpa [placesAfter, hentry, hdata] using
      follows_carriedTo hsuits (by simp [carriedTo, hentry, hnone]) hparts
  | bounded =>
    simp only [partsOfEntry, Option.toList_some] at hparts
    simpa [placesAfter, hentry, hdata, hnone, hnil] using
      follows_carriedTo hsuits (by simp [carriedTo, hentry, hnone]) hparts

/-- **One step within what a type refers to.** -/
theorem GivesCopies.forall₂_placesAfter (hcopies : ∀ type, table.Suits rule [] type)
    (h : table.GivesCopies first second) (type : TypeId) :
    List.Forall₂ (table.Follows rule []) (table.placesAfter (first, type))
      (table.placesAfter (second, type)) := by
  cases hentry : table.get? type with
  | none => simp [placesAfter, hentry]
  | some entry =>
    cases entry with
    | reference target arguments =>
      have hinner := h.ofReference target arguments
      cases haim : table.get? target with
      | none => simpa [placesAfter, hentry, haim] using h.follows [target]
      | some aim =>
        cases aim with
        | declared declaration =>
          simpa [placesAfter, hentry, haim] using hinner.follows declaration.supertypes
        | «alias» name params aliased =>
          simpa [placesAfter, hentry, haim] using hinner.follows [aliased]
        | _ => simpa [placesAfter, hentry, haim] using h.follows [target]
    | parameter name bound =>
      rcases h.argument?_cases type with
        ⟨hfirst, hsecond⟩ | ⟨argument, other, hfirst, hsecond, hcopy⟩
      · cases bound with
        | none => simp [placesAfter, hentry, hfirst, hsecond]
        | some bound => simpa [placesAfter, hentry, hfirst, hsecond] using h.follows [bound]
      · simpa [placesAfter, hentry, hfirst, hsecond] using Follows.part (hcopies argument) hcopy
    | declared declaration =>
      simpa [placesAfter, hentry] using GivesCopies.follows .nil declaration.supertypes
    | «alias» name params target => simpa [placesAfter, hentry] using h.follows [target]
    | union members | intersection members =>
      simpa [placesAfter, hentry] using h.follows members
    | _ => simp [placesAfter, hentry]

/-! ### Rules -/

/-- Members of the same names and kinds have a method `subscribe`, or have none. -/
theorem hasSubscribe_eq {members others : List (Member TypeId)}
    (h : List.Forall₂ (fun member other => other.name = member.name ∧ other.kind = member.kind)
      members others) : hasSubscribe members = hasSubscribe others := by
  unfold hasSubscribe
  induction h with
  | nil => rfl
  | cons hhead _ ih => rw [List.any_cons, List.any_cons, ih, hhead.1, hhead.2]

theorem isStreamAt_of_not_isNamed {target : TypeId} {arguments : List TypeId}
    (hentry : table.get? type = some (.reference target arguments))
    (h : table.isNamed target = false) : table.isStreamAt type = false := by
  unfold isNamed at h
  split at h <;> simp_all [isStreamAt]

theorem referenceRule_of_not_isNamed {target : TypeId} {arguments : List TypeId}
    (hentry : table.get? type = some (.reference target arguments))
    (h : table.isNamed target = false) : table.referenceRule type = .always := by
  unfold isNamed at h
  split at h <;> simp_all [referenceRule]

/-- The rule of the walk for streams looks at what has not been put in. -/
theorem suits_streamRule (hflat : table.IsFlat instantiation type) :
    table.Suits table.streamRule instantiation type := by
  refine ⟨hflat, fun part _ hnone seen h => ?_⟩
  have hsame : table.isStreamAt part = table.isStreamAt seen := by
    rcases h.cases_parts hnone with ⟨hentry, hdata⟩ | ⟨entry, data, hentry, hdata, hform, -⟩
    · simp [isStreamAt, hentry, hdata]
    cases hform with
    | applied hnamed hother =>
      rw [isStreamAt_of_not_isNamed hentry hnamed, isStreamAt_of_not_isNamed hdata hother]
    | object h => simp [isStreamAt, hentry, hdata, hasSubscribe_eq h]
    | _ => simp [isStreamAt, hentry, hdata]
  rw [streamRule, streamRule, hsame]

/-- Absence is seen at a copy, and in place of a parameter that stands for something present there
is none to be seen. -/
theorem Substituted.isNullish_eq (h : table.Substituted instantiation type seen)
    (hparams : ∀ entry ∈ instantiation, table.IsParameter entry.1)
    (hpresent : ∀ argument, instantiation.argument? type = some argument →
      table.isNullish argument = false) : table.isNullish type = table.isNullish seen := by
  have hput : ∀ {instantiation : Instantiation} {type : TypeId},
      table.Substituted instantiation type seen → instantiation.argument? type = none →
      table.isNullish type = table.isNullish seen := by
    intro instantiation type h hnone
    rcases h.cases_parts hnone with ⟨hentry, hdata⟩ | ⟨entry, data, hentry, hdata, hform, -⟩
    · simp [isNullish, hentry, hdata]
    · cases hform <;> simp [isNullish, hentry, hdata]
  cases hgiven : instantiation.argument? type with
  | none => exact hput h hgiven
  | some argument =>
    obtain ⟨name, bound, hentry⟩ := hparams _ (Instantiation.mem_of_argument?_eq_some hgiven)
    rw [← hput (h.of_given hgiven) rfl, hpresent argument hgiven]
    simp [isNullish, hentry]

/-- The rule of the walk for reference types looks at the members of unions before parameters among
them are replaced. -/
theorem suits_referenceRule (hparams : ∀ entry ∈ instantiation, table.IsParameter entry.1)
    (hflat : table.IsFlat instantiation type) (hpresent : table.ShowsPresent instantiation type) :
    table.Suits table.referenceRule instantiation type := by
  refine ⟨hflat, fun part hpart hnone seen h => ?_⟩
  rcases h.cases_parts hnone with ⟨hentry, hdata⟩ | ⟨entry, data, hentry, hdata, hform, hparts⟩
  · simp [referenceRule, hentry, hdata]
  cases hform with
  | applied hnamed hother =>
    rw [referenceRule_of_not_isNamed hentry hnamed, referenceRule_of_not_isNamed hdata hother]
  | @union members others =>
    have habsent : members.map table.isNullish = others.map table.isNullish := by
      rw [← List.forall₂_eq_eq_eq, List.forall₂_map_left_iff, List.forall₂_map_right_iff]
      refine ((List.forall₂_and_left _ _).mpr ⟨hpresent part members hpart hentry, hparts⟩).imp ?_
      exact fun _ _ hmember => hmember.2.isNullish_eq hparams hmember.1
    simp [referenceRule, hentry, hdata, habsent]
  | _ => simp [referenceRule, hentry, hdata]

/-! ### Both searches -/

/-- **Copies are searched alike.** -/
theorem searchWithin_eq_of_copies (hcopies : ∀ type, table.Suits rule [] type)
    {place other : WalkPlace} (h : table.Follows rule [] place other) (steps : Nat) :
    table.searchWithin rule steps place = table.searchWithin rule steps other := by
  induction steps generalizing place other with
  | zero => rfl
  | succ steps ih =>
    have hstep : rule place.2 = rule other.2 ∧ List.Forall₂ (table.Follows rule [])
        (table.placesAfter place) (table.placesAfter other) := by
      cases h with
      | part hsuits h => exact ⟨hsuits.same _ .refl rfl _ h, h.forall₂_placesAfter hsuits rfl⟩
      | within h => exact ⟨rfl, h.forall₂_placesAfter hcopies _⟩
    have hanswers : (table.placesAfter place).map (table.searchWithin rule steps) =
        (table.placesAfter other).map (table.searchWithin rule steps) := by
      rw [← List.forall₂_eq_eq_eq, List.forall₂_map_left_iff, List.forall₂_map_right_iff]
      exact hstep.2.imp fun _ _ => ih
    rw [searchWithin, searchWithin, hstep.1, hanswers]

/-- **The search with the instantiation and the search with the arguments put in** find the same,
but for a step that the first one needs to enter what a parameter stands for. -/
theorem searchWithin_of_follows (hcopies : ∀ type, table.Suits rule [] type)
    (hparams : ∀ entry ∈ instantiation, table.IsParameter entry.1 ∧ rule entry.1 = .anyOf)
    {place other : WalkPlace} (h : table.Follows rule instantiation place other) (steps : Nat) :
    (table.searchWithin rule steps other = true →
        table.searchWithin rule (steps + 1) place = true) ∧
      (table.searchWithin rule steps place = true →
        table.searchWithin rule steps other = true) := by
  induction steps generalizing place other with
  | zero => exact ⟨by simp [searchWithin], by simp [searchWithin]⟩
  | succ steps ih =>
    cases h with
    | @within first second type h =>
      have hwithin : table.Follows rule [] (first, type) (second, type) := .within h
      have hsame := searchWithin_eq_of_copies hcopies hwithin (steps + 1)
      rw [← hsame]
      exact ⟨searchWithin_mono (Nat.le_succ _) _, id⟩
    | @part type seen hsuits h =>
      cases hgiven : instantiation.argument? type with
      | some argument =>
        -- the walk with the instantiation enters the argument, which is a copy of what is seen
        obtain ⟨hparam, hanyOf⟩ := hparams _ (Instantiation.mem_of_argument?_eq_some hgiven)
        have henter : ∀ steps, table.searchWithin rule (steps + 1) (instantiation, type) =
            table.searchWithin rule steps ([], seen) := by
          intro steps
          rw [← searchWithin_eq_of_copies hcopies (.part (hcopies argument) (h.of_given hgiven)),
            searchWithin, placesAfter_of_given hparam hgiven, hanyOf]
          simp [AnswerRule.judge]
        rw [henter, henter]
        exact ⟨id, searchWithin_mono (Nat.le_succ steps) _⟩
      | none =>
        have hafter := h.forall₂_placesAfter hsuits hgiven
        have hrule := hsuits.same type .refl hgiven seen h
        rw [searchWithin, searchWithin, searchWithin, hrule]
        constructor
        · exact AnswerRule.judge_map_mono (hafter.flip.imp fun _ _ h => (ih h).1)
        · exact AnswerRule.judge_map_mono (hafter.imp fun _ _ h => (ih h).2)

/-- **A reference to a generic alias** is searched like the aliased type with the arguments put
in, where nothing is given up on. -/
theorem Expands.searchWithin_eq {params arguments : List TypeId} {body : TypeId}
    (h : table.Expands params arguments body type seen)
    (hcopies : ∀ type, table.Suits rule [] type)
    (hsuits : table.Suits rule (params.zip arguments) body) (hrule : rule type = .anyOf)
    (hparams : ∀ param, table.IsParameter param → rule param = .anyOf) {depth : Nat}
    (hends : table.EndsWithin depth ([], type)) :
    table.searchWithin rule (depth + 1) ([], type) =
      table.searchWithin rule (depth + 1) ([], seen) := by
  obtain ⟨generic, name, hentry, halias⟩ := h.entries
  have henter : ∀ steps, table.searchWithin rule (steps + 1) ([], type) =
      table.searchWithin rule steps (params.zip arguments, body) := by
    intro steps
    have hnil : ∀ argument, (Instantiation.argument? [] argument).getD argument = argument :=
      fun _ => rfl
    simp [searchWithin, placesAfter, hentry, halias, hrule, AnswerRule.judge,
      Instantiation.ofReference, hnil]
  have hgiven : ∀ entry ∈ params.zip arguments,
      table.IsParameter entry.1 ∧ rule entry.1 = .anyOf := by
    intro entry hmem
    have hparam := h.parameters _ (List.of_mem_zip hmem).1
    exact ⟨hparam, hparams _ hparam⟩
  have hfollows := searchWithin_of_follows hcopies hgiven (.part hsuits h.substituted)
  rw [Bool.eq_iff_iff]
  constructor
  · intro htype
    rw [henter] at htype
    exact searchWithin_mono (Nat.le_succ depth) _ ((hfollows depth).2 htype)
  · intro hseen
    -- two steps more than the depth change nothing
    have hmore := (hfollows (depth + 1)).1 hseen
    rwa [← henter, searchWithin_settled hends (show depth < depth + 3 by omega)] at hmore

/-- A parameter goes on to what it stands for. -/
theorem IsParameter.rules_eq (h : table.IsParameter type) :
    table.streamRule type = .anyOf ∧ table.referenceRule type = .anyOf := by
  obtain ⟨name, bound, hentry⟩ := h
  simp [streamRule, isStreamAt, referenceRule, hentry]

/-- A reference to an alias goes on to the aliased type. -/
theorem Expands.rules_eq {params arguments : List TypeId} {body : TypeId}
    (h : table.Expands params arguments body type seen) :
    table.streamRule type = .anyOf ∧ table.referenceRule type = .anyOf := by
  obtain ⟨generic, name, hentry, halias⟩ := h.entries
  simp [streamRule, isStreamAt, referenceRule, hentry, halias]

end TypeTable

/-! ### Fresh oracles -/

namespace Oracle

/-- **Instantiation is substitution**, as far as arguments are flat. Where nothing is given up on, a
fresh oracle says of a reference to a generic alias that it could be a stream if and only if it says
so of the aliased type with the arguments put in. It says the same of both about reference types as
well, if no parameter that is a member of a union stands for the absence of a value. -/
theorem freshAnswer_eq_of_expands (model : FileModel) (maxDepth : Nat)
    {params arguments : List TypeId} {body type seen : TypeId}
    (h : model.types.Expands params arguments body type seen)
    (hflat : model.types.IsFlat (params.zip arguments) body)
    (hends : model.types.EndsWithin maxDepth ([], type)) :
    freshAnswer model maxDepth (.observableType type) =
        freshAnswer model maxDepth (.observableType seen) ∧
      (model.types.ShowsPresent (params.zip arguments) body → ∀ node other,
        model.typeAt? node = some type → model.typeAt? other = some seen →
          freshAnswer model maxDepth (.reference node) =
            freshAnswer model maxDepth (.reference other)) := by
  constructor
  · rw [freshAnswer_eq, freshAnswer_eq]
    simp only [FileModel.answer, TypeTable.mayBeObservable_eq_search]
    exact h.searchWithin_eq (fun type => TypeTable.suits_streamRule (TypeTable.isFlat_nil type))
      (TypeTable.suits_streamRule hflat) h.rules_eq.1 (fun _ hparam => hparam.rules_eq.1) hends
  · intro hpresent node other hnode hother
    rw [freshAnswer_reference hnode, freshAnswer_reference hother,
      TypeTable.isReference_eq_search, TypeTable.isReference_eq_search]
    have hgiven : ∀ entry ∈ params.zip arguments, model.types.IsParameter entry.1 :=
      fun entry hmem => h.parameters _ (List.of_mem_zip hmem).1
    exact h.searchWithin_eq
      (fun type => TypeTable.suits_referenceRule (by simp) (TypeTable.isFlat_nil type)
        (TypeTable.showsPresent_of_present (by simp) type))
      (TypeTable.suits_referenceRule hgiven hflat hpresent) h.rules_eq.2
      (fun _ hparam => hparam.rules_eq.2) hends

/-- The aliases `type Id<T> = T` and `type Either<U, V> = Id<U> | V | undefined`, the reference
`Either<Observable, {}>`, which is the type of node 0, and `Id<Observable> | {} | undefined`, which
is the type of all other nodes. -/
def either : FileModel where
  types := ⟨TypeTable.intrinsics ++
    #[.foreign "Observable" [], .parameter "T" none, .alias "Id" [12] 12, .parameter "U" none,
      .parameter "V" none, .reference 13 [14], .union [16, 15, 9], .alias "Either" [14, 15] 17,
      .object [], .reference 18 [11, 19], .reference 13 [11], .union [21, 19, 9]]⟩
  typeOf? node := some (if node = 0 then 20 else 22)
  symbolOf? _ := none
  symbolType? _ := none

theorem expands_either : either.types.Expands [14, 15] [11, 19] 17 20 22 where
  entries := ⟨18, "Either", rfl, rfl⟩
  given := rfl
  parameters := by
    intro param hmem
    rcases List.mem_pair.mp hmem with rfl | rfl
    · exact ⟨"U", none, rfl⟩
    · exact ⟨"V", none, rfl⟩
  substituted := by
    have hid : either.types.Substituted [(14, 11), (15, 19)] 16 21 :=
      .of_parts rfl rfl rfl (.reference rfl rfl) (.cons (.given rfl (.refl 11)) .nil)
    have hundefined : either.types.Substituted [(14, 11), (15, 19)] 9 9 :=
      .of_parts rfl rfl rfl (.refl _) .nil
    exact .of_parts rfl rfl rfl (.union rfl)
      (.cons hid (.cons (.given rfl (.refl 19)) (.cons hundefined .nil)))

theorem carriedTo_either (part : TypeId)
    (h : either.types.IsCarriedTo [(14, 11), (15, 19)] 17 part) : part ∈ [17, 16, 15, 9] := by
  have hclosed : ∀ type ∈ [17, 16, 15, 9],
      ∀ next ∈ either.types.carriedTo [(14, 11), (15, 19)] type, next ∈ [17, 16, 15, 9] := by decide
  induction h with
  | refl => decide
  | tail _ hmem ih => exact hclosed _ ih _ hmem

theorem isFlat_either : either.types.IsFlat [(14, 11), (15, 19)] 17 := by
  have hentries : ∀ part ∈ [17, 16, 15, 9], either.types.get? part ∈
      [some (.union [16, 15, 9]), some (.reference 13 [14]), some (.parameter "V" none),
        some (.primitive .undefined)] := by decide
  intro part hpart target arguments hentry _ argument hmem
  have hlisted := hentries part (carriedTo_either part hpart)
  rw [hentry] at hlisted
  obtain ⟨-, rfl⟩ : target = 13 ∧ arguments = [14] := by simpa using hlisted
  obtain rfl := List.mem_singleton.mp hmem
  exact .inl rfl

/-- The reference and the union are streams, and reference types. -/
theorem freshAnswer_eq_of_expands_either :
    either.types.EndsWithin 6 ([], 20) ∧
      (freshAnswer either 6 (.observableType 20) = true ∧
        freshAnswer either 6 (.observableType 20) = freshAnswer either 6 (.observableType 22)) ∧
      freshAnswer either 6 (.reference 0) = true ∧
      freshAnswer either 6 (.reference 0) = freshAnswer either 6 (.reference 1) := by
  have hends : either.types.EndsWithin 6 ([], 20) := by decide
  obtain ⟨hobservable, hreference⟩ :=
    freshAnswer_eq_of_expands either 6 expands_either isFlat_either hends
  exact ⟨hends, ⟨by decide, hobservable⟩, by decide,
    hreference (TypeTable.showsPresent_of_present (by decide) 17) 0 1 rfl rfl⟩

/-- The aliases `type Id<T> = T`, `type Wrap<U> = Id<U | undefined>` and
`type OrStream<V> = V | Observable`; the references `Wrap<Observable>` and `OrStream<null>`, each
followed by the aliased type with the arguments put in. Node 0 has the type `OrStream<null>`, all
other nodes have the type `null | Observable`. -/
def wrap : FileModel where
  types := ⟨TypeTable.intrinsics ++
    #[.foreign "Observable" [], .parameter "T" none, .alias "Id" [12] 12, .parameter "U" none,
      .union [14, 9], .reference 13 [15], .alias "Wrap" [14] 16, .reference 17 [11],
      .union [11, 9], .reference 13 [19],
      .parameter "V" none, .union [21, 11], .alias "OrStream" [21] 22, .reference 23 [10],
      .union [10, 11]]⟩
  typeOf? node := some (if node = 0 then 24 else 25)
  symbolOf? _ := none
  symbolType? _ := none

theorem expands_wrap : wrap.types.Expands [14] [11] 16 18 20 where
  entries := ⟨17, "Wrap", rfl, rfl⟩
  given := rfl
  parameters := by simpa using ⟨"U", none, rfl⟩
  substituted := by
    have hundefined : wrap.types.Substituted [(14, 11)] 9 9 :=
      .of_parts rfl rfl rfl (.refl _) .nil
    have hunion : wrap.types.Substituted [(14, 11)] 15 19 :=
      .of_parts rfl rfl rfl (.union rfl) (.cons (.given rfl (.refl 11)) (.cons hundefined .nil))
    exact .of_parts rfl rfl rfl (.reference rfl rfl) (.cons hunion .nil)

theorem expands_orStream : wrap.types.Expands [21] [10] 22 24 25 where
  entries := ⟨23, "OrStream", rfl, rfl⟩
  given := rfl
  parameters := by simpa using ⟨"V", none, rfl⟩
  substituted := by
    have hstream : wrap.types.Substituted [(21, 10)] 11 11 :=
      .of_parts rfl rfl rfl (.refl _) .nil
    exact .of_parts rfl rfl rfl (.union rfl) (.cons (.given rfl (.refl 10)) (.cons hstream .nil))

/-- **Arguments that are not flat get lost**, and an absence that is put in for a parameter is not
left out: `Wrap<Observable>` is found to be no stream, unlike `Id<Observable | undefined>`, and
`OrStream<null>` is found to be no reference type, unlike `null | Observable`. -/
theorem not_freshAnswer_eq_of_expands :
    (¬ ∀ (model : FileModel) (maxDepth : Nat) (params arguments : List TypeId)
      (body type seen : TypeId), model.types.Expands params arguments body type seen →
      model.types.EndsWithin maxDepth ([], type) → model.types.EndsWithin maxDepth ([], seen) →
      freshAnswer model maxDepth (.observableType type) =
        freshAnswer model maxDepth (.observableType seen)) ∧
    ¬ ∀ (model : FileModel) (maxDepth : Nat) (params arguments : List TypeId)
      (body type seen : TypeId), model.types.Expands params arguments body type seen →
      model.types.EndsWithin maxDepth ([], type) → model.types.EndsWithin maxDepth ([], seen) →
      ∀ node other, model.typeAt? node = some type → model.typeAt? other = some seen →
        freshAnswer model maxDepth (.reference node) =
          freshAnswer model maxDepth (.reference other) := by
  constructor
  · intro hall
    have hsame := hall wrap 32 [14] [11] 16 18 20 expands_wrap (by decide) (by decide)
    exact absurd hsame (by decide)
  · intro hall
    have hsame := hall wrap 32 [21] [10] 22 24 25 expands_orStream (by decide) (by decide) 0 1
      rfl rfl
    exact absurd hsame (by decide)

end Oracle

end StreamLint
