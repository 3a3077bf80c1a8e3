import StreamLint.Proofs.Model.Lookup
import StreamLint.Proofs.Oracle.Parts
/-!
# Reading from types that differ in arguments

Two types may differ in that the second one has arguments where generic parameters stand in the
first one (`StreamLint.TypeTable.Filled`). What is read from them should differ in the same way: a
member of the second type is the member of the first one, with the arguments put in.

That is so as long as the search does not come to one of the parameters itself
(`StreamLint.TypeTable.Avoids`). A parameter has no members, and the argument for it may have some;
but where the search stops before it comes to a parameter, both types look the same to it
(`StreamLint.TypeTable.AreAlike`). The two searches then go side by side, and what they find is
related as the types are, but for unions: where results are joined, a copy of a type need not be
taken for the type that it is a copy of (`StreamLint.TypeTable.Describes`).

The main statement is `StreamLint.TypeTable.Reads.describes`.
-/

namespace StreamLint

open Relation (ReflTransGen)

/-- **Two searches for a first answer** find related ones, if the answers to each two things are
related. -/
theorem FirstOf.rel {α β : Type} {answers : α → Option TypeId → Prop}
    {answers' : β → Option TypeId → Prop} {rel : TypeId → TypeId → Prop} {things : List α}
    {others : List β} {value? other? : Option TypeId} (h : FirstOf answers things value?)
    (h' : FirstOf answers' others other?)
    (hrel : List.Forall₂ (fun thing other => ∀ value? other?, answers thing value? →
      answers' other other? → Option.Rel rel value? other?) things others) :
    Option.Rel rel value? other? := by
  induction hrel generalizing value? other? with
  | nil =>
    cases h
    cases h'
    exact .none
  | cons hfirst _ ih =>
    cases h with
    | found h =>
      cases h' with
      | found h' => exact hfirst _ _ h h'
      | next h' => cases hfirst _ _ h h'
    | next h hrest =>
      cases h' with
      | found h' => cases hfirst _ _ h h'
      | next h' hrest' => exact ih hrest hrest'

/-- Answers about things that are related in pairs are related themselves. -/
theorem forall₂_answers {α β : Type} {answers : α → Option TypeId → Prop}
    {answers' : β → Option TypeId → Prop} {rel : Option TypeId → Option TypeId → Prop}
    {things : List α} {others : List β} {values values' : List (Option TypeId)}
    (hrel : List.Forall₂ (fun thing other => ∀ value? other?, answers thing value? →
      answers' other other? → rel value? other?) things others)
    (h : List.Forall₂ answers things values) (h' : List.Forall₂ answers' others values') :
    List.Forall₂ rel values values' := by
  induction hrel generalizing values values' with
  | nil =>
    cases h
    cases h'
    exact .nil
  | cons hfirst _ ih =>
    obtain ⟨_, _, hvalue, hvalues, rfl⟩ := List.forall₂_cons_left_iff.mp h
    obtain ⟨_, _, hvalue', hvalues', rfl⟩ := List.forall₂_cons_left_iff.mp h'
    exact .cons (hfirst _ _ hvalue hvalue') (ih hvalues hvalues')

namespace TypeTable

variable (table : TypeTable)

/-- **The second place holds the type at the first one, with arguments in place of some
parameters.** What is at the same place may be left as it is, whatever parameters stand in it. -/
inductive Filled (instantiation : Instantiation) : TypeId → TypeId → Prop where
  /-- A type is left as it is. -/
  | same {type : TypeId} : Filled instantiation type type
  /-- An argument stands where the parameter stood, or a copy of it. -/
  | given {param argument seen : TypeId} (h : instantiation.argument? param = some argument)
    (hseen : table.Substituted [] argument seen) : Filled instantiation param seen
  /-- The type is put together again of its parts. -/
  | rebuilt {type seen : TypeId} {entry data : TypeEntry} (hentry : table.get? type = some entry)
    (hdata : table.get? seen = some data) (hform : table.SameForm entry data)
    (hparts : ∀ pair ∈ (table.partsOfEntry entry).zip (table.partsOfEntry data),
      Filled instantiation pair.1 pair.2) : Filled instantiation type seen

/-- **The second type is described by the first one with arguments in place of some parameters**:
the arguments are put in, or both are joined of types that are related so. -/
inductive Describes (instantiation : Instantiation) : TypeId → TypeId → Prop where
  /-- The arguments are put in. -/
  | filled {type seen : TypeId} (h : table.Filled instantiation type seen) :
    Describes instantiation type seen
  /-- Both are joins. -/
  | joined {type seen : TypeId} {types others : List TypeId}
    (hlength : types.length = others.length)
    (hparts : ∀ pair ∈ types.zip others, Describes instantiation pair.1 pair.2)
    (htype : table.JoinOf types (some type)) (hseen : table.JoinOf others (some seen)) :
    Describes instantiation type seen

/-- **Reading from the type looks at the other one** as well. -/
inductive LooksAt : Access → TypeId → TypeId → Prop where
  /-- The type stands for the other one. -/
  | next {access : Access} {type next : TypeId} (h : table.standsFor? type = some next) :
    LooksAt access type next
  /-- A union is called by calling its members. -/
  | called {type member : TypeId} {members : List TypeId}
    (h : table.get? type = some (.union members)) (hmem : member ∈ members) :
    LooksAt .result type member
  /-- A member of a union is looked for in its members. -/
  | union {name : String} {type member : TypeId} {members : List TypeId}
    (h : table.get? type = some (.union members)) (hmem : member ∈ members) :
    LooksAt (.member name) type member
  /-- So is one of an intersection. -/
  | intersection {name : String} {type member : TypeId} {members : List TypeId}
    (h : table.get? type = some (.intersection members)) (hmem : member ∈ members) :
    LooksAt (.member name) type member
  /-- A member of a reference is one of what it refers to. -/
  | target {name : String} {type target : TypeId} {arguments : List TypeId}
    (h : table.get? type = some (.reference target arguments)) : LooksAt (.member name) type target
  /-- A class or interface without such a member has it from a supertype, seen through the
  arguments. -/
  | supertype {name : String} {type : TypeId} {declaration : NominalType} {arguments : List TypeId}
    {depth : Nat} {supertype seen : TypeId}
    (h : table.get? type = some (.declared declaration) ∧ arguments = [] ∨
      ∃ target base, table.get? type = some (.reference target arguments) ∧
        table.StandsFor target base ∧ table.get? base = some (.declared declaration))
    (hnone : declaration.members.find? (·.name == name) = none)
    (hmem : supertype ∈ declaration.supertypes)
    (hseen : table.Instance declaration.params arguments depth supertype seen) :
    LooksAt (.member name) type seen

/-- **Reading from the type comes to no parameter that is instantiated.** -/
def Avoids (instantiation : Instantiation) (access : Access) (type : TypeId) : Prop :=
  ∀ part, ReflTransGen (table.LooksAt access) type part → instantiation.argument? part = none

/-- **The types look alike while the first one is read from**: they differ in the arguments, and
reading comes to none of the places where those are put in. -/
structure AreAlike (instantiation : Instantiation) (access : Access) (type seen : TypeId) :
    Prop where
  /-- Arguments are put in. -/
  filled : table.Filled instantiation type seen
  /-- Reading stops before it comes to one. -/
  avoids : table.Avoids instantiation access type

variable {table} {instantiation : Instantiation} {access : Access} {type seen : TypeId}
  {entry data : TypeEntry}

/-! ### Types with arguments in place of parameters -/

theorem Filled.of_substituted (h : table.Substituted instantiation type seen) :
    table.Filled instantiation type seen := by
  induction h with
  | given h hseen => exact .given h hseen
  | kept => exact .same
  | rebuilt _ hentry hdata hform _ ih => exact .rebuilt hentry hdata hform ih

theorem Filled.of_parts (hentry : table.get? type = some entry)
    (hdata : table.get? seen = some data) (hform : table.SameForm entry data)
    (hparts : List.Forall₂ (table.Filled instantiation) (table.partsOfEntry entry)
      (table.partsOfEntry data)) : table.Filled instantiation type seen :=
  .rebuilt hentry hdata hform fun _ hpair => (List.forall₂_iff_zip.mp hparts).2 hpair

/-- **Part by part**: a type that is no parameter has the form of the other one, unless there is no
type at either place. -/
theorem Filled.cases_parts (h : table.Filled instantiation type seen)
    (hnone : instantiation.argument? type = none) :
    (table.get? type = none ∧ table.get? seen = none) ∨
      ∃ entry data, table.get? type = some entry ∧ table.get? seen = some data ∧
        table.SameForm entry data ∧ List.Forall₂ (table.Filled instantiation)
          (table.partsOfEntry entry) (table.partsOfEntry data) := by
  cases h with
  | same =>
    cases hentry : table.get? type with
    | none => exact .inl ⟨rfl, rfl⟩
    | some entry =>
      exact .inr ⟨entry, entry, rfl, rfl, .refl entry, List.forall₂_same.mpr fun _ _ => .same⟩
  | given h => simp [hnone] at h
  | rebuilt hentry hdata hform hparts =>
    exact .inr ⟨_, _, hentry, hdata, hform, List.forall₂_iff_zip.mpr
      ⟨hform.length_parts, fun hpair => hparts _ hpair⟩⟩

/-- Where no parameter stands, the types are copies. -/
theorem Filled.of_isFree (h : table.Filled instantiation type seen)
    (hfree : table.IsFree instantiation type) : table.Substituted [] type seen := by
  induction h with
  | same => exact .refl _
  | given h => simp [hfree.argument?_eq_none] at h
  | rebuilt hentry hdata hform _ ih =>
    refine .rebuilt rfl hentry hdata hform fun pair hpair => ih pair hpair (hfree.part ?_)
    exact ⟨_, hentry, (List.of_mem_zip hpair).1⟩

/-- Related lists have related members at each place, or none. -/
theorem forall₂_getD {rel : TypeId → TypeId → Prop} {types others : List TypeId}
    (default : TypeId) (h : List.Forall₂ rel types others) (hdefault : rel default default)
    (index : Nat) : rel (types[index]?.getD default) (others[index]?.getD default) := by
  induction h generalizing index with
  | nil => exact hdefault
  | cons hfirst _ ih =>
    cases index with
    | zero => exact hfirst
    | succ index => simpa only [List.getElem?_cons_succ] using ih index

/-- References to one type, with arguments that differ. -/
theorem Filled.of_references {target : TypeId} {arguments others : List TypeId}
    (hentry : table.get? type = some (.reference target arguments))
    (hdata : table.get? seen = some (.reference target others))
    (h : List.Forall₂ (table.Filled instantiation) arguments others) :
    table.Filled instantiation type seen := by
  cases hnamed : table.isNamed target with
  | true =>
    refine .of_parts hentry hdata (.reference hnamed h.length_eq) ?_
    simpa only [partsOfEntry, hnamed, if_true] using h
  | false =>
    refine .of_parts hentry hdata (.applied hnamed hnamed h.length_eq) ?_
    simpa only [partsOfEntry, hnamed, Bool.false_eq_true, if_false] using .cons .same h

/-- Two types that are put together in the same way as a third one. -/
theorem Filled.of_alike {rel rel' : TypeId → TypeId → Prop} {other : TypeEntry}
    (hfilled : ∀ part type seen, rel part type → rel' part seen →
      table.Filled instantiation type seen)
    (h : other.Alike rel entry) (h' : other.Alike rel' data) (hentry : table.get? type = some entry)
    (hdata : table.get? seen = some data) : table.Filled instantiation type seen := by
  have hall : ∀ {parts types others : List TypeId}, List.Forall₂ rel parts types →
      List.Forall₂ rel' parts others → List.Forall₂ (table.Filled instantiation) types others := by
    intro parts types others hrel
    induction hrel generalizing others with
    | nil =>
      rintro ⟨⟩
      exact .nil
    | cons hfirst _ ih =>
      rintro (_ | ⟨hfirst', hrest'⟩)
      exact .cons (hfilled _ _ _ hfirst hfirst') (ih hrest')
  cases h with
  | reference hparts =>
    cases h' with
    | reference hparts' => exact .of_references hentry hdata (hall hparts hparts')
  | union hparts =>
    cases h' with
    | union hparts' =>
      have hparts := hall hparts hparts'
      exact .of_parts hentry hdata (.union hparts.length_eq) hparts
  | intersection hparts =>
    cases h' with
    | intersection hparts' =>
      have hparts := hall hparts hparts'
      exact .of_parts hentry hdata (.intersection hparts.length_eq) hparts
  | array hpart =>
    cases h' with
    | array hpart' =>
      exact .of_parts hentry hdata .array (.cons (hfilled _ _ _ hpart hpart') .nil)
  | function hpart =>
    cases h' with
    | function hpart' =>
      exact .of_parts hentry hdata .function (.cons (hfilled _ _ _ hpart hpart') .nil)

/-- Arguments are put into a type that is seen through arguments where they are put into those. -/
theorem Filled.of_instance {params arguments others : List TypeId}
    (harguments : List.Forall₂ (table.Filled instantiation) arguments others) {depth : Nat}
    {part : TypeId} (h : table.Instance params arguments depth part type)
    (h' : table.Instance params others depth part seen) : table.Filled instantiation type seen := by
  induction depth generalizing part type seen with
  | zero =>
    obtain rfl := h
    obtain rfl := h'
    exact .same
  | succ depth ih =>
    unfold Instance at h h'
    split at h
    next index hindex =>
      rw [hindex] at h'
      obtain rfl := h
      obtain rfl := h'
      exact forall₂_getD _ harguments .same index
    next hindex =>
      rw [hindex] at h'
      rcases h with ⟨entry, data, hentry, halike, hdata⟩ | ⟨rfl, hclosed⟩ <;>
        rcases h' with ⟨entry', data', hentry', halike', hdata'⟩ | ⟨rfl, hclosed'⟩
      · obtain rfl := Option.some.inj (hentry.symm.trans hentry')
        have hparts : ∀ part type seen, table.Instance params arguments depth part type →
            table.Instance params others depth part seen → table.Filled instantiation type seen :=
          fun _ _ _ => ih
        exact .of_alike hparts halike halike' hdata hdata'
      · exact absurd ((hclosed' _ hentry).symm.trans halike.isOpen.1) (by simp)
      · exact absurd ((hclosed _ hentry').symm.trans halike'.isOpen.1) (by simp)
      · exact .same

/-! ### Types that are followed -/

theorem standsFor_shapeWithin (table : TypeTable) (steps : Nat) (type : TypeId) :
    table.StandsFor type (table.shapeWithin steps type) := by
  induction steps generalizing type with
  | zero => exact .refl
  | succ steps ih =>
    unfold shapeWithin
    split
    next next hnext => exact .head hnext (ih next)
    next => exact .refl

namespace AreAlike

theorem argument?_eq_none (h : table.AreAlike instantiation access type seen) :
    instantiation.argument? type = none :=
  h.avoids type .refl

/-- What reading goes on to looks alike as well. -/
theorem looksAt (h : table.AreAlike instantiation access type seen) {next other : TypeId}
    (hnext : table.LooksAt access type next) (hfilled : table.Filled instantiation next other) :
    table.AreAlike instantiation access next other :=
  ⟨hfilled, fun part hpart => h.avoids part (.head hnext hpart)⟩

/-- So do all the parts that reading goes on to. -/
theorem parts (h : table.AreAlike instantiation access type seen) {parts others : List TypeId}
    (hmem : ∀ part ∈ parts, table.LooksAt access type part)
    (hparts : List.Forall₂ (table.Filled instantiation) parts others) :
    List.Forall₂ (table.AreAlike instantiation access) parts others :=
  List.Forall₂.imp (fun _ _ hpart => h.looksAt hpart.1 hpart.2)
    ((List.forall₂_and_left _ _).mpr ⟨hmem, hparts⟩)

/-- Either there is no type at both places, or the types have the same form. -/
theorem cases_parts (h : table.AreAlike instantiation access type seen) :
    (table.get? type = none ∧ table.get? seen = none) ∨
      ∃ entry data, table.get? type = some entry ∧ table.get? seen = some data ∧
        table.SameForm entry data ∧ List.Forall₂ (table.Filled instantiation)
          (table.partsOfEntry entry) (table.partsOfEntry data) :=
  h.filled.cases_parts h.argument?_eq_none

/-- The first type is known, and the second one has the same form. -/
theorem exists_sameForm (h : table.AreAlike instantiation access type seen)
    (hentry : table.get? type = some entry) : ∃ data, table.get? seen = some data ∧
      table.SameForm entry data ∧ List.Forall₂ (table.Filled instantiation)
        (table.partsOfEntry entry) (table.partsOfEntry data) := by
  rcases h.cases_parts with ⟨hnone, -⟩ | ⟨entry, data, hentry', hdata, hform, hparts⟩
  · cases hentry.symm.trans hnone
  · obtain rfl := Option.some.inj (hentry.symm.trans hentry')
    exact ⟨data, hdata, hform, hparts⟩

/-- The second type is known, and the first one has the same form. -/
theorem exists_sameForm_left (h : table.AreAlike instantiation access type seen)
    (hdata : table.get? seen = some data) : ∃ entry, table.get? type = some entry ∧
      table.SameForm entry data := by
  rcases h.cases_parts with ⟨-, hnone⟩ | ⟨entry, data, hentry, hdata', hform, -⟩
  · cases hdata.symm.trans hnone
  · obtain rfl := Option.some.inj (hdata.symm.trans hdata')
    exact ⟨entry, hentry, hform⟩

/-- **One step**: what the types stand for looks alike. -/
theorem standsFor? (h : table.AreAlike instantiation access type seen) :
    Option.Rel (table.AreAlike instantiation access) (table.standsFor? type)
      (table.standsFor? seen) := by
  have hfilled : Option.Rel (table.Filled instantiation) (table.standsFor? type)
      (table.standsFor? seen) := by
    rcases h.cases_parts with ⟨hentry, hdata⟩ | ⟨entry, data, hentry, hdata, hform, hparts⟩
    · simp only [TypeTable.standsFor?, hentry, hdata]
      exact .none
    cases hform with
    | @reference target _ _ hnamed =>
      -- both refer to the same declaration or alias
      simp only [TypeTable.standsFor?, hentry, hdata]
      split
      next => exact .some .same
      next => exact .none
    | applied hnamed hother =>
      have hnothing : ∀ {target : TypeId}, table.isNamed target = false → ∀ name params aliased,
          table.get? target ≠ some (.alias name params aliased) := by
        intro target hnot name params aliased halias
        simp [isNamed, halias] at hnot
      simp only [TypeTable.standsFor?, hentry, hdata]
      split
      next halias => exact (hnothing hnamed _ _ _ halias).elim
      next =>
        split
        next halias => exact (hnothing hother _ _ _ halias).elim
        next => exact .none
    | «alias» =>
      obtain ⟨hpart, -⟩ := List.forall₂_cons.mp hparts
      simp only [TypeTable.standsFor?, hentry, hdata]
      exact .some hpart
    | bounded =>
      obtain ⟨hpart, -⟩ := List.forall₂_cons.mp hparts
      simp only [TypeTable.standsFor?, hentry, hdata]
      exact .some hpart
    | _ =>
      simp only [TypeTable.standsFor?, hentry, hdata]
      exact .none
  rcases htype : table.standsFor? type with _ | next <;>
    rcases hseen : table.standsFor? seen with _ | other <;> rw [htype, hseen] at hfilled
  · exact .none
  · cases hfilled
  · cases hfilled
  · cases hfilled with
    | some hfilled => exact .some (h.looksAt (.next htype) hfilled)

/-- **Following both types** comes to types that look alike. -/
theorem shapeWithin (h : table.AreAlike instantiation access type seen) (steps : Nat) :
    table.AreAlike instantiation access (table.shapeWithin steps type)
      (table.shapeWithin steps seen) := by
  induction steps generalizing type seen with
  | zero => exact h
  | succ steps ih =>
    have hnext := h.standsFor?
    unfold TypeTable.shapeWithin
    rcases htype : table.standsFor? type with _ | next <;>
      rcases hseen : table.standsFor? seen with _ | other <;> rw [htype, hseen] at hnext
    · exact h
    · cases hnext
    · cases hnext
    · cases hnext with
      | some hnext => exact ih hnext

end AreAlike

/-! ### Members -/

/-- Members of the same names and kinds are found at the same place. -/
theorem find?_alike {members others : List (Member TypeId)}
    (hform : List.Forall₂ (fun member other => other.name = member.name ∧ other.kind = member.kind)
      members others)
    (hparts : List.Forall₂ (table.Filled instantiation) (members.map (·.type))
      (others.map (·.type))) (name : String) :
    Option.Rel (fun member other => other.kind = member.kind ∧
        table.Filled instantiation member.type other.type)
      (members.find? (·.name == name)) (others.find? (·.name == name)) := by
  induction hform with
  | nil => exact .none
  | @cons member other _ _ hfirst _ ih =>
    obtain ⟨hpart, hparts⟩ := List.forall₂_cons.mp hparts
    rw [List.find?_cons, List.find?_cons, hfirst.1]
    cases member.name == name with
    | true => exact .some ⟨hfirst.2, hpart⟩
    | false => exact ih hparts

/-- The value of a member. -/
theorem IsGiven.filled {kind : MemberKind} {result result' value value' : TypeId}
    (hresult : table.Filled instantiation result result') (h : table.IsGiven kind result value)
    (h' : table.IsGiven kind result' value') : table.Filled instantiation value value' := by
  cases kind with
  | property =>
    obtain rfl := h
    obtain rfl := h'
    exact hresult
  | method => exact .of_parts h h' .function (.cons hresult .nil)

/-- **Joined answers** are described by the joins of what describes them. -/
theorem describes_of_joinOf {answers others : List (Option TypeId)} {value? other? : Option TypeId}
    (hanswers : List.Forall₂ (Option.Rel (table.Describes instantiation)) answers others)
    (h : table.JoinOf (answers.filterMap id) value?)
    (h' : table.JoinOf (others.filterMap id) other?) :
    Option.Rel (table.Describes instantiation) value? other? := by
  have htypes : List.Forall₂ (table.Describes instantiation) (answers.filterMap id)
      (others.filterMap id) := by
    clear h h'
    induction hanswers with
    | nil => exact .nil
    | cons hfirst _ ih =>
      cases hfirst with
      | none => simpa only [List.filterMap_cons, id_eq] using ih
      | some hfirst => simpa only [List.filterMap_cons, id_eq] using .cons hfirst ih
  cases value? with
  | none =>
    cases other? with
    | none => exact .none
    | some other =>
      rw [h.eq_nil, List.forall₂_nil_left_iff] at htypes
      rw [htypes] at h'
      cases h'
  | some value =>
    cases other? with
    | none =>
      rw [h'.eq_nil, List.forall₂_nil_right_iff] at htypes
      rw [htypes] at h
      cases h
    | some other =>
      exact .some (.joined htypes.length_eq (fun _ => (List.forall₂_iff_zip.mp htypes).2) h h')

section Members

variable {memberOf : TypeId → Option TypeId → Prop} {steps depth : Nat} {name : String}
  {value? other? : Option TypeId}

/-- **The member of a class or interface with arguments.** -/
theorem DeclaredMember.describes {declaration : NominalType} {arguments others : List TypeId}
    (harguments : List.Forall₂ (table.Filled instantiation) arguments others)
    (hsupertype : declaration.members.find? (·.name == name) = none →
      ∀ supertype ∈ declaration.supertypes, ∀ part seen,
        table.Instance declaration.params arguments depth supertype part →
          table.Filled instantiation part seen → ∀ value? other?, memberOf part value? →
            memberOf seen other? → Option.Rel (table.Describes instantiation) value? other?)
    (h : table.DeclaredMember memberOf depth declaration arguments name value?)
    (h' : table.DeclaredMember memberOf depth declaration others name other?) :
    Option.Rel (table.Describes instantiation) value? other? := by
  unfold DeclaredMember at h h'
  split at h
  next member hfound =>
    rw [hfound] at h'
    obtain ⟨result, value, rfl, hinstance, hvalue⟩ := h
    obtain ⟨result', value', rfl, hinstance', hvalue'⟩ := h'
    have hresult := Filled.of_instance harguments hinstance hinstance'
    exact .some (.filled (hvalue.filled hresult hvalue'))
  next hnone =>
    rw [hnone] at h'
    refine h.rel h' (List.forall₂_same.mpr fun supertype hmem value? other? hanswer hanswer' => ?_)
    obtain ⟨part, hpart, hmember⟩ := hanswer
    obtain ⟨seen, hseen, hmember'⟩ := hanswer'
    exact hsupertype hnone supertype hmem part seen hpart (.of_instance harguments hpart hseen) _ _
      hmember hmember'

/-- **The member of a reference**, which is that of what it refers to. -/
theorem ShapeMember.describes_reference
    (hmember : ∀ part seen, table.AreAlike instantiation (.member name) part seen →
      ∀ value? other?, memberOf part value? → memberOf seen other? →
        Option.Rel (table.Describes instantiation) value? other?)
    (halike : table.AreAlike instantiation (.member name) type seen)
    {target other : TypeId} {arguments others : List TypeId}
    (hentry : table.get? type = some (.reference target arguments))
    (hdata : table.get? seen = some (.reference other others))
    (htarget : table.Filled instantiation target other)
    (harguments : List.Forall₂ (table.Filled instantiation) arguments others)
    (h : table.ShapeMember memberOf steps depth name type value?)
    (h' : table.ShapeMember memberOf steps depth name seen other?) :
    Option.Rel (table.Describes instantiation) value? other? := by
  simp only [ShapeMember, hentry] at h
  simp only [ShapeMember, hdata] at h'
  have hbase := (halike.looksAt (.target hentry) htarget).shapeWithin steps
  rcases hbase.cases_parts with ⟨hnone, hnone'⟩ | ⟨entry, data, hbaseEntry, hbaseData, hform, -⟩
  · rw [hnone] at h
    rw [hnone'] at h'
    exact hmember _ _ hbase _ _ h h'
  rw [hbaseEntry] at h
  rw [hbaseData] at h'
  cases hform with
  | declared declaration =>
    refine DeclaredMember.describes harguments ?_ h h'
    intro hnone supertype hmem part seen hpart hfilled
    exact hmember part seen (halike.looksAt (.supertype (.inr ⟨target, _, hentry,
      table.standsFor_shapeWithin steps target, hbaseEntry⟩) hnone hmem hpart) hfilled)
  | _ => exact hmember _ _ hbase _ _ h h'

/-- **The member of a type that stands for no other one.** -/
theorem ShapeMember.describes
    (hmember : ∀ part seen, table.AreAlike instantiation (.member name) part seen →
      ∀ value? other?, memberOf part value? → memberOf seen other? →
        Option.Rel (table.Describes instantiation) value? other?)
    (halike : table.AreAlike instantiation (.member name) type seen)
    (h : table.ShapeMember memberOf steps depth name type value?)
    (h' : table.ShapeMember memberOf steps depth name seen other?) :
    Option.Rel (table.Describes instantiation) value? other? := by
  rcases halike.cases_parts with ⟨hentry, hdata⟩ | ⟨entry, data, hentry, hdata, hform, hparts⟩
  · simp only [ShapeMember, hentry] at h
    simp only [ShapeMember, hdata] at h'
    subst h h'
    exact .none
  cases hform with
  | reference hnamed =>
    simp only [partsOfEntry, hnamed, if_true] at hparts
    exact describes_reference hmember halike hentry hdata .same hparts h h'
  | applied hnamed hother =>
    simp only [partsOfEntry, hnamed, hother, Bool.false_eq_true, if_false] at hparts
    obtain ⟨htarget, harguments⟩ := List.forall₂_cons.mp hparts
    exact describes_reference hmember halike hentry hdata htarget harguments h h'
  | declared declaration =>
    simp only [ShapeMember, hentry] at h
    simp only [ShapeMember, hdata] at h'
    refine DeclaredMember.describes .nil ?_ h h'
    intro hnone supertype hmem part seen hpart hfilled
    exact hmember part seen
      (halike.looksAt (.supertype (.inl ⟨hentry, rfl⟩) hnone hmem hpart) hfilled)
  | object hmembers =>
    simp only [ShapeMember, hentry] at h
    simp only [ShapeMember, hdata] at h'
    have hfound := find?_alike hmembers hparts name
    split at h <;> split at h' <;> simp only [*] at hfound
    next =>
      obtain ⟨value, rfl, hvalue⟩ := h
      obtain ⟨value', rfl, hvalue'⟩ := h'
      cases hfound with
      | some hfound =>
        rw [hfound.1] at hvalue'
        exact .some (.filled (hvalue.filled hfound.2 hvalue'))
    next => cases hfound
    next => cases hfound
    next =>
      subst h h'
      exact .none
  | union =>
    simp only [ShapeMember, hentry] at h
    simp only [ShapeMember, hdata] at h'
    obtain ⟨answers, hanswers, hjoin⟩ := h
    obtain ⟨answers', hanswers', hjoin'⟩ := h'
    have hmembers := (halike.parts (fun _ => .union hentry) hparts).imp hmember
    exact describes_of_joinOf (forall₂_answers hmembers hanswers hanswers') hjoin hjoin'
  | intersection =>
    simp only [ShapeMember, hentry] at h
    simp only [ShapeMember, hdata] at h'
    exact h.rel h' ((halike.parts (fun _ => .intersection hentry) hparts).imp hmember)
  | tuple | array =>
    simp only [ShapeMember, hentry] at h
    simp only [ShapeMember, hdata] at h'
    subst h h'
    split
    · exact .some (.filled .same)
    · exact .none
  | _ =>
    simp only [ShapeMember, hentry] at h
    simp only [ShapeMember, hdata] at h'
    subst h h'
    exact .none

/-- **Looking for a member in both types** finds members that differ as the types do. -/
theorem MemberOf.describes {budget : Nat} (halike : table.AreAlike instantiation (.member name)
      (table.shapeWithin steps type) (table.shapeWithin steps seen))
    (h : table.MemberOf steps name budget type value?)
    (h' : table.MemberOf steps name budget seen other?) :
    Option.Rel (table.Describes instantiation) value? other? := by
  induction budget generalizing type seen value? other? with
  | zero =>
    obtain rfl := h
    obtain rfl := h'
    exact .none
  | succ budget ih =>
    rw [MemberOf] at h h'
    exact ShapeMember.describes (fun _ _ halike _ _ => ih (halike.shapeWithin steps)) halike h h'

end Members

/-! ### Results, elements and promises -/

section Others

variable {steps : Nat}

/-- **Calling both types** returns types that differ as they do. -/
theorem ResultOf.describes {value? other? : Option TypeId}
    (halike : table.AreAlike instantiation .result (table.shapeWithin steps type)
      (table.shapeWithin steps seen))
    (h : table.ResultOf steps type value?) (h' : table.ResultOf steps seen other?) :
    Option.Rel (table.Describes instantiation) value? other? := by
  induction h generalizing seen other? with
  | function h =>
    obtain ⟨data, hdata, hform, hparts⟩ := halike.exists_sameForm h
    cases hform with
    | function =>
      cases h' with
      | function h' =>
        obtain ⟨rfl⟩ := Option.some.inj (h'.symm.trans hdata)
        exact .some (.filled (List.forall₂_cons.mp hparts).1)
      | union h' => cases h'.symm.trans hdata
      | other hfunction => exact absurd hdata (hfunction _)
  | @union callee members answers value? h hlength hanswers hjoin ih =>
    obtain ⟨data, hdata, hform, hparts⟩ := halike.exists_sameForm h
    cases hform with
    | @union _ others =>
      cases h' with
      | function h' => cases h'.symm.trans hdata
      | @union _ _ answers' _ h' hlength' hanswers' hjoin' =>
        obtain ⟨rfl⟩ := Option.some.inj (h'.symm.trans hdata)
        -- each member of the union is called on its own
        have hasked : List.Forall₂ (fun member answer? => ∀ seen,
            table.AreAlike instantiation .result member seen → ∀ other?,
              table.ResultOf steps seen other? →
                Option.Rel (table.Describes instantiation) answer? other?) members answers :=
          List.forall₂_iff_zip.mpr ⟨hlength.symm, fun {member answer?} hpair seen halike other?
            h' => ih (member, answer?) hpair (halike.shapeWithin steps) h'⟩
        have hasked' : List.Forall₂ (table.ResultOf steps) others answers' :=
          List.forall₂_iff_zip.mpr ⟨hlength'.symm, fun hpair => hanswers' _ hpair⟩
        refine describes_of_joinOf (forall₂_answers ?_ hasked hasked') hjoin hjoin'
        exact (halike.parts (fun _ => .called h) hparts).imp fun member other halike answer? other?
          hanswer hother => hanswer other halike other? hother
      | other _ hunion => exact absurd hdata (hunion _)
  | other hfunction hunion =>
    cases h' with
    | function h' =>
      obtain ⟨entry, hentry, hform⟩ := halike.exists_sameForm_left h'
      cases hform with
      | function => exact absurd hentry (hfunction _)
    | union h' =>
      obtain ⟨entry, hentry, hform⟩ := halike.exists_sameForm_left h'
      cases hform with
      | union => exact absurd hentry (hunion _)
    | other => exact .none

/-- **Indexing both types.** -/
theorem AreAlike.elementOf? (halike : table.AreAlike instantiation access
      (table.shapeWithin steps type) (table.shapeWithin steps seen)) :
    Option.Rel (table.Describes instantiation) (table.elementOf? steps type)
      (table.elementOf? steps seen) := by
  rcases halike.cases_parts with ⟨hentry, hdata⟩ | ⟨entry, data, hentry, hdata, hform, hparts⟩
  · simp only [TypeTable.elementOf?, hentry, hdata]
    exact .none
  cases hform with
  | array =>
    simp only [TypeTable.elementOf?, hentry, hdata]
    exact .some (.filled (List.forall₂_cons.mp hparts).1)
  | _ =>
    simp only [TypeTable.elementOf?, hentry, hdata]
    exact .none

/-- A reference to something that has no name is not a promise. -/
theorem awaitedOf_of_not_isNamed {target : TypeId} {arguments : List TypeId}
    (h : table.get? (table.shapeWithin steps type) = some (.reference target arguments))
    (hnamed : table.isNamed target = false) : table.awaitedOf steps type = type := by
  simp only [awaitedOf, h]
  split
  next hdeclared => simp [isNamed, hdeclared] at hnamed
  next => rfl

/-- **Waiting for both types**: what the promises hold differs as they do, or neither is one. -/
theorem AreAlike.awaitedOf (halike : table.AreAlike instantiation access
      (table.shapeWithin steps type) (table.shapeWithin steps seen)) :
    table.awaitedOf steps type = type ∧ table.awaitedOf steps seen = seen ∨
      table.Filled instantiation (table.awaitedOf steps type) (table.awaitedOf steps seen) := by
  rcases halike.cases_parts with ⟨hentry, hdata⟩ | ⟨entry, data, hentry, hdata, hform, hparts⟩
  · simp [TypeTable.awaitedOf, hentry, hdata]
  cases hform with
  | reference hnamed =>
    simp only [partsOfEntry, hnamed, if_true] at hparts
    have hfirst := forall₂_getD .unknown hparts .same 0
    simp only [TypeTable.awaitedOf, hentry, hdata]
    split
    next =>
      split
      · simpa only [List.head?_eq_getElem?] using .inr hfirst
      · exact .inl ⟨rfl, rfl⟩
    next => exact .inl ⟨rfl, rfl⟩
  | applied hnamed hother =>
    exact .inl ⟨awaitedOf_of_not_isNamed hentry hnamed, awaitedOf_of_not_isNamed hdata hother⟩
  | _ => simp [TypeTable.awaitedOf, hentry, hdata]

/-- **What is read from both types** differs as they do; and waiting for something that is no
promise comes to the type itself. -/
theorem Reads.describes {maxDepth : Nat} {value? other? : Option TypeId}
    (halike : table.AreAlike instantiation access (table.shapeWithin (maxDepth + 1) type)
      (table.shapeWithin (maxDepth + 1) seen))
    (h : table.Reads maxDepth type access value?) (h' : table.Reads maxDepth seen access other?) :
    value? = some type ∧ other? = some seen ∨
      Option.Rel (table.Describes instantiation) value? other? := by
  cases access with
  | member name => exact .inr (MemberOf.describes halike h h')
  | result => exact .inr (ResultOf.describes halike h h')
  | element =>
    obtain rfl := h
    obtain rfl := h'
    exact .inr halike.elementOf?
  | awaited =>
    obtain rfl := h
    obtain rfl := h'
    rcases halike.awaitedOf with ⟨htype, hseen⟩ | hfilled
    · exact .inl ⟨congrArg some htype, congrArg some hseen⟩
    · exact .inr (.some (.filled hfilled))

end Others

/-! ### Types without parameters -/

/-- **Where no parameter stands, both are the same type.** -/
theorem Describes.of_isFree (h : table.Describes instantiation type seen)
    (hfree : table.IsFree instantiation type) : table.Describes [] type seen := by
  induction h with
  | filled h => exact .filled (.of_substituted (h.of_isFree hfree))
  | joined hlength _ htype hseen ih =>
    refine .joined hlength (fun pair hpair => ih pair hpair ?_) htype hseen
    have hmem := (List.of_mem_zip hpair).1
    rcases htype.cases_some with ⟨hall, -⟩ | ⟨members, hentry, hmembers⟩
    · exact hall _ hmem ▸ hfree
    · exact hfree.part ⟨_, hentry, (hmembers _).mpr hmem⟩

end TypeTable

end StreamLint
