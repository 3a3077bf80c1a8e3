import StreamLint.Proofs.Model.Alike
import StreamLint.Proofs.Model.Compositional
import StreamLint.Proofs.Model.Given
import StreamLint.Proofs.Model.Merging
import StreamLint.Proofs.Syntax.Comparison
/-!
# Generic aliases

An alias with arguments is another way to write what the alias is declared to be, with the arguments
in place of its parameters (`StreamLint.Background.SpellsOut`). One would like it to make no
difference which of the two has been written: what is read from an expression of either type should
be the same type.

But whoever follows an alias comes to what has been declared, parameters and all, and the arguments
are left behind. With `type Keyed<T> = { key: string, value: T }`, the `value` of a `Keyed<number>`
is the parameter `T`, and not a number. What can be said is that nothing else goes wrong
(`StreamLint.TypeTable.Correspond`): as long as reading does not come to one of the parameters, what
is read through the alias is what is read from the other type, but for arguments that are missing;
so both are the same type if none of the parameters stands in it.

The main statement is `StreamLint.SyntaxTree.transparent_of_model?`.
-/

namespace StreamLint

/-- The first argument that is given for a parameter. -/
theorem Instantiation.argument?_zip (params arguments : List TypeId) (param : TypeId) :
    Instantiation.argument? (params.zip arguments) param =
      (params.idxOf? param).bind (arguments[·]?) := by
  unfold argument?
  induction params generalizing arguments with
  | nil => rfl
  | cons first rest ih =>
    cases arguments with
    | nil => cases (first :: rest).idxOf? param <;> rfl
    | cons argument arguments =>
      rw [List.zip_cons_cons, List.find?_cons, List.idxOf?_cons]
      cases first == param with
      | true => rfl
      | false =>
        rw [ih]
        cases rest.idxOf? param <;> rfl

/-- Only declarations count. -/
theorem SyntaxTree.counting_subset (tree : SyntaxTree) (nodes : List NodeId) :
    tree.counting nodes ⊆ nodes := by
  have hfold : ∀ before, nodes.foldl tree.countNext before ⊆ before ++ nodes := by
    induction nodes with
    | nil => simp
    | cons node rest ih =>
      intro before
      have hnext : tree.countNext before node ⊆ before ++ [node] := by
        unfold countNext
        split
        · exact List.Subset.refl _
        · exact List.subset_append_right _ _
      intro counted hmem
      rcases List.mem_append.mp (ih _ hmem) with hmem | hmem
      · simpa using List.mem_append_left rest (hnext hmem)
      · simp [hmem]
  exact hfold []

namespace TypeTable

variable {table : TypeTable} {maxDepth : Nat} {access : Access} {type seen : TypeId}
  {value? other? : Option TypeId}

/-- **The values that are read from two types correspond.** Either these are the types themselves,
or there is none, or one value describes the other one; then they are the same type if none of the
parameters stands in the first one. -/
def Correspond (table : TypeTable) (instantiation : Instantiation) (type seen : TypeId)
    (value? other? : Option TypeId) : Prop :=
  value? = some type ∧ other? = some seen ∨
    Option.Rel (fun value other => table.Describes instantiation value other ∧
      (table.IsFree instantiation value → table.Describes [] value other)) value? other?

/-- Reading from an object type looks at no other type. -/
theorem Avoids.of_object {instantiation : Instantiation} {members : List (Member TypeId)}
    (hentry : table.get? type = some (.object members))
    (hnone : instantiation.argument? type = none) : table.Avoids instantiation access type := by
  intro part hpart
  rcases hpart.cases_head with rfl | ⟨next, hnext, -⟩
  · exact hnone
  · cases hnext with
    | next hnext => simp [standsFor?, hentry] at hnext
    | called hat | union hat | intersection hat | target hat => cases hentry.symm.trans hat
    | supertype hat =>
      rcases hat with ⟨hat, -⟩ | ⟨_, _, hat, -⟩ <;> cases hentry.symm.trans hat

theorem standsFor?_shapeWithin_of_object {members : List (Member TypeId)}
    (hentry : table.get? type = some (.object members)) (steps : Nat) :
    table.standsFor? (table.shapeWithin steps type) = none := by
  have hleaf : table.standsFor? type = none := by
    simp only [standsFor?, hentry]
  rw [shapeWithin_eq_of_leaf hleaf, hleaf]

/-- A type is described by another one as it is, if neither of them is a union. -/
theorem Describes.filled_of_no_union {instantiation : Instantiation}
    (h : table.Describes instantiation type seen)
    (htype : ∀ members, table.get? type ≠ some (.union members))
    (hseen : ∀ members, table.get? seen ≠ some (.union members)) :
    table.Filled instantiation type seen := by
  induction h with
  | filled h => exact h
  | @joined type seen types others hlength _ hjoin hjoin' ih =>
    obtain ⟨hall, hmem⟩ := hjoin.cases_some.resolve_right fun ⟨members, hunion, _⟩ =>
      htype members hunion
    obtain ⟨hall', -⟩ := hjoin'.cases_some.resolve_right fun ⟨members, hunion, _⟩ =>
      hseen members hunion
    -- there is a pair, and every pair is that of the two types
    match types, others, hlength with
    | first :: _, second :: _, _ =>
      obtain rfl := hall first List.mem_cons_self
      obtain rfl := hall' second List.mem_cons_self
      exact ih (first, second) List.mem_cons_self htype hseen

/-- A generic parameter is not described by a primitive type. -/
theorem not_describes_of_parameter {name : String} {plain : PlainType}
    (hentry : table.get? type = some (.parameter name none))
    (hdata : table.get? seen = some (.primitive plain)) : ¬table.Describes [] type seen := by
  intro h
  cases h.filled_of_no_union (by simp [hentry]) (by simp [hdata]) with
  | same => cases hentry.symm.trans hdata
  | given h => simp [Instantiation.argument?] at h
  | rebuilt hentry' hdata' hform =>
    obtain rfl := Option.some.inj (hentry.symm.trans hentry')
    obtain rfl := Option.some.inj (hdata.symm.trans hdata')
    cases hform

/-- There is nothing to be read from the type: it is unknown, or a reference to an unknown type. -/
def IsBlank (table : TypeTable) (type : TypeId) : Prop :=
  table.get? type = some .unknown ∨ ∃ target arguments,
    table.get? type = some (.reference target arguments) ∧ table.get? target = some .unknown

theorem IsBlank.standsFor?_eq_none (h : table.IsBlank type) : table.standsFor? type = none := by
  rcases h with hentry | ⟨target, arguments, hentry, htarget⟩
  · simp only [standsFor?, hentry]
  · simp only [standsFor?, hentry, htarget]

theorem IsBlank.memberOf {steps budget : Nat} {name : String} (h : table.IsBlank type)
    (hmember : table.MemberOf steps name budget type value?) : value? = none := by
  induction budget generalizing type with
  | zero => exact hmember
  | succ budget ih =>
    rw [MemberOf, shapeWithin_eq_of_leaf h.standsFor?_eq_none] at hmember
    rcases h with hentry | ⟨target, arguments, hentry, htarget⟩
    · simpa only [ShapeMember, hentry] using hmember
    · have hblank : table.IsBlank target := .inl htarget
      simp only [ShapeMember, hentry, shapeWithin_eq_of_leaf hblank.standsFor?_eq_none,
        htarget] at hmember
      exact ih hblank hmember

/-- **Nothing is read from a blank type**; waiting for it comes to the type itself. -/
theorem IsBlank.reads (h : table.IsBlank type) (hreads : table.Reads maxDepth type access value?) :
    value? = if access = .awaited then some type else none := by
  have hshape := shapeWithin_eq_of_leaf h.standsFor?_eq_none (maxDepth + 1)
  cases access with
  | member name => exact h.memberOf hreads
  | result =>
    cases hreads with
    | function hentry | union hentry =>
      rw [hshape] at hentry
      rcases h with hblank | ⟨_, _, hblank, -⟩ <;> cases hentry.symm.trans hblank
    | other => rfl
  | element =>
    obtain rfl := hreads
    rcases h with hblank | ⟨_, _, hblank, -⟩ <;> simp [elementOf?, hshape, hblank]
  | awaited =>
    obtain rfl := hreads
    rcases h with hblank | ⟨_, _, hblank, htarget⟩
    · simp [awaitedOf, hshape, hblank]
    · simp [awaitedOf, hshape, hblank, htarget]

theorem correspond_of_isBlank {instantiation : Instantiation} (h : table.IsBlank type)
    (h' : table.IsBlank seen) (hreads : table.Reads maxDepth type access value?)
    (hreads' : table.Reads maxDepth seen access other?) :
    table.Correspond instantiation type seen value? other? := by
  rw [h.reads hreads, h'.reads hreads']
  split
  · exact .inl ⟨rfl, rfl⟩
  · exact .inr .none

end TypeTable

namespace Background

open TypeTable

variable {background : Background} {draft : Draft} {instantiation : Instantiation}
  {given given' : TypeId → TypeId} {site : NodeId}

/-! ### What is written with different arguments -/

/-- A name with arguments that differ. -/
theorem filled_of_nameDenotes {name : String} {arguments others : List TypeId} {type seen : TypeId}
    (harguments : List.Forall₂ (draft.table.Filled instantiation) arguments others)
    (h : background.NameDenotes draft name arguments type)
    (h' : background.NameDenotes draft name others seen) :
    draft.table.Filled instantiation type seen := by
  cases harray : isArrayName name with
  | true =>
    rw [nameDenotes_iff_of_isArrayName harray] at h h'
    have hfirst := forall₂_getD .unknown harguments .same 0
    rw [← List.head?_eq_getElem?, ← List.head?_eq_getElem?] at hfirst
    exact .of_parts h h' .array (.cons hfirst .nil)
  | false =>
    cases hname : background.typeNamed? draft name with
    | some target =>
      rw [nameDenotes_iff_of_typeNamed harray hname] at h h'
      cases harguments with
      | nil =>
        obtain rfl : type = target := h
        obtain rfl : seen = type := h'
        exact .same
      | cons hfirst hrest => exact .of_references h h' (.cons hfirst hrest)
    | none =>
      rw [nameDenotes_iff_of_foreign harray hname] at h h'
      exact .of_parts h h' (.foreign harguments.length_eq) harguments

mutual

/-- **What is written denotes types that differ in what is given** for the generic parameters. -/
theorem filled_of_denotesWith
    (hgiven : ∀ param, draft.table.Filled instantiation (given param) (given' param))
    {written : TypeExpr} {type seen : TypeId}
    (h : background.DenotesWith draft given site written type)
    (h' : background.DenotesWith draft given' site written seen) :
    draft.table.Filled instantiation type seen := by
  cases written with
  | keyword k =>
    simp only [DenotesWith] at h h'
    cases hid : k.id? with
    | some place =>
      simp only [hid] at h h'
      exact h.trans h'.symm ▸ .same
    | none =>
      simp only [hid] at h h'
      exact .of_parts h h' (.object .nil) .nil
  | literal kind =>
    simp only [DenotesWith] at h h'
    exact h.trans h'.symm ▸ .same
  | unsupported text =>
    simp only [DenotesWith] at h h'
    exact h.trans h'.symm ▸ .same
  | named name arguments =>
    simp only [DenotesWith] at h h'
    cases hparam : background.parameterNamed? draft name site with
    | some param =>
      simp only [hparam] at h h'
      exact h ▸ h' ▸ hgiven param
    | none =>
      simp only [hparam] at h h'
      split at h
      next harray =>
        obtain ⟨inner, hinner, hentry⟩ := h
        obtain ⟨inner', hinner', hentry'⟩ := (if_pos harray ▸ h' : _)
        exact .of_parts hentry hentry' .array
          (.cons (filled_of_denotesHeadWith hgiven hinner hinner') .nil)
      next harray =>
        rw [if_neg harray] at h'
        obtain ⟨ids, hids, hname⟩ := h
        obtain ⟨ids', hids', hname'⟩ := h'
        exact filled_of_nameDenotes (filled_of_denotesEachWith hgiven hids hids') hname hname'
  | union members =>
    simp only [DenotesWith] at h h'
    obtain ⟨ids, hids, hentry⟩ := h
    obtain ⟨ids', hids', hentry'⟩ := h'
    have hparts := filled_of_denotesEachWith hgiven hids hids'
    exact .of_parts hentry hentry' (.union hparts.length_eq) hparts
  | intersection members =>
    simp only [DenotesWith] at h h'
    obtain ⟨ids, hids, hentry⟩ := h
    obtain ⟨ids', hids', hentry'⟩ := h'
    have hparts := filled_of_denotesEachWith hgiven hids hids'
    exact .of_parts hentry hentry' (.intersection hparts.length_eq) hparts
  | tuple elements =>
    simp only [DenotesWith] at h h'
    obtain ⟨ids, hids, hentry⟩ := h
    obtain ⟨ids', hids', hentry'⟩ := h'
    have hparts := filled_of_denotesEachWith hgiven hids hids'
    exact .of_parts hentry hentry' (.tuple hparts.length_eq) hparts
  | array element =>
    simp only [DenotesWith] at h h'
    obtain ⟨inner, hinner, hentry⟩ := h
    obtain ⟨inner', hinner', hentry'⟩ := h'
    exact .of_parts hentry hentry' .array (.cons (filled_of_denotesWith hgiven hinner hinner') .nil)
  | function returnType =>
    simp only [DenotesWith] at h h'
    obtain ⟨inner, hinner, hentry⟩ := h
    obtain ⟨inner', hinner', hentry'⟩ := h'
    exact .of_parts hentry hentry' .function
      (.cons (filled_of_denotesWith hgiven hinner hinner') .nil)
  | object members =>
    simp only [DenotesWith] at h h'
    obtain ⟨own, hown, hentry⟩ := h
    obtain ⟨own', hown', hentry'⟩ := h'
    obtain ⟨hform, hparts⟩ := filled_of_denotesMembersWith hgiven hown hown'
    exact .of_parts hentry hentry' (.object hform) hparts

theorem filled_of_denotesHeadWith
    (hgiven : ∀ param, draft.table.Filled instantiation (given param) (given' param))
    {written : List TypeExpr} {type seen : TypeId}
    (h : background.DenotesHeadWith draft given site written type)
    (h' : background.DenotesHeadWith draft given' site written seen) :
    draft.table.Filled instantiation type seen := by
  cases written with
  | nil =>
    simp only [DenotesHeadWith] at h h'
    exact h.trans h'.symm ▸ .same
  | cons first rest =>
    simp only [DenotesHeadWith] at h h'
    exact filled_of_denotesWith hgiven h h'

theorem filled_of_denotesEachWith
    (hgiven : ∀ param, draft.table.Filled instantiation (given param) (given' param))
    {written : List TypeExpr} {types others : List TypeId}
    (h : background.DenotesEachWith draft given site written types)
    (h' : background.DenotesEachWith draft given' site written others) :
    List.Forall₂ (draft.table.Filled instantiation) types others := by
  cases written with
  | nil =>
    simp only [DenotesEachWith] at h h'
    obtain rfl := h
    obtain rfl := h'
    exact .nil
  | cons first rest =>
    simp only [DenotesEachWith] at h h'
    obtain ⟨id, ids, rfl, hfirst, hrest⟩ := h
    obtain ⟨id', ids', rfl, hfirst', hrest'⟩ := h'
    exact .cons (filled_of_denotesWith hgiven hfirst hfirst')
      (filled_of_denotesEachWith hgiven hrest hrest')

theorem filled_of_denotesMembersWith
    (hgiven : ∀ param, draft.table.Filled instantiation (given param) (given' param))
    {written : List (Member TypeExpr)} {members others : List (Member TypeId)}
    (h : background.DenotesMembersWith draft given site written members)
    (h' : background.DenotesMembersWith draft given' site written others) :
    List.Forall₂ (fun member other => other.name = member.name ∧ other.kind = member.kind)
        members others ∧
      List.Forall₂ (draft.table.Filled instantiation) (members.map (·.type))
        (others.map (·.type)) := by
  cases written with
  | nil =>
    simp only [DenotesMembersWith] at h h'
    obtain rfl := h
    obtain rfl := h'
    exact ⟨.nil, .nil⟩
  | cons first rest =>
    obtain ⟨name, kind, type⟩ := first
    simp only [DenotesMembersWith] at h h'
    obtain ⟨id, own, rfl, hfirst, hrest⟩ := h
    obtain ⟨id', own', rfl, hfirst', hrest'⟩ := h'
    obtain ⟨hform, hparts⟩ := filled_of_denotesMembersWith hgiven hrest hrest'
    exact ⟨.cons ⟨rfl, rfl⟩ hform, .cons (filled_of_denotesWith hgiven hfirst hfirst') hparts⟩

end

/-! ### Aliases with arguments -/

/-- **The node declares an alias** at the place, and this is the declaration of its name that
counts. -/
structure DeclaresAlias (background : Background) (draft : Draft) (node : NodeId)
    (value : TypeExpr) (id : TypeId) : Prop where
  /-- What is written. -/
  construct : ∃ name params,
    background.tree.construct? node = some (.typeAliasDeclaration name params value)
  /-- The declaration counts. -/
  counts : ∃ name, background.tree.typeName? node = some name ∧
    background.tree.counting (background.tree.declarationsOf name) = [node] ∧
      draft.typeNames[name]? = some id

/-- **The type is what the alias is declared to be, with the arguments in place of the parameters**;
what stands there may be copies of the arguments. -/
def SpellsOut (background : Background) (draft : Draft) (node : NodeId) (value : TypeExpr)
    (arguments : List TypeId) (seen : TypeId) : Prop :=
  ∃ others, List.Forall₂ (draft.table.Substituted []) arguments others ∧
    background.DenotesWith draft (givenFor (draft.paramsOf node) others) node value seen

variable {node : NodeId} {value : TypeExpr} {id : TypeId} {awaited : TypeId → Deferred → Prop}

/-- The place of the alias leads to a type that denotes what is written, unless that is the place
itself. -/
theorem DeclaresAlias.exists_denotes (h : background.DeclaresAlias draft node value id)
    (hcounted : background.IsCounted draft awaited) : ∃ body,
      background.Denotes draft node value body ∧ ∃ name, draft.table.get? id =
        some (if body = id then .unknown else .alias name (draft.paramsOf node) body) := by
  obtain ⟨⟨nameNode, params, hconstruct⟩, name, hname, hcounting, hid⟩ := h
  have hmem : node ∈ background.tree.declarationsOf name :=
    background.tree.counting_subset _ (hcounting ▸ List.mem_singleton_self node)
  have hreached : background.tree.IsReached node :=
    .of_mem_preorder (List.mem_filter.mp hmem).1
  obtain ⟨place, entry, -, hplace, hentry, hholds⟩ := hcounted node name hreached hname
  obtain rfl := Option.some.inj (hid.symm.trans hplace)
  rw [hcounting] at hholds
  cases hholds with
  | @ofAlias _ _ _ written body hconstruct' hdenotes =>
    cases hconstruct.symm.trans hconstruct'
    exact ⟨body, hdenotes, _, hentry⟩
  | ofMerged hmerged =>
    have hnominal := hmerged.nominal
    simp [SyntaxTree.nominal?, hconstruct] at hnominal

/-- Types that are given for parameters differ in the arguments. -/
theorem filled_givenFor {table : TypeTable} {params arguments others : List TypeId}
    (h : List.Forall₂ (table.Substituted []) arguments others) (param : TypeId) :
    table.Filled (params.zip arguments) param (givenFor params others param) := by
  unfold givenFor
  split
  next index hindex =>
    cases hother : others[index]? with
    | none => exact .same
    | some other =>
      obtain ⟨hlength, hcopies⟩ := List.forall₂_iff_get.mp h
      obtain ⟨hlt, rfl⟩ := List.getElem?_eq_some_iff.mp hother
      have hlt' : index < arguments.length := hlength ▸ hlt
      have hargument : Instantiation.argument? (params.zip arguments) param =
          some arguments[index] := by
        rw [Instantiation.argument?_zip, hindex]
        exact List.getElem?_eq_getElem hlt'
      exact .given hargument (hcopies index hlt' hlt)
  next => exact .same

theorem SpellsOut.filled {arguments : List TypeId} {body seen : TypeId}
    (h : background.SpellsOut draft node value arguments seen)
    (hbody : background.Denotes draft node value body) :
    draft.table.Filled ((draft.paramsOf node).zip arguments) body seen := by
  obtain ⟨others, hothers, hseen⟩ := h
  exact filled_of_denotesWith (filled_givenFor hothers)
    ((denotesWith_iff_of_denotes hbody).mpr fun _ _ => rfl) hseen

/-- **Reading through an alias** is reading from what it stands for, with the arguments put in. -/
theorem correspond_of_reads {arguments : List TypeId} {body type seen : TypeId} {access : Access}
    {maxDepth : Nat} {value? other? : Option TypeId} {name : String} {params : List TypeId}
    (hid : draft.table.get? id = some (if body = id then .unknown else .alias name params body))
    (htype : draft.table.get? type = some (.reference id arguments))
    (hfilled : draft.table.Filled instantiation body seen)
    (hends : draft.table.standsFor? (draft.table.shapeWithin maxDepth body) = none)
    (havoids : draft.table.Avoids instantiation access body)
    (h : draft.table.Reads maxDepth type access value?)
    (h' : draft.table.Reads maxDepth seen access other?) :
    draft.table.Correspond instantiation type seen value? other? := by
  have halike : draft.table.AreAlike instantiation access body seen := ⟨hfilled, havoids⟩
  split at hid
  next hself =>
    subst hself
    -- the alias is one of itself
    obtain ⟨data, hdata, hform, -⟩ := halike.exists_sameForm hid
    cases hform with
    | unknown => exact correspond_of_isBlank (.inr ⟨_, _, htype, hid⟩) (.inl hdata) h h'
  next =>
    have hnext : draft.table.standsFor? type = some body := by
      simp only [standsFor?, htype, hid]
    have hshape : draft.table.shapeWithin (maxDepth + 1) type =
        draft.table.shapeWithin (maxDepth + 1) body := by
      rw [shapeWithin_succ_eq hends, TypeTable.shapeWithin, hnext]
    refine (Reads.describes (hshape ▸ halike.shapeWithin (maxDepth + 1)) h h').imp_right ?_
    intro hrel
    cases hrel with
    | none => exact .none
    | some hdescribes => exact .some ⟨hdescribes, hdescribes.of_isFree⟩

end Background

/-! ### Models -/

/-- **What is read through a generic alias in the model of a document.** Let one expression have an
alias with arguments as its type, and another one what the alias is declared to be, with the
arguments in place of the parameters. What is read from both in the same way corresponds, if the
expressions that read it are answered in their turns, reading comes to none of the parameters, and
the declared type can be followed to its end. -/
theorem SyntaxTree.transparent_of_model? (document : Concrete.Document) {prelude : Prelude}
    (hprelude : prelude.IsBuilt) (limits : Limits) {bindings : Bindings}
    (h : (ofDocument document).model? prelude limits = some bindings) :
    ∃ chronicle, ((ofDocument document).background prelude limits).chronicle? = some chronicle ∧
      chronicle.draft.bindings = bindings ∧
      let background := (ofDocument document).background prelude limits
      ∀ node value id, background.DeclaresAlias chronicle.draft node value id →
        ∃ body, background.Denotes chronicle.draft node value body ∧
          ∀ arguments type seen, bindings.table.get? type = some (.reference id arguments) →
            background.SpellsOut chronicle.draft node value arguments seen →
          ∀ access short part long other,
            (ofDocument document).access? short = some (access, part) →
            (ofDocument document).access? long = some (access, other) →
            bindings.nodeTypes[part]? = some type → bindings.nodeTypes[other]? = some seen →
            background.AnswersInTurn short → background.AnswersInTurn long →
            bindings.table.standsFor?
              (bindings.table.shapeWithin limits.resolutionDepth body) = none →
            bindings.table.Avoids ((chronicle.draft.paramsOf node).zip arguments) access body →
              bindings.table.Correspond ((chronicle.draft.paramsOf node).zip arguments) type seen
                (bindings.nodeTypes[short]?) (bindings.nodeTypes[long]?) := by
  obtain ⟨draft, hdraft, hbindings⟩ := Option.bind_eq_some_iff.mp h
  obtain rfl := Option.some.inj hbindings
  let background := (ofDocument document).background prelude limits
  have hlinked : background.tree.Linked := linked_ofDocument document
  obtain ⟨rest, hchronicle, hpasses, -, hdeferred⟩ :=
    background.exists_chronicle hprelude.isClosed hlinked hdraft
  refine ⟨_, hchronicle, rfl, fun node value id halias => ?_⟩
  have hcounted := (Background.isCounted_bound hprelude.isClosed hlinked).passes
    (Background.isBound_bound hprelude.isClosed) hpasses
  obtain ⟨body, hbody, name, hid⟩ := halias.exists_denotes hcounted
  refine ⟨body, hbody, fun arguments type seen htype hseen access short part long other hshort hlong
    hpart hother hturn hturn' hends havoids => ?_⟩
  have hreads := Background.reads_of_finish hprelude.isClosed hlinked hdraft hdeferred hshort hturn
    (Background.TypedFrom.inferred_eq_some hpart)
  have hreads' := Background.reads_of_finish hprelude.isClosed hlinked hdraft hdeferred hlong hturn'
    (Background.TypedFrom.inferred_eq_some hother)
  exact Background.correspond_of_reads hid htype (hseen.filled hbody) hends havoids hreads hreads'

/-! ### An alias of an object type -/

/-- The document `type Keyed<T> = { key: string, value: T }; declare const b: Keyed<number>;
declare const c: { key: string, value: number }; b.key; c.key; b.value; c.value;`. -/
def keyedByNumber : Concrete.Document where
  text := "type Keyed<T> = \x7b key: string, value: T \x7d; declare const b: Keyed<number>; " ++
    "declare const c: \x7b key: string, value: number \x7d; b.key; c.key; b.value; c.value;"
  dialect := .typeScript
  root :=
    let object (start stop : Nat) (field : Option String) (value : Concrete.Node) : Concrete.Node :=
      .named "object_type" start stop field
        [.named "property_signature" (start + 2) (start + 13) none
            [.named "property_identifier" (start + 2) (start + 5) (some "name") [],
              .named "type_annotation" (start + 5) (start + 13) (some "type")
                [.named "predefined_type" (start + 7) (start + 13) none []]],
          .named "property_signature" (start + 15) (stop - 2) none
            [.named "property_identifier" (start + 15) (start + 20) (some "name") [],
              .named "type_annotation" (start + 20) (stop - 2) (some "type") [value]]]
    let declared (start stop : Nat) (type : Concrete.Node) : Concrete.Node :=
      .named "ambient_declaration" start stop none
        [.named "lexical_declaration" (start + 8) stop none
          [.named "variable_declarator" (start + 14) (stop - 1) none
            [.named "identifier" (start + 14) (start + 15) (some "name") [],
              .named "type_annotation" (start + 15) (stop - 1) (some "type") [type]]]]
    .named "program" 0 155 none
      [.named "type_alias_declaration" 0 42 none
          [.named "type_identifier" 5 10 (some "name") [],
            .named "type_parameters" 10 13 (some "type_parameters")
              [.named "type_parameter" 11 12 none [.named "type_identifier" 11 12 (some "name") []]],
            object 16 41 (some "value") (.named "type_identifier" 38 39 none [])],
        declared 43 74 (.named "generic_type" 60 73 none
          [.named "type_identifier" 60 65 (some "name") [],
            .named "type_arguments" 65 73 (some "type_arguments")
              [.named "predefined_type" 66 72 none []]]),
        declared 75 123 (object 92 122 none (.named "predefined_type" 114 120 none [])),
        .propertyRead 124 129, .propertyRead 131 136, .propertyRead 138 145, .propertyRead 147 154]

/-- What the alias is declared to be. -/
def keyed : TypeExpr :=
  .object [⟨"key", .property, .keyword .string⟩, ⟨"value", .property, .named "T" []⟩]

/-- Node 1 declares the alias. -/
theorem construct?_keyedByNumber : (SyntaxTree.ofDocument keyedByNumber).construct? 1 =
    some (.typeAliasDeclaration 2 [⟨"T", none⟩] keyed) := by
  decide +kernel

/-- In the model, `b` is the alias with a number, and `c` what it is declared to be; both keys are
strings, `b.value` is the generic parameter, and `c.value` is a number. -/
theorem exists_finish_keyedByNumber :
    let background := (SyntaxTree.ofDocument keyedByNumber).background .empty {}
    ∃ draft, background.finish background.resultOfCall = some draft ∧
      background.DeclaresAlias draft 1 keyed 12 ∧ draft.paramsOf 1 = [11] ∧
      draft.table.get? 11 = some (.parameter "T" none) ∧
      draft.table.get? .number = some (.primitive .number) ∧
      draft.table.get? 14 = some (.reference 12 [.number]) ∧
      background.SpellsOut draft 1 keyed [.number] 15 ∧
      (draft.bindings.nodeTypes[13]? = some 14 ∧ draft.bindings.nodeTypes[12]? = some .string ∧
        draft.bindings.nodeTypes[17]? = some 15 ∧ draft.bindings.nodeTypes[16]? = some .string) ∧
      draft.bindings.nodeTypes[21]? = some 14 ∧ draft.bindings.nodeTypes[20]? = some 11 ∧
        draft.bindings.nodeTypes[25]? = some 15 ∧ draft.bindings.nodeTypes[24]? = some .number := by
  intro background
  have hends : ((SyntaxTree.ofDocument keyedByNumber).guardedModel .empty {}).toOption.any
      (fun bindings => decide (bindings.table.get? 11 = some (.parameter "T" none) ∧
        bindings.table.get? .number = some (.primitive .number) ∧
        bindings.table.get? 14 = some (.reference 12 [.number]) ∧
        bindings.table.get? 15 =
          some (.object [⟨"key", .property, .string⟩, ⟨"value", .property, .number⟩]) ∧
        (bindings.nodeTypes[13]? = some 14 ∧ bindings.nodeTypes[12]? = some .string ∧
          bindings.nodeTypes[17]? = some 15 ∧ bindings.nodeTypes[16]? = some .string) ∧
        bindings.nodeTypes[21]? = some 14 ∧ bindings.nodeTypes[20]? = some 11 ∧
          bindings.nodeTypes[25]? = some 15 ∧ bindings.nodeTypes[24]? = some .number)) = true := by
    decide +kernel
  obtain ⟨bindings, hbindings, hfacts⟩ :=
    (SyntaxTree.ofDocument keyedByNumber).exists_model?_of_guarded Prelude.isClosed_empty hends
  obtain ⟨draft, hdraft, hend⟩ := Option.bind_eq_some_iff.mp hbindings
  obtain rfl := Option.some.inj hend
  obtain ⟨hparam, hnumber, htype, hseen, htypes⟩ := of_decide_eq_true hfacts
  -- what the names refer to has been so since they were bound
  have hbound : background.bound.typeNames["Keyed"]? = some 12 ∧
      background.bound.typeParams[(1 : NodeId)]? = some [("T", 11)] ∧
        background.parameterNamed? background.bound "T" 1 = some 11 := by
    decide +kernel
  obtain ⟨_, hpasses⟩ := Background.exists_passes_of_finish Prelude.isClosed_empty hdraft
  have hnames := hpasses.course.sameNames
  have hparams : draft.paramsOf 1 = [11] := by
    rw [Draft.paramsOf, hnames.typeParams]
    exact congrArg (fun params => (params.getD []).map (·.2)) hbound.2.1
  have hparameter : background.parameterNamed? draft "T" 1 = some 11 := by
    rw [Background.parameterNamed?_congr hnames]
    exact hbound.2.2
  refine ⟨draft, hdraft, ⟨⟨_, _, construct?_keyedByNumber⟩, "Keyed", by decide +kernel,
    by decide +kernel, hnames.typeNames ▸ hbound.1⟩, hparams, hparam, hnumber, htype,
    ⟨[.number], ?_, ?_⟩, htypes⟩
  · exact .cons (.refl _) .nil
  · rw [hparams]
    refine ⟨_, ⟨.string, _, rfl, rfl, .number, [], rfl, ?_, rfl⟩, hseen⟩
    simp only [Background.DenotesWith, hparameter]
    rfl

/-- All the member expressions are answered in their turns. -/
theorem answersInTurn_keyedByNumber :
    let background := (SyntaxTree.ofDocument keyedByNumber).background .empty {}
    (background.AnswersInTurn 12 ∧ background.AnswersInTurn 16) ∧
      background.AnswersInTurn 20 ∧ background.AnswersInTurn 24 := by
  intro background
  have hturns : [12, 16, 20, 24].Sublist background.turns := by decide +kernel
  have hturn : ∀ node ∈ [12, 16, 20, 24], background.AnswersInTurn node := fun node hmem =>
    Background.AnswersInTurn.of_mem_turns Prelude.isClosed_empty (hturns.subset hmem)
  exact ⟨⟨hturn 12 (by simp), hturn 16 (by simp)⟩, hturn 20 (by simp), hturn 24 (by simp)⟩

/-- The member expressions read a key each, and a value each. -/
theorem access?_keyedByNumber :
    let tree := SyntaxTree.ofDocument keyedByNumber
    (tree.access? 12 = some (.member "key", 13) ∧ tree.access? 16 = some (.member "key", 17)) ∧
      tree.access? 20 = some (.member "value", 21) ∧
        tree.access? 24 = some (.member "value", 25) := by
  decide +kernel

/-- There both keys are strings. -/
theorem transparent_of_model?_keyedByNumber :
    let tree := SyntaxTree.ofDocument keyedByNumber
    let background := tree.background .empty {}
    ∃ bindings chronicle body, tree.model? .empty {} = some bindings ∧
      background.chronicle? = some chronicle ∧ chronicle.draft.bindings = bindings ∧
      background.DeclaresAlias chronicle.draft 1 keyed 12 ∧
      background.Denotes chronicle.draft 1 keyed body ∧
      bindings.table.get? 14 = some (.reference 12 [.number]) ∧
      background.SpellsOut chronicle.draft 1 keyed [.number] 15 ∧
      (tree.access? 12 = some (.member "key", 13) ∧ tree.access? 16 = some (.member "key", 17)) ∧
      (bindings.nodeTypes[13]? = some 14 ∧ bindings.nodeTypes[17]? = some 15) ∧
      (background.AnswersInTurn 12 ∧ background.AnswersInTurn 16) ∧
      bindings.table.standsFor? (bindings.table.shapeWithin 32 body) = none ∧
      bindings.table.Avoids [(11, .number)] (.member "key") body ∧
      bindings.table.Correspond [(11, .number)] 14 15 (some .string) (some .string) ∧
      bindings.nodeTypes[12]? = some .string ∧ bindings.nodeTypes[16]? = some .string := by
  intro tree background
  obtain ⟨draft, hdraft, halias, hparams, hparam, -, htype, hseen,
    ⟨hpart, hshort, hother, hlong⟩, -⟩ := exists_finish_keyedByNumber
  have hbindings : tree.model? .empty {} = some draft.bindings :=
    Option.bind_eq_some_iff.mpr ⟨draft, hdraft, rfl⟩
  obtain ⟨chronicle, hchronicle, hend, hreads⟩ :=
    SyntaxTree.transparent_of_model? keyedByNumber (.inl rfl) {} hbindings
  obtain ⟨rest, hsame, -⟩ := background.exists_chronicle Prelude.isClosed_empty
    (SyntaxTree.linked_ofDocument keyedByNumber) hdraft
  obtain rfl := Option.some.inj (hchronicle.symm.trans hsame)
  obtain ⟨body, hbody, hreads⟩ := hreads 1 keyed 12 halias
  obtain ⟨own, -, hobject⟩ := id hbody
  have hstops := TypeTable.standsFor?_shapeWithin_of_object hobject 32
  have havoids : draft.table.Avoids [(11, .number)] (.member "key") body := by
    refine .of_object hobject ?_
    have hother : (11 : TypeId) ≠ body := by
      rintro rfl
      cases hobject.symm.trans hparam
    simp [Instantiation.argument?, hother]
  have hcorrespond := hreads [.number] 14 15 htype hseen (.member "key") 12 13 16 17
    access?_keyedByNumber.1.1 access?_keyedByNumber.1.2 hpart hother
    answersInTurn_keyedByNumber.1.1 answersInTurn_keyedByNumber.1.2 hstops (hparams ▸ havoids)
  rw [hparams, hshort, hlong] at hcorrespond
  exact ⟨_, _, body, hbindings, hchronicle, rfl, halias, hbody, htype, hseen,
    access?_keyedByNumber.1, ⟨hpart, hother⟩, answersInTurn_keyedByNumber.1, hstops, havoids,
    hcorrespond, hshort, hlong⟩

/-- **The argument of the alias is lost**: `b.value` is the generic parameter, which is not the type
of `c.value`. -/
theorem not_transparent_keyedByNumber :
    let tree := SyntaxTree.ofDocument keyedByNumber
    let background := tree.background .empty {}
    ∃ bindings chronicle body type other, tree.model? .empty {} = some bindings ∧
      background.chronicle? = some chronicle ∧ chronicle.draft.bindings = bindings ∧
      background.DeclaresAlias chronicle.draft 1 keyed 12 ∧
      background.Denotes chronicle.draft 1 keyed body ∧
      bindings.table.get? 14 = some (.reference 12 [.number]) ∧
      background.SpellsOut chronicle.draft 1 keyed [.number] 15 ∧
      (tree.access? 20 = some (.member "value", 21) ∧
        tree.access? 24 = some (.member "value", 25)) ∧
      (bindings.nodeTypes[21]? = some 14 ∧ bindings.nodeTypes[25]? = some 15) ∧
      (background.AnswersInTurn 20 ∧ background.AnswersInTurn 24) ∧
      bindings.table.standsFor? (bindings.table.shapeWithin 32 body) = none ∧
      bindings.nodeTypes[20]? = some type ∧ bindings.nodeTypes[24]? = some other ∧
        ¬bindings.table.Describes [] type other := by
  intro tree background
  obtain ⟨draft, hdraft, halias, -, hparam, hnumber, htype, hseen, -, hpart, hshort, hother,
    hlong⟩ := exists_finish_keyedByNumber
  have hbindings : tree.model? .empty {} = some draft.bindings :=
    Option.bind_eq_some_iff.mpr ⟨draft, hdraft, rfl⟩
  have hlinked := SyntaxTree.linked_ofDocument keyedByNumber
  obtain ⟨rest, hchronicle, hpasses, -⟩ :=
    background.exists_chronicle Prelude.isClosed_empty hlinked hdraft
  have hcounted := (Background.isCounted_bound Prelude.isClosed_empty hlinked).passes
    (Background.isBound_bound Prelude.isClosed_empty) hpasses
  obtain ⟨body, hbody, -⟩ := halias.exists_denotes hcounted
  refine ⟨_, _, body, 11, .number, hbindings, hchronicle, rfl, halias, hbody, htype, hseen,
    access?_keyedByNumber.2, ⟨hpart, hother⟩, answersInTurn_keyedByNumber.2, ?_, hshort, hlong,
    fun hdescribes => ?_⟩
  · obtain ⟨own, -, hobject⟩ := hbody
    exact TypeTable.standsFor?_shapeWithin_of_object hobject 32
  · exact TypeTable.not_describes_of_parameter hparam hnumber hdescribes

end StreamLint
