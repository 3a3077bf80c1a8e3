import StreamLint.Proofs.Model.Annotated
import StreamLint.Proofs.Model.Transparency
import StreamLint.Proofs.Oracle.Depth
import StreamLint.Proofs.Syntax.Signatures
/-!
# Interfaces and object types agree

A declared name may be that of an interface, or that of an alias of an object type with the same
members. What can be asked about a value that is annotated with the name is whether it could be a
stream, and whether it is a reference type. Both answers are the same in both cases
(`StreamLint.SyntaxTree.agrees_of_model?`): either one is a reference type, and could be a stream
exactly if there is a method `subscribe` (`StreamLint.TypeTable.AnswersAs`).

On the way there they have little in common. The members of an interface are nodes of the file, and
stand in its type; those of an object type are in the written type, and the place of the name holds
an alias, which leads to the object type in one step more. So the steps must not run out at once.

Two things are taken for granted. The name is none of a known stream, since an interface of that
name is one whatever its members are. And what the members are called must be the same in both
bodies, `StreamLint.Concrete.Node.signature`; their types may be others.
-/

namespace StreamLint

open Concrete (Node Document)

/-! ### Members that are methods -/

/-- A written member is a method `subscribe`. -/
def WrittenMember.isSubscribe (member : WrittenMember) : Bool :=
  member.name == "subscribe" && member.kind == .method

namespace Concrete

/-- The members of a body include a method `subscribe`. -/
def declaresSubscribe (source : String) (members : List Node) : Bool :=
  members.any fun member => member.signature source == Node.methodSignature "subscribe"

theorem declaresSubscribe_congr {source source' : String} {members members' : List Node}
    (h : members.map (·.signature source) = members'.map (·.signature source')) :
    declaresSubscribe source members = declaresSubscribe source' members' := by
  have hmap : ∀ (source : String) (members : List Node), declaresSubscribe source members =
      (members.map (·.signature source)).any (· == Node.methodSignature "subscribe") := by
    simp [declaresSubscribe, List.any_map, Function.comp_def]
  rw [hmap, hmap, h]

end Concrete

open Concrete (declaresSubscribe)

namespace SyntaxTree

variable {tree : SyntaxTree} {node : NodeId}

theorem kind_of_propertyOfParameter? {param : NodeId} {member : WrittenMember}
    (h : tree.propertyOfParameter? param = some member) : member.kind = .property := by
  unfold propertyOfParameter? at h
  split at h
  · obtain ⟨_, -, rfl⟩ := Option.map_eq_some_iff.mp h
    rfl
  · cases h

/-- **A node declares a method `subscribe`** if it is a method with that name. -/
theorem any_isSubscribe_membersAt : (tree.membersAt node).any (·.isSubscribe) = true ↔
    ∃ name params returnType body, tree.construct? node =
      some (.methodDefinition name params returnType body) ∧
        tree.nameAt? name = some "subscribe" := by
  unfold membersAt
  split
  next name written value hconstruct =>
    cases hname : tree.nameAt? name <;> simp [hconstruct, WrittenMember.isSubscribe]
  next name params returnType body hconstruct =>
    cases hname : tree.nameAt? name with
    | none => simp [hconstruct, hname]
    | some text =>
      by_cases hconstructor : text = "constructor"
      · -- what the parameters of a constructor declare are properties
        subst hconstructor
        have hnone : (params.filterMap tree.propertyOfParameter?).any (·.isSubscribe) = false := by
          refine List.any_eq_false.mpr fun member hmem => ?_
          obtain ⟨param, -, hparam⟩ := List.mem_filterMap.mp hmem
          simp [WrittenMember.isSubscribe, kind_of_propertyOfParameter? hparam]
        simp only [beq_self_eq_true, if_true, hnone]
        simp [hconstruct, hname]
      · simp [hconstruct, hname, hconstructor, WrittenMember.isSubscribe]
  next hproperty hmethod =>
    simp only [List.any_nil, Bool.false_eq_true, false_iff]
    rintro ⟨name, params, returnType, body, hconstruct, -⟩
    exact hmethod _ _ _ _ hconstruct

/-- **What an interface declares** includes a method `subscribe` if its body does. -/
theorem any_isSubscribe_members {document : Document} {members : List NodeId} {body : List Node}
    (h : List.Forall₂ document.Lowers members body)
    (hplain : ∀ member ∈ body, member.IsPlainMember) :
    (members.flatMap (ofDocument document).membersAt).any (·.isSubscribe) =
      declaresSubscribe document.text body := by
  induction h with
  | nil => rfl
  | @cons place member _ _ hlowers _ ih =>
    obtain ⟨hmember, hrest⟩ := List.forall_mem_cons.mp hplain
    have hfirst : ((ofDocument document).membersAt place).any (·.isSubscribe) =
        (member.signature document.text == Node.methodSignature "subscribe") := by
      rw [Bool.eq_iff_iff, any_isSubscribe_membersAt, hlowers.isMethod_iff hmember, beq_iff_eq]
    rw [List.flatMap_cons, List.any_append, hfirst, ih hrest]
    rfl

end SyntaxTree

/-- **What an object type declares** includes a method `subscribe` if its body does. -/
theorem TypeExpr.any_ofMember (source : String) (body : List Node) :
    (body.filterMap (ofMember source)).any
        (fun member => member.name == "subscribe" && member.kind == .method) =
      declaresSubscribe source body := by
  induction body with
  | nil => rfl
  | cons member rest ih =>
    have hfirst : ((ofMember source member).any fun member =>
        member.name == "subscribe" && member.kind == .method) =
          (member.signature source == Node.methodSignature "subscribe") := by
      rw [Bool.eq_iff_iff, beq_iff_eq, ← ofMember_eq_method_iff]
      rcases ofMember source member with _ | ⟨name, kind, type⟩
      · simp
      · simp
    simp only [declaresSubscribe, List.any_cons] at ih ⊢
    rw [← hfirst, ← ih]
    cases hof : ofMember source member <;> simp [hof]

namespace Background

variable {background : Background} {draft : Draft} {awaited : TypeId → Deferred → Prop}

theorem hasSubscribe_of_declares {written : List WrittenMember} {members : List (Member TypeId)}
    (h : List.Forall₂ (background.Declares draft awaited) written members) :
    hasSubscribe members = written.any (·.isSubscribe) := by
  induction h with
  | nil => rfl
  | cons hfirst _ ih =>
    simp only [hasSubscribe, List.any_cons] at ih ⊢
    rw [ih, WrittenMember.isSubscribe, hfirst.name, hfirst.kind]

theorem hasSubscribe_of_denotesMembers {site : NodeId} {written : List (Member TypeExpr)}
    {members : List (Member TypeId)} (h : background.DenotesMembers draft site written members) :
    hasSubscribe members =
      written.any fun member => member.name == "subscribe" && member.kind == .method := by
  induction written generalizing members with
  | nil =>
    obtain rfl : members = [] := h
    rfl
  | cons first rest ih =>
    obtain ⟨id, others, rfl, -, hothers⟩ := h
    simp only [hasSubscribe, List.any_cons] at ih ⊢
    rw [ih hothers]

end Background

/-! ### What an oracle answers -/

namespace TypeTable

variable {table : TypeTable} {maxDepth : Nat} {type : TypeId}

/-- **What is answered about a type**: it is a reference type, and whether it could be a stream. -/
structure AnswersAs (table : TypeTable) (maxDepth : Nat) (type : TypeId) (isStream : Bool) :
    Prop where
  /-- The answer about streams. -/
  observable : table.mayBeObservable maxDepth type = isStream
  /-- The type is a reference type. -/
  reference : table.isReference maxDepth type = true

/-- A class or interface without supertypes. -/
theorem answersAs_of_declared {declaration : NominalType}
    (hentry : table.get? type = some (.declared declaration))
    (hsupertypes : declaration.supertypes = []) :
    table.AnswersAs maxDepth type declaration.isObservable where
  observable := by
    simp [mayBeObservable, observableWithin, hentry, NominalType.mayBeObservable, hsupertypes]
  reference := by simp [isReference, referenceWithin, hentry]

/-- **An alias of an object type** is one step away from it. -/
theorem answersAs_of_alias {name : String} {params : List TypeId} {target : TypeId}
    {members : List (Member TypeId)} (hentry : table.get? type = some (.alias name params target))
    (htarget : table.get? target = some (.object members)) (hdepth : 1 ≤ maxDepth) :
    table.AnswersAs maxDepth type (hasSubscribe members) := by
  obtain ⟨depth, rfl⟩ : ∃ depth, maxDepth = depth + 1 := ⟨maxDepth - 1, by omega⟩
  constructor
  · simp [mayBeObservable, observableWithin, hentry, htarget]
  · simp [isReference, referenceWithin, hentry, htarget]

/-- An array. -/
theorem answersAs_of_array {element : TypeId} (hentry : table.get? type = some (.array element)) :
    table.AnswersAs maxDepth type false where
  observable := by simp [mayBeObservable, observableWithin, hentry]
  reference := by simp [isReference, referenceWithin, hentry]

end TypeTable

/-! ### Declared names -/

namespace Concrete.Document

variable {document : Document} {name : String}

/-- **The name is declared by the node**: this is the declaration of the name that counts, such as
the only one. -/
def DeclaresBy (document : Document) (name : String) (node : Node) : Prop :=
  ∃ place, (SyntaxTree.ofDocument document).counting
      ((SyntaxTree.ofDocument document).declarationsOf name) = [place] ∧
    document.root.at? (document.originOf place) = some node

/-- The name is that of an interface with these members, which extends nothing. -/
def DeclaresInterface (document : Document) (name : String) (body : List Node) : Prop :=
  ∃ node, document.DeclaresBy name node ∧ node.IsInterface body

/-- The name is that of an alias of an object type with these members. -/
def DeclaresObjectAlias (document : Document) (name : String) (body : List Node) : Prop :=
  ∃ node, document.DeclaresBy name node ∧ node.IsObjectAlias body

theorem DeclaresBy.exists_lowers {node : Node} (h : document.DeclaresBy name node) :
    ∃ place, (SyntaxTree.ofDocument document).counting
        ((SyntaxTree.ofDocument document).declarationsOf name) = [place] ∧
      (SyntaxTree.ofDocument document).IsReached place ∧
        (SyntaxTree.ofDocument document).typeName? place = some name ∧
          document.Lowers place node := by
  obtain ⟨place, hcounting, hat⟩ := h
  have hmem : place ∈ (SyntaxTree.ofDocument document).declarationsOf name :=
    (SyntaxTree.ofDocument document).counting_subset _ (hcounting ▸ List.mem_singleton_self place)
  obtain ⟨hreached, hname⟩ := List.mem_filter.mp hmem
  have hname : (SyntaxTree.ofDocument document).typeName? place = some name := by simpa using hname
  refine ⟨place, hcounting, .of_mem_preorder hreached, hname, ?_⟩
  obtain ⟨construct, hconstruct, hgeneric⟩ := Option.bind_eq_some_iff.mp hname
  refine lowers_of_originOf hconstruct ?_ ?_ hat <;>
    cases construct <;> simp_all [Construct.kind, SyntaxTree.genericDeclaration?]

end Concrete.Document

namespace Background

variable {draft : Draft} {awaited : TypeId → Deferred → Prop} {name : String}

/-- **An interface that counts alone** and extends nothing is at the place of its name, with the
members that it declares. -/
theorem IsCounted.exists_declared {background : Background}
    (hcounted : background.IsCounted draft awaited) {place : NodeId}
    (hreached : background.tree.IsReached place)
    (hname : background.tree.typeName? place = some name)
    (hcounting : background.tree.counting (background.tree.declarationsOf name) = [place])
    {nameNode : NodeId} {params : List TypeParameter} {members : List NodeId}
    (hconstruct : background.tree.construct? place =
      some (.interfaceDeclaration nameNode params [] members)) :
    ∃ id declaration, draft.typeNames[name]? = some id ∧
      draft.table.get? id = some (.declared declaration) ∧ declaration.name = name ∧
        declaration.supertypes = [] ∧ List.Forall₂ (background.Declares draft awaited)
          (members.flatMap background.tree.membersAt) declaration.members := by
  obtain ⟨id, entry, -, hid, hentry, hholds⟩ := hcounted place name hreached hname
  rw [hcounting] at hholds
  obtain ⟨declaration, rfl, hmerged⟩ := hholds.exists_isMerged <| by
    simp [SyntaxTree.kind?, hconstruct, Construct.kind]
  have hnominal := hmerged.nominal
  have hsupertypes := hmerged.supertypes
  have hmembers := hmerged.members
  rw [List.flatMap_singleton] at hsupertypes hmembers
  simp only [SyntaxTree.nominal?, SyntaxTree.ownSupertypes, SyntaxTree.ownMembers, hconstruct,
    List.map_nil] at hnominal hsupertypes hmembers
  have hnamed : background.tree.nameAt? nameNode = some name := by
    simpa [SyntaxTree.typeName?, hconstruct, SyntaxTree.genericDeclaration?] using hname
  rw [hnamed] at hnominal
  refine ⟨id, declaration, hid, hentry, ?_, List.forall₂_nil_left_iff.mp hsupertypes, hmembers⟩
  exact (congrArg Prod.fst (Option.some.inj hnominal)).symm

variable {document : Document} {prelude : Prelude} {limits : Limits} {body : List Node}

/-- **The name of an interface** is at a place that answers as its body says. -/
theorem exists_answersAs_of_interface
    (hcounted : ((SyntaxTree.ofDocument document).background prelude limits).IsCounted draft awaited)
    (h : document.DeclaresInterface name body) (hplain : ∀ member ∈ body, member.IsPlainMember)
    (hname : isStreamName name = false) :
    ∃ id, draft.typeNames[name]? = some id ∧ ∀ maxDepth,
      draft.table.AnswersAs maxDepth id (declaresSubscribe document.text body) := by
  obtain ⟨node, hdeclares, hnode⟩ := h
  obtain ⟨place, hcounting, hreached, htypeName, hlowers⟩ := hdeclares.exists_lowers
  obtain ⟨nameNode, params, members, hconstruct, hmembers⟩ := hlowers.exists_interface hnode
  obtain ⟨id, declaration, hid, hentry, hown, hsupertypes, hdeclared⟩ :=
    hcounted.exists_declared hreached htypeName hcounting hconstruct
  have hstream : declaration.isObservable = declaresSubscribe document.text body := by
    rw [NominalType.isObservable, hown, hname, Bool.false_or, hasSubscribe_of_declares hdeclared]
    exact SyntaxTree.any_isSubscribe_members hmembers hplain
  exact ⟨id, hid, fun maxDepth => hstream ▸ TypeTable.answersAs_of_declared hentry hsupertypes⟩

/-- **The name of an alias of an object type** is at a place that answers as its body says, if one
step is left for the alias. -/
theorem exists_answersAs_of_objectAlias
    (hcounted : ((SyntaxTree.ofDocument document).background prelude limits).IsCounted draft awaited)
    (h : document.DeclaresObjectAlias name body) :
    ∃ id, draft.typeNames[name]? = some id ∧ ∀ maxDepth, 1 ≤ maxDepth →
      draft.table.AnswersAs maxDepth id (declaresSubscribe document.text body) := by
  obtain ⟨node, hdeclares, hnode⟩ := h
  obtain ⟨place, hcounting, hreached, htypeName, hlowers⟩ := hdeclares.exists_lowers
  obtain ⟨nameNode, params, hconstruct⟩ := hlowers.exists_objectAlias hnode
  obtain ⟨id, -, -, hid, -, -⟩ := hcounted place name hreached htypeName
  have halias : ((SyntaxTree.ofDocument document).background prelude limits).DeclaresAlias draft
      place (.object (body.filterMap (TypeExpr.ofMember document.text))) id :=
    ⟨⟨_, _, hconstruct⟩, name, htypeName, hcounting, hid⟩
  obtain ⟨target, hdenotes, aliasName, hentry⟩ := halias.exists_denotes hcounted
  obtain ⟨own, hown, htarget⟩ := hdenotes
  have hne : target ≠ id := by
    rintro rfl
    rw [if_pos rfl, htarget] at hentry
    cases hentry
  rw [if_neg hne] at hentry
  refine ⟨id, hid, fun maxDepth hdepth => ?_⟩
  rw [← TypeExpr.any_ofMember, ← hasSubscribe_of_denotesMembers hown]
  exact TypeTable.answersAs_of_alias hentry htarget hdepth

/-- **A value that is annotated with a declared name** is answered as the name; one that is annotated
as an array is no stream. -/
theorem answersAs_of_nameDenotes {background : Background} {id type : TypeId} {maxDepth : Nat}
    {isStream : Bool} (hid : draft.typeNames[name]? = some id)
    (hanswers : draft.table.AnswersAs maxDepth id isStream)
    (hdenotes : background.NameDenotes draft name [] type) :
    draft.table.AnswersAs maxDepth type (!isArrayName name && isStream) := by
  cases harray : isArrayName name with
  | true =>
    exact TypeTable.answersAs_of_array ((nameDenotes_iff_of_isArrayName harray).mp hdenotes)
  | false =>
    have hnamed : background.typeNamed? draft name = some id := by simp [typeNamed?, hid]
    obtain rfl : type = id := (nameDenotes_iff_of_typeNamed harray hnamed).mp hdenotes
    exact hanswers

end Background

/-! ### Models -/

/-- **What a fresh oracle answers about an annotated value**, if it is known what is answered about
the place of the name. -/
theorem SyntaxTree.freshAnswer_of_isAnnotated {document : Document} {prelude : Prelude}
    (hprelude : prelude.IsBuilt) {limits : Limits} {bindings : Bindings}
    (h : (ofDocument document).model? prelude limits = some bindings) {name : String}
    {isStream : Bool}
    (hdeclared : ∀ draft awaited,
      ((ofDocument document).background prelude limits).IsCounted draft awaited →
        ∃ id, draft.typeNames[name]? = some id ∧
          draft.table.AnswersAs limits.resolutionDepth id isStream)
    {value : NodeId} (hvalue : (ofDocument document).IsAnnotated name value) :
    Oracle.freshAnswer bindings.model limits.resolutionDepth (.observable value) =
        (!isArrayName name && isStream) ∧
      Oracle.freshAnswer bindings.model limits.resolutionDepth (.reference value) = true := by
  obtain ⟨draft, hdraft, hbindings⟩ := Option.bind_eq_some_iff.mp h
  obtain rfl := Option.some.inj hbindings
  let background := (ofDocument document).background prelude limits
  have hclosed := hprelude.isClosed
  have hlinked : background.tree.Linked := linked_ofDocument document
  obtain ⟨rest, -, hpasses, hanswered, -⟩ := background.exists_chronicle hclosed hlinked hdraft
  have hnamed : background.IsNamed draft :=
    hpasses.course.keeps (fun hmove hold => hold.move hmove)
      (background.isNamed_bound hlinked hclosed)
  have hnotes : background.NotesParams draft :=
    (Background.notesParams_bound hclosed).congr hpasses.course.sameNames.typeParams
  -- the value has the type that its annotation denotes
  obtain ⟨type, htype, hdenotes⟩ :=
    ((background.typesSymbols_bound hlinked).passes hpasses).exists_typeOf? hnotes hvalue
      fun name hname =>
        let ⟨_, hanswer⟩ := hanswered.exists_of_nameAt? hvalue.reached hname
        hnamed.resolvesName hname hanswer
  have hcounted := (Background.isCounted_bound hclosed hlinked).passes
    (Background.isBound_bound hclosed) hpasses
  obtain ⟨id, hid, hanswers⟩ := hdeclared draft _ hcounted
  have hat : draft.bindings.model.typeAt? value = some type := by
    simp only [FileModel.typeAt?, htype]
  have hvalue := Background.answersAs_of_nameDenotes hid hanswers hdenotes
  simp only [Oracle.freshAnswer_eq, FileModel.answer, hat]
  exact ⟨hvalue.observable, hvalue.reference⟩

/-- **Interfaces and object types agree.** Let a name be that of an interface in one document, and
that of an alias of an object type in another one, where the members of both are called the same. If
the name is none of a known stream and at least one step is left for the alias, a value that is
annotated with the name in the first document and one that is annotated with it in the second one get
the same answers from fresh oracles over the models of the documents. -/
theorem SyntaxTree.agrees_of_model? {document document' : Document} {prelude : Prelude}
    (hprelude : prelude.IsBuilt) {limits : Limits} (hdepth : 1 ≤ limits.resolutionDepth)
    {bindings bindings' : Bindings}
    (h : (ofDocument document).model? prelude limits = some bindings)
    (h' : (ofDocument document').model? prelude limits = some bindings')
    {name : String} (hname : isStreamName name = false) {body body' : List Node}
    (hinterface : document.DeclaresInterface name body)
    (halias : document'.DeclaresObjectAlias name body')
    (hplain : ∀ member ∈ body, member.IsPlainMember)
    (hbodies : body.map (·.signature document.text) = body'.map (·.signature document'.text))
    {value value' : NodeId} (hvalue : (ofDocument document).IsAnnotated name value)
    (hvalue' : (ofDocument document').IsAnnotated name value') :
    Oracle.freshAnswer bindings.model limits.resolutionDepth (.observable value) =
        Oracle.freshAnswer bindings'.model limits.resolutionDepth (.observable value') ∧
      Oracle.freshAnswer bindings.model limits.resolutionDepth (.reference value) =
        Oracle.freshAnswer bindings'.model limits.resolutionDepth (.reference value') := by
  have hfirst := freshAnswer_of_isAnnotated hprelude h
    (fun draft awaited hcounted => by
      obtain ⟨id, hid, hanswers⟩ :=
        Background.exists_answersAs_of_interface hcounted hinterface hplain hname
      exact ⟨id, hid, hanswers limits.resolutionDepth⟩) hvalue
  have hsecond := freshAnswer_of_isAnnotated hprelude h'
    (fun draft awaited hcounted => by
      obtain ⟨id, hid, hanswers⟩ := Background.exists_answersAs_of_objectAlias hcounted halias
      exact ⟨id, hid, hanswers limits.resolutionDepth hdepth⟩) hvalue'
  rw [hfirst.1, hfirst.2, hsecond.1, hsecond.2, Concrete.declaresSubscribe_congr hbodies]
  exact ⟨rfl, rfl⟩

/-! ### A feed -/

/-- The members of a body with a method `subscribe` and a property `id`, from the place of the
opening brace on. -/
def feedMembers (start : Nat) : List Node :=
  [.named "method_signature" (start + 2) (start + 19) none
      [.named "property_identifier" (start + 2) (start + 11) (some "name") [],
        .named "formal_parameters" (start + 11) (start + 13) (some "parameters") [],
        .named "type_annotation" (start + 13) (start + 19) (some "return_type")
          [.named "predefined_type" (start + 15) (start + 19) none []]],
    .named "property_signature" (start + 21) (start + 31) none
      [.named "property_identifier" (start + 21) (start + 23) (some "name") [],
        .named "type_annotation" (start + 23) (start + 31) (some "type")
          [.named "predefined_type" (start + 25) (start + 31) none []]]]

/-- A document with a declaration, and `declare const f: Feed; f;` after it. -/
def feedDocument (text : String) (declaration : Node) (start : Nat) : Document where
  text := text ++ " declare const f: Feed; f;"
  dialect := .typeScript
  root := .named "program" 0 (start + 25) none
    [declaration,
      .named "ambient_declaration" start (start + 22) none
        [.named "lexical_declaration" (start + 8) (start + 22) none
          [.named "variable_declarator" (start + 14) (start + 21) none
            [.named "identifier" (start + 14) (start + 15) (some "name") [],
              .named "type_annotation" (start + 15) (start + 21) (some "type")
                [.named "type_identifier" (start + 17) (start + 21) none []]]]],
      .named "expression_statement" (start + 23) (start + 25) none
        [.named "identifier" (start + 23) (start + 24) none []]]

/-- The document `interface Feed { subscribe(): void; id: string } declare const f: Feed; f;`. -/
def feedInterface : Document :=
  feedDocument "interface Feed \x7b subscribe(): void; id: string \x7d"
    (.named "interface_declaration" 0 48 none
      [.named "type_identifier" 10 14 (some "name") [],
        .named "interface_body" 15 48 (some "body") (feedMembers 15)]) 49

/-- The document `type Feed = { subscribe(): void; id: string }; declare const f: Feed; f;`. -/
def feedAlias : Document :=
  feedDocument "type Feed = \x7b subscribe(): void; id: string \x7d;"
    (.named "type_alias_declaration" 0 46 none
      [.named "type_identifier" 5 9 (some "name") [],
        .named "object_type" 12 45 (some "value") (feedMembers 12)]) 47

theorem declaresInterface_feedInterface :
    feedInterface.DeclaresInterface "Feed" (feedMembers 15) := by
  have horigin : feedInterface.originOf 1 = [0] := by decide +kernel
  refine ⟨_, ⟨1, by decide +kernel, congrArg _ horigin⟩, rfl, rfl, by decide, _, rfl, rfl⟩

theorem declaresObjectAlias_feedAlias : feedAlias.DeclaresObjectAlias "Feed" (feedMembers 12) := by
  have horigin : feedAlias.originOf 1 = [0] := by decide +kernel
  exact ⟨_, ⟨1, by decide +kernel, congrArg _ horigin⟩, rfl, rfl, _, rfl, rfl, rfl⟩

/-- The name that is read is that of the constant, in both documents. -/
theorem isAnnotated_feed : (SyntaxTree.ofDocument feedInterface).IsAnnotated "Feed" 12 ∧
    (SyntaxTree.ofDocument feedAlias).IsAnnotated "Feed" 8 := by
  have hnot : ∀ {document : Document} {node : NodeId},
      ((SyntaxTree.ofDocument document).background .empty {}).isProperty node = false →
        ¬(SyntaxTree.ofDocument document).IsPropertyOfParent node := by
    intro document node hread hproperty
    exact absurd (hread.symm.trans (Background.isProperty_iff.mpr hproperty)) (by simp)
  exact ⟨⟨.of_mem_preorder (by decide +kernel), hnot (by decide +kernel), "f", 0, 9,
      by decide +kernel⟩,
    .of_mem_preorder (by decide +kernel), hnot (by decide +kernel), "f", 0, 5, by decide +kernel⟩

/-- **The feed is a stream**, as an interface and as an object type. -/
theorem agrees_of_model?_feed :
    ∃ bindings bindings', (SyntaxTree.ofDocument feedInterface).model? .empty {} = some bindings ∧
      (SyntaxTree.ofDocument feedAlias).model? .empty {} = some bindings' ∧
      isStreamName "Feed" = false ∧ feedInterface.DeclaresInterface "Feed" (feedMembers 15) ∧
      feedAlias.DeclaresObjectAlias "Feed" (feedMembers 12) ∧
      (SyntaxTree.ofDocument feedInterface).IsAnnotated "Feed" 12 ∧
      (SyntaxTree.ofDocument feedAlias).IsAnnotated "Feed" 8 ∧
      (Oracle.freshAnswer bindings.model 32 (.observable 12) =
          Oracle.freshAnswer bindings'.model 32 (.observable 8) ∧
        Oracle.freshAnswer bindings.model 32 (.reference 12) =
          Oracle.freshAnswer bindings'.model 32 (.reference 8)) ∧
      Oracle.freshAnswer bindings.model 32 (.observable 12) = true ∧
        Oracle.freshAnswer bindings.model 32 (.reference 12) = true := by
  have hends : ((SyntaxTree.ofDocument feedInterface).guardedModel .empty {}).toOption.any
      (fun bindings => bindings.model.answer 32 (.observable 12) &&
        bindings.model.answer 32 (.reference 12)) = true := by
    decide +kernel
  obtain ⟨bindings, hbindings, hanswers⟩ :=
    (SyntaxTree.ofDocument feedInterface).exists_model?_of_guarded Prelude.isClosed_empty hends
  have hends' : ((SyntaxTree.ofDocument feedAlias).guardedModel .empty {}).toOption.any
      (fun _ => true) = true := by
    decide +kernel
  obtain ⟨bindings', hbindings', -⟩ :=
    (SyntaxTree.ofDocument feedAlias).exists_model?_of_guarded Prelude.isClosed_empty hends'
  have hplain : ∀ member ∈ feedMembers 15, member.IsPlainMember := by
    simp only [feedMembers, List.forall_mem_cons]
    exact ⟨⟨by decide, by decide⟩, ⟨by decide, by decide⟩, by simp⟩
  have hagrees := SyntaxTree.agrees_of_model? (.inl rfl) (by decide) hbindings hbindings'
    (by decide) declaresInterface_feedInterface declaresObjectAlias_feedAlias hplain
    (by decide +kernel) isAnnotated_feed.1 isAnnotated_feed.2
  obtain ⟨hobservable, hreference⟩ := (Bool.and_eq_true _ _).mp hanswers
  rw [← Oracle.freshAnswer_eq] at hobservable hreference
  exact ⟨bindings, bindings', hbindings, hbindings', by decide, declaresInterface_feedInterface,
    declaresObjectAlias_feedAlias, isAnnotated_feed.1, isAnnotated_feed.2, hagrees, hobservable,
    hreference⟩

end StreamLint
