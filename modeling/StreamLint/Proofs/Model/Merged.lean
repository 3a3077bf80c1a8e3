import Mathlib.Data.List.Forall2
import StreamLint.Proofs.Model.Denotes
/-!
# What the declarations of one name declare together

The classes, interfaces and aliases of one name share a place. A class or an alias takes what has
been there, and an interface adds its supertypes and members to a class or interface that has been
there. So some of the declarations *count*, which is found by going through them in the order of the
text (`StreamLint.SyntaxTree.counting`).

The place holds what the declarations that count declare together: it is called and instantiated as
the first of them says, and has the supertypes and the members of all of them
(`StreamLint.Background.HoldsCounting`). Defining one declaration more keeps this up
(`StreamLint.Background.after_declaredData_holdsCounting`).
-/

namespace StreamLint

/-- A member as it is written in the body of a class or interface. -/
structure WrittenMember where
  /-- The name. -/
  name : String
  /-- Property or method. -/
  kind : MemberKind
  /-- The node that declares it. -/
  site : NodeId
  /-- The type of the property, or the type that the method returns, if it is written. -/
  written : Option TypeExpr
  /-- What that is to be found out from if it is not written. -/
  source : Option Deferred

namespace SyntaxTree

/-- The property that a parameter of a constructor declares, if it declares one. -/
def propertyOfParameter? (tree : SyntaxTree) (param : NodeId) : Option WrittenMember :=
  match tree.construct? param with
  | some (.parameter name written default true) =>
    (tree.nameAt? name).map fun text =>
      ⟨text, .property, param, written, default.map .expression⟩
  | _ => none

/-- The members that a node in the body of a class or interface declares. -/
def membersAt (tree : SyntaxTree) (node : NodeId) : List WrittenMember :=
  match tree.construct? node with
  | some (.propertyDefinition name written value) =>
    match tree.nameAt? name with
    | some text => [⟨text, .property, node, written, value.map .expression⟩]
    | none => []
  | some (.methodDefinition name params returnType body) =>
    match tree.nameAt? name with
    | some text =>
      if text == "constructor" then params.filterMap tree.propertyOfParameter?
      else [⟨text, .method, node, returnType, body.map .body⟩]
    | none => []
  | _ => []

/-- The members that a class or interface declares itself, in the order of the text. -/
def ownMembers (tree : SyntaxTree) (node : NodeId) : List WrittenMember :=
  match tree.construct? node with
  | some (.classDeclaration _ _ _ _ members) | some (.interfaceDeclaration _ _ _ members) =>
    members.flatMap tree.membersAt
  | _ => []

/-- The supertypes that a class or interface declares itself, in the order of the text. -/
def ownSupertypes (tree : SyntaxTree) (node : NodeId) : List (NodeId × TypeExpr) :=
  match tree.construct? node with
  | some (.classDeclaration _ _ base interfaces _) => (base.toList ++ interfaces).map (node, ·)
  | some (.interfaceDeclaration _ _ bases _) => bases.map (node, ·)
  | _ => []

/-- The name and the kind of a class or interface. The name is empty if there is none. -/
def nominal? (tree : SyntaxTree) (node : NodeId) : Option (String × NominalKind) :=
  match tree.construct? node with
  | some (.classDeclaration name _ _ _ _) =>
    some ((name.map fun name => (tree.nameAt? name).getD "").getD "", .classType)
  | some (.interfaceDeclaration name _ _ _) => some ((tree.nameAt? name).getD "", .interfaceType)
  | _ => none

/-- **The declarations that count**, with one declaration more: an interface adds to what counts
unless that is an alias; a class and an alias count alone, whatever has been declared before. -/
def countNext (tree : SyntaxTree) (counting : List NodeId) (node : NodeId) : List NodeId :=
  if tree.kind? node = some .interfaceDeclaration ∧
      ∀ first ∈ counting.head?, tree.kind? first ≠ some .typeAliasDeclaration then
    counting ++ [node]
  else [node]

/-- The declarations that count of those of one name. -/
def counting (tree : SyntaxTree) (nodes : List NodeId) : List NodeId :=
  nodes.foldl tree.countNext []

theorem counting_concat (tree : SyntaxTree) (nodes : List NodeId) (node : NodeId) :
    tree.counting (nodes ++ [node]) = tree.countNext (tree.counting nodes) node := by
  simp [counting]

end SyntaxTree

namespace Draft

/-- The type at a place in use is to be found out from the source. -/
def Awaits (draft : Draft) (type : TypeId) (source : Deferred) : Prop :=
  draft.table.Has type ∧ draft.deferred[type]? = some source

/-- What is written is carried over, and nothing is taken up. -/
structure Retains (old new : Draft) : Prop extends Carries old new, Stays old new

variable {a b c old new : Draft}

theorem Retains.refl (draft : Draft) : draft.Retains draft :=
  ⟨.refl draft, .refl draft⟩

theorem Retains.trans (hab : a.Retains b) (hbc : b.Retains c) : a.Retains c :=
  ⟨hab.toCarries.trans hbc.toCarries, hab.toStays.trans hbc.toStays⟩

theorem Awaits.mono {type : TypeId} {source : Deferred} (hnew : old.Stays new)
    (h : old.Awaits type source) : new.Awaits type source :=
  ⟨h.1.mono hnew.size_le, (hnew.deferred_eq type h.1).trans h.2⟩

end Draft

namespace Background

open Draft

variable {background : Background} {draft old new : Draft}

theorem Extends.retains {sources : Deferred → Prop} (h : background.Extends sources old new) :
    old.Retains new :=
  ⟨h.carries, h.stays⟩

/-! ### Members -/

/-- **The place is that of what is written, or else of what is to be found out later**; it is that of
the unknown type if there is neither. -/
def Provides (background : Background) (draft : Draft) (awaited : TypeId → Deferred → Prop)
    (site : NodeId) (written : Option TypeExpr) (source : Option Deferred) (type : TypeId) : Prop :=
  match written, source with
  | some written, _ => background.Denotes draft site written type
  | none, some source => awaited type source
  | none, none => type = .unknown

/-- The member is the written one. -/
structure Declares (background : Background) (draft : Draft) (awaited : TypeId → Deferred → Prop)
    (written : WrittenMember) (member : Member TypeId) : Prop where
  /-- The name. -/
  name : member.name = written.name
  /-- Property or method. -/
  kind : member.kind = written.kind
  /-- The type of the property, or the type that the method returns. -/
  type : background.Provides draft awaited written.site written.written written.source member.type

section

variable {awaited awaited' : TypeId → Deferred → Prop}

theorem Provides.mono (hnew : old.Carries new)
    (hawaited : ∀ type source, awaited type source → awaited' type source) {site : NodeId}
    {written : Option TypeExpr} {source : Option Deferred} {type : TypeId}
    (h : background.Provides old awaited site written source type) :
    background.Provides new awaited' site written source type := by
  match written, source with
  | some written, _ => exact Denotes.mono hnew h
  | none, some source => exact hawaited type source h
  | none, none => exact h

theorem Declares.mono (hnew : old.Carries new)
    (hawaited : ∀ type source, awaited type source → awaited' type source)
    {written : WrittenMember} {member : Member TypeId}
    (h : background.Declares old awaited written member) :
    background.Declares new awaited' written member :=
  { h with type := h.type.mono hnew hawaited }

end

/-- The members are the written ones, when a draft has been extended so far. -/
def DeclaresEach (background : Background) (draft : Draft) (written : List WrittenMember)
    (members : List (Member TypeId)) : Prop :=
  List.Forall₂ (background.Declares draft draft.Awaits) written members

theorem DeclaresEach.mono (hnew : old.Retains new) {written : List WrittenMember}
    {members : List (Member TypeId)} (h : background.DeclaresEach old written members) :
    background.DeclaresEach new written members :=
  h.imp fun _ _ hmember =>
    hmember.mono hnew.toCarries fun _ _ hawaits => hawaits.mono hnew.toStays

theorem after_resolveOrDefer_provides (draft : Draft) (written : Option TypeExpr)
    (source : Option Deferred) (site : NodeId) :
    After (background.resolveOrDefer written source site) draft fun type new =>
      draft.Retains new ∧ background.Provides new new.Awaits site written source type := by
  have hadds : background.Adds (fun _ => True) (background.resolveOrDefer written source site) :=
    adds_resolveOrDefer (by simp) written site
  refine ⟨(hadds draft).retains, ?_⟩
  match written, source with
  | some written, _ => exact (after_resolve_denotes draft site written).2
  | none, some source =>
    refine ⟨?_, Std.TreeMap.getElem?_insert_self⟩
    exact Nat.lt_of_lt_of_eq (Nat.lt_succ_self _) (TypeTable.size_push ..).symm
  | none, none => rfl

/-- A single member. -/
theorem DeclaresEach.single {written : WrittenMember} {type : TypeId}
    (h : background.Provides draft draft.Awaits written.site written.written written.source type) :
    background.DeclaresEach draft [written] [⟨written.name, written.kind, type⟩] :=
  .cons ⟨rfl, rfl, h⟩ .nil

theorem after_parameterProperty_declares (draft : Draft) (param : NodeId) :
    After (background.parameterProperty param) draft fun member? new => draft.Retains new ∧
      background.DeclaresEach new (background.tree.propertyOfParameter? param).toList
        member?.toList := by
  simp only [parameterProperty]
  split
  next name written default hconstruct =>
    simp only [SyntaxTree.propertyOfParameter?, hconstruct]
    split
    next text hname =>
      refine (after_resolveOrDefer_provides draft written _ param).bind fun type new hnew => ?_
      simp only [hname, Option.map_some]
      exact After.pure ⟨hnew.1, .single hnew.2⟩
    next hname =>
      simp only [hname, Option.map_none]
      exact After.pure ⟨.refl draft, .nil⟩
  next hother =>
    have hnone : background.tree.propertyOfParameter? param = none := by
      unfold SyntaxTree.propertyOfParameter?
      split
      next hconstruct => exact (hother _ _ _ hconstruct).elim
      next => rfl
    rw [hnone]
    exact After.pure ⟨.refl draft, .nil⟩

theorem after_propertiesOfParameters_declares (draft : Draft) (params : List NodeId) :
    After (background.propertiesOfParameters params) draft fun members new => draft.Retains new ∧
      background.DeclaresEach new (params.filterMap background.tree.propertyOfParameter?)
        members := by
  induction params generalizing draft with
  | nil => exact After.pure ⟨.refl draft, .nil⟩
  | cons param rest ih =>
    simp only [propertiesOfParameters]
    refine (after_parameterProperty_declares draft param).bind fun member? new hnew => ?_
    refine (ih new).bind fun members last hlast => After.pure ⟨hnew.1.trans hlast.1, ?_⟩
    have happend : (param :: rest).filterMap background.tree.propertyOfParameter? =
        (background.tree.propertyOfParameter? param).toList ++
          rest.filterMap background.tree.propertyOfParameter? := by
      cases hproperty : background.tree.propertyOfParameter? param <;> simp [hproperty]
    rw [happend]
    exact List.rel_append (hnew.2.mono hlast.1) hlast.2

theorem after_membersOf_declares (draft : Draft) (node : NodeId) :
    After (background.membersOf node) draft fun members new => draft.Retains new ∧
      background.DeclaresEach new (background.tree.membersAt node) members := by
  simp only [membersOf]
  split
  next name written value hconstruct =>
    simp only [SyntaxTree.membersAt, hconstruct]
    cases background.tree.nameAt? name with
    | some text =>
      refine (after_resolveOrDefer_provides draft written _ node).bind fun type new hnew => ?_
      exact After.pure ⟨hnew.1, .single hnew.2⟩
    | none => exact After.pure ⟨.refl draft, .nil⟩
  next name params returnType body hconstruct =>
    simp only [SyntaxTree.membersAt, hconstruct]
    cases background.tree.nameAt? name with
    | some text =>
      dsimp only
      split
      next hconstructor => exact after_propertiesOfParameters_declares draft params
      next hmethod =>
        refine (after_resolveOrDefer_provides draft returnType _ node).bind fun type new hnew => ?_
        exact After.pure ⟨hnew.1, .single hnew.2⟩
    | none => exact After.pure ⟨.refl draft, .nil⟩
  next hproperty hmethod =>
    have hnone : background.tree.membersAt node = [] := by
      unfold SyntaxTree.membersAt
      split
      next hconstruct => exact (hproperty _ _ _ hconstruct).elim
      next hconstruct => exact (hmethod _ _ _ _ hconstruct).elim
      next => rfl
    rw [hnone]
    exact After.pure ⟨.refl draft, .nil⟩

theorem after_membersOfAll_declares (draft : Draft) (nodes : List NodeId) :
    After (background.membersOfAll nodes) draft fun members new => draft.Retains new ∧
      background.DeclaresEach new (nodes.flatMap background.tree.membersAt) members := by
  induction nodes generalizing draft with
  | nil => exact After.pure ⟨.refl draft, .nil⟩
  | cons node rest ih =>
    simp only [membersOfAll]
    refine (after_membersOf_declares draft node).bind fun first new hnew => ?_
    refine (ih new).bind fun others last hlast => After.pure ⟨hnew.1.trans hlast.1, ?_⟩
    exact List.rel_append (hnew.2.mono hlast.1) hlast.2

/-! ### Declarations of one name -/

/-- **The class or interface is what the nodes declare together**: it is called and instantiated as
the first of them says, and has the supertypes and members of all of them, in the order of the
text. -/
structure IsMerged (background : Background) (draft : Draft) (awaited : TypeId → Deferred → Prop)
    (first : NodeId) (nodes : List NodeId) (type : NominalType) : Prop where
  /-- The name and the kind. -/
  nominal : background.tree.nominal? first = some (type.name, type.kind)
  /-- The generic parameters. -/
  params : type.params = ((draft.typeParams[first]?).getD []).map (·.2)
  /-- The supertypes. -/
  supertypes : List.Forall₂ (fun written id => background.Denotes draft written.1 written.2 id)
    (nodes.flatMap background.tree.ownSupertypes) type.supertypes
  /-- The members. -/
  members : List.Forall₂ (background.Declares draft awaited)
    (nodes.flatMap background.tree.ownMembers) type.members

/-- **What the place of a declared type holds**, when the given declarations count. -/
inductive HoldsCounting (background : Background) (draft : Draft)
    (awaited : TypeId → Deferred → Prop) (id : TypeId) : List NodeId → TypeEntry → Prop where
  /-- Nothing has been declared yet. -/
  | nothing : HoldsCounting background draft awaited id [] .unknown
  /-- An alias, unless it stands for its own place. -/
  | ofAlias {node name : NodeId} {written : List TypeParameter} {value : TypeExpr} {target : TypeId}
    (hconstruct : background.tree.construct? node =
      some (.typeAliasDeclaration name written value))
    (hdenotes : background.Denotes draft node value target) :
    HoldsCounting background draft awaited id [node]
      (if target = id then .unknown
      else .alias ((background.tree.nameAt? name).getD "")
        (((draft.typeParams[node]?).getD []).map (·.2)) target)
  /-- A class or interface. -/
  | ofMerged {first : NodeId} {rest : List NodeId} {type : NominalType}
    (h : background.IsMerged draft awaited first (first :: rest) type) :
    HoldsCounting background draft awaited id (first :: rest) (.declared type)

section

variable {awaited awaited' : TypeId → Deferred → Prop}

theorem IsMerged.mono (hnew : old.Carries new)
    (hawaited : ∀ type source, awaited type source → awaited' type source) {first : NodeId}
    {nodes : List NodeId} {type : NominalType} (h : background.IsMerged old awaited first nodes type) :
    background.IsMerged new awaited' first nodes type where
  nominal := h.nominal
  params := by rw [hnew.names.typeParams, h.params]
  supertypes := h.supertypes.imp fun _ _ hdenotes => Denotes.mono hnew hdenotes
  members := h.members.imp fun _ _ hmember => hmember.mono hnew hawaited

theorem HoldsCounting.mono (hnew : old.Carries new)
    (hawaited : ∀ type source, awaited type source → awaited' type source) {id : TypeId}
    {nodes : List NodeId} {entry : TypeEntry}
    (h : background.HoldsCounting old awaited id nodes entry) :
    background.HoldsCounting new awaited' id nodes entry := by
  cases h with
  | nothing => exact .nothing
  | ofAlias hconstruct hdenotes =>
    rw [← hnew.names.typeParams]
    exact .ofAlias hconstruct (hdenotes.mono hnew)
  | ofMerged h => exact .ofMerged (h.mono hnew hawaited)

/-- The place holds no composed type. -/
theorem HoldsCounting.isComposed {id : TypeId} {nodes : List NodeId} {entry : TypeEntry}
    (h : background.HoldsCounting draft awaited id nodes entry) : entry.isComposed = false := by
  cases h with
  | nothing => rfl
  | ofAlias => split <;> rfl
  | ofMerged => rfl

end

theorem denotesEach_iff {site : NodeId} {types : List TypeExpr} {ids : List TypeId} :
    background.DenotesEach draft site types ids ↔
      List.Forall₂ (fun written id => background.Denotes draft written.1 written.2 id)
        (types.map (site, ·)) ids := by
  induction types generalizing ids with
  | nil => simp [DenotesEach]
  | cons type rest ih =>
    simp only [DenotesEach, List.map_cons, List.forall₂_cons_left_iff, ih]
    exact exists_congr fun id =>
      ⟨fun ⟨others, heq, hid, hothers⟩ => ⟨others, hid, hothers, heq⟩,
        fun ⟨others, hid, hothers, heq⟩ => ⟨others, heq, hid, hothers⟩⟩

/-- A class or an interface alone. -/
theorem IsMerged.single {awaited : TypeId → Deferred → Prop} {node : NodeId} {name : String}
    {kind : NominalKind} {types : List TypeId} {own : List (Member TypeId)}
    (hnominal : background.tree.nominal? node = some (name, kind))
    (htypes : List.Forall₂ (fun written id => background.Denotes draft written.1 written.2 id)
      (background.tree.ownSupertypes node) types)
    (hown : List.Forall₂ (background.Declares draft awaited) (background.tree.ownMembers node) own) :
    background.IsMerged draft awaited node [node]
      ⟨name, kind, ((draft.typeParams[node]?).getD []).map (·.2), types, own⟩ where
  nominal := hnominal
  params := rfl
  supertypes := by simpa using htypes
  members := by simpa using hown

/-- An interface more. -/
theorem IsMerged.concat {awaited : TypeId → Deferred → Prop} {first node : NodeId}
    {nodes : List NodeId} {type : NominalType} {types : List TypeId} {own : List (Member TypeId)}
    (h : background.IsMerged draft awaited first nodes type)
    (htypes : List.Forall₂ (fun written id => background.Denotes draft written.1 written.2 id)
      (background.tree.ownSupertypes node) types)
    (hown : List.Forall₂ (background.Declares draft awaited) (background.tree.ownMembers node) own) :
    background.IsMerged draft awaited first (nodes ++ [node])
      { type with supertypes := type.supertypes ++ types, members := type.members ++ own } where
  nominal := h.nominal
  params := h.params
  supertypes := by simpa using List.rel_append h.supertypes htypes
  members := by simpa using List.rel_append h.members hown

/-- An interface adds to a class or interface, and stands for itself otherwise. -/
theorem HoldsCounting.cases_interface {awaited : TypeId → Deferred → Prop} {id : TypeId}
    {nodes : List NodeId} {entry : TypeEntry}
    (h : background.HoldsCounting draft awaited id nodes entry) {node : NodeId}
    (hkind : background.tree.kind? node = some .interfaceDeclaration) :
    (∃ first rest type, nodes = first :: rest ∧ entry = .declared type ∧
      background.IsMerged draft awaited first (first :: rest) type ∧
        background.tree.countNext nodes node = first :: rest ++ [node]) ∨
    (∀ type, entry ≠ .declared type) ∧ background.tree.countNext nodes node = [node] := by
  cases h with
  | nothing => exact .inr ⟨nofun, by simp [SyntaxTree.countNext]⟩
  | ofAlias hconstruct =>
    refine .inr ⟨fun type => by split <;> simp, ?_⟩
    simp [SyntaxTree.countNext, SyntaxTree.kind?, hconstruct, Construct.kind]
  | @ofMerged first rest type hmerged =>
    refine .inl ⟨first, rest, type, rfl, rfl, hmerged, if_pos ⟨hkind, ?_⟩⟩
    -- a class or interface is no alias
    rintro _ ⟨⟩ halias
    have hnominal := hmerged.nominal
    unfold SyntaxTree.nominal? at hnominal
    split at hnominal
    next hconstruct => simp [SyntaxTree.kind?, hconstruct, Construct.kind] at halias
    next hconstruct => simp [SyntaxTree.kind?, hconstruct, Construct.kind] at halias
    next => cases hnominal

/-- The supertypes and members of a class or interface. -/
theorem after_parts_denotes {node : NodeId} {members : List NodeId}
    (hmembers : ∀ member ∈ members, background.tree.IsReached member) (supertypes : List TypeExpr)
    {next : List TypeId → List (Member TypeId) → StateM Draft (Option TypeEntry)}
    {post : Option TypeEntry → Draft → Prop}
    (hnext : ∀ types own new, background.Extends background.tree.ReachesSource draft new →
      background.DenotesEach new node supertypes types →
        background.DeclaresEach new (members.flatMap background.tree.membersAt) own →
          After (next types own) new post) :
    After (do
      let types ← background.resolveEach node supertypes
      let own ← background.membersOfAll members
      next types own) draft post := by
  have htypes : background.Adds background.tree.ReachesSource
    (background.resolveEach node supertypes) := adds_resolveEach node supertypes
  refine ((htypes.after draft).and (after_resolveEach_denotes draft node supertypes)).bind ?_
  rintro types new ⟨hnew, -, hsupertypes⟩
  refine (((adds_membersOfAll hmembers).after new).and
    (after_membersOfAll_declares new members)).bind ?_
  rintro own last ⟨hlast, -, hown⟩
  exact hnext types own last (hnew.trans hlast) (hsupertypes.mono hlast.carries) hown

/-- **One declaration more**: a class and an alias replace what was declared at their place, an
interface adds to it. -/
theorem after_declaredData_holdsCounting {node : NodeId} (hnode : background.tree.IsReached node)
    (hdeclares : ((background.tree.construct? node).any (·.declaresType)) = true) {id : TypeId}
    {nodes : List NodeId} {entry : TypeEntry} (hentry : draft.table.get? id = some entry)
    (h : background.HoldsCounting draft draft.Awaits id nodes entry) :
    After (background.declaredData node id) draft fun data? new =>
      background.Extends background.tree.ReachesSource draft new ∧ ∃ data, data? = some data ∧
        background.HoldsCounting new new.Awaits id (background.tree.countNext nodes node) data := by
  simp only [declaredData]
  refine After.get ?_
  split
  next name written base interfaces members hconstruct =>
    have halone : background.tree.countNext nodes node = [node] := by
      simp [SyntaxTree.countNext, SyntaxTree.kind?, hconstruct, Construct.kind]
    rw [halone]
    refine after_parts_denotes (fun member hmember => ?_) _ fun types own new hnew htypes hown => ?_
    · exact hnode.part hconstruct (by simp [Construct.children, hmember])
    · rw [← hnew.typeParams_eq]
      refine After.pure ⟨hnew, _, rfl, .ofMerged (.single ?_ ?_ ?_)⟩
      · simp [SyntaxTree.nominal?, hconstruct]
      · simpa only [SyntaxTree.ownSupertypes, hconstruct] using denotesEach_iff.mp htypes
      · simpa only [SyntaxTree.ownMembers, hconstruct, DeclaresEach] using hown
  next name written bases members hconstruct =>
    have hnominal : background.tree.nominal? node =
        some ((background.tree.nameAt? name).getD "", .interfaceType) := by
      simp [SyntaxTree.nominal?, hconstruct]
    refine after_parts_denotes (fun member hmember => ?_) _ fun types own new hnew htypes hown => ?_
    · exact hnode.part hconstruct (by simp [Construct.children, hmember])
    have htypes : List.Forall₂ (fun written id => background.Denotes new written.1 written.2 id)
        (background.tree.ownSupertypes node) types := by
      simpa only [SyntaxTree.ownSupertypes, hconstruct] using denotesEach_iff.mp htypes
    have hown : background.DeclaresEach new (background.tree.ownMembers node) own := by
      simpa only [SyntaxTree.ownMembers, hconstruct] using hown
    have hkept := hnew.get?_eq_some hentry
    have hkind : background.tree.kind? node = some .interfaceDeclaration := by
      simp [SyntaxTree.kind?, hconstruct, Construct.kind]
    refine After.get ?_
    rcases h.cases_interface hkind with ⟨first, rest, type, rfl, rfl, hmerged, hnext⟩ | ⟨hother, hnext⟩
    · rw [hnext, hkept]
      exact After.pure ⟨hnew, _, rfl, .ofMerged ((hmerged.mono hnew.carries fun _ _ hawaits =>
        hawaits.mono hnew.stays).concat htypes hown)⟩
    · rw [hnext, ← hnew.typeParams_eq]
      split
      next type hat => exact absurd (Option.some.inj (hkept.symm.trans hat)) (hother type)
      next => exact After.pure ⟨hnew, _, rfl, .ofMerged (.single hnominal htypes hown)⟩
  next name written value hconstruct =>
    have halone : background.tree.countNext nodes node = [node] := by
      simp [SyntaxTree.countNext, SyntaxTree.kind?, hconstruct, Construct.kind]
    rw [halone]
    have hresolve : background.Adds background.tree.ReachesSource (background.resolve node value) :=
      adds_resolve node value
    refine ((hresolve.after draft).and (after_resolve_denotes draft node value)).bind ?_
    rintro target new ⟨hnew, -, htarget⟩
    have hholds : background.HoldsCounting new new.Awaits id [node] _ :=
      .ofAlias hconstruct htarget
    rw [hnew.typeParams_eq] at hholds
    split
    next hself =>
      rw [if_pos (eq_of_beq hself)] at hholds
      exact After.pure ⟨hnew, _, rfl, hholds⟩
    next hother =>
      rw [if_neg fun heq => hother (beq_iff_eq.mpr heq)] at hholds
      exact After.pure ⟨hnew, _, rfl, hholds⟩
  next hclass hinterface halias =>
    -- no other construct declares a type
    exfalso
    rcases hconstruct : background.tree.construct? node with _ | construct
    · simp [hconstruct] at hdeclares
    · cases construct with
      | classDeclaration => exact hclass _ _ _ _ _ hconstruct
      | interfaceDeclaration => exact hinterface _ _ _ _ hconstruct
      | typeAliasDeclaration => exact halias _ _ _ hconstruct
      | _ => simp [hconstruct, Construct.declaresType] at hdeclares

end Background

end StreamLint
