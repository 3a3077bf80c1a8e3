import StreamLint.Proofs.Model.Groundwork
import StreamLint.Proofs.Model.Names
/-!
# The names that a file binds

Which names a file binds, and where, can be read off its tree: a variable or a parameter is bound in
the nearest scope at or above it, and a function in the nearest scope above it
(`StreamLint.SyntaxTree.boundName?`). The *symbols* of a file are the names that are bound in it,
each scope and name once, in the order in which they are bound first
(`StreamLint.SyntaxTree.symbols`).

This is what the scopes of a draft hold once the names of the file are bound
(`StreamLint.Background.isScoped_bound`). A name is bound one node after the other, and each node
adds its own name to what was bound before it (`StreamLint.Background.IsScoped`).
-/

namespace StreamLint

/-- A name that is bound in a scope. -/
structure BoundName where
  /-- The scope. -/
  scope : NodeId
  /-- The name. -/
  name : String
  deriving DecidableEq, Repr

namespace SyntaxTree

/-- **The name that a node binds**: a variable or a parameter in the nearest scope at or above it,
and a function in the nearest scope above it. A pattern binds no name. -/
def boundName? (tree : SyntaxTree) (node : NodeId) : Option BoundName := do
  match tree.construct? node with
  | some (.variableDeclarator name _ _) | some (.parameter name _ _ _) =>
    return ⟨← tree.scopeAt? node, ← tree.nameAt? name⟩
  | some (.functionDeclaration (some name) _ _ _ _) =>
    return ⟨← tree.scopeAt? (← tree.parent? node), ← tree.nameAt? name⟩
  | _ => none

/-- The names that a file binds, in the order of the text. -/
def boundNames (tree : SyntaxTree) : List BoundName :=
  tree.preorder.filterMap tree.boundName?

/-- **The symbols of a file**, in the order of their numbers: the names that are bound in it, each
where it is bound in a scope first. -/
def symbols (tree : SyntaxTree) : List BoundName :=
  tree.boundNames.eraseDups

/-- The nearest scope, at or above a node, in which a name is bound. -/
def scopeOf? (tree : SyntaxTree) (name : String) (node : NodeId) : Option NodeId :=
  (tree.selfAndAncestors node).find? fun scope => tree.boundNames.contains ⟨scope, name⟩

variable {tree : SyntaxTree}

/-- The node binds the name at `name`. -/
inductive Binds (tree : SyntaxTree) (node name : NodeId) : Prop where
  /-- A variable. -/
  | ofVariable {written : Option TypeExpr} {value : Option NodeId}
    (h : tree.construct? node = some (.variableDeclarator name written value)) : Binds tree node name
  /-- A parameter. -/
  | ofParameter {written : Option TypeExpr} {default : Option NodeId} {isProperty : Bool}
    (h : tree.construct? node = some (.parameter name written default isProperty)) :
    Binds tree node name
  /-- A function. -/
  | ofFunction {written : List TypeParameter} {params : List NodeId} {returnType : Option TypeExpr}
    {body : Option NodeId}
    (h : tree.construct? node = some (.functionDeclaration (some name) written params returnType body)) :
    Binds tree node name

namespace Binds

variable {node name : NodeId}

theorem parent?_eq (h : tree.Binds node name) (hlinked : tree.Linked) :
    tree.parent? name = some node := by
  refine hlinked.parent_of_mem_children node name ?_
  cases h <;> next h => simp [children, h, Construct.children]

/-- The name is no property. -/
theorem field?_property (h : tree.Binds node name) : tree.field? node .property = none := by
  cases h <;> next h => simp [field?, h, Construct.field?]

theorem boundName?_eq (h : tree.Binds node name) (hlinked : tree.Linked) :
    tree.boundName? node = do return ⟨← tree.scopeOfName? name, ← tree.nameAt? name⟩ := by
  have hparent := h.parent?_eq hlinked
  cases h with
  | ofVariable h => simp [boundName?, scopeOfName?, hparent, h, kind?, Construct.kind]
  | ofParameter h => simp [boundName?, scopeOfName?, hparent, h, kind?, Construct.kind]
  | ofFunction h =>
    simp [boundName?, scopeOfName?, hparent, h, kind?, Construct.kind, Option.bind_assoc]

end Binds

/-- What binds no name at a node of its own binds none. -/
theorem boundName?_eq_none {node : NodeId} (h : ∀ name, ¬tree.Binds node name) :
    tree.boundName? node = none := by
  unfold boundName?
  split
  next hconstruct => exact (h _ (.ofVariable hconstruct)).elim
  next hconstruct => exact (h _ (.ofParameter hconstruct)).elim
  next hconstruct => exact (h _ (.ofFunction hconstruct)).elim
  next => rfl

theorem mem_selfAndAncestors_of_scopeAt? {node scope : NodeId} (h : tree.scopeAt? node = some scope) :
    scope ∈ tree.selfAndAncestors node :=
  List.mem_of_find?_eq_some h

/-- The scope that a name belongs to is around it. -/
theorem Linked.mem_selfAndAncestors_of_scopeOfName? (hlinked : tree.Linked) {name scope : NodeId}
    (h : tree.scopeOfName? name = some scope) : scope ∈ tree.selfAndAncestors name := by
  obtain ⟨declaration, hparent, hscope⟩ := Option.bind_eq_some_iff.mp h
  rw [hlinked.selfAndAncestors_eq_cons hparent]
  refine List.mem_cons_of_mem _ ?_
  split at hscope
  next =>
    obtain ⟨above, habove, hscope⟩ := Option.bind_eq_some_iff.mp hscope
    rw [hlinked.selfAndAncestors_eq_cons habove]
    exact List.mem_cons_of_mem _ (mem_selfAndAncestors_of_scopeAt? hscope)
  next => exact mem_selfAndAncestors_of_scopeAt? hscope

end SyntaxTree

namespace Draft

/-- The symbol that a name is bound to in a scope. -/
def symbolAt? (draft : Draft) (scope : NodeId) (name : String) : Option SymbolId :=
  (draft.scopes[scope]?).bind fun names => names[name]?

/-- The same names are bound in both drafts, and noted for the same nodes. -/
structure SameScopes (old new : Draft) : Prop where
  /-- The names that are bound. -/
  scopes : new.scopes = old.scopes
  /-- The types of the symbols. -/
  symbols : new.symbols = old.symbols
  /-- The symbols that names refer to. -/
  nodeSymbols : new.nodeSymbols = old.nodeSymbols

theorem SameScopes.refl (draft : Draft) : draft.SameScopes draft := ⟨rfl, rfl, rfl⟩

theorem SameScopes.trans {a b c : Draft} (hab : a.SameScopes b) (hbc : b.SameScopes c) :
    a.SameScopes c :=
  ⟨hbc.scopes.trans hab.scopes, hbc.symbols.trans hab.symbols,
    hbc.nodeSymbols.trans hab.nodeSymbols⟩

end Draft

namespace Background

open Draft

variable {background : Background} {draft new : Draft}

theorem Extends.sameScopes {sources : Deferred → Prop}
    (h : background.Extends sources draft new) : draft.SameScopes new := by
  rw [h.rest]
  exact ⟨rfl, rfl, rfl⟩

/-! ### Declarations of types

No name is bound while types are declared. -/

theorem after_declareParams_sameScopes (draft : Draft) (params : List TypeParameter) :
    After (declareParams params) draft fun _ new => draft.SameScopes new := by
  induction params generalizing draft with
  | nil => exact .refl draft
  | cons param rest ih =>
    have hpush : After (Draft.push (.parameter param.name none)) draft fun _ new =>
        draft.SameScopes new := ⟨rfl, rfl, rfl⟩
    exact hpush.bind fun id new hnew => (ih new).bind fun _ _ hlast => hnew.trans hlast

theorem after_declareName_sameScopes (draft : Draft) (name : String) :
    After (declareName name) draft fun _ new => draft.SameScopes new := by
  unfold declareName
  refine After.get ?_
  split
  · exact .refl draft
  · exact ⟨rfl, rfl, rfl⟩

theorem after_declareType_sameScopes (draft : Draft) (node : NodeId) (isClass : Bool)
    (name : Option String) :
    After (declareType node isClass name) draft fun _ new => draft.SameScopes new := by
  have hgiven : ∀ (id : TypeId) (now : Draft), draft.SameScopes now → After
      (do noteClass node id; return some id) now fun _ new => draft.SameScopes new :=
    fun _ _ hnow => hnow.trans ⟨rfl, rfl, rfl⟩
  cases name with
  | some name =>
    refine (after_declareName_sameScopes draft name).bind fun id new hnew => ?_
    cases isClass with
    | true => exact hgiven id new hnew
    | false => exact hnew
  | none =>
    cases isClass with
    | true => exact hgiven _ _ ⟨rfl, rfl, rfl⟩
    | false => exact .refl draft

theorem after_declareNode_sameScopes (draft : Draft) (node : NodeId) :
    After (background.declareNode node) draft fun _ new => draft.SameScopes new := by
  simp only [declareNode]
  split
  next construct _ =>
    split
    next name params _ =>
      refine (after_declareParams_sameScopes draft params).bind fun ids new hnew => ?_
      have hnote : After (noteParams node ids) new fun _ now => new.SameScopes now := by
        simp only [noteParams, After, StateT.run, modify, modifyGet, MonadStateOf.modifyGet,
          StateT.modifyGet]
        simp only [pure]
        split
        · exact .refl new
        · exact ⟨rfl, rfl, rfl⟩
      refine hnote.bind fun _ now hnow => ?_
      refine (after_declareType_sameScopes now node _ name).imp fun _ _ hlast => ?_
      exact (hnew.trans hnow).trans hlast
    next => exact .refl draft
  next => exact .refl draft

theorem after_declareAll_sameScopes (draft : Draft) (nodes : List NodeId) :
    After (background.declareAll nodes) draft fun _ new => draft.SameScopes new := by
  induction nodes generalizing draft with
  | nil => exact .refl draft
  | cons node rest ih =>
    simp only [declareAll]
    refine (after_declareNode_sameScopes draft node).bind fun id? new hnew => ?_
    cases id? with
    | some id => exact (ih new).bind fun _ _ hlast => hnew.trans hlast
    | none => exact (ih new).imp fun _ _ hlast => hnew.trans hlast

theorem after_defineBounds_sameScopes (draft : Draft) (site : NodeId)
    (params : List ((String × TypeId) × TypeParameter)) :
    After (background.defineBounds site params) draft fun _ new => draft.SameScopes new := by
  induction params generalizing draft with
  | nil => exact .refl draft
  | cons param rest ih =>
    obtain ⟨⟨name, id⟩, param⟩ := param
    simp only [defineBounds]
    split
    next written _ =>
      have hresolve : background.Adds (fun _ => True) (background.resolve site written) :=
        adds_resolve site written
      refine (hresolve.after draft).bind fun bound new hnew => ?_
      have hdefine : After (Draft.define id (.parameter name (some bound))) new fun _ now =>
          draft.SameScopes now := hnew.sameScopes.trans ⟨rfl, rfl, rfl⟩
      exact hdefine.bind fun _ now hnow => (ih now).imp fun _ _ hlast => hnow.trans hlast
    next => exact ih draft

theorem after_defineAllBounds_sameScopes (draft : Draft) (nodes : List NodeId) :
    After (background.defineAllBounds nodes) draft fun _ new => draft.SameScopes new := by
  induction nodes generalizing draft with
  | nil => exact .refl draft
  | cons node rest ih =>
    simp only [defineAllBounds]
    refine After.get ?_
    split
    · refine (after_defineBounds_sameScopes draft node _).bind fun _ new hnew => ?_
      exact (ih new).imp fun _ _ hlast => hnew.trans hlast
    · exact ih draft

theorem after_defineAll_sameScopes (draft : Draft) {declarations : List (NodeId × TypeId)}
    (hdeclarations : ∀ declaration ∈ declarations, background.tree.IsReached declaration.1 ∧
      ((background.tree.construct? declaration.1).any (·.declaresType)) = true) :
    After (background.defineAll declarations) draft fun _ new => draft.SameScopes new := by
  induction declarations generalizing draft with
  | nil => exact .refl draft
  | cons declaration rest ih =>
    obtain ⟨node, id⟩ := declaration
    obtain ⟨⟨hnode, hdeclares⟩, hrest⟩ := List.forall_mem_cons.mp hdeclarations
    simp only [defineAll]
    refine (after_declaredData_declaredBy hnode hdeclares id).bind ?_
    rintro _ new ⟨hnew, data, rfl, -⟩
    have hdefine : After (Draft.define id data) new fun _ now => draft.SameScopes now :=
      hnew.sameScopes.trans ⟨rfl, rfl, rfl⟩
    exact hdefine.bind fun _ now hnow => (ih now hrest).imp fun _ _ hlast => hnow.trans hlast

/-! ### Binding names -/

/-- **The names that are bound**: the scopes hold them with the numbers of their symbols, which have
a type each, and a symbol is noted only for a name that is bound around it. -/
structure IsScoped (background : Background) (draft : Draft) (bound : List BoundName) : Prop where
  /-- A scope holds the names that are bound in it. -/
  symbolAt?_eq_some_iff : ∀ scope name symbol, draft.symbolAt? scope name = some symbol ↔
    bound.eraseDups[symbol]? = some ⟨scope, name⟩
  /-- The symbols have types. -/
  size_eq : draft.symbols.size = bound.eraseDups.length
  /-- A symbol is noted for a name that is bound around it. -/
  noted : ∀ (node : NodeId) (symbol : SymbolId), draft.nodeSymbols[node]? = some symbol →
    ∃ name, background.LooksUp node name ∧
      ∃ scope ∈ background.tree.selfAndAncestors node, ⟨scope, name⟩ ∈ bound

theorem eraseDups_concat (bound : List BoundName) (next : BoundName) :
    (bound ++ [next]).eraseDups =
      if next ∈ bound then bound.eraseDups else bound.eraseDups ++ [next] := by
  rw [List.eraseDups_append]
  split <;> simp [List.removeAll, List.eraseDups_cons, *]

theorem getElem?_concat_eq_some_iff {bound : List BoundName} {next other : BoundName}
    {symbol : Nat} : (bound ++ [next])[symbol]? = some other ↔
      bound[symbol]? = some other ∨ symbol = bound.length ∧ next = other := by
  grind

/-- A scope with one name more. -/
theorem symbolAt?_of_insert {owner : NodeId} {text : String} {symbol : SymbolId}
    (h : new.scopes =
      draft.scopes.insert owner (((draft.scopes[owner]?).getD {}).insert text symbol))
    (scope : NodeId) (name : String) : new.symbolAt? scope name =
      if scope = owner ∧ name = text then some symbol else draft.symbolAt? scope name := by
  simp only [symbolAt?, h, Std.TreeMap.getElem?_insert, Std.LawfulEqCmp.compare_eq_iff_eq]
  by_cases hscope : owner = scope
  · subst hscope
    simp only [if_true, Option.bind_some, Std.TreeMap.getElem?_insert,
      Std.LawfulEqCmp.compare_eq_iff_eq, true_and, eq_comm (a := name)]
    cases draft.scopes[owner]? <;> simp
  · simp [hscope, Ne.symm hscope]

namespace IsScoped

variable {bound : List BoundName}

/-- Nothing is bound at the start. -/
theorem start : background.IsScoped background.start [] where
  symbolAt?_eq_some_iff scope name symbol := by simp [Background.start, symbolAt?]
  size_eq := rfl
  noted node symbol h := by simp [Background.start] at h

theorem congr (h : background.IsScoped draft bound) (hnew : draft.SameScopes new) :
    background.IsScoped new bound where
  symbolAt?_eq_some_iff := by
    simpa only [symbolAt?, hnew.scopes] using h.symbolAt?_eq_some_iff
  size_eq := by rw [hnew.symbols, h.size_eq]
  noted := by simpa only [hnew.nodeSymbols] using h.noted

theorem isSome_symbolAt? (h : background.IsScoped draft bound) (scope : NodeId) (name : String) :
    (draft.symbolAt? scope name).isSome = true ↔ ⟨scope, name⟩ ∈ bound := by
  rw [Option.isSome_iff_exists, ← List.mem_eraseDups, List.mem_iff_getElem?]
  exact exists_congr fun symbol => h.symbolAt?_eq_some_iff scope name symbol

theorem contains_iff (h : background.IsScoped draft bound) (scope : NodeId) (name : String) :
    ((draft.scopes[scope]?).getD {}).contains name = true ↔ ⟨scope, name⟩ ∈ bound := by
  rw [← h.isSome_symbolAt?, symbolAt?]
  cases draft.scopes[scope]? <;> simp

/-- **Binding a name** that is looked up, in a scope around it. -/
theorem after_bind (h : background.IsScoped draft bound) {name owner : NodeId} {text : String}
    (hlooks : background.LooksUp name text) (howner : background.tree.scopeOfName? name = some owner)
    (haround : owner ∈ background.tree.selfAndAncestors name) (type : TypeId) :
    After (background.bind name type) draft fun _ new =>
      background.IsScoped new (bound ++ [⟨owner, text⟩]) := by
  have hnoted : ∀ (node : NodeId) (symbol : SymbolId), draft.nodeSymbols[node]? = some symbol →
      ∃ name, background.LooksUp node name ∧ ∃ scope ∈ background.tree.selfAndAncestors node,
        ⟨scope, name⟩ ∈ bound ++ [⟨owner, text⟩] := by
    intro node symbol hsymbol
    obtain ⟨other, hother, scope, hscope, hmem⟩ := h.noted node symbol hsymbol
    exact ⟨other, hother, scope, hscope, List.mem_append_left _ hmem⟩
  simp only [Background.bind, hlooks.nameAt?_eq, howner]
  simp only [After, StateT.run, modify, modifyGet, MonadStateOf.modifyGet, StateT.modifyGet]
  simp only [pure]
  split
  next hcontains =>
    have hmem := (h.contains_iff owner text).mp hcontains
    refine ⟨fun scope name symbol => ?_, ?_, hnoted⟩
    · rw [eraseDups_concat, if_pos hmem, h.symbolAt?_eq_some_iff]
    · rw [eraseDups_concat, if_pos hmem, h.size_eq]
  next hcontains =>
    have hmem : (⟨owner, text⟩ : BoundName) ∉ bound :=
      fun hmem => hcontains ((h.contains_iff owner text).mpr hmem)
    refine ⟨fun scope name symbol => ?_, ?_, fun node symbol hsymbol => ?_⟩
    · rw [symbolAt?_of_insert rfl, eraseDups_concat, if_neg hmem, getElem?_concat_eq_some_iff,
        ← h.symbolAt?_eq_some_iff, h.size_eq]
      split
      next heq =>
        -- the name had no symbol in this scope
        obtain ⟨rfl, rfl⟩ := heq
        have hnone : draft.symbolAt? scope name = none := by
          simpa using mt (h.isSome_symbolAt? scope name).mp hmem
        simp [hnone, eq_comm]
      next hne =>
        refine (or_iff_left ?_).symm
        rintro ⟨-, ⟨⟩⟩
        exact hne ⟨rfl, rfl⟩
    · rw [eraseDups_concat, if_neg hmem, Array.size_push, h.size_eq, List.length_append]
      rfl
    · rw [Std.TreeMap.getElem?_insert] at hsymbol
      split at hsymbol
      next heq =>
        obtain rfl := Std.LawfulEqCmp.compare_eq_iff_eq.mp heq
        exact ⟨text, hlooks, owner, haround, by simp⟩
      next => exact hnoted node symbol hsymbol

/-- **Binding the name that a node binds**, if that is an identifier. -/
theorem after_bind_of_binds (h : background.IsScoped draft bound) (hlinked : background.tree.Linked)
    {node name : NodeId} (hbinds : background.tree.Binds node name) (type : TypeId) :
    After (background.bind name type) draft fun _ new =>
      background.IsScoped new (bound ++ (background.tree.boundName? node).toList) := by
  have hparent := hbinds.parent?_eq hlinked
  rw [hbinds.boundName?_eq hlinked]
  rcases hname : background.tree.nameAt? name with _ | text
  · simp only [Background.bind, hname]
    exact After.pure (by simpa using h)
  rcases howner : background.tree.scopeOfName? name with _ | owner
  · simp only [Background.bind, hname, howner]
    exact After.pure (by simpa using h)
  · have hlooks : background.LooksUp name text := by
      refine ⟨hname, ?_⟩
      simp [isProperty, hparent, hbinds.field?_property]
    exact h.after_bind hlooks howner (hlinked.mem_selfAndAncestors_of_scopeOfName? howner) type

theorem after_bindNode (h : background.IsScoped draft bound) (hlinked : background.tree.Linked)
    (node : NodeId) :
    After (background.bindNode node) draft fun _ new =>
      background.IsScoped new (bound ++ (background.tree.boundName? node).toList) := by
  have hbind : ∀ {action : StateM Draft TypeId} {name : NodeId},
      background.Adds (fun _ => True) action → background.tree.Binds node name →
        After (action >>= fun type => background.bind name type) draft fun _ new =>
          background.IsScoped new (bound ++ (background.tree.boundName? node).toList) := by
    intro action name hadds hbinds
    refine (hadds.after draft).bind fun type new hnew => ?_
    exact (h.congr hnew.sameScopes).after_bind_of_binds hlinked hbinds type
  simp only [bindNode]
  split
  next hconstruct => exact hbind (adds_resolveOrDefer (by simp) _ _) (.ofVariable hconstruct)
  next hconstruct => exact hbind (adds_resolveOrDefer (by simp) _ _) (.ofParameter hconstruct)
  next hconstruct =>
    -- the type of the function is put after that of its result
    simp only [← bind_assoc]
    exact hbind ((adds_resolveOrDefer (by simp) _ _).push_bind (by simp)) (.ofFunction hconstruct)
  next hvariable hparameter hfunction =>
    have hnone : ∀ name, ¬background.tree.Binds node name := by
      rintro name (hconstruct | hconstruct | hconstruct)
      · exact hvariable _ _ _ hconstruct
      · exact hparameter _ _ _ _ hconstruct
      · exact hfunction _ _ _ _ _ hconstruct
    rw [SyntaxTree.boundName?_eq_none hnone]
    exact After.pure (by simpa using h)

/-- **Binding the names of nodes** one after the other. -/
theorem after_bindAll (h : background.IsScoped draft bound) (hlinked : background.tree.Linked)
    (nodes : List NodeId) :
    After (background.bindAll nodes) draft fun _ new =>
      background.IsScoped new (bound ++ nodes.filterMap background.tree.boundName?) := by
  induction nodes generalizing draft bound with
  | nil => exact After.pure (by simpa using h)
  | cons node rest ih =>
    simp only [bindAll]
    have happend : (node :: rest).filterMap background.tree.boundName? =
        (background.tree.boundName? node).toList ++ rest.filterMap background.tree.boundName? := by
      cases hbound : background.tree.boundName? node <;> simp [hbound]
    refine (h.after_bindNode hlinked node).bind fun _ new hnew => ?_
    rw [happend, ← List.append_assoc]
    exact ih hnew

/-- **What a name refers to** is its symbol in the nearest scope that binds it. -/
theorem symbolNamed?_eq (h : background.IsScoped draft background.tree.boundNames) (name : String)
    (node : NodeId) : background.symbolNamed? draft name node =
      (background.tree.scopeOf? name node).bind fun scope => draft.symbolAt? scope name := by
  have hfirst : ∀ around : List NodeId, around.findSome? (fun scope => draft.symbolAt? scope name) =
      (around.find? fun scope => background.tree.boundNames.contains ⟨scope, name⟩).bind
        fun scope => draft.symbolAt? scope name := by
    intro around
    induction around with
    | nil => rfl
    | cons scope rest ih =>
      have hsome := h.isSome_symbolAt? scope name
      cases hsymbol : draft.symbolAt? scope name <;> simp_all
  exact hfirst _

end IsScoped

/-- When names begin to be bound, no scope holds a name. -/
theorem isScoped_defined (background : Background) :
    background.IsScoped background.defined [] :=
  ((IsScoped.start.congr (after_declareAll_sameScopes _ _)).congr
    (after_defineAllBounds_sameScopes _ _)).congr
      (after_defineAll_sameScopes _ declares_of_mem_declarations)

/-- **The names that a file binds** are bound when the first expression is typed. -/
theorem isScoped_bound (hlinked : background.tree.Linked) :
    background.IsScoped background.bound background.tree.boundNames :=
  background.isScoped_defined.after_bindAll hlinked background.tree.preorder

end Background

end StreamLint
