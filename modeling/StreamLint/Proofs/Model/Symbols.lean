import StreamLint.Proofs.Model.Counting
import StreamLint.Proofs.Model.Scopes
/-!
# The types of symbols

A name may be bound in a scope again and again, by the signatures of an overloaded function or by a
variable that is declared twice. Its symbol is that of the node which binds it first
(`StreamLint.SyntaxTree.firstBinding?`), and has the type which that node gives to it, whatever the
others say (`StreamLint.Background.TypesSymbols`): the written one, or else one that is found out
from the value or the body.
-/

namespace StreamLint

/-- The node that binds the name first, in the order of the text. -/
def SyntaxTree.firstBinding? (tree : SyntaxTree) (bound : BoundName) : Option NodeId :=
  tree.preorder.find? fun node => tree.boundName? node = some bound

namespace Background

open Draft

variable {background : Background} {draft new : Draft}

/-- **The type that a node gives to the name it binds**: that of a variable or a parameter is written
or that of its value; a function returns what is written or what its body returns. -/
inductive GivesType (background : Background) (draft : Draft) (awaited : TypeId → Deferred → Prop)
    (node : NodeId) (type : TypeId) : Prop where
  /-- A variable. -/
  | ofVariable {name : NodeId} {written : Option TypeExpr} {value : Option NodeId}
    (h : background.tree.construct? node = some (.variableDeclarator name written value))
    (htype : background.Provides draft awaited node written (value.map .expression) type) :
    GivesType background draft awaited node type
  /-- A parameter. -/
  | ofParameter {name : NodeId} {written : Option TypeExpr} {default : Option NodeId}
    {isProperty : Bool}
    (h : background.tree.construct? node = some (.parameter name written default isProperty))
    (htype : background.Provides draft awaited node written (default.map .expression) type) :
    GivesType background draft awaited node type
  /-- A function. -/
  | ofFunction {name : NodeId} {generics : List TypeParameter} {params : List NodeId}
    {written : Option TypeExpr} {body : Option NodeId} {result : TypeId}
    (h : background.tree.construct? node =
      some (.functionDeclaration (some name) generics params written body))
    (hfunction : draft.table.get? type = some (.function result))
    (hresult : background.Provides draft awaited node written (body.map .body) result) :
    GivesType background draft awaited node type

theorem GivesType.mono {awaited awaited' : TypeId → Deferred → Prop} {node : NodeId} {type : TypeId}
    (h : background.GivesType draft awaited node type) (hnew : draft.Carries new)
    (hawaited : ∀ type source, awaited type source → awaited' type source) :
    background.GivesType new awaited' node type := by
  cases h with
  | ofVariable h htype => exact .ofVariable h (htype.mono hnew hawaited)
  | ofParameter h htype => exact .ofParameter h (htype.mono hnew hawaited)
  | ofFunction h hfunction hresult =>
    exact .ofFunction h (hnew.composed _ _ rfl hfunction) (hresult.mono hnew hawaited)

/-- **The types of the symbols so far**: of the nodes that have been taken, the first one that binds
a name has given its type to the symbol. -/
def TypesIn (background : Background) (draft : Draft) (nodes : List NodeId) : Prop :=
  ∀ scope name symbol, draft.symbolAt? scope name = some symbol → ∃ node type,
    nodes.find? (fun node => background.tree.boundName? node = some ⟨scope, name⟩) = some node ∧
      draft.symbols[symbol]? = some type ∧ background.GivesType draft draft.Awaits node type

namespace TypesIn

variable {nodes : List NodeId}

theorem extend {sources : Deferred → Prop} (h : background.TypesIn draft nodes)
    (hnew : background.Extends sources draft new) : background.TypesIn new nodes := by
  intro scope name symbol hsymbol
  have hsame := hnew.sameScopes
  obtain ⟨node, type, hfirst, htype, hgives⟩ := h scope name symbol <| by
    simpa only [symbolAt?, hsame.scopes] using hsymbol
  refine ⟨node, type, hfirst, hsame.symbols ▸ htype, hgives.mono hnew.carries ?_⟩
  exact fun _ _ hawaits => hawaits.mono hnew.stays

/-- A node that binds nothing new. -/
theorem concat (h : background.TypesIn draft nodes) (node : NodeId) :
    background.TypesIn draft (nodes ++ [node]) := by
  intro scope name symbol hsymbol
  obtain ⟨first, type, hfirst, hrest⟩ := h scope name symbol hsymbol
  exact ⟨first, type, by simp [List.find?_append, hfirst], hrest⟩

/-- **Binding a name** for the first time; a name that is bound keeps its symbol and its type. -/
theorem after_bind (h : background.TypesIn draft nodes)
    (hscoped : background.IsScoped draft (nodes.filterMap background.tree.boundName?))
    (hlinked : background.tree.Linked) {node name : NodeId} (hbinds : background.tree.Binds node name)
    {type : TypeId} (hgives : background.GivesType draft draft.Awaits node type) :
    After (background.bind name type) draft fun _ new =>
      background.TypesIn new (nodes ++ [node]) := by
  have hbound := hbinds.boundName?_eq hlinked
  simp only [Background.bind]
  split
  next text owner htext howner =>
    simp only [After, StateT.run, modify, modifyGet, MonadStateOf.modifyGet, StateT.modifyGet]
    simp only [pure]
    split
    next => exact h.concat node
    next hcontains =>
      have hnot := mt (hscoped.contains_iff owner text).mpr hcontains
      intro scope name' symbol hsymbol
      rw [symbolAt?_of_insert rfl] at hsymbol
      split at hsymbol
      next heq =>
        -- no node before this one binds the name
        obtain ⟨rfl, rfl⟩ := heq
        obtain rfl := Option.some.inj hsymbol
        refine ⟨node, type, ?_, by simp, hgives.mono ⟨⟨rfl, rfl⟩, fun _ _ _ => id⟩ fun _ _ => id⟩
        have hnone : nodes.find? (fun node =>
            background.tree.boundName? node = some ⟨scope, name'⟩) = none := by
          simpa [List.mem_filterMap] using hnot
        simp [List.find?_append, hnone, hbound, htext, howner]
      next =>
        obtain ⟨first, other, hfirst, htype, hgives⟩ := h scope name' symbol hsymbol
        obtain ⟨hlt, -⟩ := Array.getElem?_eq_some_iff.mp htype
        refine ⟨first, other, by simp [List.find?_append, hfirst], ?_,
          hgives.mono ⟨⟨rfl, rfl⟩, fun _ _ _ => id⟩ fun _ _ => id⟩
        simpa [Array.getElem?_push, Nat.ne_of_lt hlt] using htype
  next => exact h.concat node

theorem after_bindNode (h : background.TypesIn draft nodes)
    (hscoped : background.IsScoped draft (nodes.filterMap background.tree.boundName?))
    (hlinked : background.tree.Linked) (node : NodeId) :
    After (background.bindNode node) draft fun _ new =>
      background.TypesIn new (nodes ++ [node]) := by
  have hbind : ∀ {action : StateM Draft TypeId} {name : NodeId},
      background.Adds (fun _ => True) action → background.tree.Binds node name →
        After action draft (fun type new => background.GivesType new new.Awaits node type) →
          After (action >>= fun type => background.bind name type) draft fun _ new =>
            background.TypesIn new (nodes ++ [node]) := by
    intro action name hadds hbinds hgives
    refine ((hadds.after draft).and hgives).bind ?_
    rintro type new ⟨hnew, hgives⟩
    exact (h.extend hnew).after_bind (hscoped.congr hnew.sameScopes) hlinked hbinds hgives
  simp only [bindNode]
  split
  next hconstruct =>
    refine hbind (adds_resolveOrDefer (by simp) _ _) (.ofVariable hconstruct) ?_
    exact (after_resolveOrDefer_provides draft _ _ node).imp fun _ _ hnew =>
      .ofVariable hconstruct hnew.2
  next hconstruct =>
    refine hbind (adds_resolveOrDefer (by simp) _ _) (.ofParameter hconstruct) ?_
    exact (after_resolveOrDefer_provides draft _ _ node).imp fun _ _ hnew =>
      .ofParameter hconstruct hnew.2
  next hconstruct =>
    -- the type of the function is put after that of its result
    simp only [← bind_assoc]
    refine hbind ((adds_resolveOrDefer (by simp) _ _).push_bind (by simp)) (.ofFunction hconstruct) ?_
    refine (after_resolveOrDefer_provides draft _ _ node).bind fun result new hnew => ?_
    have hpush : background.Extends (fun _ => True) new ((Draft.push (.function result)).run new).2 :=
      .push_other (by simp)
    exact .ofFunction hconstruct (TypeTable.get?_push ..)
      (hnew.2.mono hpush.carries fun _ _ hawaits => hawaits.mono hpush.stays)
  next => exact After.pure (h.concat node)

/-- **Binding the names of nodes** one after the other. -/
theorem after_bindAll (h : background.TypesIn draft nodes)
    (hscoped : background.IsScoped draft (nodes.filterMap background.tree.boundName?))
    (hlinked : background.tree.Linked) (others : List NodeId) :
    After (background.bindAll others) draft fun _ new =>
      background.TypesIn new (nodes ++ others) := by
  induction others generalizing draft nodes with
  | nil => exact After.pure (by simpa using h)
  | cons node rest ih =>
    simp only [bindAll]
    refine ((h.after_bindNode hscoped hlinked node).and (hscoped.after_bindNode hlinked node)).bind ?_
    rintro _ new ⟨hnew, hscoped⟩
    have hconcat : (nodes ++ [node]).filterMap background.tree.boundName? =
        nodes.filterMap background.tree.boundName? ++ (background.tree.boundName? node).toList := by
      cases hbound : background.tree.boundName? node <;> simp [hbound]
    simpa using ih hnew (hconcat ▸ hscoped)

end TypesIn

/-! ### The whole file -/

/-- **Every symbol has the type of what binds its name first.** -/
def TypesSymbols (background : Background) (draft : Draft) (awaited : TypeId → Deferred → Prop) :
    Prop :=
  ∀ (symbol : SymbolId) (bound : BoundName), background.tree.symbols[symbol]? = some bound →
    ∃ node type, background.tree.firstBinding? bound = some node ∧
      draft.symbols[symbol]? = some type ∧ background.GivesType draft awaited node type

/-- **The symbols of a file** have their types when the first expression is typed. -/
theorem typesSymbols_bound (hlinked : background.tree.Linked) :
    background.TypesSymbols background.bound background.bound.Awaits := by
  have hdefined := background.isScoped_defined
  have hstart : background.TypesIn background.defined [] := by
    intro scope name symbol hsymbol
    simpa using (hdefined.symbolAt?_eq_some_iff scope name symbol).mp hsymbol
  have htypes : background.TypesIn background.bound background.tree.preorder :=
    hstart.after_bindAll hdefined hlinked background.tree.preorder
  intro symbol bound hsymbol
  exact htypes bound.scope bound.name symbol <|
    ((isScoped_bound hlinked).symbolAt?_eq_some_iff _ _ _).mpr hsymbol

/-- **The types of symbols stay** while expressions are typed. -/
theorem TypesSymbols.passes (h : background.TypesSymbols draft draft.Awaits) {through : List Draft}
    (hnew : background.Passes draft through new) : background.TypesSymbols new draft.Awaits := by
  intro symbol bound hsymbol
  obtain ⟨node, type, hfirst, htype, hgives⟩ := h symbol bound hsymbol
  refine ⟨node, type, hfirst, ?_, hgives.mono hnew.carries fun _ _ => id⟩
  have hsymbols : new.symbols = draft.symbols := hnew.course.keeps
    (fun hmove hsame => hmove.symbols_eq.trans hsame) rfl
  rw [hsymbols, htype]

end Background

end StreamLint
