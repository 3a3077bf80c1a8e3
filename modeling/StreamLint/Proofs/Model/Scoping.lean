import StreamLint.Proofs.Model.Symbols
/-!
# Names are resolved by scope

In the model of a file, the property that a node reads has neither a type nor a symbol. Any other
name refers to what binds it in the nearest scope around it, where the first binding counts, and has
the type of that symbol; a name that is bound nowhere around it has the type of the value of the
prelude (`StreamLint.Bindings.ResolvesName`, `StreamLint.SyntaxTree.resolvesName_of_model?`). The
type of a symbol is the one that the first binding of its name gives to it
(`StreamLint.Background.TypesSymbols`).

All names are bound before the first expression is typed, so the scopes that a name is looked up in
are those of the whole file, however the question for its type came about. The symbol of a name is
noted when it is bound and again when it is typed; the name of a function whose parameter has the
same name is noted to refer to the parameter in the end, as it should.
-/

namespace StreamLint

namespace Background

variable {background : Background} {old new : Draft}

theorem IsScoped.move (h : background.IsScoped old background.tree.boundNames)
    (hmove : background.Move old new) : background.IsScoped new background.tree.boundNames := by
  have hsymbolAt? : ∀ scope name, new.symbolAt? scope name = old.symbolAt? scope name := by
    simp only [Draft.symbolAt?, hmove.scopes_eq, implies_true]
  refine ⟨?_, by rw [hmove.symbols_eq, h.size_eq], ?_⟩
  · simpa only [hsymbolAt?] using h.symbolAt?_eq_some_iff
  · cases hmove with
    | adds hadds =>
      rw [hadds.sameScopes.nodeSymbols]
      exact h.noted
    | @notes other symbol' hrefers =>
      intro node symbol hsymbol
      rw [Std.TreeMap.getElem?_insert] at hsymbol
      split at hsymbol
      next heq =>
        -- the name refers to something, so one of the scopes around it binds it
        obtain rfl := Std.LawfulEqCmp.compare_eq_iff_eq.mp heq
        obtain ⟨name, hlooks, hnamed⟩ := hrefers
        obtain ⟨scope, hscope, hat⟩ := List.exists_of_findSome?_eq_some hnamed
        refine ⟨name, hlooks, scope, hscope, (h.isSome_symbolAt? scope name).mp ?_⟩
        exact Option.isSome_of_eq_some hat
      next => exact h.noted node symbol hsymbol
    | _ => exact h.noted

/-- **The names of a draft are resolved**: the names of the file are bound in its scopes, and every
name that has been answered has the answer to that name. -/
structure IsNamed (background : Background) (draft : Draft) : Prop where
  /-- The names of the file are bound. -/
  isScoped : background.IsScoped draft background.tree.boundNames
  /-- The names that have been answered. -/
  answered : ∀ node type?, draft.inferred[node]? = some type? → background.Names draft node type?

theorem IsNamed.move (h : background.IsNamed old) (hmove : background.Move old new) :
    background.IsNamed new where
  isScoped := h.isScoped.move hmove
  answered node type? hanswer := by
    rcases hold : old.inferred[node]? with _ | answer
    · cases hmove with
      | @answers other rest other? hbegun hunanswered hfits hnames htyping =>
        by_cases heq : other = node
        · subst heq
          obtain rfl : other? = type? := by simpa using hanswer
          exact (Move.answers hbegun hunanswered hfits hnames htyping).names hnames
        · simp [Std.TreeMap.getElem?_insert, heq, hold] at hanswer
      | adds hadds => simp [hadds.inferred_eq, hold] at hanswer
      | _ => exact absurd (hold.symm.trans hanswer) (by simp)
    · obtain rfl := Option.some.inj ((hmove.inferred_eq_some hold).symm.trans hanswer)
      exact hmove.names (h.answered node _ hold)

theorem isNamed_bound (hlinked : background.tree.Linked)
    (hprelude : background.prelude.IsClosed) : background.IsNamed background.bound where
  isScoped := isScoped_bound hlinked
  answered node type? hanswer := by
    simp [(isBound_bound hprelude).ground.inferred node] at hanswer

/-- What is answered to a name that is bound around it. -/
theorem IsNamed.exists_symbol (h : background.IsNamed new) {node : NodeId} {name : String}
    {type? : Option TypeId} (hlooks : background.LooksUp node name)
    (hanswer : new.inferred[node]? = some type?) {scope : NodeId}
    (hscope : background.tree.scopeOf? name node = some scope) :
    ∃ symbol type, background.tree.symbols[symbol]? = some ⟨scope, name⟩ ∧
      new.nodeSymbols[node]? = some symbol ∧ new.symbols[symbol]? = some type ∧
        type? = some type := by
  have hbound : (⟨scope, name⟩ : BoundName) ∈ background.tree.boundNames := by
    simpa using List.find?_some hscope
  obtain ⟨symbol, hsymbol⟩ := Option.isSome_iff_exists.mp <|
    (h.isScoped.isSome_symbolAt? scope name).mpr hbound
  have hnumber := (h.isScoped.symbolAt?_eq_some_iff scope name symbol).mp hsymbol
  have hnamed : background.symbolNamed? new name node = some symbol := by
    rw [h.isScoped.symbolNamed?_eq, hscope, Option.bind_some, hsymbol]
  obtain ⟨hnoted, htype⟩ := (h.answered node type? hanswer).bound symbol ⟨name, hlooks, hnamed⟩
  have hlt : symbol < new.symbols.size := by
    rw [h.isScoped.size_eq]
    exact (List.getElem?_eq_some_iff.mp hnumber).1
  exact ⟨symbol, new.symbols[symbol], hnumber, hnoted, Array.getElem?_eq_getElem hlt,
    htype.trans (Array.getElem?_eq_getElem hlt)⟩

/-- What is answered to a name that is bound nowhere around it. -/
theorem IsNamed.eq_typeOfValue? (h : background.IsNamed new) {node : NodeId} {name : String}
    {type? : Option TypeId} (hlooks : background.LooksUp node name)
    (hanswer : new.inferred[node]? = some type?)
    (hscope : background.tree.scopeOf? name node = none) :
    new.nodeSymbols[node]? = none ∧ type? = background.prelude.typeOfValue? name := by
  have hnamed : background.symbolNamed? new name node = none := by
    rw [h.isScoped.symbolNamed?_eq, hscope, Option.bind_none]
  refine ⟨?_, (h.answered node type? hanswer).free name hlooks hnamed⟩
  -- a symbol would be noted only for a name that is bound around it
  rcases hsymbol : new.nodeSymbols[node]? with _ | symbol
  · rfl
  · obtain ⟨other, hother, scope, haround, hbound⟩ := h.isScoped.noted node symbol hsymbol
    obtain rfl := Option.some.inj (hother.nameAt?_eq.symm.trans hlooks.nameAt?_eq)
    have hnot := List.find?_eq_none.mp hscope scope haround
    simp [hbound] at hnot

/-- What is answered to the property that its parent reads. -/
theorem IsNamed.eq_none_of_isProperty (h : background.IsNamed new) {node : NodeId} {name : String}
    {type? : Option TypeId} (hname : background.tree.nameAt? node = some name)
    (hanswer : new.inferred[node]? = some type?) (hproperty : background.isProperty node = true) :
    new.nodeSymbols[node]? = none ∧ type? = none := by
  refine ⟨?_, (h.answered node type? hanswer).property (by simp [hname]) hproperty⟩
  rcases hsymbol : new.nodeSymbols[node]? with _ | symbol
  · rfl
  · obtain ⟨_, hlooks, -⟩ := h.isScoped.noted node symbol hsymbol
    exact absurd (hproperty.symm.trans hlooks.not_isProperty) (by simp)

end Background

/-! ### Models -/

/-- The node is the property that its parent reads. -/
def SyntaxTree.IsPropertyOfParent (tree : SyntaxTree) (node : NodeId) : Prop :=
  ∃ parent, tree.parent? node = some parent ∧ tree.field? parent .property = some node

theorem Background.isProperty_iff {background : Background} {node : NodeId} :
    background.isProperty node = true ↔ background.tree.IsPropertyOfParent node := by
  unfold isProperty SyntaxTree.IsPropertyOfParent
  cases background.tree.parent? node <;> simp

/-- **The name at a node is resolved by scope.** -/
structure Bindings.ResolvesName (bindings : Bindings) (tree : SyntaxTree) (prelude : Prelude)
    (node : NodeId) (name : String) : Prop where
  /-- A property has neither a type nor a symbol. -/
  property : tree.IsPropertyOfParent node →
    bindings.model.typeOf? node = none ∧ bindings.model.symbolOf? node = none
  /-- Any other name refers to what binds it first in the nearest scope that binds it, and has the
  type of that symbol. -/
  bound : ¬tree.IsPropertyOfParent node → ∀ scope, tree.scopeOf? name node = some scope →
    ∃ symbol type, tree.symbols[symbol]? = some ⟨scope, name⟩ ∧
      bindings.model.symbolOf? node = some symbol ∧ bindings.model.symbolType? symbol = some type ∧
        bindings.model.typeOf? node = some type
  /-- A name that is bound nowhere around it has no symbol, and the type of the value of the
  prelude. -/
  free : ¬tree.IsPropertyOfParent node → tree.scopeOf? name node = none →
    bindings.model.symbolOf? node = none ∧
      bindings.model.typeOf? node = prelude.typeOfValue? name

theorem Background.IsAnswered.exists_of_nameAt? {background : Background} {draft : Draft}
    (h : background.IsAnswered draft) {node : NodeId} {name : String}
    (hnode : background.tree.IsReached node) (hname : background.tree.nameAt? node = some name) :
    ∃ type?, draft.inferred[node]? = some type? :=
  Option.ne_none_iff_exists'.mp <| h node hnode <|
    isExpression_eq_mayHaveType (SyntaxTree.construct?_of_nameAt? hname)

/-- **In a finished draft, every name is resolved by scope.** -/
theorem Background.IsNamed.resolvesName {background : Background} {draft : Draft}
    (h : background.IsNamed draft) {node : NodeId} {name : String} {type? : Option TypeId}
    (hname : background.tree.nameAt? node = some name)
    (hanswer : draft.inferred[node]? = some type?) :
    draft.bindings.ResolvesName background.tree background.prelude node name := by
  have htype : draft.bindings.model.typeOf? node = type? := by
    simp only [Bindings.model, draft.getElem?_nodeTypes, hanswer, Option.getD_some]
  have hlooks : ¬background.tree.IsPropertyOfParent node → background.LooksUp node name :=
    fun hnot => ⟨hname, by simpa using mt isProperty_iff.mp hnot⟩
  refine ⟨fun hproperty => ?_, fun hnot scope hscope => ?_, fun hnot hscope => ?_⟩
  · obtain ⟨hsymbol, rfl⟩ :=
      h.eq_none_of_isProperty hname hanswer (isProperty_iff.mpr hproperty)
    exact ⟨htype, hsymbol⟩
  · obtain ⟨symbol, type, hnumber, hsymbol, hat, rfl⟩ :=
      h.exists_symbol (hlooks hnot) hanswer hscope
    exact ⟨symbol, type, hnumber, hsymbol, hat, htype⟩
  · obtain ⟨hsymbol, rfl⟩ := h.eq_typeOfValue? (hlooks hnot) hanswer hscope
    exact ⟨hsymbol, htype⟩

/-- **In the model of a document, every name is resolved by scope**, and every symbol has the type of
what binds its name first. -/
theorem SyntaxTree.resolvesName_of_model? (document : Concrete.Document) {prelude : Prelude}
    (hprelude : prelude.IsBuilt) (limits : Limits) {bindings : Bindings}
    (h : (ofDocument document).model? prelude limits = some bindings) :
    ∃ chronicle, ((ofDocument document).background prelude limits).chronicle? = some chronicle ∧
      chronicle.draft.bindings = bindings ∧
      let background := (ofDocument document).background prelude limits
      background.TypesSymbols chronicle.draft background.bound.Awaits ∧
      ∀ node name, (ofDocument document).IsReached node →
        (ofDocument document).nameAt? node = some name →
          bindings.ResolvesName (ofDocument document) prelude node name := by
  obtain ⟨draft, hdraft, hbindings⟩ := Option.bind_eq_some_iff.mp h
  obtain rfl := Option.some.inj hbindings
  let background := (ofDocument document).background prelude limits
  have hlinked : background.tree.Linked := linked_ofDocument document
  obtain ⟨rest, hchronicle, hpasses, hanswered, -⟩ :=
    background.exists_chronicle hprelude.isClosed hlinked hdraft
  have hnamed : background.IsNamed draft :=
    hpasses.course.keeps (fun hmove hold => hold.move hmove)
      (background.isNamed_bound hlinked hprelude.isClosed)
  refine ⟨_, hchronicle, rfl, (background.typesSymbols_bound hlinked).passes hpasses, ?_⟩
  intro node name hnode hname
  obtain ⟨type?, hanswer⟩ := hanswered.exists_of_nameAt? hnode hname
  exact hnamed.resolvesName hname hanswer

/-- The document `function f(f) { return f; } var f = 1; f(f.name, g);`. -/
def shadowed : Concrete.Document where
  text := "function f(f) \x7b return f; \x7d var f = 1; f(f.name, g);"
  dialect := .typeScript
  root :=
    .named "program" 0 52 none
      [.named "function_declaration" 0 27 none
        [.named "identifier" 9 10 (some "name") [],
          .named "formal_parameters" 10 13 (some "parameters")
            [.named "required_parameter" 11 12 none
              [.named "identifier" 11 12 (some "pattern") []]],
          .named "statement_block" 14 27 (some "body")
            [.named "return_statement" 16 25 none
              [.named "identifier" 23 24 none []]]],
        .named "variable_declaration" 28 38 none
          [.named "variable_declarator" 32 37 none
            [.named "identifier" 32 33 (some "name") [],
              .named "number" 36 37 (some "value") []]],
        .named "expression_statement" 39 52 none
          [.named "call_expression" 39 51 none
            [.named "identifier" 39 40 (some "function") [],
              .named "arguments" 40 51 (some "arguments")
                [.named "member_expression" 41 47 none
                  [.named "identifier" 41 42 (some "object") [],
                    .named "property_identifier" 43 47 (some "property") []],
                  .named "identifier" 49 50 none []]]]]

theorem exists_model?_shadowed :
    ∃ bindings, (SyntaxTree.ofDocument shadowed).model? .empty {} = some bindings := by
  have hends : ((SyntaxTree.ofDocument shadowed).guardedModel .empty {}).toOption.any
      (fun _ => true) = true := by
    decide +kernel
  obtain ⟨bindings, hbindings, -⟩ :=
    (SyntaxTree.ofDocument shadowed).exists_model?_of_guarded Prelude.isClosed_empty hends
  exact ⟨bindings, hbindings⟩

/-- There are two symbols, of the function and of its parameter; the variable has that of the
function. The name that is returned refers to the parameter, and the name that is called to the
function; `name` is a property, and `g` is bound nowhere. -/
theorem resolvesName_shadowed :
    let tree := SyntaxTree.ofDocument shadowed
    let background := tree.background .empty {}
    ∃ bindings chronicle, tree.model? .empty {} = some bindings ∧
      background.chronicle? = some chronicle ∧ chronicle.draft.bindings = bindings ∧
      (tree.symbols = [⟨0, "f"⟩, ⟨1, "f"⟩] ∧ tree.symbols.map tree.firstBinding? = [some 1, some 3] ∧
        background.TypesSymbols chronicle.draft background.bound.Awaits) ∧
      (tree.scopeOf? "f" 7 = some 1 ∧ bindings.ResolvesName tree .empty 7 "f") ∧
      (tree.scopeOf? "f" 14 = some 0 ∧ bindings.ResolvesName tree .empty 14 "f") ∧
      (tree.field? 15 .property = some 17 ∧ bindings.ResolvesName tree .empty 17 "name") ∧
      (tree.scopeOf? "g" 18 = none ∧ bindings.ResolvesName tree .empty 18 "g") := by
  intro tree background
  obtain ⟨bindings, hbindings⟩ := exists_model?_shadowed
  obtain ⟨chronicle, hchronicle, hend, htypes, hnames⟩ :=
    SyntaxTree.resolvesName_of_model? shadowed (.inl rfl) {} hbindings
  have hresolves : ∀ {node : NodeId} {name : String}, node ∈ tree.preorder →
      tree.nameAt? node = some name → bindings.ResolvesName tree .empty node name :=
    fun hmem hname => hnames _ _ (.of_mem_preorder hmem) hname
  refine ⟨bindings, chronicle, hbindings, hchronicle, hend,
    ⟨by decide +kernel, by decide +kernel, htypes⟩,
    ⟨by decide +kernel, hresolves ?_ ?_⟩, ⟨by decide +kernel, hresolves ?_ ?_⟩,
    ⟨by decide +kernel, hresolves ?_ ?_⟩, by decide +kernel, hresolves ?_ ?_⟩ <;> decide +kernel

end StreamLint
