import StreamLint.Model.Build
/-!
# What a name has to do with its answer

A name is *looked up* if it is an identifier that is not the property which its parent reads
(`StreamLint.Background.LooksUp`). It *refers to* the symbol that is found in the scopes around it
(`StreamLint.Background.RefersTo`), and the answer to it is the type of that symbol, or the value of
the prelude (`StreamLint.Background.Names`).

What a name refers to depends on the scopes alone. So the answer goes on being right as long as the
scopes and the types of the symbols stay, and what was noted for names is not noted differently.
-/

namespace StreamLint

/-- The type of a name that is bound nowhere around it: that of the value of the prelude. -/
def Prelude.typeOfValue? (prelude : Prelude) (name : String) : Option TypeId :=
  match prelude.values[name]? with
  | some type => some type
  | none => if name == "undefined" then some .undefined else none

namespace Background

/-- The node is a name that is looked up. -/
structure LooksUp (background : Background) (node : NodeId) (name : String) : Prop where
  /-- It is an identifier. -/
  nameAt?_eq : background.tree.nameAt? node = some name
  /-- It is no property. -/
  not_isProperty : background.isProperty node = false

/-- The node is a name that refers to the symbol. -/
def RefersTo (background : Background) (draft : Draft) (node : NodeId) (symbol : SymbolId) : Prop :=
  ∃ name, background.LooksUp node name ∧ background.symbolNamed? draft name node = some symbol

/-- **The answer to a name**: a property has none; a name that refers to a symbol has the type of
that, and the symbol is noted; any other name has the type of the value of the prelude. -/
structure Names (background : Background) (draft : Draft) (node : NodeId) (type? : Option TypeId) :
    Prop where
  /-- A property. -/
  property : (background.tree.nameAt? node).isSome = true → background.isProperty node = true →
    type? = none
  /-- A name that refers to a symbol. -/
  bound : ∀ symbol, background.RefersTo draft node symbol →
    draft.nodeSymbols[node]? = some symbol ∧ type? = draft.symbols[symbol]?
  /-- A name that refers to none. -/
  free : ∀ name, background.LooksUp node name → background.symbolNamed? draft name node = none →
    type? = background.prelude.typeOfValue? name

variable {background : Background} {old new : Draft} {node : NodeId}

theorem symbolNamed?_congr (h : new.scopes = old.scopes) (name : String) (node : NodeId) :
    background.symbolNamed? new name node = background.symbolNamed? old name node := by
  simp only [symbolNamed?, h]

theorem RefersTo.congr (h : new.scopes = old.scopes) {symbol : SymbolId} :
    background.RefersTo new node symbol ↔ background.RefersTo old node symbol := by
  simp only [RefersTo, symbolNamed?_congr h]

/-- A name refers to one symbol only. -/
theorem RefersTo.unique {symbol symbol' : SymbolId} (h : background.RefersTo old node symbol)
    (h' : background.RefersTo old node symbol') : symbol' = symbol := by
  obtain ⟨name, hlooks, hsymbol⟩ := h
  obtain ⟨name', hlooks', hsymbol'⟩ := h'
  obtain rfl := Option.some.inj (hlooks.nameAt?_eq.symm.trans hlooks'.nameAt?_eq)
  exact Option.some.inj (hsymbol'.symm.trans hsymbol)

namespace Names

variable {type? : Option TypeId}

/-- What is no identifier is no name. -/
theorem of_nameAt?_eq_none (h : background.tree.nameAt? node = none) :
    background.Names old node type? where
  property hname := by simp [h] at hname
  bound := by
    rintro symbol ⟨name, hlooks, -⟩
    exact absurd (h.symm.trans hlooks.nameAt?_eq) (by simp)
  free name hlooks := absurd (h.symm.trans hlooks.nameAt?_eq) (by simp)

theorem of_isProperty (h : background.isProperty node = true) :
    background.Names old node none where
  property _ _ := rfl
  bound := by
    rintro symbol ⟨name, hlooks, -⟩
    exact absurd (h.symm.trans hlooks.not_isProperty) (by simp)
  free name hlooks := absurd (h.symm.trans hlooks.not_isProperty) (by simp)

theorem of_refersTo {symbol : SymbolId} (h : background.RefersTo old node symbol)
    (hnoted : old.nodeSymbols[node]? = some symbol) :
    background.Names old node old.symbols[symbol]? where
  property _ hproperty := by
    obtain ⟨name, hlooks, -⟩ := h
    exact absurd (hproperty.symm.trans hlooks.not_isProperty) (by simp)
  bound symbol' h' := by
    obtain rfl := h.unique h'
    exact ⟨hnoted, rfl⟩
  free name hlooks hnone := by
    obtain ⟨name', hlooks', hsymbol⟩ := h
    obtain rfl := Option.some.inj (hlooks.nameAt?_eq.symm.trans hlooks'.nameAt?_eq)
    exact absurd (hnone.symm.trans hsymbol) (by simp)

theorem of_free {name : String} (hlooks : background.LooksUp node name)
    (hnone : background.symbolNamed? old name node = none) :
    background.Names old node (background.prelude.typeOfValue? name) where
  property _ hproperty := absurd (hproperty.symm.trans hlooks.not_isProperty) (by simp)
  bound := by
    rintro symbol ⟨name', hlooks', hsymbol⟩
    obtain rfl := Option.some.inj (hlooks.nameAt?_eq.symm.trans hlooks'.nameAt?_eq)
    exact absurd (hnone.symm.trans hsymbol) (by simp)
  free name' hlooks' _ := by
    obtain rfl := Option.some.inj (hlooks.nameAt?_eq.symm.trans hlooks'.nameAt?_eq)
    rfl

/-- **An answer goes on being right** while the scopes, the types of the symbols and what was noted
for names stay. -/
theorem mono (h : background.Names old node type?) (hscopes : new.scopes = old.scopes)
    (hsymbols : new.symbols = old.symbols)
    (hnoted : ∀ symbol, background.RefersTo old node symbol →
      old.nodeSymbols[node]? = some symbol → new.nodeSymbols[node]? = some symbol) :
    background.Names new node type? where
  property := h.property
  bound symbol hrefers := by
    have hold := (RefersTo.congr hscopes).mp hrefers
    obtain ⟨hsymbol, htype⟩ := h.bound symbol hold
    exact ⟨hnoted symbol hold hsymbol, by rw [hsymbols, htype]⟩
  free name hlooks hnone := h.free name hlooks ((symbolNamed?_congr hscopes name node).symm.trans hnone)

end Names

end Background

end StreamLint
