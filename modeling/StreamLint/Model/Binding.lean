import StreamLint.Model.Declaration
/-!
# Binding names

Variables, parameters and functions bind their names in the scopes they stand in, in the order of
the text. The first binding of a name in a scope stays; a later one is dropped, so that the first
signature of an overloaded function counts.
-/

namespace StreamLint

namespace Background

variable (background : Background)

/-- Binds the name at a node in the scope that it belongs to, unless the scope has that name. A
pattern binds nothing. -/
def bind (name : NodeId) (type : TypeId) : StateM Draft Unit :=
  match background.tree.nameAt? name, background.tree.scopeOfName? name with
  | some text, some owner =>
    modify fun draft =>
      let scope := (draft.scopes[owner]?).getD {}
      if scope.contains text then draft
      else
        { draft with
          scopes := draft.scopes.insert owner (scope.insert text draft.symbols.size)
          nodeSymbols := draft.nodeSymbols.insert name draft.symbols.size
          symbols := draft.symbols.push type }
  | _, _ => return

/-- Binds the name that a node declares, if it declares one. -/
def bindNode (node : NodeId) : StateM Draft Unit := do
  match background.tree.construct? node with
  | some (.variableDeclarator name written value) | some (.parameter name written value _) =>
    let type ← background.resolveOrDefer written (value.map .expression) node
    background.bind name type
  | some (.functionDeclaration (some name) _ _ returnType body) =>
    let result ← background.resolveOrDefer returnType (body.map .body) node
    let type ← Draft.push (.function result)
    background.bind name type
  | _ => return

/-- Binds the names that the nodes declare, in their order. -/
def bindAll : List NodeId → StateM Draft Unit
  | [] => return
  | node :: rest => do
    background.bindNode node
    bindAll rest

end Background

end StreamLint
