import StreamLint.Model.Build
/-!
# Ambient declarations

Declarations that stand in no file under analysis. They are listed with what the analysis needs of
them, `StreamLint.Ambient.tree` lays them out as the tree of a file, and the prelude is what that
file declares.

* `StreamLint.Ambient` – an ambient declaration;
* `StreamLint.Prelude.streams` – the declarations of rxjs, of the actions of NgRx, and of
  redux-observable.
-/

namespace StreamLint

/-- A declaration without a body. -/
inductive Ambient where
  /-- An interface with its generic parameters, its supertypes and its members. -/
  | interfaceType (name : String) (params : List String) (bases : List TypeExpr)
      (members : List (Member TypeExpr))
  /-- A function with its generic parameters and what it returns. -/
  | function (name : String) (params : List String) (result : TypeExpr)
  /-- A constant. -/
  | constant (name : String) (type : TypeExpr)
  deriving Repr, Inhabited

namespace Ambient

/-! ### The tree of a list of declarations -/

/-- A node of the tree. -/
def nodeBelow (parent : NodeId) (construct : Construct) : SyntaxNode :=
  ⟨construct, default, some parent⟩

/-- The generic parameters with given names, none of which has a bound. -/
def unbounded (params : List String) : List TypeParameter :=
  params.map (⟨·, none⟩)

/-- The nodes of a member, from the place `id` on. -/
def memberNodes (parent id : NodeId) (member : Member TypeExpr) : List SyntaxNode :=
  [nodeBelow parent <|
    match member.kind with
    | .property => .propertyDefinition (id + 1) (some member.type) none
    | .method => .methodDefinition (id + 1) [] (some member.type) none,
    nodeBelow id (.identifier member.name)]

/-- The nodes of the members of an interface, from the place `id` on. -/
def membersNodes (parent : NodeId) : NodeId → List (Member TypeExpr) → List SyntaxNode
  | _, [] => []
  | id, member :: rest => memberNodes parent id member ++ membersNodes parent (id + 2) rest

/-- The nodes of a declaration, from the place `id` on. -/
def nodes (id : NodeId) : Ambient → List SyntaxNode
  | interfaceType name params bases members =>
    nodeBelow SyntaxTree.root (.interfaceDeclaration (id + 1) (unbounded params) bases
      ((List.range members.length).map (id + 2 + 2 * ·)))
      :: nodeBelow id (.identifier name) :: membersNodes id (id + 2) members
  | function name params result =>
    [nodeBelow SyntaxTree.root
      (.functionDeclaration (some (id + 1)) (unbounded params) [] (some result) none),
      nodeBelow id (.identifier name)]
  | constant name type =>
    [nodeBelow SyntaxTree.root (.variableDeclaration [id + 1]),
      nodeBelow id (.variableDeclarator (id + 2) (some type) none),
      nodeBelow (id + 1) (.identifier name)]

/-- The places of declarations and their nodes, from the place `id` on. -/
def layOut : NodeId → List Ambient → List NodeId × List SyntaxNode
  | _, [] => ([], [])
  | id, declaration :: rest =>
    let own := declaration.nodes id
    let (places, others) := layOut (id + own.length) rest
    (id :: places, own ++ others)

/-- The tree of a file with these declarations and nothing else. -/
def tree (declarations : List Ambient) : SyntaxTree :=
  let (places, nodes) := layOut 1 declarations
  { nodes := (⟨.program places, default, none⟩ :: nodes).toArray
    comments := []
    source := ""
    dialect := .typeScript
    hasErrors := false }

/-! ### The declarations of the stream libraries -/

/-- A property of an interface. -/
def property (name : String) (type : TypeExpr) : Member TypeExpr :=
  ⟨name, .property, type⟩

/-- A method of an interface. -/
def method (name : String) (result : TypeExpr) : Member TypeExpr :=
  ⟨name, .method, result⟩

/-- A type with its name. -/
def named (name : String) (arguments : List TypeExpr := []) : TypeExpr :=
  .named name arguments

/-- The stream of values of a type. -/
def observable (value : TypeExpr) : TypeExpr :=
  named "Observable" [value]

/-- The promise of a value of a type. -/
def promise (value : TypeExpr) : TypeExpr :=
  named "Promise" [value]

/-- What turns a stream into one of another type. -/
def operator : TypeExpr :=
  named "OperatorFunction" [named "T", named "R"]

/-- What turns a stream into one of the same type. -/
def monoOperator : TypeExpr :=
  named "MonoTypeOperatorFunction" [named "T"]

/-- The types that the stream libraries declare. -/
def streamTypes : List Ambient :=
  [interfaceType "Unsubscribable" [] [] [method "unsubscribe" (.keyword .void)],
    interfaceType "Subscription" [] [named "Unsubscribable"]
      [property "closed" (.keyword .boolean), method "add" (.keyword .void),
        method "remove" (.keyword .void)],
    interfaceType "Observer" ["T"] []
      [method "next" (.keyword .void), method "error" (.keyword .void),
        method "complete" (.keyword .void)],
    interfaceType "OperatorFunction" ["T", "R"] [] [],
    interfaceType "MonoTypeOperatorFunction" ["T"]
      [named "OperatorFunction" [named "T", named "T"]] [],
    interfaceType "Observable" ["T"] []
      [method "subscribe" (named "Subscription"), method "pipe" (observable (.keyword .any)),
        method "forEach" (promise (.keyword .void)),
        method "toPromise" (promise (.union [named "T", .literal .undefined]))],
    interfaceType "Subject" ["T"] [observable (named "T")]
      [property "observed" (.keyword .boolean), method "next" (.keyword .void),
        method "error" (.keyword .void), method "complete" (.keyword .void),
        method "asObservable" (observable (named "T"))],
    interfaceType "BehaviorSubject" ["T"] [named "Subject" [named "T"]]
      [property "value" (named "T"), method "getValue" (named "T")],
    interfaceType "ReplaySubject" ["T"] [named "Subject" [named "T"]] [],
    interfaceType "AsyncSubject" ["T"] [named "Subject" [named "T"]] [],
    interfaceType "ConnectableObservable" ["T"] [observable (named "T")]
      [method "connect" (named "Subscription"), method "refCount" (observable (named "T"))],
    interfaceType "GroupedObservable" ["K", "T"] [observable (named "T")]
      [property "key" (named "K")],
    interfaceType "Promise" ["T"] []
      [method "then" (promise (.keyword .any)), method "catch" (promise (.keyword .any)),
        method "finally" (promise (named "T"))],
    interfaceType "Action" [] [] [property "type" (.keyword .string)],
    interfaceType "Actions" ["V"] [observable (named "V")] [],
    interfaceType "ActionsObservable" ["T"] [observable (named "T")] [],
    interfaceType "StateObservable" ["S"] [observable (named "S")]
      [property "value" (named "S")]]

/-- The values that the stream libraries declare. -/
def streamValues : List Ambient :=
  let source (name : String) : Ambient := function name ["T"] (observable (named "T"))
  let sameType (name : String) : Ambient := function name ["T"] monoOperator
  let mapping (name : String) : Ambient := function name ["T", "R"] operator
  [constant "EMPTY" (observable (.keyword .never)), constant "NEVER" (observable (.keyword .never)),
    source "of", source "from", source "defer",
    function "timer" [] (observable (.keyword .number)),
    function "interval" [] (observable (.keyword .number)),
    function "throwError" [] (observable (.keyword .never)),
    source "merge", source "concat", source "combineLatest", source "forkJoin", source "race",
    source "zip", source "fromEvent",
    function "lastValueFrom" ["T"] (promise (named "T")),
    function "firstValueFrom" ["T"] (promise (named "T")),
    sameType "take", sameType "first", mapping "map", sameType "filter", sameType "tap",
    mapping "switchMap", mapping "mergeMap", mapping "concatMap", mapping "exhaustMap",
    mapping "catchError", sameType "ofType"]

/-- All declarations of the stream libraries. -/
def streams : List Ambient :=
  streamTypes ++ streamValues

end Ambient

/-- The declarations of rxjs, of the actions of NgRx and of redux-observable. -/
def Prelude.streams : Prelude :=
  (Prelude.ofTree? (Ambient.tree Ambient.streams)).getD .empty

end StreamLint
