import StreamLint.Model.Draft
/-!
# Resolving written types

A written type, seen from a node, becomes a place in the table. Keywords and literals have their
fixed places; every other construct gets a new one, after its parts. A name refers to a generic
parameter in scope, to an array, to a declaration of the file or of the prelude, or to nothing that
is visible, which makes it a foreign type.
-/

namespace StreamLint

/-- The place of a keyword's type; `object` has none. -/
def KeywordType.id? : KeywordType → Option TypeId
  | .any => some .any
  | .unknown => some .unknown
  | .never => some .never
  | .number => some .number
  | .string => some .string
  | .boolean => some .boolean
  | .bigInt => some .bigInt
  | .symbol => some .symbol
  | .void => some .void
  | .undefined => some .undefined
  | .null => some .null
  | .object => none

/-- The place of the type of a literal in a written type. -/
def LiteralKind.writtenId : LiteralKind → TypeId
  | .number => .number
  | .bigInt => .bigInt
  | .boolean => .boolean
  | .null => .null
  | .undefined => .undefined
  | .string | .template | .regex => .string

namespace Background

variable (background : Background)

/-- The type that a name with resolved arguments refers to, unless it is a generic parameter. -/
def resolveName (name : String) (arguments : List TypeId) : StateM Draft TypeId := do
  if name == "Array" || name == "ReadonlyArray" then
    Draft.push (.array (arguments.head?.getD .unknown))
  else
    match background.typeNamed? (← get) name with
    | some target =>
      if arguments.isEmpty then return target else Draft.push (.reference target arguments)
    | none => Draft.push (.foreign name arguments)

mutual

/-- The type that a written type stands for at the node `site`. -/
def resolve (site : NodeId) : TypeExpr → StateM Draft TypeId
  | .keyword k =>
    match k.id? with
    | some id => return id
    | none => Draft.push (.object [])
  | .literal kind => return kind.writtenId
  | .named name arguments => do
    match background.parameterNamed? (← get) name site with
    | some param => return param
    | none =>
      let resolved ← resolveEach site arguments
      background.resolveName name resolved
  | .union members => do
    let resolved ← resolveEach site members
    Draft.push (.union resolved)
  | .intersection members => do
    let resolved ← resolveEach site members
    Draft.push (.intersection resolved)
  | .array element => do
    let resolved ← resolve site element
    Draft.push (.array resolved)
  | .tuple elements => do
    let resolved ← resolveEach site elements
    Draft.push (.tuple resolved)
  | .function returnType => do
    let resolved ← resolve site returnType
    Draft.push (.function resolved)
  | .object members => do
    let resolved ← resolveMembers site members
    Draft.push (.object resolved)
  | .unsupported _ => return .unknown

/-- The types that several written types stand for. -/
def resolveEach (site : NodeId) : List TypeExpr → StateM Draft (List TypeId)
  | [] => return []
  | type :: rest => do
    let id ← resolve site type
    let ids ← resolveEach site rest
    return id :: ids

/-- The members that the members of an object type stand for. -/
def resolveMembers (site : NodeId) : List (Member TypeExpr) → StateM Draft (List (Member TypeId))
  | [] => return []
  | ⟨name, kind, type⟩ :: rest => do
    let id ← resolve site type
    let members ← resolveMembers site rest
    return ⟨name, kind, id⟩ :: members

end

/-- The type that is written, or else one that is found out later from `source`; the unknown type if
there is neither. -/
def resolveOrDefer (written : Option TypeExpr) (source : Option Deferred) (site : NodeId) :
    StateM Draft TypeId :=
  match written, source with
  | some type, _ => background.resolve site type
  | none, some source => Draft.defer source
  | none, none => return .unknown

end Background

end StreamLint
