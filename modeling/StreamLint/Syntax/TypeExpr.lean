/-!
# Written types

A type as it stands in a program: in an annotation, an argument list or a declaration. Unions and
intersections are flat, qualified names keep their last part only, and a construct that the analysis
does not model is kept as text.
-/

namespace StreamLint

/-- What a literal is. -/
inductive LiteralKind where
  /-- A quoted string. -/
  | string
  /-- A template string. -/
  | template
  /-- A number. -/
  | number
  /-- A big integer. -/
  | bigInt
  /-- `true` or `false`. -/
  | boolean
  /-- `null`. -/
  | null
  /-- `undefined`. -/
  | undefined
  /-- A regular expression. -/
  | regex
  deriving DecidableEq, Repr, Inhabited

/-- The name of a kind of literal. -/
def LiteralKind.name : LiteralKind → String
  | string => "String"
  | template => "Template"
  | number => "Number"
  | bigInt => "BigInt"
  | boolean => "Boolean"
  | null => "Null"
  | undefined => "Undefined"
  | regex => "Regex"

/-- A type that has a keyword. -/
inductive KeywordType where
  | any | unknown | never | number | string | boolean | bigInt | symbol | void | object
  | undefined | null
  deriving DecidableEq, Repr, Inhabited

namespace KeywordType

/-- Every keyword. -/
def all : List KeywordType :=
  [any, unknown, never, number, string, boolean, bigInt, symbol, void, object, undefined, null]

/-- The keyword as it is written. -/
def spelling : KeywordType → String
  | any => "any"
  | unknown => "unknown"
  | never => "never"
  | number => "number"
  | string => "string"
  | boolean => "boolean"
  | bigInt => "bigint"
  | symbol => "symbol"
  | void => "void"
  | object => "object"
  | undefined => "undefined"
  | null => "null"

/-- The name of the keyword's type. -/
def name : KeywordType → String
  | any => "Any"
  | unknown => "Unknown"
  | never => "Never"
  | number => "Number"
  | string => "String"
  | boolean => "Boolean"
  | bigInt => "BigInt"
  | symbol => "Symbol"
  | void => "Void"
  | object => "Object"
  | undefined => "Undefined"
  | null => "Null"

/-- The keyword that a text spells. -/
def ofSpelling? (text : String) : Option KeywordType :=
  all.find? (·.spelling == text)

end KeywordType

/-- Whether a member of a type is a property or a method. -/
inductive MemberKind where
  /-- A property, with the type of its value. -/
  | property
  /-- A method, with the type that it returns. -/
  | method
  deriving DecidableEq, Repr, Inhabited

/-- The name of a kind of member. -/
def MemberKind.name : MemberKind → String
  | property => "property"
  | method => "method"

/-- A property or method, with its type in some form. -/
structure Member (α : Type) where
  /-- The name. -/
  name : String
  /-- Property or method. -/
  kind : MemberKind
  /-- The type of the property, or the type that the method returns. -/
  type : α
  deriving DecidableEq, Repr, Inhabited

/-- A type as it is written. -/
inductive TypeExpr where
  /-- A type with a keyword. -/
  | keyword (keyword : KeywordType)
  /-- The type of a literal. -/
  | literal (kind : LiteralKind)
  /-- A named type with its arguments. -/
  | named (name : String) (arguments : List TypeExpr)
  /-- A union. -/
  | union (members : List TypeExpr)
  /-- An intersection. -/
  | intersection (members : List TypeExpr)
  /-- An array. -/
  | array (element : TypeExpr)
  /-- A tuple. -/
  | tuple (elements : List TypeExpr)
  /-- A function or constructor type, of which only the result is kept. -/
  | function (returnType : TypeExpr)
  /-- An object type. -/
  | object (members : List (Member TypeExpr))
  /-- Any other construct, as text. -/
  | unsupported (text : String)
  deriving Repr, Inhabited

namespace TypeExpr

mutual

/-- A written type as text. -/
def display : TypeExpr → String
  | keyword k => k.spelling
  | literal kind => kind.name
  | named name [] => name
  | named name (argument :: rest) =>
    name ++ "<" ++ display argument ++ displayRest ", " rest ++ ">"
  | union [] => ""
  | union (member :: rest) => display member ++ displayRest " | " rest
  | intersection [] => ""
  | intersection (member :: rest) => display member ++ displayRest " & " rest
  | array element => display element ++ "[]"
  | tuple [] => "[]"
  | tuple (element :: rest) => "[" ++ display element ++ displayRest ", " rest ++ "]"
  | function returnType => "() => " ++ display returnType
  | object members => "\x7b " ++ displayMembers members ++ "\x7d"
  | unsupported text => text

/-- Written types as text, each after a separator. -/
def displayRest (separator : String) : List TypeExpr → String
  | [] => ""
  | item :: rest => separator ++ display item ++ displayRest separator rest

/-- Members as text, each ended by a semicolon and a blank. -/
def displayMembers : List (Member TypeExpr) → String
  | [] => ""
  | ⟨name, kind, type⟩ :: rest =>
    let call := match kind with
      | .property => ""
      | .method => "()"
    name ++ call ++ ": " ++ display type ++ "; " ++ displayMembers rest

end

end TypeExpr

/-- A generic parameter as it is declared. -/
structure TypeParameter where
  /-- The name. -/
  name : String
  /-- The upper bound, if there is one. -/
  bound : Option TypeExpr
  deriving Repr, Inhabited

end StreamLint
