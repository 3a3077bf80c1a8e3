import StreamLint.Syntax.TypeExpr
/-!
# Type tables

The types of a file lie in one table, and a `StreamLint.TypeId` is a place in it. Types refer to one
another by their places, so that declarations can refer to themselves: a place may be reserved
first, when it reads as the unknown type, and be defined later. The first eleven places hold the
types that need no declaration.
-/

namespace StreamLint

/-- A place in a type table. -/
abbrev TypeId := Nat

namespace TypeId

/-- The type `any`. -/
def any : TypeId := 0
/-- The type `unknown`. -/
def unknown : TypeId := 1
/-- The type `never`. -/
def never : TypeId := 2
/-- The type `number`. -/
def number : TypeId := 3
/-- The type `string`. -/
def string : TypeId := 4
/-- The type `boolean`. -/
def boolean : TypeId := 5
/-- The type `bigint`. -/
def bigInt : TypeId := 6
/-- The type `symbol`. -/
def symbol : TypeId := 7
/-- The type `void`. -/
def void : TypeId := 8
/-- The type `undefined`. -/
def undefined : TypeId := 9
/-- The type `null`. -/
def null : TypeId := 10

end TypeId

/-- A type whose values are no objects. -/
inductive PlainType where
  | number | string | boolean | bigInt | symbol | void | undefined | null
  deriving DecidableEq, Repr, Inhabited

namespace PlainType

/-- Every primitive type. -/
def all : List PlainType :=
  [number, string, boolean, bigInt, symbol, void, undefined, null]

/-- The name of a primitive type in a program. -/
def name : PlainType → String
  | number => "number"
  | string => "string"
  | boolean => "boolean"
  | bigInt => "bigint"
  | symbol => "symbol"
  | void => "void"
  | undefined => "undefined"
  | null => "null"

/-- The primitive type with a given name. -/
def ofName? (text : String) : Option PlainType :=
  all.find? (·.name == text)

/-- Whether a value of the type stands for the absence of a value. -/
def isNullish : PlainType → Bool
  | undefined | null | void => true
  | _ => false

/-- The place of a primitive type in every table. -/
def id : PlainType → TypeId
  | number => .number
  | string => .string
  | boolean => .boolean
  | bigInt => .bigInt
  | symbol => .symbol
  | void => .void
  | undefined => .undefined
  | null => .null

end PlainType

/-- Whether a type was declared as a class or as an interface. -/
inductive NominalKind where
  | classType | interfaceType
  deriving DecidableEq, Repr, Inhabited

/-- The keyword of a kind of declaration. -/
def NominalKind.name : NominalKind → String
  | classType => "class"
  | interfaceType => "interface"

/-- A class or interface. -/
structure NominalType where
  /-- The declared name; empty if there is none. -/
  name : String
  /-- Class or interface. -/
  kind : NominalKind
  /-- The generic parameters. -/
  params : List TypeId
  /-- The types it extends or implements. -/
  supertypes : List TypeId
  /-- Its own members, without inherited ones. -/
  members : List (Member TypeId)
  deriving DecidableEq, Repr, Inhabited

/-- The shape of a type. -/
inductive TypeEntry where
  /-- Every value, unchecked. -/
  | any
  /-- Every value, or a type that could not be found out. -/
  | unknown
  /-- No value. -/
  | never
  /-- A primitive type. -/
  | primitive (type : PlainType)
  /-- A class or interface. -/
  | declared (type : NominalType)
  /-- A declared type or alias with arguments. -/
  | reference (target : TypeId) (arguments : List TypeId)
  /-- Another name for a type, possibly generic. -/
  | alias (name : String) (params : List TypeId) (target : TypeId)
  /-- Values of any of the types. -/
  | union (members : List TypeId)
  /-- Values of all of the types. -/
  | intersection (members : List TypeId)
  /-- An array. -/
  | array (element : TypeId)
  /-- A tuple. -/
  | tuple (elements : List TypeId)
  /-- What can be called. -/
  | function (returnType : TypeId)
  /-- An object with these members. -/
  | object (members : List (Member TypeId))
  /-- A generic parameter, with its upper bound if there is one. -/
  | parameter (name : String) (bound : Option TypeId)
  /-- A name without a visible declaration, with arguments. -/
  | foreign (name : String) (arguments : List TypeId)
  deriving DecidableEq, Repr, Inhabited

/-- A table of types. -/
structure TypeTable where
  /-- The types, by their places. -/
  entries : Array TypeEntry
  deriving DecidableEq, Repr

namespace TypeTable

/-- The types that need no declaration, by their places. -/
def intrinsics : Array TypeEntry :=
  #[.any, .unknown, .never, .primitive .number, .primitive .string, .primitive .boolean,
    .primitive .bigInt, .primitive .symbol, .primitive .void, .primitive .undefined,
    .primitive .null]

/-- The table that holds nothing else. -/
def initial : TypeTable :=
  ⟨intrinsics⟩

instance : Inhabited TypeTable := ⟨initial⟩

/-- The number of places in use. -/
def size (table : TypeTable) : Nat :=
  table.entries.size

/-- The type at a place. -/
def get? (table : TypeTable) (id : TypeId) : Option TypeEntry :=
  table.entries[id]?

/-- Puts a type at the end of the table. -/
def push (table : TypeTable) (data : TypeEntry) : TypeId × TypeTable :=
  (table.size, ⟨table.entries.push data⟩)

/-- Takes a place at the end of the table for a type that is defined later. -/
def reserve (table : TypeTable) : TypeId × TypeTable :=
  table.push .unknown

/-- Puts a type at a place that is in use; other places are left as they are. -/
def define (table : TypeTable) (id : TypeId) (data : TypeEntry) : TypeTable :=
  ⟨table.entries.setIfInBounds id data⟩

/-- Whether a place holds a type whose values stand for the absence of a value. -/
def isNullish (table : TypeTable) (id : TypeId) : Bool :=
  match table.get? id with
  | some (.primitive primitive) => primitive.isNullish
  | _ => false

/-- Whether a place is in use. -/
def holds (table : TypeTable) (id : TypeId) : Bool :=
  id < table.size

/-- What is said of a place that is not in use. -/
def unknownMessage (id : TypeId) : String :=
  s!"type {id} is not defined in this table"

/-- A type that was put at the end of the table is at its place. -/
theorem get?_push (table : TypeTable) (data : TypeEntry) :
    (table.push data).2.get? (table.push data).1 = some data := by
  simp [push, get?, size]

/-- The types that were there stay when another one is put at the end. -/
theorem get?_push_of_lt {table : TypeTable} {data : TypeEntry} {id : TypeId}
    (h : id < table.size) : (table.push data).2.get? id = table.get? id := by
  simp [push, get?, size] at h ⊢
  rw [Array.getElem?_push_lt h, Array.getElem?_eq_getElem h]

/-- Defining a type changes no other place. -/
theorem get?_define_of_ne {table : TypeTable} {data : TypeEntry} {id other : TypeId}
    (h : id ≠ other) : (table.define id data).get? other = table.get? other := by
  simp [define, get?, Array.getElem?_setIfInBounds_ne h]

/-- Defining a type does not change how many places are in use. -/
theorem size_define (table : TypeTable) (id : TypeId) (data : TypeEntry) :
    (table.define id data).size = table.size := by
  simp [define, size]

end TypeTable

end StreamLint
