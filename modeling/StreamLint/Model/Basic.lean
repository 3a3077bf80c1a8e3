import Std.Data.TreeMap
import StreamLint.Syntax.Tree
import StreamLint.Types.Table
/-!
# Models of files

What is known about the types of one file: the types of nodes, the symbols that names refer to, and
the types of symbols. Checks and the oracle see a `StreamLint.FileModel` only through these answers,
so a model may come from anywhere; `StreamLint.Bindings` hold answers that were put into them.
-/

namespace StreamLint

/-- The number of a bound name. -/
abbrev SymbolId := Nat

/-- The answers about the types of one file. -/
structure FileModel where
  /-- The table of all types. -/
  types : TypeTable
  /-- The type of a node. -/
  typeOf? : NodeId → Option TypeId
  /-- The symbol that a name refers to. -/
  symbolOf? : NodeId → Option SymbolId
  /-- The type of a symbol. -/
  symbolType? : SymbolId → Option TypeId

/-- A table of answers. -/
structure Bindings where
  /-- The table of all types. -/
  table : TypeTable := .initial
  /-- The types of nodes. -/
  nodeTypes : Std.TreeMap NodeId TypeId compare := {}
  /-- The symbols that names refer to. -/
  nodeSymbols : Std.TreeMap NodeId SymbolId compare := {}
  /-- The types of the symbols, by their numbers. -/
  symbols : Array TypeId := #[]

namespace Bindings

/-- The model that gives these answers. -/
def model (bindings : Bindings) : FileModel where
  types := bindings.table
  typeOf? node := bindings.nodeTypes[node]?
  symbolOf? node := bindings.nodeSymbols[node]?
  symbolType? symbol := bindings.symbols[symbol]?

/-- The answers with a type for a node. -/
def setType (bindings : Bindings) (node : NodeId) (type : TypeId) : Bindings :=
  { bindings with nodeTypes := bindings.nodeTypes.insert node type }

/-- The answers with one symbol more, which gets the next number. -/
def pushSymbol (bindings : Bindings) (type : TypeId) : Bindings :=
  { bindings with symbols := bindings.symbols.push type }

/-- The answers with a symbol for a node. -/
def setSymbol (bindings : Bindings) (node : NodeId) (symbol : SymbolId) : Bindings :=
  { bindings with nodeSymbols := bindings.nodeSymbols.insert node symbol }

end Bindings

/-- Types and values that every file may refer to without declaring them. -/
structure Prelude where
  /-- The types that the names below stand for. -/
  table : TypeTable := .initial
  /-- The declared types, by their names. -/
  types : Std.TreeMap String TypeId compare := {}
  /-- The declared values with their types, by their names. -/
  values : Std.TreeMap String TypeId compare := {}

/-- The prelude that declares nothing. -/
def Prelude.empty : Prelude := {}

end StreamLint
