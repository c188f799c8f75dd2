import SymbolAtlas.Symbol.Basic

/-!
# Symbols by file and type

An export shows symbols by file and within a file by enclosing type. Both levels
keep the order of first appearance, and the symbols of a group keep theirs. The
symbols without an enclosing type form a group of their own, which is not the
group of a type with an empty name.
-/

namespace SymbolAtlas

/-- The symbols of a file with the same enclosing type, or with none. -/
structure ClassGroup where
  className : Option String
  members : List Symbol
  deriving DecidableEq, Repr

/-- The symbols of a file. -/
structure FileGroup where
  path : String
  classes : List ClassGroup
  deriving DecidableEq, Repr

/-- Add a symbol to the groups of its file. -/
def addToClasses (symbol : Symbol) : List ClassGroup → List ClassGroup
  | [] => [⟨symbol.className, [symbol]⟩]
  | group :: rest =>
    if group.className = symbol.className then
      ⟨group.className, group.members ++ [symbol]⟩ :: rest
    else group :: addToClasses symbol rest

/-- Add a symbol to the groups of all files. -/
def addToFiles (symbol : Symbol) : List FileGroup → List FileGroup
  | [] => [⟨symbol.filePath, addToClasses symbol []⟩]
  | group :: rest =>
    if group.path = symbol.filePath then ⟨group.path, addToClasses symbol group.classes⟩ :: rest
    else group :: addToFiles symbol rest

/-- Symbols by file and enclosing type. -/
def groupByFile (symbols : List Symbol) : List FileGroup :=
  symbols.foldl (fun groups symbol => addToFiles symbol groups) []

end SymbolAtlas
