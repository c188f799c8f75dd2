import SymbolAtlas.Kind
import SymbolAtlas.Text.Split

/-!
# Symbols

A symbol is one recorded occurrence of a named program element. Only sound
symbols are stored: their name and path say something, the path stays below the
project root on every system, and the line is a line number or marks an unknown
place. The checks are made in a fixed order and the first defect is reported.
-/

namespace SymbolAtlas

/-- One recorded occurrence of a named program element. -/
structure Symbol where
  name : String
  kind : Kind
  /-- The innermost enclosing type, if there is one. -/
  className : Option String := none
  /-- The package, module or namespace, if there is one. -/
  packageName : Option String := none
  /-- The file, relative to the project root. -/
  filePath : String
  line : Int
  signature : Option String := none
  /-- The full name of what a reference refers to, where it is known. -/
  referenceTo : Option String := none
  deriving DecidableEq, Repr

/-- The line of a symbol whose place in its file is unknown. -/
def unknownLine : Int := -1

/-- Why a symbol may not be stored. -/
inductive Defect where
  | emptyName
  | emptyFilePath
  | absoluteFilePath (path : String)
  | parentDirectory (path : String)
  | invalidLine (line : Int)
  deriving DecidableEq, Repr

/-- How a defect is reported. -/
def Defect.message : Defect → String
  | .emptyName => "symbol name is empty"
  | .emptyFilePath => "symbol file path is empty"
  | .absoluteFilePath path => "symbol file path is absolute: " ++ path
  | .parentDirectory path => "symbol file path leaves the project root: " ++ path
  | .invalidLine line => "line must be >= 1 or -1, got " ++ toString line

/-- Whether a path is rooted on some system: it begins with either separator or
with a drive letter and its colon. -/
def isRooted (path : String) : Bool :=
  match path.toList with
  | '/' :: _ => true
  | '\\' :: _ => true
  | c :: ':' :: _ => Text.isAsciiLetter c
  | _ => false

/-- Whether some segment of a path, under either separator, names the parent
directory. -/
def hasParentSegment (path : String) : Bool :=
  (Text.splitWhen (fun c => c = '/' || c = '\\') path.toList).contains ['.', '.']

namespace Symbol

/-- The name, behind the enclosing type if there is one. -/
def displayName (symbol : Symbol) : String :=
  match symbol.className with
  | some owner => owner ++ "::" ++ symbol.name
  | none => symbol.name

/-- The first defect of a symbol, in the order name, path present, path relative,
path below the root, line. -/
def defect? (symbol : Symbol) : Option Defect :=
  if Text.isBlankText symbol.name then some .emptyName
  else if Text.isBlankText symbol.filePath then some .emptyFilePath
  else if isRooted symbol.filePath then some (.absoluteFilePath symbol.filePath)
  else if hasParentSegment symbol.filePath then some (.parentDirectory symbol.filePath)
  else if symbol.line < 1 ∧ symbol.line ≠ unknownLine then some (.invalidLine symbol.line)
  else none

/-- The symbols without repetition, in order of first appearance. -/
def distinct (symbols : List Symbol) : List Symbol :=
  symbols.eraseDups

/-- For each symbol the position of the first one equal to it. -/
def firstEqual (symbols : List Symbol) : List Nat :=
  symbols.map symbols.idxOf

end Symbol

end SymbolAtlas
