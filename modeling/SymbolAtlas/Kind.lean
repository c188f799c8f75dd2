import SymbolAtlas.Text.Ascii
import SymbolAtlas.Text.Blank

/-!
# Kinds of symbols

A symbol is one of six kinds of program element. Each kind has one name, in
capitals, under which it is stored and shown; names are read without regard to
ASCII case and to blanks around them.
-/

namespace SymbolAtlas

/-- What kind of program element a symbol records. -/
inductive Kind where
  /-- A class, structure, enumeration or record. -/
  | classLike
  /-- An interface or trait. -/
  | interface
  /-- A function or method. -/
  | method
  /-- A field of a type. -/
  | field
  /-- A variable. -/
  | binding
  /-- A use: a call, or a mention of a variable or field. -/
  | reference
  deriving DecidableEq, Repr

namespace Kind

/-- Every kind, in the order in which sets of kinds are listed. -/
def all : List Kind :=
  [classLike, interface, method, field, binding, reference]

/-- The name of a kind, as it is stored and shown. -/
def text : Kind → String
  | classLike => "CLASS"
  | interface => "INTERFACE"
  | method => "METHOD"
  | field => "FIELD"
  | binding => "VARIABLE"
  | reference => "REFERENCE"

/-- The kind with exactly this name. -/
def named? (name : String) : Option Kind :=
  all.find? fun kind => kind.text == name

/-- The members of a list of kinds, each once, in the fixed order of kinds. -/
def distinct (kinds : List Kind) : List Kind :=
  all.filter kinds.contains

end Kind

/-- A text that names no kind, without the blanks around it. -/
structure UnknownKind where
  text : String
  deriving DecidableEq, Repr

/-- How an unknown kind is reported. -/
def UnknownKind.message (unknown : UnknownKind) : String :=
  "unknown symbol kind: " ++ unknown.text

/-- The kind a text names, ignoring ASCII case and surrounding blanks. -/
def Kind.read (text : String) : Except UnknownKind Kind :=
  match Kind.all.find? fun kind => Text.sameIgnoringCase kind.text (Text.trimmed text) with
  | some kind => .ok kind
  | none => .error ⟨Text.trimmed text⟩

end SymbolAtlas
