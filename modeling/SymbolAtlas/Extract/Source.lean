import SymbolAtlas.Files.Basic
import SymbolAtlas.Symbol.Basic
import SymbolAtlas.Text.Bytes

/-!
# Source files

A source file ready for extraction: its path below the project root, its text
and its error-free syntax tree. Loading fails, in this order, when the file
cannot be read, when it does not lie below the root, and when its tree holds an
error.
-/

namespace SymbolAtlas

/-- Why no symbols could be extracted from a file. -/
inductive ParseError where
  | unreadable (path : String) (cause : String)
  | broken (path : String) (line : Nat)
  | unavailable (cause : String)
  | outsideRoot (path root : String)
  deriving DecidableEq, Repr

/-- How a failed extraction is reported. -/
def ParseError.message : ParseError → String
  | unreadable path cause => "failed to read " ++ path ++ ": " ++ cause
  | broken path line => "syntax error in " ++ path ++ " at line " ++ toString line
  | unavailable cause => "parser unavailable: " ++ cause
  | outsideRoot path root => path ++ " is outside project root " ++ root

/-- The path of a file below the project root, with forward separators. It is
refused when it climbs out of the root. -/
def relativePath (path root : String) : Except ParseError String :=
  let relative := (Path.relative? path root).getD path
  if (Path.components relative).contains .parent then .error (.outsideRoot path root)
  else .ok (Text.forwardSlashes relative)

/-- A source file ready for extraction. -/
structure Source where
  /-- The path below the project root. -/
  relative : String
  text : List Char
  tree : Tree

namespace Source

/-- Load a source file. -/
def load (files : Files) (path root : String) : Except ParseError Source :=
  match files.read path with
  | .error error => .error (.unreadable path error.message)
  | .ok (text, tree) =>
    match relativePath path root with
    | .error error => .error error
    | .ok relative =>
      match tree with
      | none => .error (.unavailable ("no tree for " ++ path))
      | some tree =>
        if tree.mark.hasError then .error (.broken path tree.errorLine)
        else .ok { relative := relative, text := text.toList, tree := tree }

/-- The characters of a node. -/
def charsOf (source : Source) (mark : Mark) : List Char :=
  Text.slice mark.start mark.stop source.text

/-- The text of a node. -/
def textOf (source : Source) (tree : Tree) : String :=
  String.ofList (source.charsOf tree.mark)

/-- The text of the child that fills a field. -/
def fieldText? (source : Source) (field : String) (children : List Tree) : Option String :=
  (fieldChild? field children).map source.textOf

/-- The first line of a node without the blanks around it and without the character
that opens its block. -/
def signature (source : Source) (opener : Char) (mark : Mark) : String :=
  let first := Text.trim (Text.firstLine (source.charsOf mark))
  if first.getLast? = some opener then String.ofList (Text.trimEnd first.dropLast)
  else String.ofList first

end Source

end SymbolAtlas
