import SymbolAtlas.Extract.JavaSymbols
import SymbolAtlas.Extract.PythonSymbols
import SymbolAtlas.Extract.RustSymbols
import SymbolAtlas.Files.Crawl
import SymbolAtlas.Text.Escape

/-!
# Parsers and their registry

A parser claims file extensions and extracts the symbols of one file; before a
run it may look at the whole project. Three parsers are built in; any other is
given by what it does. In a registry the first parser that claims an extension
gets the files with it, and setting up stops at the first parser that fails.
-/

namespace SymbolAtlas

/-- A parser of source files. -/
inductive Parser where
  | python
  | rust
  /-- The Java parser, with the types it has seen when it was set up. -/
  | java (types : Java.TypeIndex)
  /-- A parser given by its name, its extensions, what setting it up reports, and
  what it finds in a file below a root. -/
  | custom (name : String) (extensions : List String) (setupError : Option ParseError)
      (parse : Files → String → String → Except ParseError (List Symbol))

namespace Parser

/-- The name of a parser. -/
def name : Parser → String
  | python => "python"
  | rust => "rust"
  | java _ => "java"
  | custom name _ _ _ => name

/-- The extensions that a parser claims. -/
def extensions : Parser → List String
  | python => ["py"]
  | rust => ["rs"]
  | java _ => ["java"]
  | custom _ extensions _ _ => extensions

/-- Whether a parser claims an extension, in whatever case. -/
def claims (extension : String) (parser : Parser) : Bool :=
  parser.extensions.any fun claimed => Text.sameIgnoringCase claimed extension

/-- The symbols of a file below a root. -/
def parse (parser : Parser) (files : Files) (path root : String) :
    Except ParseError (List Symbol) :=
  match parser with
  | python => (Source.load files path root).map Python.symbols
  | rust => (Source.load files path root).map Rust.symbols
  | java types => (Source.load files path root).map (Java.symbols types)
  | custom _ _ _ parse => parse files path root

end Parser

namespace Java

/-- The index with the types of one file below a root. A file that cannot be loaded
changes nothing. -/
def TypeIndex.addPath (files : Files) (root : String) (index : TypeIndex) (path : String) :
    TypeIndex :=
  match Source.load files path root with
  | .ok source => index.addFile source
  | .error _ => index

/-- The index with the types of all Java files below a root. What is no directory
changes nothing. -/
def TypeIndex.addRoot (files : Files) (index : TypeIndex) (root : String) : TypeIndex :=
  match files.crawl false root ["java"] with
  | .ok paths => paths.foldl (TypeIndex.addPath files root) index
  | .error _ => index

/-- The types of the Java files below several roots, later ones last. -/
def TypeIndex.ofRoots (files : Files) (roots : List String) : TypeIndex :=
  roots.foldl (TypeIndex.addRoot files) []

end Java

/-- Set up a parser for a run over a root with further source directories. -/
def Parser.setUp (files : Files) (root : String) (classpath : List String) :
    Parser → Except ParseError Parser
  | .java _ => .ok (.java (Java.TypeIndex.ofRoots files (root :: classpath)))
  | .custom _ _ (some error) _ => .error error
  | parser => .ok parser

/-- Parsers in order of registration. -/
abbrev Registry := List Parser

namespace Registry

/-- The registry of the parsers that are built in. -/
def standard : Registry :=
  [.python, .rust, .java []]

/-- Every claimed extension in small letters, each once, in order. -/
def extensions (registry : Registry) : List String :=
  ((registry.flatMap fun parser => parser.extensions.map Text.lowered).eraseDups).mergeSort
    fun left right => decide (left ≤ right)

/-- The parser for a file: the first that claims its extension. -/
def parserFor? (registry : Registry) (path : String) : Option Parser :=
  match Path.extension? path with
  | none => none
  | some extension => registry.find? (Parser.claims extension)

/-- Set up the parsers one after another up to the first failure. Those before it
are set up, it and those behind it are left as they were. -/
def setUp (files : Files) (root : String) (classpath : List String) :
    Registry → Registry × Option ParseError
  | [] => ([], none)
  | parser :: rest =>
    match parser.setUp files root classpath with
    | .error error => (parser :: rest, some error)
    | .ok ready =>
      let (others, error) := setUp files root classpath rest
      (ready :: others, error)

/-- The diagnostic form of a registry. -/
def diagnostic (registry : Registry) : String :=
  "ParserRegistry \x7b parsers: [" ++
    ", ".intercalate (registry.map fun parser => Text.quoted parser.name) ++ "] \x7d"

end Registry

/-- What a scripted parser does with one file. -/
inductive Script where
  | symbols (symbols : List Symbol)
  | broken (line : Nat)
  | unavailable (cause : String)
  | outsideRoot
  | unreadable (cause : String)

/-- A parser that answers from a list of scripts by the path below the root. -/
def Parser.scripted (name : String) (extensions : List String) (setupError : Option String)
    (scripts : Dict Script) : Parser :=
  .custom name extensions (setupError.map .unavailable) fun _ path root =>
    match (Path.below? path root).bind scripts.get? with
    | none => .ok []
    | some (.symbols symbols) => .ok symbols
    | some (.broken line) => .error (.broken path line)
    | some (.unavailable cause) => .error (.unavailable cause)
    | some .outsideRoot => .error (.outsideRoot path root)
    | some (.unreadable cause) => .error (.unreadable path cause)

end SymbolAtlas
