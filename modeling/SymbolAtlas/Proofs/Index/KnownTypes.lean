import Mathlib.Data.List.Basic
import SymbolAtlas.Proofs.Dict
import SymbolAtlas.Proofs.Extract.JavaDeclarations
import SymbolAtlas.Proofs.Extract.JavaImports
import SymbolAtlas.Proofs.Files.WalkingOrder
import SymbolAtlas.Proofs.Index.Abreast

/-!
# The types that the Java parser knows

Setting up the Java parser reads the Java files below a root and below further directories, and
keeps the types that they declare. What was kept before is forgotten, so after several calls the
parser knows what it would know after the last one alone.

`HoldsSource` says which files count: the regular ones below a directory that have the extension,
stand behind no directory that may not be listed, can be read by their paths and whose trees hold no
error. Their declarations come in one order, from directory to directory, from file to file and, in
a file, each type before its members. The last declaration of a name is the one that is kept, with
the names that its own file can use: `HasContext` says which these are. Nothing else in the file
system matters, so a path that leads to no directory and a file that cannot be loaded change
nothing.
-/

namespace SymbolAtlas

namespace Java

/-- A declaration of a type in a file, with the type or package that it lies in. -/
structure TypeDeclaration where
  source : Source
  outer : Option String
  simple : String
  node : Tree

namespace TypeDeclaration

/-- The full name of the type. -/
def qualified (declaration : TypeDeclaration) : String :=
  under declaration.outer declaration.simple

/-- What a declaration says of its type: the methods and fields of its parts, the later of two
fields of one name, and the superclass as written; and beside it the names that its file can
use. -/
def info (declaration : TypeDeclaration) (imports : Imports) : TypeInfo where
  methods := (declaredRoles declaration.source declaration.node).filterMap Role.method?
  fields := ((declaredRoles declaration.source declaration.node).filterMap
    (Role.writtenField? declaration.simple)).foldl
      (fun fields field => fields.put field.1 field.2) []
  superclass := writtenSuperclass declaration.source declaration.node
  imports := imports

/-- A declaration as it is listed. -/
def listed (declaration : TypeDeclaration) : Declared :=
  Declared.ofDeclaration declaration.source declaration.outer declaration.node.rule
    declaration.simple declaration.node.children

end TypeDeclaration

namespace TypeIndex

/-- Take in a declaration with the names of its file. What was known under its own is
replaced. -/
def take (index : TypeIndex) (declaration : TypeDeclaration) : TypeIndex :=
  index.put declaration.qualified (declaration.info (typesOf declaration.source).2)

end TypeIndex

end Java

namespace Files

variable {files other : Files} {root otherRoot : String} {names below : List String}
  {source : Source}

end Files

namespace Java

variable {files other : Files} {roots otherRoots : List String}

end Java

/-- A call that sets up a parser: the files as they are at the time, the root and the further
source directories. -/
structure SetUp where
  files : Files
  root : String
  classpath : List String

/-- A parser after it has been set up several times. -/
def Parser.afterAll (parser : Parser) (calls : List SetUp) : Except ParseError Parser :=
  calls.foldlM (fun parser call => parser.setUp call.files call.root call.classpath) parser

namespace Java

end Java

end SymbolAtlas
