import SymbolAtlas.Command.Run

/-!
# The shell

A shell keeps a workspace in memory and is fed lines. Most lines are command
lines, their words separated by blanks. Two lines open a block that runs up to
its closing line: one block is the text of a file, the other lists the syntax
tree of a file that is there already, a node a line.

Nothing here reads or writes outside of the shell: what a line makes it say is a
value, and so is the shell afterwards.
-/

namespace SymbolAtlas

/-- What the lines of a block describe. -/
inductive Block where
  /-- The text of a file. -/
  | file (path : String)
  /-- The syntax tree of a file. -/
  | tree (path : String)
  deriving DecidableEq, Repr

/-- What a shell says about a line. -/
structure Spoken where
  output : String := ""
  complaint : String := ""
  /-- Zero where all went well, two for a line that was not understood, one for a
  command that failed. -/
  status : Nat := 0
  deriving DecidableEq, Repr

/-- A workspace that is fed lines. -/
structure Shell where
  workspace : Workspace := { files := Files.startingIn ["work"] }
  /-- The block that is open, with its lines so far, the latest first. -/
  pending : Option (Block × List String) := none

namespace Shell

/-- The version that the program reports. -/
def version : String := "0.1.0"

/-- How the commands are called. -/
def manual : String :=
  "Usage: [-v] <COMMAND>\n\n" ++
  "  index PROJECT DB [--classpath DIRS] [--fresh] [-p]\n" ++
  "  search DB [-q TEXT] [-k KINDS] [-f GLOB] [-c CLASS] [-p PACKAGE] [-l LIMIT] [--json]\n" ++
  "  export DB OUTPUT [-f markdown|xml] [-k KINDS]\n"

/-- What is said about a line that leads to no command. -/
def refusal : Refused → Spoken
  | .usage => { complaint := manual, status := 2 }
  | .help => { output := manual }
  | .version => { output := version ++ "\n" }

/-- Run a command line. -/
def command (shell : Shell) (elapsed : String) (arguments : List String) : Shell × Spoken :=
  match CommandLine.read arguments with
  | .error refused => (shell, refusal refused)
  | .ok line =>
    let outcome := line.command.run shell.workspace elapsed
    let after := { shell with workspace := outcome.workspace }
    match outcome.result with
    | .ok () => (after, { output := outcome.printed })
    | .error error =>
      (after,
        { output := outcome.printed
          complaint := "Error: " ++ error.message ++ "\n"
          status := 1 })

/-- A number in a listing of nodes; what is no number counts as zero. -/
def listedNumber (text : List Char) : Nat :=
  ((limitOf? (String.ofList text)).map UInt64.toNat).getD 0

/-- A node in a listing: depth, rule, fields, flags, first and last byte, and row,
with a tab between neighbours. -/
def listedNode? (line : String) : Option (Nat × Mark) :=
  match Text.splitWhen (· = '\t') line.toList with
  | [depth, rule, fields, flags, start, stop, row] =>
    let bits := listedNumber flags
    some (listedNumber depth,
      { rule := String.ofList rule
        fields := ((Text.splitWhen (· = ',') fields).filter fun field => !field.isEmpty).map
          String.ofList
        named := bits.testBit 0
        missing := bits.testBit 1
        hasError := bits.testBit 2
        isError := bits.testBit 3
        start := listedNumber start
        stop := listedNumber stop
        row := listedNumber row })
  | _ => none

/-- Take in the lines of a block that has ended. -/
def finish (files : Files) (lines : List String) : Block → Files × Except FileError Unit
  | .file path =>
    files.putFile path (.text (String.join (lines.map fun line => line ++ "\n")) none)
  | .tree path =>
    match files.read path with
    | .error error => (files, .error error)
    | .ok (text, _) =>
      files.putFile path (.text text (Tree.ofPreorder? (lines.filterMap listedNode?)))

/-- The block that a line opens. -/
def opened? (words : List String) : Option Block :=
  match words with
  | ["@file", path] => some (.file path)
  | ["@tree", path] => some (.tree path)
  | _ => none

/-- Take in a line outside of all blocks. An empty one says nothing. -/
def plainLine (shell : Shell) (elapsed : String) (words : List String) : Shell × Spoken :=
  match opened? words with
  | some block => ({ shell with pending := some (block, []) }, {})
  | none => if words.isEmpty then (shell, {}) else shell.command elapsed words

/-- Take in a line; `elapsed` is how the time up to it is shown. -/
def line (shell : Shell) (elapsed : String) (text : String) : Shell × Spoken :=
  match shell.pending with
  | none => shell.plainLine elapsed ((Text.words text.toList).map String.ofList)
  | some (block, lines) =>
    if text = "@end" then
      let (files, result) := finish shell.workspace.files lines.reverse block
      let after : Shell := { workspace := shell.workspace.withFiles files }
      match result with
      | .ok () => (after, {})
      | .error error => (after, { complaint := error.message ++ "\n", status := 1 })
    else ({ shell with pending := some (block, text :: lines) }, {})

end Shell

end SymbolAtlas
