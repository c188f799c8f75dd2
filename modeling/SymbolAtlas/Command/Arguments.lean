import SymbolAtlas.Export.Format
import SymbolAtlas.Request.Basic
import SymbolAtlas.Text.Split

/-!
# Command lines

A command line is a list of arguments: options of the program, the name of a
command, and the options and operands of the command. Arguments are taken from
left to right, and the first that is wrong, or that asks for help, decides the
outcome; missing operands are noticed at the end.

An option has a long name and may have a letter. Letters can be written
together, and the value of the last one behind them; a value can also follow an
equals sign or be the next argument, which then may not look like an option
itself. A double hyphen ends the options.
-/

namespace SymbolAtlas

/-- Why a command line leads to no command. -/
inductive Refused where
  /-- It is wrong. -/
  | usage
  /-- It asks for help. -/
  | help
  /-- It asks for the version. -/
  | version
  deriving DecidableEq, Repr

/-- What an option does. -/
inductive Effect where
  /-- It is on or off and given at most once. -/
  | switch
  /-- It has a value and is given at most once. -/
  | value
  /-- It has values separated by commas and may be given again. -/
  | values
  /-- It ends the reading of arguments. -/
  | stop (reason : Refused)
  deriving DecidableEq, Repr

/-- An option. -/
structure Flag where
  long : String
  letter : Option Char := none
  effect : Effect
  deriving DecidableEq, Repr

/-- What has been read so far: switches, option values in order, and operands in
order. -/
structure Taken where
  switches : List String := []
  values : List (String × String) := []
  operands : List String := []
  deriving DecidableEq, Repr

/-- The options and operands that a command takes. -/
structure Grammar where
  flags : List Flag
  /-- Whether a value is good for an option. -/
  accepts : String → String → Bool
  /-- The number of operands. -/
  operands : Nat

namespace Taken

/-- Whether an option has been given. -/
def has (taken : Taken) (long : String) : Bool :=
  taken.switches.contains long

/-- The value of an option. -/
def value? (taken : Taken) (long : String) : Option String :=
  taken.values.lookup long

/-- The parts between the commas of a value. -/
def parts (value : String) : List String :=
  (Text.splitWhen (· = ',') value.toList).map String.ofList

/-- The parts of all values of an option. -/
def allParts (taken : Taken) (long : String) : List String :=
  (taken.values.filter fun (name, _) => name = long).flatMap fun (_, value) => parts value

/-- Take in a switch, unless it was given before. -/
def addSwitch (taken : Taken) (long : String) : Except Refused Taken :=
  if taken.switches.contains long then .error .usage
  else .ok { taken with switches := taken.switches ++ [long] }

/-- Take in a value. One that is no good is refused, and so is a second value for an
option with one value. -/
def addValue (grammar : Grammar) (taken : Taken) (flag : Flag) (value : String) :
    Except Refused Taken :=
  if flag.effect = .value && (taken.value? flag.long).isSome then .error .usage
  else
    let pieces := if flag.effect = .values then parts value else [value]
    if pieces.all (grammar.accepts flag.long) then
      .ok { taken with values := taken.values ++ [(flag.long, value)] }
    else .error .usage

/-- Take in an operand; empty ones and those beyond the number are refused. -/
def addOperand (grammar : Grammar) (taken : Taken) (operand : String) : Except Refused Taken :=
  if operand = "" ∨ grammar.operands ≤ taken.operands.length then .error .usage
  else .ok { taken with operands := taken.operands ++ [operand] }

end Taken

/-- Whether an argument looks like an option. A single hyphen does not. -/
def looksLikeOption (argument : String) : Bool :=
  match argument.toList with
  | '-' :: _ :: _ => true
  | _ => false

/-- What one argument that looks like an option leaves: everything is taken in, or a
flag still waits for its value. -/
abbrev Step := Except Refused (Taken × Option Flag)

/-- Take in letters written together. -/
def takeLetters (grammar : Grammar) (taken : Taken) : List Char → Step
  | [] => .ok (taken, none)
  | letter :: rest =>
    match grammar.flags.find? fun flag => flag.letter = some letter with
    | none => .error .usage
    | some flag =>
      match flag.effect with
      | .stop reason => .error reason
      | .switch =>
        match taken.addSwitch flag.long with
        | .ok more => takeLetters grammar more rest
        | .error refused => .error refused
      | _ =>
        match rest with
        | [] => .ok (taken, some flag)
        | '=' :: value => (taken.addValue grammar flag (String.ofList value)).map (·, none)
        | value => (taken.addValue grammar flag (String.ofList value)).map (·, none)

/-- Take in a long option with the value behind its equals sign, if it has one. -/
def takeLong (grammar : Grammar) (taken : Taken) (name : String) (value : Option String) :
    Step :=
  match grammar.flags.find? fun flag => flag.long = name with
  | none => .error .usage
  | some flag =>
    match flag.effect, value with
    | .stop reason, none => .error reason
    | .stop _, some _ => .error .usage
    | .switch, none => (taken.addSwitch flag.long).map (·, none)
    | .switch, some _ => .error .usage
    | _, some value => (taken.addValue grammar flag value).map (·, none)
    | _, none => .ok (taken, some flag)

/-- Take in an argument that looks like an option. -/
def takeOption (grammar : Grammar) (taken : Taken) (argument : List Char) : Step :=
  match argument with
  | '-' :: '-' :: long =>
    match Text.splitFirst ['='] long with
    | some (name, value) =>
      takeLong grammar taken (String.ofList name) (some (String.ofList value))
    | none => takeLong grammar taken (String.ofList long) none
  | _ :: letters => takeLetters grammar taken letters
  | [] => .error .usage

/-- Take in the operands behind a double hyphen. -/
def takeOperands (grammar : Grammar) (taken : Taken) : List String → Except Refused Taken
  | [] => .ok taken
  | operand :: rest =>
    match taken.addOperand grammar operand with
    | .ok more => takeOperands grammar more rest
    | .error refused => .error refused

/-- Take in the arguments of a command, a flag possibly waiting for its value. -/
def takeAll (grammar : Grammar) : Taken → Option Flag → List String → Except Refused Taken
  | taken, none, [] => .ok taken
  | _, some _, [] => .error .usage
  | taken, some flag, argument :: rest =>
    if looksLikeOption argument then .error .usage
    else match taken.addValue grammar flag argument with
      | .ok more => takeAll grammar more none rest
      | .error refused => .error refused
  | taken, none, argument :: rest =>
    if argument = "--" then takeOperands grammar taken rest
    else if looksLikeOption argument then
      match takeOption grammar taken argument.toList with
      | .ok (more, waiting) => takeAll grammar more waiting rest
      | .error refused => .error refused
    else match taken.addOperand grammar argument with
      | .ok more => takeAll grammar more none rest
      | .error refused => .error refused

/-- A number of results as it may be written: digits, a plus sign before them
allowed, below 2^64. -/
def limitOf? (text : String) : Option UInt64 :=
  let digits := match text.toList with
    | '+' :: rest => rest
    | digits => digits
  if digits.isEmpty || !digits.all Char.isDigit then none
  else
    let value := digits.foldl (fun value digit => 10 * value + (digit.toNat - '0'.toNat)) 0
    if value < UInt64.size then some (UInt64.ofNat value) else none

/-- The kind of a text, if it names one. -/
def kindOf? (text : String) : Option Kind :=
  match Kind.read text with
  | .ok kind => some kind
  | .error _ => none

/-- The options that every command has. -/
def commonFlags : List Flag :=
  [ { long := "verbose", letter := some 'v', effect := .switch }
  , { long := "help", letter := some 'h', effect := .stop .help } ]

/-- Whether a value is good for an option of some command. -/
def acceptsValue (long value : String) : Bool :=
  if long = "kinds" then (kindOf? value).isSome
  else if long = "limit" then (limitOf? value).isSome
  else if long = "format" then (Format.named? value).isSome
  else if long = "classpath" then value != ""
  else true

/-- The options and operands before the command. -/
def programGrammar : Grammar where
  flags := { long := "version", letter := some 'V', effect := .stop .version } :: commonFlags
  accepts := acceptsValue
  operands := 0

/-- The options and operands of indexing. -/
def indexGrammar : Grammar where
  flags :=
    { long := "classpath", effect := .values } ::
    { long := "fresh", effect := .switch } ::
    { long := "progress", letter := some 'p', effect := .switch } :: commonFlags
  accepts := acceptsValue
  operands := 2

/-- The options and operands of searching. -/
def searchGrammar : Grammar where
  flags :=
    { long := "query", letter := some 'q', effect := .value } ::
    { long := "kinds", letter := some 'k', effect := .values } ::
    { long := "file", letter := some 'f', effect := .value } ::
    { long := "class", letter := some 'c', effect := .value } ::
    { long := "package", letter := some 'p', effect := .value } ::
    { long := "limit", letter := some 'l', effect := .value } ::
    { long := "json", effect := .switch } :: commonFlags
  accepts := acceptsValue
  operands := 1

/-- The options and operands of exporting. -/
def exportGrammar : Grammar where
  flags :=
    { long := "format", letter := some 'f', effect := .value } ::
    { long := "kinds", letter := some 'k', effect := .values } :: commonFlags
  accepts := acceptsValue
  operands := 2

/-- What the program is asked to do. -/
inductive Command where
  | index (project database : String) (classpath : List String) (fresh progress : Bool)
  | search (database : String) (request : Request) (json : Bool)
  | exportTo (database output : String) (format : Format) (kinds : List Kind)
  deriving DecidableEq, Repr

/-- The command for indexing with these options and operands. -/
def indexCommand? (taken : Taken) : Option Command :=
  match taken.operands with
  | [project, database] =>
    some (.index project database (taken.allParts "classpath") (taken.has "fresh")
      (taken.has "progress"))
  | _ => none

/-- The command for searching with these options and operands. -/
def searchCommand? (taken : Taken) : Option Command :=
  match taken.operands with
  | [database] =>
    some (.search database
      { query := taken.value? "query"
        kinds := (taken.allParts "kinds").filterMap kindOf?
        className := taken.value? "class"
        packageName := taken.value? "package"
        fileGlob := taken.value? "file"
        limit := ((taken.value? "limit").bind limitOf?).getD defaultLimit }
      (taken.has "json"))
  | _ => none

/-- The command for exporting with these options and operands. -/
def exportCommand? (taken : Taken) : Option Command :=
  match taken.operands with
  | [database, output] =>
    some (.exportTo database output (((taken.value? "format").bind Format.named?).getD .markdown)
      ((taken.allParts "kinds").filterMap kindOf?))
  | _ => none

/-- The grammar and the reading of the command with a name or short name. -/
def commandNamed? (name : String) : Option (Grammar × (Taken → Option Command)) :=
  if ["index", "idx", "i"].contains name then some (indexGrammar, indexCommand?)
  else if ["search", "s", "find"].contains name then some (searchGrammar, searchCommand?)
  else if ["export", "e"].contains name then some (exportGrammar, exportCommand?)
  else none

/-- What a command line asks for, and whether it asks to be told more. -/
structure CommandLine where
  command : Command
  verbose : Bool
  deriving DecidableEq, Repr

/-- The outcome of asking for help on something. -/
def helpOn : List String → Refused
  | [] => .help
  | [name] => if name = "help" ∨ (commandNamed? name).isSome then .help else .usage
  | _ => .usage

/-- Read a command line from the options before the command on. A line without any
argument that counts asks for help. -/
def readFrom (taken : Taken) : List String → Except Refused CommandLine
  | [] => .error (if taken.switches.isEmpty then .help else .usage)
  | argument :: rest =>
    match commandNamed? argument with
    | some (grammar, command?) =>
      match takeAll grammar {} none rest with
      | .error refused => .error refused
      | .ok own =>
        match command? own with
        | some command => .ok ⟨command, taken.has "verbose" || own.has "verbose"⟩
        | none => .error .usage
    | none =>
      if argument = "help" then .error (helpOn rest)
      else if argument = "--" then
        .error (if taken.switches.isEmpty && rest.isEmpty then .help else .usage)
      else if looksLikeOption argument then
        match takeOption programGrammar taken argument.toList with
        | .ok (more, none) => readFrom more rest
        | .ok (_, some _) => .error .usage
        | .error refused => .error refused
      else .error .usage

/-- Read a command line. -/
def CommandLine.read (arguments : List String) : Except Refused CommandLine :=
  readFrom {} arguments

end SymbolAtlas
