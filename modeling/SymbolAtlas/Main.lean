import SymbolAtlas.Command.Shell

/-!
# The program

Feeds a shell with the lines of standard input and then with the arguments as one
more command, and writes what it says to standard output and standard error. The
exit status is that of the last command.
-/

namespace SymbolAtlas.Program

/-- Milliseconds as seconds with two places. -/
def seconds (milliseconds : Nat) : String :=
  let hundredths := milliseconds / 10 % 100
  toString (milliseconds / 1000) ++ "." ++
    (if hundredths < 10 then "0" else "") ++ toString hundredths

/-- Write what a shell says. -/
def speak (spoken : Spoken) : IO Unit := do
  IO.print spoken.output
  IO.eprint spoken.complaint

/-- Feed a shell with the lines that are left of standard input. -/
partial def feed (input : IO.FS.Stream) (start : Nat) (shell : Shell) (status : Nat) :
    IO (Shell × Nat) := do
  let text ← input.getLine
  if text.isEmpty then return (shell, status)
  let now ← IO.monoMsNow
  let (after, spoken) :=
    shell.line (seconds (now - start)) (String.ofList (Text.trimEndWhile (· = '\n') text.toList))
  speak spoken
  feed input start after (if spoken = {} then status else spoken.status)

end SymbolAtlas.Program

open SymbolAtlas Program in
/-- Run the lines of standard input and the command in the arguments. -/
def main (arguments : List String) : IO UInt32 := do
  let start ← IO.monoMsNow
  let (shell, status) ← feed (← IO.getStdin) start {} 0
  if arguments.isEmpty then return status.toUInt32
  let now ← IO.monoMsNow
  let (_, spoken) := shell.command (seconds (now - start)) arguments
  speak spoken
  return spoken.status.toUInt32
