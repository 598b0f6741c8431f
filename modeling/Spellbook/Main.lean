import Spellbook.CommandLine.Answer
import Spellbook.Disk
set_option autoImplicit false

/-!
# The command line

The arguments are answered by `CommandLine.Answer`; here the answer meets the real
input, output and files.  A game is played line by line, so that every answer is
seen before the next line is typed.
-/

namespace Spellbook

/-- Prints lines, pausing before each of the first `paced`. -/
def printLines (delay paced : Nat) (lines : List String) : IO Unit := do
  for (line, place) in lines.zipIdx do
    if place < paced then IO.sleep delay.toUInt32
    IO.println line
  (← IO.getStdout).flush

/-- How many lines of a reply each tell a step. -/
def stepLines (command : Play.Command) (reply : Play.Reply) : Nat :=
  match command, reply.lines with
  | .run, .ok _ => reply.console.workbench.history.length
  | _, _ => 0

/-- Plays line by line until the input or the game ends. -/
partial def converse (path : String) (workbench : Workbench) : IO Unit := do
  IO.print Play.Console.promptText
  (← IO.getStdout).flush
  let line ← (← IO.getStdin).getLine
  if line.isEmpty then return
  let command := Play.Command.ofLine line
  let disk ← Disk.lookAtAll [path]
  let reply := Play.Console.perform path ⟨workbench, disk.files⟩ command
  Disk.write disk reply.console.files
  printLines workbench.stepDelay (stepLines command reply) (Play.Console.printed reply)
  if command ≠ .quit then converse path reply.console.workbench

/-- Prints an answer, pausing before each step if a pace is given, and writes the
files that it leaves. -/
def give (disk : Disk.View) (delay : Nat) (a : CommandLine.Answer) : IO UInt32 := do
  Disk.write disk a.files
  for line in (a.output.splitOn "\n").dropLast do
    if line.startsWith "STEP:" then IO.sleep delay.toUInt32
    IO.println line
  return a.exitCode.toUInt32

/-- Carries out a command. -/
def carryOut (c : CommandLine.Command) : IO UInt32 := do
  match c with
  | .play o =>
    match CommandLine.Answer.playWorkbench o with
    | .error fault => give default 0 (.ofFault fault default)
    | .ok w =>
      printLines 0 0 (Play.greeting w)
      converse (CommandLine.Answer.playPath o) w
      return 0
  | .run o =>
    let disk ← Disk.lookAtAll (o.programFile?.toList ++ o.reportOut?.toList)
    let delay := match CommandLine.Answer.runWorkbench o disk.files with
      | .ok w => w.stepDelay
      | .error _ => 0
    give disk delay (.ofRun o disk.files)
  | c => give default 0 (.ofCommand c "" default)

/-- How the program is called. -/
def usage : String :=
  "usage: spellbook levels | catalog --level <level> | run --level <level> [option]... | play --level <level> [option]..."

end Spellbook

open Spellbook in
/-- Answers the arguments. -/
def main (args : List String) : IO UInt32 := do
  match CommandLine.Command.ofArgs args with
  | .ok c => carryOut c
  | .error .help =>
    IO.println usage
    return 0
  | .error .invalid =>
    IO.eprintln usage
    return 2
