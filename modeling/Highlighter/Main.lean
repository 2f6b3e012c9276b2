import Highlighter.Console.Plan

/-! The command line. It prints what a command comes to; no server can be asked from here, so the
commands with a question for one only say so.
-/

namespace Highlighter.Console

/-- A value as it is printed: a text as it is, and all else as JSON. -/
def printedText : Json → String
  | .string text => text
  | value => value.compact

/-- Prints what is seen of a command and gives its exit code. -/
def report (outcome : Outcome) : IO UInt32 := do
  for value in outcome.log do
    IO.println (printedText value)
  for line in outcome.errors do
    IO.eprintln line
  match outcome.refusal with
  | some refusal =>
      IO.eprintln (refusal.kind ++ ": " ++ refusal.message)
      return 1
  | none => return (outcome.exit.getD 0).toUInt32

end Highlighter.Console

/-- Runs the command that the arguments give. -/
def main (texts : List String) : IO UInt32 := do
  let clock ← IO.monoMsNow
  let directory ← IO.currentDir
  Highlighter.Console.report
    (Highlighter.Console.plan clock directory.toString texts).withoutServer
