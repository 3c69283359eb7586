import LanguageClient.CommandLine.Run

/-!
# The program

The client on the command line. The machine that it runs on is described on standard input, by an
object with the current directory, the texts of files by their absolute paths, and variables.
-/

open LanguageClient

/-- The entries of an object that are texts. -/
def textFields (j : Option Json) : List (String × String) :=
  match j with
  | some (.obj fields) => fields.filterMap fun (name, v) => v.str?.map (name, ·)
  | _ => []

/-- The machine of a description. -/
def machineOf (j : Json) : Machine where
  files := Programs.install ((textFields (j.get? "files")).foldl
    (fun t (path, text) => t.insert path (.file (Json.utf8 text))) [])
  here := (((j.get? "here").bind Json.str?).getD "/").toList
  vars := (textFields (j.get? "variables")).foldl (fun t (name, v) => t.insert name v) []

def main (args : List String) : IO UInt32 := do
  let description ← (← IO.getStdin).getLine
  match Json.parse (Json.utf8 description) with
  | .error e =>
    IO.eprintln e.message
    return 2
  | .ok j =>
    let result := CommandLine.run (machineOf j) args
    IO.print result.console.out
    IO.eprint result.console.err
    return result.code.toUInt32
