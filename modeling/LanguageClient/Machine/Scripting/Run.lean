import LanguageClient.Machine.Scripting.Eval

/-!
# Scripts as processes

A script runs to its end, or as far as what it has been given to read lets it. What it has written
and kept back goes out when it ends by itself, but not when it is stopped.
-/

namespace LanguageClient.Scripting

/-- What a command asks for: the text of a script, or else the file or the input that it is in. -/
inductive Source
  | given (cs : List Char)
  | file (path : String)
  | input
  /-- Nothing is run, and the status is this. -/
  | nothing (status : Nat)

/-- A script as it is asked for, and the words that it gets to know. -/
structure Request where
  source : Source
  args : List String
  /-- Whether what it writes goes out at once. -/
  eager : Bool

/-- Letters of options that make no difference here. -/
def idleLetters : List Char := [
  'b', 'B', 'd', 'E', 'i', 'I', 'O', 'P', 'q', 'R', 's', 'S', 'v', 'W', 'x', 'X']

/-- What the letters of an option ask for; `rest` are the words after it. -/
def request? (letters : List Char) (rest : List String) : Option Request :=
  match letters with
  | [] => none
  | 'u' :: letters => (request? letters rest).map fun r => { r with eager := true }
  | 'c' :: text =>
    if text.isEmpty then
      match rest with
      | text :: args => some ⟨.given text.toList, "-c" :: args, false⟩
      | [] => some ⟨.nothing 2, [], false⟩
    else some ⟨.given text, "-c" :: rest, false⟩
  | 'm' :: _ => some ⟨.nothing 1, [], false⟩
  | 'V' :: _ | 'h' :: _ => some ⟨.nothing 0, [], false⟩
  | c :: letters => if c ∈ idleLetters then request? letters rest else some ⟨.nothing 2, [], false⟩

/-- What the words of a command ask for; `skipped` if the first belongs to an option before it. -/
def requestOf (eager skipped : Bool) : List String → Request
  | [] => ⟨.input, [""], eager⟩
  | word :: rest =>
    if skipped then requestOf eager false rest
    else match word.toList with
      | ['-'] => ⟨.input, "-" :: rest, eager⟩
      | '-' :: '-' :: letters =>
        if letters.isEmpty then
          match rest with
          | [] => ⟨.input, [""], eager⟩
          | path :: args => ⟨.file path, path :: args, eager⟩
        else ⟨.nothing (if word ∈ ["--version", "--help"] then 0 else 2), [], eager⟩
      | '-' :: letters =>
        match request? letters rest with
        | some r => { r with eager := r.eager || eager }
        | none =>
          -- some options have words of their own
          requestOf (eager || 'u' ∈ letters) (word = "-W" || word = "-X") rest
      | _ => ⟨.file word, word :: rest, eager⟩

/-- The status that the end of a script stands for. -/
def statusOf (code : Value) : Nat :=
  match code with
  | .none => 0
  | .bool b => if b then 1 else 0
  | .int n => (n % 256).toNat
  | _ => 1

/-- More fuel than any script needs that comes to an end. -/
def plenty : Nat := 200000

/-- The context of a script's own statements. -/
def Context.outermost : Context := ⟨Scripting.outermost, none, none, none, none, 0⟩

/-- How a script ends that has been stopped for a reason. -/
def ending (h : Halt) : Doing ExitStatus := do
  match h with
  | .raised e =>
    if ← isOfKind e (.native "SystemExit") then
      match ← object? e with
      | some (.instance _ attributes) =>
        match attributes.lookup "code", attributes.lookup "args" with
        | some code, _ => return .exited (statusOf code)
        | none, some (.tuple []) => return .exited 0
        | none, some (.tuple [code]) => return .exited (statusOf code)
        | none, _ => return .exited 1
      | _ => return .exited 1
    else if ← isOfKind e (.native "KeyboardInterrupt") then return .killed 2
    else return .exited 1
  | .exited s => throw (.exited s)
  | .blocked => throw .blocked
  | .spent => throw .spent
  | _ => return .exited 1

/-- A script from its beginning to its end. -/
def script (source : Source) : Doing ExitStatus := do
  let some cs ← (match source with
    | .given cs => return some cs
    | .file path => do
      let w ← getThe World
      match w.files.read w.here path.toList with
      | .ok bytes => return some (Text.Utf8.mend bytes).toList
      | .error _ => return none
    | .input => do return some (Text.Utf8.mend (← readAll patience)).toList
    | .nothing _ => return some [] : Doing (Option (List Char)))
    | return .exited 2
  let some statements := script? cs | return .exited 1
  let name := match source with
    | .file path => [("__file__", ofString path)]
    | _ => []
  let vars : Attributes := [("__name__", ofString "__main__"), ("__doc__", .none)] ++ name
  let _ ← newObject (.scope vars none [] false [])
  let run (statements : Doing Unit) : Doing ExitStatus := do
    try
      statements
      return .exited 0
    catch h => ending h
  let status ← run (exec plenty .outermost statements)
  (← getThe World).farewells.forM fun (f, args) => do
    let _ ← run do
      let _ ← call plenty .outermost f args []
  saveFiles
  if (← getThe World).speaking then flushAll
  return status

/-- How a process behaves that runs a script. -/
def behave (files : Files) (vars : Table String) (here : List Char) (args : List String) :
    Behaviour := fun i =>
  let r := requestOf false false args
  match r.source with
  | .nothing status => [.exit (.exited status)]
  | source =>
    let world : World := {
      files, here, vars, args := r.args
      heap := #[]
      current := [], coming := i.pieces, ended := i.ended
      clock := 0, acts := []
      pendingText := .none, pendingBytes := .none
      eager := r.eager || (vars.find? "PYTHONUNBUFFERED").any (· ≠ "")
      speaking := true, listening := true
      handlers := [], environment := none, farewells := [] }
    let (result, world) := ((script source).run world).run
    let last : List Act := match result with
      | .ok status | .error (.exited status) => [.exit status]
      | .error .blocked | .error .spent => []
      | .error _ => [.exit (.exited 1)]
    world.acts.reverse ++ last

end LanguageClient.Scripting
