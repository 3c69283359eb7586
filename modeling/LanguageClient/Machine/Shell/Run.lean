import LanguageClient.Machine.Scripting.Run
import LanguageClient.Machine.Shell.Pattern
import LanguageClient.Machine.Shell.Reader
import LanguageClient.Machine.Shell.Tools

/-!
# Running shell scripts

A command is run in an environment, which it changes; a part of a script by itself changes only the
world. Loops are bounded by fuel.
-/

namespace LanguageClient.Shell

/-! ### Words -/

/-- A character of a word that is being made, or something about the place where it stands. -/
inductive Mark
  /-- A character; `loose` if it may part words, coming from a value. -/
  | char (c : Char) (quoted loose : Bool)
  /-- Words are parted here. -/
  | parting
  /-- Something is quoted, perhaps nothing. -/
  | quote
  /-- There would be words here, but there are none. -/
  | vanished

/-- The marks of a text. -/
def marksOf (quoted : Bool) (cs : List Char) : List Mark :=
  cs.map fun c => .char c quoted (!quoted)

/-- The characters of marks, and whether each is quoted. -/
def charsOf (ms : List Mark) : List (Char × Bool) := ms.filterMap fun
  | .char c quoted _ => some (c, quoted)
  | _ => none

def textOf (ms : List Mark) : List Char := (charsOf ms).map (·.1)

/-- Words that are being made out of marks. -/
structure Fields where
  done : List (List (Char × Bool))
  /-- The characters of the current word, the latest first. -/
  current : List (Char × Bool)
  /-- Whether there is a current word. -/
  begun : Bool
  /-- Whether blanks have just ended a word. -/
  spaced : Bool

namespace Fields

def finish (f : Fields) : Fields :=
  if f.begun then ⟨f.done ++ [f.current.reverse], [], false, false⟩ else f

/-- One more mark; `breaks` are the characters that part words. -/
def add (breaks : List Char) (f : Fields) : Mark → Fields
  | .parting => f.finish
  | .quote => { f with begun := true, spaced := false }
  | .vanished => f
  | .char c quoted loose =>
    if loose && c ∈ breaks then
      if c.isWhitespace then
        if f.begun then { f.finish with spaced := true } else f
      else if f.begun then f.finish
      else if f.spaced then { f with spaced := false }
      else { f with done := f.done ++ [[]] }
    else { f with current := (c, quoted) :: f.current, begun := true, spaced := false }

end Fields

/-- The words that marks come to. -/
def fieldsOf (breaks : List Char) (ms : List Mark) : List (List (Char × Bool)) :=
  let isVanished := ms.any fun
    | .vanished => true
    | _ => false
  if isVanished && (charsOf ms).isEmpty then []
  else (ms.foldl (Fields.add breaks) ⟨[], [], false, false⟩).finish.done

/-- The characters that part words. -/
def Env.breaks (e : Env) : List Char := (e.find? "IFS").getD [' ', '\t', '\n']

/-- The paths that fit a pattern, given as its components, seen from a path. -/
def pathsOf (e : Env) (shown : List Char) :
    List (List (Char × Bool)) → List (List Char)
  | [] => [shown]
  | component :: rest =>
    let join (name : List Char) : List Char :=
      if shown.isEmpty then name else Path.push shown name
    let plain := component.map (·.1)
    if !(Pattern.ofText component).isOpen then
      let slash := if shown.isEmpty || Path.endsInSlash shown then [] else ['/']
      pathsOf e (if rest.isEmpty then shown ++ slash ++ plain else join plain) rest
    else
      let here := if shown.isEmpty then ['.'] else toPath shown
      match e.world.files.resolve e.here here with
      | .ok directory =>
        let names := (e.world.files.list directory).map fun n => ofText (String.ofList n)
        let fit := names.filter fun n =>
          (Pattern.ofText component).matches? n && (n.head? ≠ some '.' || plain.head? = some '.')
        fit.flatMap fun n => pathsOf e (join n) rest
      | .error _ => []

/-- The components of a pattern. -/
def componentsOf (cs : List (Char × Bool)) : List (List (Char × Bool)) :=
  cs.foldr (fun c parts =>
    match parts with
    | p :: ps => if c.1 = '/' then [] :: p :: ps else (c :: p) :: ps
    | [] => [[c]]) [[]]

/-- The words that a word stands for as a pattern of files; itself when there are none. -/
def globbed (e : Env) (cs : List (Char × Bool)) : List (List Char) :=
  let plain := cs.map (·.1)
  if e.switches.literal || !(Pattern.ofText cs).isOpen then [plain]
  else
    let found := match componentsOf cs with
      | [] :: rest => pathsOf e ['/'] rest
      | parts => pathsOf e [] parts
    let there := found.filter fun p => e.world.files.exists? e.here (toPath p)
    if there.isEmpty then [plain]
    else (there.map String.ofList |>.mergeSort (· ≤ ·)).map String.toList

/-! ### Parameters -/

/-- The value of a parameter. -/
def Env.parameter? (e : Env) (name : String) : Option (List Char) :=
  match name with
  | "$" => some (numeralOf e.number)
  | "?" => some (numeralOf e.status)
  | "#" => some (numeralOf e.parameters.length)
  | "!" => e.lastAside.map fun n => numeralOf n
  | "-" =>
    some ((if e.switches.strict then ['e'] else []) ++ (if e.switches.literal then ['f'] else []) ++
      (if e.switches.certain then ['u'] else []))
  | "@" | "*" => if e.parameters.isEmpty then none else some (List.intercalate [' '] e.parameters)
  | name =>
    match natural? name.toList with
    | some 0 => some e.name
    | some (n + 1) => e.parameters[n]?
    | none => e.find? name

/-- The arguments of a script, as marks. -/
def Env.arguments (e : Env) (quoted : Bool) (name : String) : List Mark :=
  if quoted && name = "*" then
    let between := match e.find? "IFS" with
      | some (c :: _) => [c]
      | some [] => []
      | none => [' ']
    marksOf true (List.intercalate between e.parameters)
  else if e.parameters.isEmpty then [.vanished]
  else
    let one (cs : List Char) : List Mark := (if quoted then [.quote] else []) ++ marksOf quoted cs
    List.intercalate [.parting] (e.parameters.map one)

/-- Marks of a word that stands in place of a value. -/
def loosened (quoted : Bool) (ms : List Mark) : List Mark :=
  if quoted then ms
  else ms.map fun
    | .char c false _ => .char c false true
    | m => m

/-! ### Parts by themselves -/

/-- Run something whose changes to the environment do not last; only the world stays changed. -/
def apart {α : Type} (a : Doing α) : Doing α := do
  let before ← get
  set { before with
    inside := true, traps := before.traps.filter (·.2.isEmpty)
    around :=
      if before.inside then before.around else (before.number, before.traps) :: before.around }
  let back : Doing Unit := modify fun e => { before with world := e.world, status := e.status }
  try
    let found ← a
    back
    return found
  catch h =>
    back
    throw h

/-- A part of a script that is over does not end the others. -/
def contained (a : Doing Unit) : Doing Unit := do
  try a catch
    | .quit | .fault | .giveBack | .leave _ | .again _ => pure ()
    | h => throw h

/-- A fault that does not end the script. -/
def seeTo (a : Doing Unit) : Doing Unit := do
  try a catch
    | .fault => setStatus 2
    | h => throw h

/-- Run something with other streams. -/
def withStreams {α : Type} (change : Doing Unit) (a : Doing α) : Doing α := do
  let before := (← get).streams
  let back : Doing Unit := modify fun e => { e with streams := before }
  try
    change
    let found ← a
    back
    return found
  catch h =>
    back
    throw h

/-- What a part of a script writes. -/
def capture (a : Doing Unit) : Doing (List Char) := do
  let s ← openNew (.kept [])
  apart (withStreams (setStream 1 (some s)) a)
  modify fun e => { e with captured := some e.status }
  match s with
  | .opened i =>
    match (← get).world.opened[i]? with
    | some (.kept text) =>
      return ((text.filter (· ≠ '\x00')).reverse.dropWhile (· = '\n')).reverse
    | _ => return []
  | _ => return []

/-- The time and what is done then, of things done one after another. -/
def timed (now : Nat) : List Act → List (Nat × Errand)
  | [] => []
  | .pause millis :: rest => timed (now + millis) rest
  | a :: rest => (now, .act a) :: timed now rest

/-- Run something that nobody waits for. -/
def leaveAside (a : Doing Unit) : Doing Unit := do
  let before ← get
  let number := processNumber + before.world.processes + 1
  let world := { before.world with acts := [], sent := [], asides := [] }
  set { before with world, detached := true }
  let lasting ← try
      apart (withStreams (setStream 0 (some .void)) a)
      pure false
    catch
      | .killed _ signal => do
        setStatus (128 + signal)
        pure false
      | _ => pure true
  let e ← get
  let errands := timed before.world.clock e.world.acts.reverse ++
    e.world.sent.map fun (time, target, signal) => (time, .signal target signal)
  let aside : Aside := ⟨number, errands, if lasting then forever else e.world.clock, e.status⟩
  set { before with
    world := { e.world with
      acts := before.world.acts, sent := before.world.sent, clock := before.world.clock
      asides := before.world.asides ++ [aside], processes := before.world.processes + 1 }
    lastAside := some number, status := 0 }

/-- Wait up to some time; the status is a given one, unless a signal comes before that time. -/
def waitUntil (time status : Nat) : Doing Unit := do
  let undisturbed ← passUnlessSignalled time patience
  let e ← get
  setStatus (if undisturbed || time ≤ e.world.clock then status else 128 + e.pending.headD 0)

/-- Wait for a command that nobody waited for until now. -/
def waitFor (number : Nat) : Doing Unit := do
  match (← get).world.asides.find? (·.number = number) with
  | some a => waitUntil a.finish a.status
  | none => setStatus 127

/-- Wait for all of them. -/
def waitForAll : Doing Unit := do
  let w := (← get).world
  waitUntil ((w.asides.map (·.finish)).foldl max w.clock) 0

/-! ### Other programs -/

/-- How words of the input become arguments. -/
structure Supply where
  command : Args
  /-- How many there are at a time. -/
  most : Option Nat
  /-- What a line takes the place of, in the arguments. -/
  mark : Option (List Char)
  /-- Whether nothing is run without words. -/
  needed : Bool
  /-- Whether words are between null characters. -/
  null : Bool

/-- What the words of the command ask for. -/
def argumentsFor : Args → Supply
  | ['-', 'n'] :: n :: rest => { argumentsFor rest with most := natural? n }
  | ['-', 'L'] :: _ :: rest => { argumentsFor rest with most := some 1 }
  | ['-', 'I'] :: mark :: rest => { argumentsFor rest with mark := some mark }
  | ['-', 'r'] :: rest => { argumentsFor rest with needed := true }
  | ['-', '0'] :: rest => { argumentsFor rest with null := true }
  | ['-', 't'] :: rest => argumentsFor rest
  | ('-' :: 'n' :: n) :: rest => { argumentsFor rest with most := natural? n }
  | ('-' :: 'I' :: mark) :: rest => { argumentsFor rest with mark := some mark }
  | [] => ⟨["echo".toList], none, none, false, false⟩
  | command => ⟨command, none, none, false, false⟩

/-- Words of a text, where quotes and backslashes keep blanks. -/
def quotedWords : Nat → Option Char → Option (List Char) → List Char → Args
  | 0, _, word, _ => word.toList
  | _, _, word, [] => word.toList
  | fuel + 1, some q, word, c :: rest =>
    if c = q then quotedWords fuel none (some (word.getD [])) rest
    else quotedWords fuel (some q) (some (word.getD [] ++ [c])) rest
  | fuel + 1, none, word, c :: rest =>
    if c.isWhitespace then word.toList ++ quotedWords fuel none none rest
    else if c = '"' || c = '\'' then quotedWords fuel (some c) (some (word.getD [])) rest
    else match c, rest with
      | '\\', d :: rest => quotedWords fuel none (some (word.getD [] ++ [d])) rest
      | c, rest => quotedWords fuel none (some (word.getD [] ++ [c])) rest

/-- A text with another in the place of a mark. -/
def replacing (mark text : List Char) : Nat → List Char → List Char
  | 0, cs => cs
  | _, [] => []
  | fuel + 1, c :: rest =>
    if !mark.isEmpty && mark.isPrefixOf (c :: rest) then
      text ++ replacing mark text fuel ((c :: rest).drop mark.length)
    else c :: replacing mark text fuel rest

/-- Rows of so many items. -/
def inRows (most : Nat) : Nat → Args → List Args
  | 0, _ | _, [] => []
  | fuel + 1, words => words.take most :: inRows most fuel (words.drop most)

/-- The commands that are run for a text. -/
def Supply.calls (s : Supply) (text : List Char) : List Args :=
  match s.mark with
  | some mark =>
    let lines := (bareLines text).map (·.dropWhile fun c => c = ' ' || c = '\t')
    (lines.filter (!·.isEmpty)).map fun line =>
      s.command.map fun w => replacing mark line (w.length + 1) w
  | none =>
    let words :=
      if s.null then (Text.splitOn '\x00' text).filter (!·.isEmpty)
      else quotedWords (text.length + 1) none none text
    if words.isEmpty && (s.needed || s.most.isSome) then []
    else match s.most with
      | some n => (inRows (max 1 n) words.length words).map (s.command ++ ·)
      | none => [s.command ++ words]

/-- A program that behaves by itself, joined to the streams of a command; `replacing` if it takes
the place of the script, whose end is its own then. -/
def perform (replacing : Bool) (behave : Behaviour) : Doing Unit := do
  let w := (← get).world
  let intake : Intake ← match ← stream? 0 with
    | some .clientIn =>
      let pieces := (if w.current.isEmpty then [] else [w.current]) ++ w.coming
      pure ⟨pieces.map toBytes, w.ended⟩
    | some (.opened i) =>
      match w.opened[i]? with
      | some (.source rest ended) => pure ⟨[toBytes rest], ended⟩
      | _ => pure .empty
    | _ => pure .empty
  let mut status : Option ExitStatus := none
  for a in behave intake do
    match a with
    | .write bytes => let _ ← writeTo 1 (ofBytes bytes)
    | .pause millis => elapse millis
    | .place path entry => placeEntry path entry
    | .exit s => status := some s
    | a => act a
  match status with
  | some (.killed signal) =>
    if replacing then throw (.killed (← get).number signal) else setStatus (128 + signal)
  | some s => setStatus s.code
  | none => throw .blocked

/-! ### Commands that change the environment -/

/-- Commands that a script does itself and whose faults end it. -/
def specialNames : List String := reservedNames

/-- Commands that a script does itself. -/
def ownNames : List String := [
  "[", "alias", "bg", "cd", "command", "echo", "false", "fg", "getopts", "hash", "jobs", "kill",
  "local", "printf", "pwd", "read", "test", "true", "type", "ulimit", "umask", "unalias", "wait"]

/-- The name and the value of a word that is an assignment. -/
def assignmentOf (cs : List Char) : List Char × Option (List Char) :=
  let name := cs.takeWhile (· ≠ '=')
  match cs.drop name.length with
  | _ :: value => (name, some value)
  | [] => (name, none)

/-- Mark variables. -/
def declare (mark : Variable → Variable) (args : Args) : Doing Unit := do
  for a in args do
    let (name, value) := assignmentOf a
    unless isName name do fail
    let name := nameOf name
    if let some value := value then assign name value
    modify fun e =>
      let v := (e.vars.find? name).getD ⟨none, false, false⟩
      { e with vars := e.vars.insert name (mark v) }
  setStatus 0

def unset (args : Args) : Doing Unit := do
  let (letters, names) := options args
  for name in names do
    let name := nameOf name
    let e ← get
    if 'f' ∈ letters then set { e with functions := e.functions.erase name }
    else
      if ((e.vars.find? name).map (·.fixed)).getD false then fail
      set { e with vars := e.vars.erase name }
  setStatus 0

/-- Variables that a function has to itself. -/
def localVariables (args : Args) : Doing Unit := do
  for a in args do
    let (name, value) := assignmentOf a
    let name := nameOf name
    let e ← get
    match e.locals with
    | [] => do
      setStatus 2
      throw .quit
    | own :: outer =>
      unless own.any (·.1 = name) do
        set { e with locals := ((name, e.vars.find? name) :: own) :: outer }
      if let some value := value then assign name value
  setStatus 0

/-- Set a switch by its letter. -/
def Switches.set (s : Switches) (on : Bool) : Char → Switches
  | 'e' => { s with strict := on }
  | 'u' => { s with certain := on }
  | 'f' => { s with literal := on }
  | 'n' => { s with idle := on }
  | _ => s

/-- Letters of switches. -/
def switchLetters : List Char := "efuvxmnbCIaVE".toList

/-- Letters of switches by their names. -/
def switchNames : List (String × Char) := [
  ("errexit", 'e'), ("nounset", 'u'), ("noglob", 'f'), ("verbose", 'v'), ("xtrace", 'x'),
  ("noexec", 'n'), ("monitor", 'm'), ("noclobber", 'C'), ("allexport", 'a'), ("ignoreeof", 'I'),
  ("notify", 'b'), ("interactive", 'i'), ("stdin", 's'), ("nolog", 'l'), ("debug", 'd')]

/-- Set switches, then parameters if there are more words. -/
def setSwitches : Nat → Args → Doing Unit
  | 0, _ | _, [] => return
  | fuel + 1, a :: rest => do
    let change (on : Bool) (letters : List Char) : Doing Unit :=
      letters.forM fun c => do
        unless c ∈ switchLetters do fail
        modify fun e => { e with switches := e.switches.set on c }
    let byName (on : Bool) (rest : Args) : Doing Unit := do
      match rest with
      | name :: rest =>
        match switchNames.lookup (nameOf name) with
        | some c =>
          modify fun e => { e with switches := e.switches.set on c }
          setSwitches fuel rest
        | none => fail
      | [] => return
    match a with
    | ['-', '-'] => modify fun e => { e with parameters := rest }
    | ['-', 'o'] => byName true rest
    | ['+', 'o'] => byName false rest
    | '-' :: c :: letters =>
      change true (c :: letters)
      setSwitches fuel rest
    | '+' :: c :: letters =>
      change false (c :: letters)
      setSwitches fuel rest
    | _ => modify fun e => { e with parameters := a :: rest }

/-- Make provision for signals. -/
def setTraps (args : Args) : Doing Unit := do
  let number? (cs : List Char) : Option Nat :=
    if cs = "EXIT".toList then some 0 else signal? cs
  let args := if args.head? = some ['-', '-'] then args.tail else args
  setStatus 0
  if args.isEmpty then
    let nameOf (n : Nat) : List Char := (((0, "EXIT") :: Signal.names).lookup n).getD "" |>.toList
    let quoted (cs : List Char) : List Char :=
      ['\''] ++ cs.flatMap (fun c => if c = '\'' then "'\"'\"'".toList else [c]) ++ ['\'']
    let known := (← get).traps.mergeSort fun a b => a.1 ≤ b.1
    let _ ← writeTo 1 (known.flatMap fun (n, cs) =>
      "trap -- ".toList ++ quoted cs ++ [' '] ++ nameOf n ++ ['\n'])
  let (provision, names) : Option (List Char) × Args := match args with
    | [] => (none, [])
    | [a] => (none, [a])
    | a :: rest =>
      if a = ['-'] then (none, rest)
      else if (natural? a).isSome then (none, a :: rest)
      else (some a, rest)
  for name in names do
    match number? name with
    | some n =>
      unless n ∈ (← get).deaf do modify fun e =>
        let others := e.traps.filter (·.1 ≠ n)
        { e with traps := match provision with
          | some p => (n, p) :: others
          | none => others }
    | none =>
      setStatus 1
      return

def changeDirectory (args : Args) : Doing Unit := do
  let e ← get
  let args := args.filter fun a => a ≠ ['-', 'L'] && a ≠ ['-', 'P'] && a ≠ ['-', '-']
  let path := match args with
    | [] => e.valueOf "HOME"
    | a :: _ => if a = ['-'] then e.valueOf "OLDPWD" else a
  match e.world.files.resolve e.here (toPath path) with
  | .ok found =>
    if e.world.files.isDirectory found then
      let here := if found.isEmpty then ['/'] else found
      set { e with here }
      assign "OLDPWD" (ofText (String.ofList e.here))
      assign "PWD" (ofText (String.ofList here))
      if args.head? = some ['-'] then write (lineOf (ofText (String.ofList here)))
      setStatus 0
    else setStatus 2
  | .error _ => setStatus 2

/-- A line that is read, with what backslashes take away; `raw` if they do not. -/
def readLogical (raw : Bool) : Nat → Doing (List Mark × Bool)
  | 0 => throw .spent
  | fuel + 1 => do
    let (line, found) ← readLine 0
    let line := line.filter (· ≠ '\x00')
    if raw then return (line.map fun c => .char c false true, found)
    let rec plain : List Char → List Mark × Bool
      | [] => ([], false)
      | '\\' :: [] => ([], true)
      | '\\' :: c :: rest =>
        let (more, goesOn) := plain rest
        (.char c true false :: more, goesOn)
      | c :: rest =>
        let (more, goesOn) := plain rest
        (.char c false true :: more, goesOn)
    let (ms, goesOn) := plain line
    if goesOn && found then
      let (more, found) ← readLogical raw fuel
      return (ms ++ more, found)
    else return (ms, found)

/-- Take a word off the front of marks. -/
def firstField (breaks : List Char) : Nat → List Mark → List Char × List Mark
  | 0, ms => ([], ms)
  | _, [] => ([], [])
  | fuel + 1, m :: rest =>
    match m with
    | .char c _ loose =>
      if loose && c ∈ breaks then
        let isSpace : Mark → Bool
          | .char c _ loose => loose && c ∈ breaks && c.isWhitespace
          | _ => false
        if c.isWhitespace then
          match rest.dropWhile isSpace with
          | .char d q loose :: more =>
            if loose && d ∈ breaks then ([], more.dropWhile isSpace)
            else ([], .char d q loose :: more)
          | more => ([], more)
        else ([], rest.dropWhile isSpace)
      else
        let (word, more) := firstField breaks fuel rest
        (c :: word, more)
    | _ => firstField breaks fuel rest

/-- Give variables the words of marks, the last all that is left. -/
def distribute (breaks : List Char) (ms : List Mark) : Args → Doing Unit
  | [] => return
  | [name] => do
    let isSpace : Mark → Bool
      | .char c _ loose => loose && c ∈ breaks && c.isWhitespace
      | _ => false
    let trimmed := (ms.reverse.dropWhile isSpace).reverse
    let (word, rest) := firstField breaks (trimmed.length + 1) trimmed
    assign (nameOf name) (if rest.isEmpty then word else textOf trimmed)
  | name :: names => do
    let (word, rest) := firstField breaks (ms.length + 1) ms
    assign (nameOf name) word
    distribute breaks rest names

def read (args : Args) : Doing Unit := do
  let (letters, names) := match args with
    | ['-', 'p'] :: _ :: ['-', 'r'] :: rest | ['-', 'r'] :: ['-', 'p'] :: _ :: rest => (['r'], rest)
    | ['-', 'r'] :: rest => (['r'], rest)
    | ['-', 'p'] :: _ :: rest => ([], rest)
    | args => options args
  unless letters.all (· = 'r') && !names.isEmpty && names.all isName do fail
  let (ms, found) ← readLogical ('r' ∈ letters) patience
  let breaks := (← get).breaks
  let isSpace : Mark → Bool
    | .char c _ loose => loose && c ∈ breaks && c.isWhitespace
    | _ => false
  distribute breaks (ms.dropWhile isSpace) names
  succeedIf found

/-- Say what commands are; whether all of them are something. -/
def describe (long : Bool) (args : Args) : Doing Unit := do
  let mut good := true
  for a in args do
    let e ← get
    let name := nameOf a
    let kind : Option (List Char) :=
      if name ∈ reserved then some " is a shell keyword".toList
      else if (e.functions.find? name).isSome then some " is a shell function".toList
      else if name ∈ specialNames then some " is a special shell builtin".toList
      else if name ∈ ownNames then some " is a shell builtin".toList
      else none
    let path : Option String := do
      let program ← Programs.find? e.world.files (toText (e.valueOf "PATH")) (e.here) (toText a)
      return Programs.pathOf program
    match kind, path with
    | some kind, _ => write (lineOf (if long then a ++ kind else a))
    | none, some path =>
      write (lineOf (if long then a ++ " is ".toList ++ path.toList else path.toList))
    | none, none =>
      if long then write (lineOf (a ++ ": not found".toList))
      good := false
  setStatus (if good then 0 else 127)

/-- Leave so many loops. -/
def leaveLoops (halt : Nat → Halt) (args : Args) : Doing Unit := do
  let n := match args with
    | a :: _ => (natural? a).getD 0
    | [] => 1
  if n = 0 then fail
  let loops := (← get).loops
  setStatus 0
  if loops ≠ 0 then throw (halt (min n loops))

/-- The status that a word says. -/
def statusOf (args : Args) : Doing Unit := do
  match args with
  | [] => return
  | a :: _ =>
    match natural? a with
    | some n => setStatus n
    | none => fail

/-- The pipes of a script that it has let go of are closed. -/
def letGo : Doing Unit := do
  let e ← get
  unless e.inside do
    let isOut : Stream → Bool
      | .clientOut => true
      | _ => false
    let isIn : Stream → Bool
      | .clientIn => true
      | _ => false
    unless e.streams.any (isOut ·.2) do act .silence
    unless e.streams.any (isIn ·.2) do act .deafen

def umask (args : Args) : Doing Unit := do
  let digit (n : Nat) : Char := Char.ofNat ('0'.toNat + n % 8)
  let mask := (← get).mask
  match args with
  | [] => write (lineOf ['0', digit (mask / 64), digit (mask / 8), digit mask])
  | [['-', 'S']] =>
    let rights (n : Nat) : List Char :=
      (if n / 4 % 2 = 0 then ['r'] else []) ++ (if n / 2 % 2 = 0 then ['w'] else []) ++
        (if n % 2 = 0 then ['x'] else [])
    write (lineOf ("u=".toList ++ rights (mask / 64) ++ ",g=".toList ++ rights (mask / 8) ++
      ",o=".toList ++ rights mask))
  | a :: _ =>
    match (if a.isEmpty then none else Text.readBase 8 0 a) with
    | some n =>
      if n < 0x200 then modify fun e => { e with mask := n } else fail
      setStatus 0
    | none => if a.all (·.isDigit) then fail else setStatus 0

/-- Take the next option off some words, which are the arguments unless others are given. Where it
stands is kept as the number of the word and the letter in it. -/
def getopts (args : Args) : Doing Unit := do
  match args with
  | allowed :: target :: given =>
    let e ← get
    let given := if given.isEmpty then e.parameters else given
    let (silent, allowed) := match allowed with
      | ':' :: rest => (true, rest)
      | allowed => (false, allowed)
    let index := max 1 ((natural? (e.valueOf "OPTIND")).getD 1)
    let place := if e.option.1 = index then e.option.2 else 1
    let finish (index place : Nat) (found : List Char) (value : Option (List Char)) :
        Doing Unit := do
      modify fun e => { e with option := (index, place) }
      assign "OPTIND" (numeralOf index)
      match value with
      | some cs => assign "OPTARG" cs
      | none => modify fun e => { e with vars := e.vars.erase "OPTARG" }
      assign (nameOf target) found
    let atEnd (index : Nat) : Doing Unit := do
      finish index 1 ['?'] none
      setStatus 1
    match given[index - 1]? with
    | none => atEnd index
    | some word =>
      if word = ['-', '-'] then atEnd (index + 1)
      else if word.head? ≠ some '-' || word.length < 2 then atEnd index
      else
        let c := word.getD place ' '
        let isLast := word.length ≤ place + 1
        let (nextIndex, nextPlace) := if isLast then (index + 1, 1) else (index, place + 1)
        let after := (allowed.dropWhile (· ≠ c)).drop 1
        if c = ':' || c ∉ allowed then
          finish nextIndex nextPlace ['?'] (if silent then some [c] else none)
        else if after.head? ≠ some ':' then finish nextIndex nextPlace [c] (some [])
        else if !isLast then finish (index + 1) 1 [c] (some (word.drop (place + 1)))
        else match given[index]? with
          | some value => finish (index + 2) 1 [c] (some value)
          | none =>
            if silent then finish (index + 1) 1 [':'] (some [c])
            else finish (index + 1) 1 ['?'] none
        setStatus 0
  | _ => fail

/-- Commands that a script does itself and that run no others. -/
def own? (name : String) : Option (Args → Doing Unit) :=
  match name with
  | ":" => some fun _ => setStatus 0
  | "break" => some (leaveLoops .leave)
  | "continue" => some (leaveLoops .again)
  | "exit" => some fun args => do
    statusOf args
    throw .quit
  | "return" => some fun args => do
    statusOf args
    throw .giveBack
  | "export" => some (declare fun v => { v with exported := true })
  | "readonly" => some (declare fun v => { v with fixed := true })
  | "unset" => some unset
  | "set" => some fun args => do
    setSwitches (args.length + 1) args
    setStatus 0
  | "shift" => some fun args => do
    let n := match args with
      | a :: _ => natural? a
      | [] => some 1
    let some n := n | fail
    let e ← get
    if e.parameters.length < n then fail
    set { e with parameters := e.parameters.drop n, status := 0 }
  | "trap" => some setTraps
  | "times" => some fun _ =>
    let line := lineOf "0m0.00s 0m0.00s".toList
    write (line ++ line)
  | "local" => some localVariables
  | "cd" => some changeDirectory
  | "read" => some read
  | "type" => some (describe true)
  | "umask" => some umask
  | "getopts" => some getopts
  | "wait" => some fun args => do
    match args with
    | [] => waitForAll
    | args =>
      for a in args do
        match a with
        | '%' :: n =>
          match (← get).world.asides[(natural? n).getD 1 - 1]? with
          | some aside => waitFor aside.number
          | none => setStatus 127
        | a => match natural? a with
          | some n => waitFor n
          | none => setStatus 2
  | "alias" | "hash" | "jobs" | "ulimit" | "unalias" => some fun _ => setStatus 0
  | "bg" | "fg" => some fun _ => setStatus 2
  | name => if name ∈ ownNames then tool? name else none

/-! ### Running -/

/-- The environment of a script that begins. -/
def Env.begin (world : World) (number parent : Nat) (around : List (Nat × List (Nat × List Char)))
    (deaf : List Nat) (streams : List (Nat × Stream)) (here : List Char) (vars : Table String) :
    Env where
  world := world
  number := number
  here := here
  vars :=
    let given : Table Variable := vars.map fun (name, value) =>
      (name, ⟨some (ofText value), true, false⟩)
    let own : Table Variable := [
      ("IFS", ⟨some [' ', '\t', '\n'], false, false⟩), ("OPTIND", ⟨some ['1'], false, false⟩),
      ("PPID", ⟨some (numeralOf parent), false, false⟩),
      ("PWD", ⟨some (ofText (String.ofList here)), true, false⟩)]
    own.foldl (fun vars (name, v) => vars.insert name v) given
  name := "sh".toList
  parameters := []
  functions := []
  switches := ⟨false, false, false, false⟩
  streams := streams
  traps := deaf.map fun signal => (signal, [])
  deaf := deaf
  around := around
  mask := 0o022
  option := (1, 1)
  status := 0
  lastAside := none
  inside := false
  detached := false
  captured := none
  loops := 0
  locals := []

/-- A script as it is asked for: its text, or else the input or the file that it is in. -/
structure Request where
  text : Option (List Char)
  inFile : Bool
  name : List Char
  parameters : Args
  switches : Switches

/-- What the arguments of a shell ask for; nothing when they make no sense. The letters are those
that have been given. -/
def request? (s : Switches) (letters : List Char) : Nat → Args → Option Request
  | 0, _ => none
  | fuel + 1, args =>
    let operands (args : Args) : Option Request :=
      if 'c' ∈ letters then
        match args with
        | [] => none
        | [text] => some ⟨some text, false, "sh".toList, [], s⟩
        | text :: name :: args => some ⟨some text, false, name, args, s⟩
      else if 's' ∈ letters then some ⟨none, false, "sh".toList, args, s⟩
      else match args with
        | [] => some ⟨none, false, "sh".toList, [], s⟩
        | name :: args => some ⟨none, true, name, args, s⟩
    match args with
    | [] => operands []
    | a :: rest =>
      match a with
      | ['-'] | ['-', '-'] => operands rest
      | ['-', 'o'] | ['+', 'o'] =>
        match rest with
        | name :: rest => do
          let c ← switchNames.lookup (nameOf name)
          request? (s.set (a.head? = some '-') c) letters fuel rest
        | [] => none
      | '-' :: more =>
        if more.all fun c => c ∈ switchLetters || c ∈ ['c', 's', 'i', 'l', 'p', 'h'] then
          request? (more.foldl (fun s c => s.set true c) s) (letters ++ more) fuel rest
        else none
      | '+' :: more =>
        if more.all (· ∈ switchLetters) then
          request? (more.foldl (fun s c => s.set false c) s) letters fuel rest
        else none
      | _ => operands (a :: rest)

mutual

/-- The marks of a word. -/
def expand : Nat → Word → Doing (List Mark)
  | 0, _ => throw .spent
  | _, [] => return []
  | fuel + 1, p :: rest => do
    let ms ← expandPiece fuel p
    return ms ++ (← expand fuel rest)

/-- The text of a word. -/
def text : Nat → Word → Doing (List Char)
  | 0, _ => throw .spent
  | fuel + 1, w => return textOf (← expand fuel w)

/-- The words that words come to. -/
def fields : Nat → List Word → Doing Args
  | 0, _ => throw .spent
  | _, [] => return []
  | fuel + 1, w :: rest => do
    let ms ← expand fuel w
    let e ← get
    let found := (fieldsOf e.breaks ms).flatMap (globbed e)
    return found ++ (← fields fuel rest)

def expandPiece : Nat → Piece → Doing (List Mark)
  | 0, _ => throw .spent
  | fuel + 1, p => do
    match p with
    | .text quoted cs =>
      let ms := cs.map fun c => Mark.char c quoted false
      return if quoted then .quote :: ms else ms
    | .home =>
      match (← get).find? "HOME" with
      | some cs => return cs.map fun c => .char c true false
      | none => return [.char '~' true false]
    | .output quoted body =>
      let cs ← capture (wholly fuel (run fuel false body))
      return marksOf quoted cs
    | .sum quoted w =>
      let cs ← text fuel w
      let some s := Sum.parse cs | fail
      let look (name : String) : Doing Int := do
        match (← get).parameter? name with
        | none => if (← get).switches.certain then fail else return 0
        | some cs =>
          let cs := Sum.dropBlanks cs
          let (negative, digits) := match cs with
            | '-' :: rest => (true, rest)
            | '+' :: rest => (false, rest)
            | cs => (false, cs)
          match Sum.number? digits with
          | some (n, rest) =>
            if (Sum.dropBlanks rest).isEmpty then return if negative then -n else n else fail
          | none => if cs.isEmpty then return 0 else fail
      let n ← s.value look (fun name n => assign name (numeralOf n)) fail
      return marksOf quoted (numeralOf n)
    | .value quoted name use =>
      let e ← get
      let found := e.parameter? name
      let isSet (strict : Bool) : Bool := match found with
        | some cs => !(strict && cs.isEmpty)
        | none => false
      let needed : Doing (List Char) := match found with
        | some cs => return cs
        | none => if e.switches.certain && name ∉ ["@", "*"] then fail else return []
      let plain : Doing (List Mark) :=
        if name = "@" || name = "*" then return e.arguments quoted name
        else return marksOf quoted (← needed)
      match use with
      | .plain => plain
      | .size =>
        let size ← if name = "@" || name = "*" then pure e.parameters.length
          else List.length <$> needed
        return marksOf quoted (numeralOf size)
      | .orElse strict w =>
        if isSet strict then plain else return loosened quoted (← expand fuel w)
      | .orSet strict w =>
        if isSet strict then plain
        else
          let cs ← text fuel w
          unless isName name.toList do fail
          assign name cs
          return marksOf quoted cs
      | .orFail strict => if isSet strict then plain else fail
      | .andThen strict w =>
        if isSet strict then return loosened quoted (← expand fuel w) else return []
      | .cutFront longest w =>
        let cs ← needed
        let p := Pattern.ofText (charsOf (← expand fuel w))
        return marksOf quoted (p.cutFront longest cs)
      | .cutBack longest w =>
        let cs ← needed
        let p := Pattern.ofText (charsOf (← expand fuel w))
        return marksOf quoted (p.cutBack longest cs)

/-- Join a stream anew; whether that is possible. -/
def redirect : Nat → Redirection → Doing Bool
  | 0, _ => throw .spent
  | fuel + 1, .document n index => do
    let cs ← text fuel ((← get).world.documents[index]?.getD [])
    setStream n (some (← openNew (.source cs true)))
    return true
  | fuel + 1, .stream n way w => do
    let target ← text fuel w
    let e ← get
    let same (m : Nat) : Doing Bool := do
      match ← stream? m with
      | some s =>
        setStream n (some s)
        return true
      | none => return false
    let numbered : List (String × Nat) :=
      [("/dev/stdin", 0), ("/dev/stdout", 1), ("/dev/stderr", 2)]
    match way with
    | .duplicate =>
      if target = ['-'] then
        setStream n none
        return true
      else match natural? target with
        | some m => same m
        | none => fail
    | way =>
      if isVoid target then
        setStream n (some .void)
        return true
      else if let some m := numbered.lookup (nameOf target) then same m
      else if way = .input then
        match e.world.files.read e.here (toPath target) with
        | .ok bytes =>
          setStream n (some (← openNew (.source (ofBytes bytes) true)))
          return true
        | .error .directory =>
          setStream n (some (← openNew (.source [] true)))
          return true
        | .error _ => return false
      else match placeOf? e target with
        | some path =>
          let there := e.world.files.isFile path.toList
          unless way = .append && there do placeEntry path (some (.file []))
          setStream n (some (← openNew (.target path)))
          return true
        | none => return false

/-- Join streams anew, up to the first that cannot be. -/
def redirectAll : Nat → List Redirection → Doing Bool
  | 0, _ => throw .spent
  | _, [] => return true
  | fuel + 1, r :: rest => do
    if ← redirect fuel r then redirectAll fuel rest else return false

/-- Give variables their values. -/
def assignAll : Nat → List (String × Word) → Doing Unit
  | 0, _ => throw .spent
  | _, [] => return
  | fuel + 1, (name, w) :: rest => do
    assign name (← text fuel w)
    assignAll fuel rest

/-- Run something with values for variables that do not last. -/
def withValues : Nat → List (String × Word) → Doing Unit → Doing Unit
  | 0, _, _ => throw .spent
  | fuel + 1, assignments, a => do
    let before := assignments.map fun (name, _) => name
    let old := (← get).vars
    assignAll fuel assignments
    modify fun e => { e with
      vars := before.foldl (fun vars name =>
        match vars.find? name with
        | some v => vars.insert name { v with exported := true }
        | none => vars) e.vars }
    let back : Doing Unit := modify fun e => { e with
      vars := before.foldl (fun vars name => restore vars (name, old.find? name)) e.vars }
    try
      a
      back
    catch h =>
      back
      throw h

/-- A command that has got its words. -/
def dispatch : Nat → Bool → List (String × Word) → List Char → Args → Doing Unit
  | 0, _, _, _, _ => throw .spent
  | fuel + 1, tested, assignments, name, args => do
    let e ← get
    let key := nameOf name
    if key ∈ specialNames then
      assignAll fuel assignments
      special fuel tested key args
    else if let some body := e.functions.find? key then
      withValues fuel assignments (call fuel tested body args)
    else if key ∈ ownNames then
      withValues fuel assignments (ownCommand fuel tested key args)
    else withValues fuel assignments (apart (external fuel false name args))

/-- A command that a script does itself and whose faults end it. -/
def special : Nat → Bool → String → Args → Doing Unit
  | 0, _, _, _ => throw .spent
  | fuel + 1, tested, key, args => do
    match key with
    | "eval" =>
      let cs := List.intercalate [' '] args
      let before := (← get).status
      setStatus 0
      modify fun e => { e with status := if cs.all (·.isWhitespace) then 0 else before }
      runText fuel tested cs
    | "exec" =>
      match args with
      | [] =>
        letGo
        setStatus 0
      | name :: args =>
        letGo
        apart (external fuel true name args)
        modify fun e => { e with traps := [] }
        throw .quit
    | "." =>
      match args with
      | [] => setStatus 0
      | path :: _ =>
        unless '/' ∈ path do fail
        match ← readFile path with
        | some cs => runText fuel tested cs
        | none => fail
    | key =>
      match own? key with
      | some f => f args
      | none => setStatus 127

/-- A command that a script does itself; its faults do not end it. -/
def ownCommand : Nat → Bool → String → Args → Doing Unit
  | 0, _, _, _ => throw .spent
  | fuel + 1, tested, key, args => do
    match key, args with
    | "command", ['-', 'v'] :: names => describe false names
    | "command", ['-', 'V'] :: names => describe true names
    | "command", ['-', 'p'] :: name :: args | "command", name :: args =>
      if nameOf name ∈ specialNames then seeTo (special fuel tested (nameOf name) args)
      else if nameOf name ∈ ownNames then ownCommand fuel tested (nameOf name) args
      else apart (external fuel false name args)
    | "command", [] => setStatus 0
    | key, args =>
      match own? key with
      | some f => seeTo (f args)
      | none => setStatus 127

/-- A function with arguments. -/
def call : Nat → Bool → Command → Args → Doing Unit
  | 0, _, _, _ => throw .spent
  | fuel + 1, tested, body, args => do
    let before ← get
    set { before with parameters := args, loops := 0, locals := [] :: before.locals }
    let back : Doing Unit := modify fun e =>
      let own := e.locals.head?.getD []
      { e with
        parameters := before.parameters, loops := before.loops, locals := before.locals
        vars := own.foldl restore e.vars }
    try
      run fuel tested body
      back
    catch
      | .giveBack => back
      | h => do
        back
        throw h

/-- Another program; `replacing` if it takes the place of the script. -/
def external : Nat → Bool → List Char → Args → Doing Unit
  | 0, _, _, _ => throw .spent
  | fuel + 1, replacing, name, args => do
    let e ← get
    let files := e.world.files
    match Programs.find? files (toText (e.valueOf "PATH")) e.here (toText name) with
    | none =>
      let there := '/' ∈ name && files.exists? e.here (toPath name)
      setStatus (if there then 126 else 127)
    | some program =>
      match program, args with
      | "sh", args | "dash", args | "bash", args =>
        let deaf := (e.traps.filter (·.2.isEmpty)).map (·.1)
        let vars := e.exported
        if replacing then
          let parent := ((e.find? "PPID").bind natural?).getD 0
          let around := e.around.filter (·.1 ≠ e.number)
          set (Env.begin e.world e.number parent around deaf e.streams e.here vars)
          main fuel args
        else
          let number := processNumber + e.world.processes + 1
          let world := { e.world with processes := e.world.processes + 1 }
          set (Env.begin world number e.number e.around deaf e.streams e.here vars)
          modify fun b => { b with detached := e.detached }
          try main fuel args catch
            | .killed target signal =>
              if target = number then setStatus (128 + signal) else throw (.killed target signal)
            | h => throw h
      | "python3", args =>
        perform replacing (Scripting.behave files e.exported e.here (args.map toText))
      | "env", args => environment fuel replacing args
      | "nohup", name :: args | "setsid", name :: args => external fuel replacing name args
      | "timeout", args => limited fuel 15 args
      | "nice", ['-', 'n'] :: _ :: name :: args | "stdbuf", ('-' :: _) :: name :: args |
        "nice", name :: args => external fuel replacing name args
      | "xargs", args => supplied fuel args
      | program, args =>
        match tool? program with
        | some f => f args
        | none => setStatus 125

/-- Another program with other variables. -/
def environment : Nat → Bool → Args → Doing Unit
  | 0, _, _ => throw .spent
  | _, _, [] => printenv []
  | fuel + 1, replacing, a :: rest => do
    let without (name : List Char) : Doing Unit :=
      modify fun e => { e with vars := e.vars.erase (nameOf name) }
    match a, rest with
    | ['-'], rest | ['-', 'i'], rest =>
      let usual : Variable := ⟨some "/bin:/usr/bin".toList, false, false⟩
      modify fun e => { e with vars := [("PATH", usual)] }
      environment fuel replacing rest
    | ['-', 'u'], name :: rest =>
      without name
      environment fuel replacing rest
    | '-' :: 'u' :: name, rest =>
      without name
      environment fuel replacing rest
    | '-' :: _, _ => setStatus 125
    | a, rest =>
      if '=' ∈ a then
        let (name, value) := assignmentOf a
        modify fun e => { e with vars := e.vars.insert (nameOf name) ⟨value, true, false⟩ }
        environment fuel replacing rest
      else external fuel replacing a rest

/-- Another program with words of the input as its arguments, again and again if it takes a number
of them at a time. -/
def supplied : Nat → Args → Doing Unit
  | 0, _ => throw .spent
  | fuel + 1, args => do
    let given := argumentsFor args
    let text ← readAll 0 patience
    let calls := given.calls text
    setStatus 0
    suppliedEach fuel calls

def suppliedEach : Nat → List Args → Doing Unit
  | 0, _ => throw .spent
  | _, [] => return
  | fuel + 1, call :: rest => do
    let before := (← get).status
    apart (withStreams (setStream 0 (some .void)) (external fuel false (call.headD []) call.tail))
    let status := (← get).status
    if status = 127 || status = 126 then return
    setStatus (if status ≠ 0 then 123 else before)
    suppliedEach fuel rest

/-- Another program that is stopped after some time. -/
def limited : Nat → Nat → Args → Doing Unit
  | 0, _, _ => throw .spent
  | fuel + 1, signal, args => do
    match args with
    | ['-', 's'] :: name :: rest =>
      match signal? name with
      | some signal => limited fuel signal rest
      | none => setStatus 125
    | ['-', 'k'] :: _ :: rest => limited fuel signal rest
    | duration :: name :: rest =>
      match millis? duration with
      | none => setStatus 125
      | some limit =>
        let before ← get
        let deadline := before.world.clock + limit
        modify fun e => { e with world := { e.world with acts := [] } }
        let stays ← try
            external fuel false name rest
            pure false
          catch
            | .blocked | .spent => pure true
            | h => throw h
        let e ← get
        let late := stays || deadline < e.world.clock
        if late && limit ≠ 0 then
          let done := (timed before.world.clock e.world.acts.reverse).filter (·.1 ≤ deadline)
          let world := { e.world with acts := before.world.acts, clock := before.world.clock }
          set { e with world := world }
          done.forM errand
          passTo deadline
          setStatus (if signal = 9 then 137 else 124)
        else set { e with world := { e.world with acts := e.world.acts ++ before.world.acts } }
    | _ => setStatus 125

/-- Run a command; `tested` if something hangs on whether it succeeds. -/
def run : Nat → Bool → Command → Doing Unit
  | 0, _, _ => throw .spent
  | fuel + 1, tested, c => do
    if (← get).switches.idle then return
    let checked : Doing Unit := do
      takeSignals fuel
      let e ← get
      if e.switches.strict && !tested && e.status ≠ 0 then throw .quit
    match c with
    | .nothing => setStatus 0
    | .simple assignments words rs =>
      modify fun e => { e with captured := none }
      match ← fields fuel words with
      | [] =>
        let good ← withStreams (pure ()) (redirectAll fuel rs)
        assignAll fuel assignments
        let captured := (← get).captured
        setStatus (if good then captured.getD 0 else 2)
      | name :: args =>
        let key := nameOf name
        if key = "exec" then
          if ← redirectAll fuel rs then dispatch fuel tested assignments name args else fail
        else
          let before := (← get).streams
          let back : Doing Unit := modify fun e => { e with streams := before }
          let good ← try redirectAll fuel rs catch h => do
            back
            throw h
          if !good then
            back
            if key ∈ specialNames then fail else setStatus 2
          else
            try
              dispatch fuel tested assignments name args
              back
            catch h =>
              back
              throw h
      checked
    | .pipeline parts =>
      pipe fuel tested parts none
      checked
    | .sequence a b =>
      run fuel tested a
      run fuel tested b
    | .both a b =>
      run fuel true a
      if (← get).status = 0 then run fuel tested b
    | .either a b =>
      run fuel true a
      if (← get).status ≠ 0 then run fuel tested b
    | .invert a =>
      run fuel true a
      succeedIf ((← get).status ≠ 0)
    | .aside a => leaveAside (wholly fuel (run fuel tested a))
    | .redirected a rs =>
      let before := (← get).streams
      let back : Doing Unit := modify fun e => { e with streams := before }
      try
        if ← redirectAll fuel rs then run fuel tested a else setStatus 2
        back
      catch h =>
        back
        throw h
    | .apart a =>
      apart (wholly fuel (run fuel tested a))
      checked
    | .condition test yes no =>
      run fuel true test
      if (← get).status = 0 then run fuel tested yes
      else match no with
        | .nothing => setStatus 0
        | no => run fuel tested no
    | .loop whileFailing test body =>
      modify fun e => { e with loops := e.loops + 1 }
      let back : Doing Unit := modify fun e => { e with loops := e.loops - 1 }
      try
        repeated fuel tested whileFailing test body 0
        back
      catch h =>
        back
        throw h
    | .each name words body =>
      let values ← match words with
        | some words => fields fuel words
        | none => pure (← get).parameters
      setStatus 0
      modify fun e => { e with loops := e.loops + 1 }
      let back : Doing Unit := modify fun e => { e with loops := e.loops - 1 }
      try
        forEach fuel tested name body values
        back
      catch h =>
        back
        throw h
    | .select subject arms =>
      let cs ← text fuel subject
      choose fuel tested cs arms
    | .define name body =>
      modify fun e => { e with functions := e.functions.insert name body, status := 0 }

/-- Run the commands of a pipeline, the first of which reads from something. -/
def pipe : Nat → Bool → List Command → Option Stream → Doing Unit
  | 0, _, _, _ => throw .spent
  | _, _, [], _ => return
  | fuel + 1, tested, part :: rest, source => do
    let join : Doing Unit := if let some s := source then setStream 0 (some s) else pure ()
    if rest.isEmpty then
      apart (withStreams join (wholly fuel (run fuel tested part)))
    else
      let s ← openNew (.kept [])
      let join : Doing Unit := do
        join
        setStream 1 (some s)
      let waiting ← try
          apart (withStreams join (wholly fuel (run fuel tested part)))
          pure none
        catch
          | .killed target signal => throw (.killed target signal)
          | h => pure (some h)
      let i := match s with
        | .opened i => i
        | _ => 0
      let kept : List Char := match (← get).world.opened[i]? with
        | some (Opened.kept cs) => cs
        | _ => []
      let next ← openNew (.source kept waiting.isNone)
      pipe fuel tested rest (some next)
      if let some .blocked := waiting then throw .blocked

/-- Run a body again and again; what it left last is the status. -/
def repeated : Nat → Bool → Bool → Command → Command → Nat → Doing Unit
  | 0, _, _, _, _, _ => throw .spent
  | fuel + 1, tested, whileFailing, test, body, status => do
    let goesOn ← try
        run fuel true test
        if ((← get).status = 0) = whileFailing then
          setStatus status
          pure false
        else
          run fuel tested body
          pure true
      catch
        | .leave 1 => pure false
        | .again 1 => pure true
        | .leave (n + 1) => throw (.leave n)
        | .again (n + 1) => throw (.again n)
        | h => throw h
    if goesOn then repeated fuel tested whileFailing test body (← get).status

/-- Run a body for each of some words. -/
def forEach : Nat → Bool → String → Command → Args → Doing Unit
  | 0, _, _, _, _ => throw .spent
  | _, _, _, _, [] => return
  | fuel + 1, tested, name, body, value :: rest => do
    assign name value
    let goesOn ← try
        run fuel tested body
        pure true
      catch
        | .leave 1 => pure false
        | .again 1 => pure true
        | .leave (n + 1) => throw (.leave n)
        | .again (n + 1) => throw (.again n)
        | h => throw h
    if goesOn then forEach fuel tested name body rest

/-- Run the first arm with a pattern that fits. -/
def choose : Nat → Bool → List Char → List (List Word × Command) → Doing Unit
  | 0, _, _, _ => throw .spent
  | _, _, _, [] => setStatus 0
  | fuel + 1, tested, cs, (ps, body) :: rest => do
    if ← fits fuel cs ps then run fuel tested body else choose fuel tested cs rest

/-- Whether a text fits one of some patterns. -/
def fits : Nat → List Char → List Word → Doing Bool
  | 0, _, _ => throw .spent
  | _, _, [] => return false
  | fuel + 1, cs, p :: rest => do
    let p := Pattern.ofText (charsOf (← expand fuel p))
    if p.matches? cs then return true else fits fuel cs rest

/-- Do what is provided for signals that have come. -/
def takeSignals : Nat → Doing Unit
  | 0 => throw .spent
  | fuel + 1 => do
    let e ← get
    match e.pending with
    | [] => return
    | signal :: _ =>
      let pending := e.world.pending.erase (e.number, signal)
      set { e with world := { e.world with pending } }
      if let some cs := e.traps.lookup signal then
        runText fuel false cs
        setStatus e.status
      takeSignals fuel

/-- Do what is provided for the end. -/
def atEnd : Nat → Doing Unit
  | 0 => throw .spent
  | fuel + 1 => do
    let e ← get
    if let some cs := e.traps.lookup 0 then
      set { e with traps := e.traps.filter (·.1 ≠ 0) }
      runText fuel false cs
      setStatus e.status

/-- Run a text line by line. -/
def runText : Nat → Bool → List Char → Doing Unit
  | 0, _, _ => throw .spent
  | fuel + 1, tested, cs => do runLines fuel tested ⟨cs, [], (← get).world.documents⟩

/-- Run the lines from a place on. -/
def runLines : Nat → Bool → Cursor → Doing Unit
  | 0, _, _ => throw .spent
  | fuel + 1, tested, cursor => do
    match line.run { cursor with documents := (← get).world.documents } with
    | none => fail
    | some (none, _) => return
    | some (some c, cursor) =>
      modify fun e => { e with world := { e.world with documents := cursor.documents } }
      run fuel tested c
      runLines fuel tested cursor

/-- A shell with arguments, up to its end. -/
def main : Nat → Args → Doing Unit
  | 0, _ => throw .spent
  | fuel + 1, args => do
    match request? ⟨false, false, false, false⟩ [] (args.length + 1) args with
    | none => setStatus 2
    | some r =>
      modify fun e => { e with name := r.name, parameters := r.parameters, switches := r.switches }
      let cs ← match r.text with
        | some cs => pure (some cs)
        | none => if r.inFile then readFile r.name else some <$> readAll 0 patience
      match cs with
      | none => setStatus 2
      | some cs =>
        wholly fuel (runText fuel false cs)

/-- Run a script or a part of one by itself, with what is provided for its end. -/
def wholly : Nat → Doing Unit → Doing Unit
  | 0, _ => throw .spent
  | fuel + 1, a => do
    contained a
    contained (atEnd fuel)

end

/-! ### Behaviour -/

/-- More fuel than any script needs that comes to an end. -/
def plenty : Nat := 20000

/-- The world of a process that begins. -/
def World.begin (files : Files) (i : Intake) : World where
  files := files
  current := []
  coming := i.pieces.map ofBytes
  ended := i.ended
  clock := 0
  acts := []
  opened := #[]
  documents := #[]
  asides := []
  sent := []
  processes := 0
  pending := []

/-- How a process behaves that is such a command. -/
def behaveAs (files : Files) (vars : Table String) (here : List Char) (a : Doing Unit) :
    Behaviour := fun i =>
  let streams := [(0, Stream.clientIn), (1, Stream.clientOut), (2, Stream.void)]
  let start := Env.begin (.begin files i) processNumber hostNumber [] [] streams here vars
  let (result, e) := (a.run start).run
  let last : List Act := match result with
    | .ok () | .error .quit | .error .fault | .error .giveBack | .error (.leave _) |
      .error (.again _) =>
      [.exit (.exited e.status)]
    | .error (.killed _ signal) => [.exit (.killed signal)]
    | .error .blocked | .error .spent => []
  e.world.acts.reverse ++ last

/-- How a program behaves, seen from outside. -/
def behave (files : Files) (vars : Table String) (here : List Char) (program : String)
    (args : List String) : Behaviour :=
  behaveAs files vars here <|
    match program with
    | "sh" | "dash" | "bash" => main plenty (args.map ofText)
    | program => external plenty true (Programs.pathOf program).toList (args.map ofText)

end LanguageClient.Shell
