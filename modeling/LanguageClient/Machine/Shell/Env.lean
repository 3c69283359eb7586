import LanguageClient.Machine.Process.Basic
import LanguageClient.Machine.Shell.Command
import LanguageClient.Machine.Shell.Format
import LanguageClient.Text.Utf8

/-!
# What a script has to do with

A script runs in a world that outlasts its parts: files, time, what comes in, and what has been
opened. Besides it has an environment, which parts of it may have to themselves. A script stops when
it is over, when it waits for input that has not come, or when it is left at some place.
-/

namespace LanguageClient.Shell

/-! ### Texts -/

/-- The bytes of a text. -/
def toBytes (cs : List Char) : List UInt8 := cs.map fun c => c.toNat.toUInt8

def ofBytes (bytes : List UInt8) : List Char := bytes.map fun b => Char.ofNat b.toNat

/-- A text of bytes for a text of characters. -/
def ofText (s : String) : List Char := ofBytes (Json.utf8 s)

/-- A text of characters for a text of bytes. -/
def toText (cs : List Char) : String := Text.Utf8.mend (toBytes cs)

/-- A path as files have it. -/
def toPath (cs : List Char) : List Char := (toText cs).toList

/-! ### The world -/

/-- Something that has been opened. -/
inductive Opened
  /-- What is left to read; more may come if it has not ended. -/
  | source (rest : List Char) (ended : Bool)
  /-- A file to write to. -/
  | target (path : String)
  /-- What is written is kept. -/
  | kept (text : List Char)

/-- Where a stream is joined. -/
inductive Stream
  | clientIn
  | clientOut
  /-- Nothing comes, and what goes is lost. -/
  | void
  /-- Something opened, by its place in the list of such things. -/
  | opened (i : Nat)

/-- What a command that nobody waits for does at some time. -/
inductive Errand
  | act (a : Act)
  | signal (target signal : Nat)

/-- A command that nobody waits for. -/
structure Aside where
  number : Nat
  /-- What it is still to do, and when. -/
  errands : List (Nat × Errand)
  /-- When it ends. -/
  finish : Nat
  status : Nat

structure World where
  files : Files
  /-- What is left of the piece that is being read. -/
  current : List Char
  coming : List (List Char)
  /-- Whether nothing more comes. -/
  ended : Bool
  /-- The time in milliseconds. -/
  clock : Nat
  /-- What has been done, the latest first. -/
  acts : List Act
  opened : Array Opened
  documents : Array Word
  asides : List Aside
  /-- Signals that are to be sent later: when, to whom and which. -/
  sent : List (Nat × Nat × Nat)
  /-- How many processes there have been. -/
  processes : Nat
  /-- Signals that have come and wait for their provision, with the processes they are for. -/
  pending : List (Nat × Nat)

/-! ### The environment -/

structure Variable where
  value : Option (List Char)
  /-- Whether other programs get to know it. -/
  exported : Bool
  fixed : Bool

/-- Switches of a script. -/
structure Switches where
  /-- It ends where a command fails. -/
  strict : Bool
  /-- It ends where a variable has no value. -/
  certain : Bool
  /-- Words are no patterns for files. -/
  literal : Bool
  /-- It is read but not run. -/
  idle : Bool

structure Env where
  world : World
  /-- The number of the process. -/
  number : Nat
  here : List Char
  vars : Table Variable
  name : List Char
  parameters : List (List Char)
  functions : Table Command
  switches : Switches
  streams : List (Nat × Stream)
  /-- Provisions for signals; the signal zero is the end. -/
  traps : List (Nat × List Char)
  /-- Signals that were of no effect from the beginning, which nothing changes. -/
  deaf : List Nat
  /-- The processes around, with their provisions. -/
  around : List (Nat × List (Nat × List Char))
  /-- The bits that are taken from the rights of new files. -/
  mask : Nat
  /-- Where the next option stands: the number of its word, and its place in that. -/
  option : Nat × Nat
  status : Nat
  /-- The number of the last command that nobody waits for. -/
  lastAside : Option Nat
  /-- Whether this is a part of a script by itself. -/
  inside : Bool
  /-- Whether nobody waits for it. -/
  detached : Bool
  /-- The status of the last command whose output stands in a word of the current one. -/
  captured : Option Nat
  /-- How many loops there are around. -/
  loops : Nat
  /-- For each function that is being run, the variables that it has to itself and what they were
  before. -/
  locals : List (List (String × Option Variable))

/-- Why a script goes no further at some place. -/
inductive Halt
  /-- So many loops are left. -/
  | leave (levels : Nat)
  /-- So many loops less one are left, and the last goes on. -/
  | again (levels : Nat)
  /-- A function is left. -/
  | giveBack
  /-- The script is over, with the status of the last command. -/
  | quit
  /-- A command of the script itself cannot be run as it is written. -/
  | fault
  | killed (target signal : Nat)
  /-- Input is waited for that has not come. -/
  | blocked
  | spent

abbrev Doing := ExceptT Halt (StateM Env)

/-- More rounds than any reading or waiting needs. -/
def patience : Nat := 100000

/-! ### Statuses -/

def setStatus (status : Nat) : Doing Unit := modify fun e => { e with status := status % 256 }

def succeedIf (good : Bool) : Doing Unit := setStatus (if good then 0 else 1)

/-- A fault, which ends the script unless it is seen to. -/
def fail {α : Type} : Doing α := do
  setStatus 2
  throw .fault

/-! ### Variables -/

/-- The value of a variable. -/
def Env.find? (e : Env) (name : String) : Option (List Char) := (e.vars.find? name).bind (·.value)

def Env.valueOf (e : Env) (name : String) : List Char := (e.find? name).getD []

/-- Give a variable a value, if it may have one. -/
def assign (name : String) (value : List Char) : Doing Unit := do
  let e ← get
  match e.vars.find? name with
  | some v =>
    if v.fixed then fail
    set { e with vars := e.vars.insert name { v with value := some value } }
  | none => set { e with vars := e.vars.insert name ⟨some value, false, false⟩ }

/-- Put back what a variable was. -/
def restore (vars : Table Variable) (before : String × Option Variable) : Table Variable :=
  match before.2 with
  | some v => vars.insert before.1 v
  | none => vars.erase before.1

/-- The variables that other programs get to know. -/
def Env.exported (e : Env) : Table String :=
  e.vars.filterMap fun (name, v) =>
    if v.exported then v.value.map fun value => (toText name.toList, toText value) else none

/-! ### Signals and time -/

/-- What a process that is at work has provided for signals. -/
def Env.provisions? (e : Env) (number : Nat) : Option (List (Nat × List Char)) :=
  if number = e.number && !e.inside then some e.traps else e.around.lookup number

/-- Signals that wait for the script. -/
def Env.pending (e : Env) : List Nat :=
  if e.inside then []
  else e.world.pending.filterMap fun (target, signal) =>
    if target = e.number then some signal else none

/-- A signal comes to a process that is at work. -/
def signalled (target signal : Nat) : Doing Unit := do
  let e ← get
  let provisions := (e.provisions? target).getD []
  let provision := if Signal.isCertain signal then none else provisions.lookup signal
  match provision with
  | some [] => return
  | some _ =>
    set { e with world := { e.world with pending := e.world.pending ++ [(target, signal)] } }
  | none =>
    match Signal.effect signal with
    | .nothing => return
    | .ends => throw (.killed target signal)
    | .halts =>
      modify fun e => { e with world := { e.world with acts := .pause forever :: e.world.acts } }
      throw .spent

def act (a : Act) : Doing Unit :=
  modify fun e => { e with world := { e.world with acts := a :: e.world.acts } }

/-- The clock goes on to a time. -/
def passTo (time : Nat) : Doing Unit := do
  let w := (← get).world
  if w.clock < time then
    act (.pause (time - w.clock))
    modify fun e => { e with world := { e.world with clock := time } }

/-- Do an errand when its time has come. -/
def errand (e : Nat × Errand) : Doing Unit := do
  passTo e.1
  match e.2 with
  | .act a => act a
  | .signal target signal =>
    if ((← get).provisions? target).isSome then signalled target signal

/-- What the commands that nobody waits for do up to a time. -/
def errandsTo (time : Nat) : Doing Unit := do
  let asides := (← get).world.asides
  let due := (asides.flatMap (·.errands)).filter (·.1 ≤ time)
  let left := asides.map fun a => { a with errands := a.errands.filter (time < ·.1) }
  modify fun e => { e with world := { e.world with asides := left } }
  (due.mergeSort fun a b => a.1 ≤ b.1).forM errand

/-- Time goes by. -/
def elapse (millis : Nat) : Doing Unit := do
  let time := (← get).world.clock + millis
  errandsTo time
  passTo time
  if horizon < time then throw .spent

/-- Time goes by up to some time, or until a signal waits for the script; whether all of it did. -/
def passUnlessSignalled (time : Nat) : Nat → Doing Bool
  | 0 => throw .spent
  | fuel + 1 => do
    let times := (← get).world.asides.flatMap fun a => a.errands.map (·.1)
    let next := (times.filter (· ≤ time)).foldl min time
    errandsTo next
    passTo next
    if !(← get).pending.isEmpty then return false
    else if next < time then passUnlessSignalled time fuel
    else return true

/-- The commands that nobody waits for come to their ends. -/
def settle : Doing Unit := do
  let w := (← get).world
  let times := w.asides.flatMap fun a => a.errands.map (·.1)
  errandsTo (times.foldl max w.clock)

/-! ### Streams -/

def stream? (number : Nat) : Doing (Option Stream) := return (← get).streams.lookup number

def setStream (number : Nat) (s : Option Stream) : Doing Unit :=
  modify fun e =>
    let others := e.streams.filter (·.1 ≠ number)
    { e with streams := match s with
      | some s => (number, s) :: others
      | none => others }

/-- Open something. -/
def openNew (o : Opened) : Doing Stream := do
  let i := (← get).world.opened.size
  modify fun e => { e with world := { e.world with opened := e.world.opened.push o } }
  return .opened i

def setOpened (i : Nat) (o : Opened) : Doing Unit :=
  modify fun e => { e with world := { e.world with opened := e.world.opened.set! i o } }

/-- Put an entry at a path, or take it away. -/
def placeEntry (path : String) (entry : Option Entry) : Doing Unit := do
  modify fun e =>
    let files := match entry with
      | some entry => e.world.files.insert path entry
      | none => e.world.files.erase path
    { e with world := { e.world with files } }
  act (.place path entry)

/-- Write to a stream; whether that is possible. -/
def writeTo (number : Nat) (cs : List Char) : Doing Bool := do
  match ← stream? number with
  | none => return false
  | some .void | some .clientIn => return true
  | some .clientOut =>
    unless cs.isEmpty do act (.write (toBytes cs))
    return true
  | some (.opened i) =>
    match (← get).world.opened[i]? with
    | some (.kept text) => setOpened i (.kept (text ++ cs))
    | some (.target path) =>
      let before := match (← get).world.files.find? path with
        | some (.file bytes) => bytes
        | _ => []
      unless cs.isEmpty do placeEntry path (some (.file (before ++ toBytes cs)))
    | _ => return false
    return true

/-- Write to the standard output, and succeed if that is possible. -/
def write (cs : List Char) : Doing Unit := do succeedIf (← writeTo 1 cs)

/-- The next piece of what comes in; nothing at its end. -/
def nextPiece : Doing (Option (List Char)) := do
  let w := (← get).world
  if !w.current.isEmpty then return some w.current
  settle
  match w.coming with
  | piece :: coming =>
    modify fun e => { e with world := { e.world with current := piece, coming } }
    return some piece
  | [] => if w.ended then return none else throw .blocked

/-- What can be read next from a stream; nothing at its end. -/
def peekFrom (number : Nat) : Doing (Option (List Char)) := do
  match ← stream? number with
  | some .clientIn => nextPiece
  | some (.opened i) =>
    match (← get).world.opened[i]? with
    | some (.source rest ended) =>
      if !rest.isEmpty then return some rest
      else if ended then return none
      else throw .blocked
    | _ => return none
  | _ => return none

/-- Take characters that can be read. -/
def dropFrom (number : Nat) (count : Nat) : Doing Unit := do
  match ← stream? number with
  | some .clientIn =>
    modify fun e => { e with world := { e.world with current := e.world.current.drop count } }
  | some (.opened i) =>
    match (← get).world.opened[i]? with
    | some (.source rest ended) => setOpened i (.source (rest.drop count) ended)
    | _ => return
  | _ => return

/-- Read up to some character, which is taken as well, and whether it was there. -/
def readUpTo (stop : Char) (number : Nat) : Nat → Doing (List Char × Bool)
  | 0 => throw .spent
  | fuel + 1 => do
    match ← peekFrom number with
    | none => return ([], false)
    | some piece =>
      let head := piece.takeWhile (· ≠ stop)
      if head.length < piece.length then
        dropFrom number (head.length + 1)
        return (head, true)
      else
        dropFrom number head.length
        let (more, found) ← readUpTo stop number fuel
        return (head ++ more, found)

def readLine (number : Nat) : Doing (List Char × Bool) := readUpTo '\n' number patience

/-- Read so many characters, or fewer at the end. -/
def readCount (number : Nat) : Nat → Nat → Doing (List Char)
  | 0, _ => throw .spent
  | _ + 1, 0 => return []
  | fuel + 1, count => do
    match ← peekFrom number with
    | none => return []
    | some piece =>
      let head := piece.take count
      dropFrom number head.length
      return head ++ (← readCount number fuel (count - head.length))

/-- Do something with each piece up to the end. -/
def forPieces (number : Nat) (f : List Char → Doing Unit) : Nat → Doing Unit
  | 0 => throw .spent
  | fuel + 1 => do
    match ← peekFrom number with
    | none => return
    | some piece =>
      dropFrom number piece.length
      f piece
      forPieces number f fuel

/-- Everything up to the end. -/
def readAll (number : Nat) : Nat → Doing (List Char)
  | 0 => throw .spent
  | fuel + 1 => do
    match ← peekFrom number with
    | none => return []
    | some piece =>
      dropFrom number piece.length
      return piece ++ (← readAll number fuel)

/-! ### Files -/

/-- Whether a path leads to the file that loses all. -/
def isVoid (path : List Char) : Bool := path = "/dev/null".toList

/-- The text of a file. -/
def readFile (path : List Char) : Doing (Option (List Char)) := do
  let e ← get
  match e.world.files.read e.here (toPath path) with
  | .ok bytes => return some (ofBytes bytes)
  | .error _ => return none

/-- Where a file would be written; nothing when there can be none. -/
def placeOf? (e : Env) (path : List Char) : Option String := do
  let cs := toPath path
  if Path.endsInSlash cs then none
  match e.world.files.resolve e.here cs with
  | .ok found => if e.world.files.isDirectory found then none else return String.ofList found
  | .error _ =>
    let name ← Path.name? cs
    let parent := (Path.parent? cs).getD []
    let parent := if parent.isEmpty then ['.'] else parent
    let .ok directory := e.world.files.resolve e.here parent | none
    if !e.world.files.isDirectory directory || Files.nameLimit < Files.size name then none
    else return String.ofList (directory ++ '/' :: name)

end LanguageClient.Shell
