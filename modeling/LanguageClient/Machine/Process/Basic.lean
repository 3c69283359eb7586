import LanguageClient.Files
import LanguageClient.Machine.Process.Signal

/-!
# Processes

A process does things in an order that hangs on what it reads. How it behaves is a function from
what it has been given to all that it does until it waits for more; more input only adds to that.
So a process part way through is its behaviour, what it has been given so far, and how much of what
it does is done.
-/

namespace LanguageClient

/-- Something that a process does. -/
inductive Act
  | write (bytes : List UInt8)
  | pause (millis : Nat)
  /-- Read nothing more, and stay. -/
  | stall
  | exit (status : ExitStatus)
  /-- Interrupt the host. -/
  | interrupt
  /-- Close the pipe to the client; what is written after that is lost. -/
  | silence
  /-- Close the pipe from the client. -/
  | deafen
  /-- Put something at a path, or nothing. -/
  | place (path : String) (entry : Option Entry)

/-- The same acts with one write for those that follow each other: a pipe keeps no bounds between
them. -/
def Act.joined : List Act → List Act
  | [] => []
  | .write bytes :: rest =>
    match joined rest with
    | .write more :: rest => .write (bytes ++ more) :: rest
    | rest => .write bytes :: rest
  | a :: rest => a :: joined rest

/-- What a process has been given to read, in the pieces in which it came. -/
structure Intake where
  pieces : List (List UInt8)
  /-- Whether nothing more comes. -/
  ended : Bool

namespace Intake

/-- Nothing, for now. -/
def start : Intake := ⟨[], false⟩

/-- Nothing at all. -/
def empty : Intake := ⟨[], true⟩

def add (i : Intake) (piece : List UInt8) : Intake := { i with pieces := i.pieces ++ [piece] }

end Intake

/-- What a process does, given what it has read, until it waits for more. -/
abbrev Behaviour := Intake → List Act

/-- A process part way through. -/
structure Process where
  behave : Behaviour
  given : Intake
  /-- How much of what it does is done. -/
  done : Nat
  /-- Whether it has yet to act on what it was given last. -/
  fresh : Bool

namespace Process

/-- A process that has just begun. -/
def start (behave : Behaviour) : Process := ⟨behave, .start, 0, true⟩

/-- What it does next, and the process after that. -/
def next (p : Process) : List Act × Process :=
  let acts := p.behave p.given
  (Act.joined (acts.drop p.done), { p with done := acts.length, fresh := false })

def read (p : Process) (piece : List UInt8) : Process :=
  { p with given := p.given.add piece, fresh := true }

/-- It learns that nothing more comes. -/
def finishReading (p : Process) : Process :=
  { p with given := { p.given with ended := true }, fresh := true }

end Process

/-- The number of the first process. -/
def processNumber : Nat := 4242

/-- The number of the host, which is the parent of the first process. -/
def hostNumber : Nat := 4200

/-- Longer than anyone waits, in milliseconds. -/
def forever : Nat := 1000000000000

/-- What a process would do later than this, in milliseconds, it is not asked to do. -/
def horizon : Nat := 600000

end LanguageClient
