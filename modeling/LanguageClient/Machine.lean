import LanguageClient.Environment
import LanguageClient.Rehearsal.Basic
import LanguageClient.Machine.Shell.Run

/-!
# Machines

A machine to rehearse on: files, variables and a few programs. Launching a command finds its program
and makes a server of it, which talks over the standard streams; none of the programs connects to a
port.

What the programs do is told by the modules below this one: a shell with its tools, and a scripting
language. They stand in for what a session meets when its server is a script. Nothing that is
shown of sessions rests on them, as a server may send anything there at any time.
-/

namespace LanguageClient

structure Machine where
  files : Files
  /-- The current directory. -/
  here : List Char
  vars : Table String

namespace Machine

/-- What a process may know of the machine's variables. -/
def inherited (m : Machine) : Table String :=
  m.vars.filter fun v => !Environment.isSecret v.1

/-- The directory that a process starts in: the workspace, if there is one. -/
def startDirectory (m : Machine) (root : String) : List Char :=
  match m.files.resolve m.here root.toList with
  | .ok found =>
    if m.files.isDirectory found then (if found.isEmpty then ['/'] else found) else m.here
  | .error _ => m.here

/-- How many bytes a pipe takes. -/
def pipeCapacity : Nat := 65536

/-- How long a program takes to come up, in milliseconds. -/
def startup (program : String) : Nat := if program = "python3" then 40 else 2

/-- The port that stands for any free one. -/
def freePort : Nat := 49152

/-- When a process ends that has nothing to read, and how; nothing when it does not end. -/
def lifetime : Nat → List Act → Option (Nat × ExitStatus)
  | _, [] => none
  | now, .pause millis :: rest => lifetime (now + millis) rest
  | now, .exit status :: _ => some (now, status)
  | now, _ :: rest => lifetime now rest

/-- What comes of waiting for a process to connect that only does so much. -/
def awaitConnection (handshake port : Nat) (acts : List Act) : Launching :=
  let late : Launching :=
    ⟨handshake, .error ("server did not connect to port " ++ Nat.repr port ++ " in time")⟩
  match lifetime 0 acts with
  | none => late
  | some (time, status) =>
    if handshake ≤ time then late
    else ⟨time, .error ("server exited with " ++ status.text ++ " before connecting")⟩

/-- Launch a command among the files that there are now. -/
def launch (m : Machine) (options : Options) (files : Files) (c : ServerCommand) : Launching :=
  let m := { m with files }
  let here := m.startDirectory options.root
  match Programs.find? files ((m.vars.find? "PATH").getD "") m.here c.command with
  | none => ⟨0, .error (c.command ++ " not found in PATH: cannot find binary path")⟩
  | some program =>
    if c.args.any (·.toList.contains '\x00') then
      ⟨0, .error ("spawning " ++ c.command ++ ": nul byte found in provided data")⟩
    else
      let boot := Act.pause (startup program)
      let behave := Shell.behave files m.inherited here program
      match c.transport with
      | .stdio => ⟨0, .ok (.fresh pipeCapacity false (.process (.start (behave c.args))) [boot])⟩
      | .socket port =>
        let port := if port = 0 then freePort else port.toNat
        let args := c.args ++ [socketArgument ++ Nat.repr port]
        awaitConnection options.handshake.millis port (boot :: behave args .empty)

theorem delay_awaitConnection_le (handshake port : Nat) (acts : List Act) :
    (awaitConnection handshake port acts).delay ≤ handshake := by
  simp only [awaitConnection]
  split
  · exact Nat.le_refl _
  · split
    · exact Nat.le_refl _
    · exact Nat.le_of_lt (Nat.lt_of_not_le ‹_›)

/-- A launcher has an answer by the time that a server has for the handshake. -/
theorem delay_launch_le (m : Machine) (options : Options) (files : Files)
    (c : ServerCommand) : (m.launch options files c).delay ≤ options.handshake.millis := by
  simp only [Machine.launch]
  split
  · exact Nat.zero_le _
  · split
    · exact Nat.zero_le _
    · split
      · exact Nat.zero_le _
      · exact delay_awaitConnection_le _ _ _

/-- A rehearsal on a machine. -/
def rehearsal (m : Machine) (setup : Setup) : Rehearsal :=
  .make setup ⟨[], m.files⟩ (m.launch setup.options)

end Machine

end LanguageClient
