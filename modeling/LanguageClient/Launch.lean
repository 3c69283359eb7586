import LanguageClient.Json.Decode
import LanguageClient.Text.Blank

/-!
# Launch configuration

What a user writes about launching the server, and the checked form of it: a command that is not
blank and a transport, for running and perhaps another for debugging.
-/

namespace LanguageClient

/-- What is wrong with a configuration. -/
inductive ConfigurationError
  | missingCommand
  | missingTransport
  | portWithoutSocket (port : UInt16)
  | invalidPattern (pattern reason : String)
  deriving DecidableEq, Repr

def ConfigurationError.message : ConfigurationError → String
  | .missingCommand => "launch configuration is missing the server command"
  | .missingTransport => "launch configuration is missing the transport kind"
  | .portWithoutSocket port =>
    "port " ++ Nat.repr port.toNat ++ " is only valid with the socket transport"
  | .invalidPattern pattern reason =>
    "invalid document pattern '" ++ pattern ++ "': " ++ reason

/-- The argument that tells a server where to connect, up to the port. -/
def socketArgument : String := "--socket="

/-- A transport as users name it. -/
inductive TransportName
  | stdio
  | socket
  deriving DecidableEq, Repr

def TransportName.text : TransportName → String
  | .stdio => "stdio"
  | .socket => "socket"

def TransportName.decode : Json.Decode TransportName :=
  Json.Decode.choice [("stdio", .stdio), ("socket", .socket)]

/-- How messages travel; port zero stands for any free one. -/
inductive Transport
  | stdio
  | socket (port : UInt16)
  deriving DecidableEq, Repr

def Transport.text : Transport → String
  | .stdio => "stdio"
  | .socket port => "socket:" ++ Nat.repr port.toNat

/-- A way to obtain a server. -/
structure ServerCommand where
  command : String
  args : List String
  transport : Transport
  deriving DecidableEq, Repr

/-- Refuses a blank command. -/
def ServerCommand.make (command : String) (args : List String) (transport : Transport) :
    Except ConfigurationError ServerCommand :=
  if Text.isAllBlank command.toList then .error .missingCommand
  else .ok ⟨command, args, transport⟩

/-- Which of the two commands to use. -/
inductive LaunchMode
  | run
  | debug
  deriving DecidableEq, Repr, Inhabited

def LaunchMode.text : LaunchMode → String
  | .run => "run"
  | .debug => "debug"

def LaunchMode.decode : Json.Decode LaunchMode :=
  Json.Decode.choice [("run", .run), ("debug", .debug)]

/-! ### Restarts -/

/-- What to do when a running server is lost. -/
inductive RestartPolicy
  | never
  /-- Start again, this many times in the life of a session. -/
  | onFailure (maxRestarts : UInt32)
  deriving DecidableEq, Repr, Inhabited

namespace RestartPolicy

def defaultMaxRestarts : UInt32 := 3

/-- Whether the restart of this number, counted from one, is allowed. -/
def allows : RestartPolicy → UInt32 → Bool
  | .never, _ => false
  | .onFailure maxRestarts, attempt => attempt ≤ maxRestarts

/-- The policies by name, before what belongs to them is read. -/
def named : List (String × Bool) := [("never", false), ("on-failure", true)]

/-- The policy that a name stands for, and whether it takes a count. -/
def decodeName : Json.Decode Bool
  | .str name => Json.Decode.choose named name
  | j => Json.unfit j "variant identifier"

/-- A policy is an object, or an array, that names it first of all. -/
def decode : Json.Decode RestartPolicy
  | .obj fields => do
    match Table.find? "policy" fields with
    | none => throw (.missingField "policy")
    | some name =>
      if ← decodeName name then
        match Table.find? "max_restarts" fields with
        | none => return .onFailure defaultMaxRestarts
        | some count => return .onFailure (← Json.Decode.word32 count)
      else return .never
  | .arr [] => .error (.missingField "policy")
  | .arr (name :: rest) => do
    if ← decodeName name then
      match rest with
      | [] => return .onFailure defaultMaxRestarts
      | count :: more =>
        let maxRestarts ← Json.Decode.word32 count
        if more.isEmpty then return .onFailure maxRestarts
        else throw (.invalidLength rest.length "1 element in sequence")
    else if rest.isEmpty then return .never
    else throw (.invalidLength rest.length "0 elements in sequence")
  | j => Json.unfit j "internally tagged enum RestartPolicy"

end RestartPolicy

/-! ### The configuration -/

/-- Launch configuration as it is written. -/
structure RawLaunch where
  command : Option String
  args : List String
  transport : Option TransportName
  port : Option UInt16
  debugCommand : Option String
  debugArgs : Option (List String)
  deriving DecidableEq, Repr

namespace RawLaunch

def empty : RawLaunch := ⟨none, [], none, none, none, none⟩

/-- The stock server over standard input and output, in both modes. -/
def stock : RawLaunch := ⟨some "tekton-ls", [], some .stdio, none, some "tekton-ls", none⟩

open Json.Decode in
def shape : Shape RawLaunch where
  name := "struct RawLaunchConfig"
  fields := [
    ⟨["command"], .optional, fun r j => return { r with command := ← option string j }⟩,
    ⟨["args"], .defaulted, fun r j => return { r with args := ← list string j }⟩,
    ⟨["transport"], .optional,
      fun r j => return { r with transport := ← option TransportName.decode j }⟩,
    ⟨["port"], .optional, fun r j => return { r with port := ← option word16 j }⟩,
    ⟨["debug_command", "debugCommand"], .optional,
      fun r j => return { r with debugCommand := ← option string j }⟩,
    ⟨["debug_args", "debugArgs"], .optional,
      fun r j => return { r with debugArgs := ← option (list string) j }⟩]

def decode : Json.Decode RawLaunch := shape.read empty

end RawLaunch

/-- Launch configuration that has been checked. -/
structure Launch where
  run : ServerCommand
  debug : Option ServerCommand
  deriving DecidableEq, Repr

namespace Launch

/-- The command of a mode; debugging falls back on running. -/
def commandFor (launch : Launch) : LaunchMode → ServerCommand
  | .run => launch.run
  | .debug => launch.debug.getD launch.run

/-- The transport that the names and the port give. -/
def transportOf : Option TransportName → Option UInt16 → Except ConfigurationError Transport
  | none, _ => .error .missingTransport
  | some .stdio, none => .ok .stdio
  | some .stdio, some port => .error (.portWithoutSocket port)
  | some .socket, port => .ok (.socket (port.getD 0))

/-- Check a configuration as it is written. -/
def ofRaw (raw : RawLaunch) : Except ConfigurationError Launch := do
  let some command := raw.command | throw .missingCommand
  let transport ← transportOf raw.transport raw.port
  let run ← ServerCommand.make command raw.args transport
  match raw.debugCommand with
  | none => return ⟨run, none⟩
  | some debugCommand =>
    let debug ← ServerCommand.make debugCommand (raw.debugArgs.getD raw.args) transport
    return ⟨run, some debug⟩

end Launch

end LanguageClient
