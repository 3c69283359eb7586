import LanguageClient.Rehearsal.Script

/-!
# Servers

A server at the other end of two pipes of bounded size. It does what is on its agenda, in order, and
when nothing is, it looks for more to do: by reading a frame and acting on it, or as a process that
reads as much as there is.
-/

namespace LanguageClient

/-- What a server does when its agenda is empty. -/
inductive Habit
  /-- Act on frames by the script. -/
  | scripted
  | process (p : Process)
  | idle

/-- What all servers have in common. -/
structure Scenery where
  script : Script
  files : Files

/-- A server and the pipes that join it with the client. -/
structure Server where
  /-- How many bytes each pipe takes. -/
  capacity : Nat
  /-- Whether there is no process that could be waited for or killed. -/
  detached : Bool
  habit : Habit
  agenda : List Act
  /-- It does nothing before this time. -/
  resume : Nat
  /-- The bytes in the pipe to the server. -/
  input : List UInt8
  /-- Whether it still reads from that pipe. -/
  listening : Bool
  /-- What it has read and not decoded. -/
  unread : List UInt8
  decoder : Frame.Decoder
  /-- What it is about to put into the pipe to the client. -/
  output : List UInt8
  /-- The bytes in that pipe. -/
  stream : List UInt8
  /-- Whether that pipe is open at this end. -/
  speaking : Bool
  status : Option ExitStatus
  /-- What the client has read and not decoded. -/
  arrived : List UInt8
  clientDecoder : Frame.Decoder

/-- What a step of a server shows. -/
inductive Deed
  | heard (frame : Json)
  | drained (count : Nat)
  /-- The pipe from the client is closed. -/
  | deafened
  | interrupted
  | placed (path : String) (entry : Option Entry)

namespace Server

/-- As many bytes are read at once. -/
def chunk : Nat := 8192

/-- A server that has just been launched. -/
def fresh (capacity : Nat) (detached : Bool) (habit : Habit) (agenda : List Act) : Server where
  capacity := capacity
  detached := detached
  habit := habit
  agenda := agenda
  resume := 0
  input := []
  listening := true
  unread := []
  decoder := .start
  output := []
  stream := []
  speaking := true
  status := none
  arrived := []
  clientDecoder := .start

/-- A server that follows the script. -/
def scripted (capacity : Nat) : Server := fresh capacity true .scripted []

def hasEnded (s : Server) : Bool := s.status.isSome

/-- Whether nothing more comes through the pipe to the client. -/
def streamEnded (s : Server) : Bool := s.hasEnded || !s.speaking

def finish (s : Server) (status : ExitStatus) : Server :=
  { s with status := some status, output := [] }

/-- Put something at the end of the agenda. -/
def direct (s : Server) (act : Act) : Server := { s with agenda := s.agenda ++ [act] }

/-- Take bytes from the pipe. -/
def takeInput (s : Server) : Server × List UInt8 :=
  ({ s with input := s.input.drop chunk }, s.input.take chunk)

/-- Write as much as the pipe takes; bytes that nobody will read are lost. -/
def flush (s : Server) (deaf : Bool) : Option Server :=
  if deaf || !s.speaking then some { s with output := [] }
  else
    let space := s.capacity - s.stream.length
    if space = 0 then none
    else some { s with stream := s.stream ++ s.output.take space, output := s.output.drop space }

/-- Go on with what is first on the agenda. -/
def stepAct (s : Server) (now : Nat) (rest : List Act) : Act → Option (Server × List Deed)
  | .write bytes => some ({ s with agenda := rest, output := bytes }, [])
  | .pause millis => some ({ s with agenda := rest, resume := now + millis }, [])
  | .stall => some ({ s with agenda := rest, habit := .idle }, [])
  | .exit status => some (s.finish status, [.deafened])
  | .interrupt => some ({ s with agenda := rest }, [.interrupted])
  | .silence => some ({ s with agenda := rest, speaking := false }, [])
  | .deafen => some ({ s with agenda := rest, listening := false }, [.deafened])
  | .place path entry => some ({ s with agenda := rest }, [.placed path entry])

/-- Read, and decide what to do about a frame that is complete; input that is no frame ends it. -/
def stepListen (s : Server) (script : Script) (inputEnded : Bool) : Option (Server × List Deed) :=
  if !s.listening then none
  else if !s.unread.isEmpty then
    match s.decoder.feed s.unread with
    | (decoder, some (.message frame), unread) =>
      some ({ s with decoder, unread, agenda := script.respond frame }, [.heard frame])
    | (decoder, none, unread) => some ({ s with decoder, unread }, [])
    | (_, some _, _) => some (s.finish (.exited 0), [.deafened])
  else if !s.input.isEmpty then
    let (s, bytes) := s.takeInput
    some ({ s with unread := bytes }, [.drained bytes.length])
  else if inputEnded then some (s.finish (.exited 0), [.deafened])
  else none

/-- Put what a process does next on the agenda, or let it read. -/
def stepProcess (s : Server) (inputEnded : Bool) (p : Process) : Option (Server × List Deed) :=
  if p.fresh then
    let (agenda, p) := p.next
    some ({ s with agenda, habit := .process p }, [])
  else if !s.listening || p.given.ended then none
  else if !s.input.isEmpty then
    let (s, bytes) := s.takeInput
    some ({ s with habit := .process (p.read bytes) }, [.drained bytes.length])
  else if inputEnded then some ({ s with habit := .process p.finishReading }, [])
  else none

/--
One step of a server; nothing while it has to wait. The client's end of either pipe may be gone:
`inputEnded` says so of the pipe to the server, `deaf` of the pipe to the client.
-/
def step (s : Server) (scenery : Scenery) (now : Nat) (inputEnded deaf : Bool) :
    Option (Server × List Deed) :=
  if s.hasEnded then none
  else if !s.output.isEmpty then (s.flush deaf).map fun s => (s, [])
  else if now < s.resume then none
  else
    match s.agenda, s.habit with
    | act :: rest, _ => s.stepAct now rest act
    | [], .idle => none
    | [], .scripted => s.stepListen scenery.script inputEnded
    | [], .process p => s.stepProcess inputEnded p

/-- What the client's reader finds next; nothing while it has to wait. -/
def deliver (s : Server) : Option (Server × Option Frame.Read) :=
  if !s.arrived.isEmpty then
    let (clientDecoder, found, arrived) := s.clientDecoder.feed s.arrived
    some ({ s with clientDecoder, arrived }, found)
  else if !s.stream.isEmpty then
    some ({ s with arrived := s.stream.take chunk, stream := s.stream.drop chunk }, none)
  else if s.streamEnded then some ({ s with clientDecoder := .start }, some s.clientDecoder.finish)
  else none

end Server

end LanguageClient
