import LanguageClient.Rehearsal.Server
import LanguageClient.Session.Step

/-!
# Rehearsals

A rehearsal plays a session against servers under a clock of its own. Tasks take turns: one runs
until it has to wait, and those that it lets go on are put in line behind the others. Time passes
only when no task can go on, and then up to the next moment at which one can. Every step of the
session is one that `State.step` allows.
-/

namespace LanguageClient

/-- Something that runs by itself. -/
inductive Task
  | call (i : Nat)
  | writer (c : Nat)
  | reader (c : Nat)
  | server (c : Nat)
  /-- Waits for the session to fail, and then starts it. -/
  | watcher (k : Nat)
  deriving DecidableEq

/-- What a launcher comes up with, and when. -/
structure Launching where
  delay : Nat
  result : Except String Server

structure Rehearsal where
  setup : Setup
  session : State
  scenery : Scenery
  launcher : Files → ServerCommand → Launching
  servers : List Server
  /-- The time in milliseconds. -/
  now : Nat
  /-- When calls give up waiting. -/
  timers : List (Nat × Nat)
  /-- When the host gives up waiting for calls. -/
  limits : List (Nat × Nat)
  /-- Launches that are not over: the call, the time and what comes of it. -/
  launchings : List (Nat × Nat × Except String Server)
  /-- The starts of the watchers that have begun one. -/
  watchers : List (Option Nat)
  /-- Tasks that can go on, the next first. -/
  ready : List Task
  /-- Tasks that have to wait, in the order in which they came to. -/
  waiting : List Task
  /-- Tasks that have just begun and are not in line yet. -/
  begun : List Task
  /-- What has been seen since it was last looked at, the latest first. -/
  log : List (Level × String)
  heard : List Json
  launched : Option ServerCommand
  interrupted : Bool

namespace Rehearsal

/-- A rehearsal that is about to begin. -/
def make (setup : Setup) (scenery : Scenery) (launcher : Files → ServerCommand → Launching) :
    Rehearsal where
  setup := setup
  session := .initial
  scenery := scenery
  launcher := launcher
  servers := []
  now := 0
  timers := []
  limits := []
  launchings := []
  watchers := []
  ready := []
  waiting := []
  begun := []
  log := []
  heard := []
  launched := none
  interrupted := false

/-- How many servers have been launched. -/
def launches (r : Rehearsal) : Nat := r.servers.length

def modifyServer (r : Rehearsal) (c : Nat) (f : Server → Server) : Rehearsal :=
  { r with servers := r.servers.modify c f }

/-! ### The session -/

/-- Keep what was seen of a step. -/
def absorb (r : Rehearsal) : Effect → Rehearsal
  | .log level text => { r with log := (level, text) :: r.log }
  | .wrote c bytes => r.modifyServer c fun s => { s with input := s.input ++ bytes }
  | .queued _ _ | .emitted _ _ => r

/-- The session takes a step, if it can. -/
def act? (r : Rehearsal) (a : Action) : Option Rehearsal := do
  let (session, said) ← r.session.step r.setup a
  return said.foldl absorb { r with session }

/-- The session takes a step, and the calls that it begins by itself are tasks. -/
def act (r : Rehearsal) (a : Action) : Option Rehearsal := do
  let before := r.session.calls.length
  let r ← r.act? a
  let calls := (r.session.calls.drop before).zipIdx before
  return { r with begun := r.begun ++ calls.map fun call => .call call.2 }

/-- The session takes a step that is always possible. -/
def must (r : Rehearsal) (a : Action) : Rehearsal := (r.act a).getD r

def stage? (r : Rehearsal) (i : Nat) : Option Stage := (r.session.calls[i]?).map (·.stage)

/-- Whether a call goes no further. -/
def callEnded (r : Rehearsal) (i : Nat) : Bool := (r.stage? i).all (·.hasEnded)

/-- A call that has gone on waits anew. -/
def wind (r : Rehearsal) (i : Nat) : Rehearsal :=
  let timers := r.timers.filter (·.1 ≠ i)
  match (r.stage? i).bind (·.limit? r.setup.options) with
  | some d => { r with timers := (i, r.now + d.millis) :: timers }
  | none => { r with timers }

/-! ### Calls -/

/-- A launch is over: with a server there is a connection, and three more tasks. -/
def settleLaunch (r : Rehearsal) (i : Nat) (result : Except String Server) : Option Rehearsal :=
  let r := { r with launchings := r.launchings.filter (·.1 ≠ i) }
  match result with
  | .error reason => r.act (.launched i (.error reason))
  | .ok server => do
    let c := r.servers.length
    let r ← r.act (.launched i (.ok server.capacity))
    return { r with
      servers := r.servers ++ [server]
      begun := r.begun ++ [.server c, .writer c, .reader c] }

/-- A call waits for its launch, once it has asked for it. -/
def stepLaunch (r : Rehearsal) (i : Nat) : Option Rehearsal :=
  match r.launchings.lookup i with
  | some (time, result) => if time ≤ r.now then r.settleLaunch i result else none
  | none =>
    let l := r.launcher r.scenery.files r.setup.command
    let r := { r with launched := some r.setup.command }
    if l.delay = 0 then r.settleLaunch i l.result
    else some { r with launchings := (i, r.now + l.delay, l.result) :: r.launchings }

/-- A call waits for a process to exit. -/
def stepReap (r : Rehearsal) (i c : Nat) : Option Rehearsal := do
  let server ← r.servers[c]?
  if server.detached then r.act (.exited i none)
  else r.act (.exited i (← server.status).problem?)

/-- Whether the time of an entry of `times` has come. -/
def isDue (r : Rehearsal) (times : List (Nat × Nat)) (i : Nat) : Bool :=
  (times.lookup i).any (· ≤ r.now)

/-- A call goes on, or gives up waiting, or is given up. Documents are opened again in the order in
which the session's table has them. -/
def stepCall (r : Rehearsal) (i : Nat) : Option Rehearsal :=
  let next := match r.stage? i with
    | some .launching => r.stepLaunch i
    | some (.reaping c _) => r.stepReap i c
    | some (.reopening _ (_ :: _)) => r.act (.reopen i 0)
    | _ => r.act (.proceed i)
  let next := next <|> (if r.isDue r.timers i then r.act (.expire i) else none)
  let next := next <|> (if r.isDue r.limits i then r.act (.drop i) else none)
  next.map (·.wind i)

/-! ### The other tasks -/

/-- The pipe to a server has broken. -/
def breakPipe (r : Rehearsal) (c : Nat) : Rehearsal := r.must (.broken c "broken pipe")

/-- Keep what a step of a server shows. -/
def absorbDeed (c : Nat) (r : Rehearsal) : Deed → Rehearsal
  | .heard frame => { r with heard := frame :: r.heard }
  | .drained count => r.must (.drained c count)
  | .deafened => r.breakPipe c
  | .interrupted => { r with interrupted := true }
  | .placed path entry =>
    let files := r.scenery.files
    let files := match entry with
      | some entry => files.insert path entry
      | none => files.erase path
    { r with scenery := { r.scenery with files } }

/-- A process whose connection has been let go is killed. -/
def isOrphan (server : Server) (conn : Connection) : Bool :=
  !server.detached && !server.hasEnded && !conn.held

def stepServer (r : Rehearsal) (c : Nat) : Option Rehearsal := do
  let server ← r.servers[c]?
  let conn ← r.session.connections[c]?
  if isOrphan server conn then
    return (r.modifyServer c (·.finish (.killed 9))).breakPipe c
  let (server, deeds) ← server.step r.scenery r.now conn.writer.hasEnded conn.reader.hasEnded
  return deeds.foldl (absorbDeed c) (r.modifyServer c fun _ => server)

/-- A reader takes a step of its own, or reads. -/
def stepReader (r : Rehearsal) (c : Nat) : Option Rehearsal := do
  let conn ← r.session.connections[c]?
  if conn.reader.isReading then
    let (server, found) ← (← r.servers[c]?).deliver
    let r := r.modifyServer c fun _ => server
    match found with
    | none => return r
    | some read => r.act (.received c read)
  else r.act (.read c)

def step (r : Rehearsal) : Task → Option Rehearsal
  | .call i => r.stepCall i
  | .writer c => r.act (.write c)
  | .reader c => r.stepReader c
  | .server c => r.stepServer c
  | .watcher k =>
    match r.watchers[k]? with
    | some (some i) => r.stepCall i
    | some none =>
      if r.session.phase.failure?.isSome then do
        let i := r.session.calls.length
        let r ← r.act? (.call .start)
        return { r with watchers := r.watchers.set k (some i) }
      else none
    | none => none

end Rehearsal

end LanguageClient
