import LanguageClient.Session.Calls

/-!
# Steps of a session

Whatever happens to a session happens in steps: of the host, of the client's own tasks, of its
timers and of the world outside. `State.step` says which steps are possible and what each does; a
session's life is any sequence of possible steps.
-/

namespace LanguageClient

/-- A step that a session can take. -/
inductive Action
  /-- The host begins a call. -/
  | call (job : Job)
  /-- The host begins a start in the background that an activation remembers. -/
  | activate
  /-- The host takes events. -/
  | poll (budget : Nat)
  /-- The host waits no longer for a call. -/
  | drop (i : Nat)
  /-- A call goes on. -/
  | proceed (i : Nat)
  /-- A call opens a document again, the one at a place among those that it still has to open: the
  session's documents are listed in no particular order. -/
  | reopen (i place : Nat)
  /-- The writer of a connection goes on. -/
  | write (c : Nat)
  /-- The reader of a connection goes on without reading. -/
  | read (c : Nat)
  /-- A call has waited as long as it may. -/
  | expire (i : Nat)
  /-- The launcher answers a call: a server behind a pipe that takes so many bytes, or a reason. -/
  | launched (i : Nat) (result : Except String Nat)
  /-- A frame has come from the server, or the end of its stream. -/
  | received (c : Nat) (read : Frame.Read)
  /-- The server has taken bytes from its pipe. -/
  | drained (c count : Nat)
  /-- The pipe to the server has broken. -/
  | broken (c : Nat) (reason : String)
  /-- The process that a stop waits for has exited, perhaps with a status that is a problem. -/
  | exited (i : Nat) (problem : Option String)

namespace State

/-- Published diagnostics go to the store once the host has seen them. -/
def absorb (store : DiagnosticsStore) : Event → DiagnosticsStore
  | .diagnostics uri items => store.update uri items
  | .connectionLost _ => store

/-- Take the oldest events, at most `budget`. -/
def poll (w : State) (budget : Nat) : State × List Event :=
  let taken := w.events.take budget
  ({ w with events := w.events.drop budget, store := taken.foldl absorb w.store }, taken)

/-- What is said when events are taken. -/
def notePolled : Event → List Effect
  | .diagnostics _ _ => [.log .debug "Diagnostics updated"]
  | .connectionLost _ => []

/-- What others see of a step of the writer of connection `c`. -/
def noteWritten (c : Nat) : Connection.Written → List Effect
  | .nothing => []
  | .bytes bs => [.wrote c bs]
  | .failed part reason =>
    [.log .warn ("LSP write error: writing message " ++ part ++ ": " ++ reason)]

/-- The writer of connection `c` takes a step. -/
def stepWriter (w : State) (c : Nat) (conn : Connection) : Option Stepped := do
  let (conn, written) ← conn.stepWriter
  return (w.modifyConnection c fun _ => conn, noteWritten c written)

/-- What a step leads to; nothing when it is not possible. -/
def step (s : Setup) (w : State) : Action → Option Stepped
  | .call job => some (w.begin job, [])
  | .activate =>
    some ({ w.begin .start with activation := some (some w.calls.length) },
      [.log .info "Activating"])
  | .poll budget =>
    let (w, taken) := w.poll budget
    some (w, taken.flatMap notePolled)
  | .drop i => do
    let call ← w.calls[i]?
    if call.canDrop then return w.drop i call else none
  | .proceed i => do w.stepCall s i (← w.calls[i]?)
  | .reopen i place => do
    let call ← w.calls[i]?
    match call.stage with
    | .reopening c documents => w.reopen i c documents place
    | _ => none
  | .write c => do w.stepWriter c (← w.connections[c]?)
  | .read c => do w.stepReader s c (← w.connections[c]?)
  | .expire i => do
    let call ← w.calls[i]?
    if (w.stepCall s i call).isSome then none else w.expire s i call
  | .launched i result => do
    let call ← w.calls[i]?
    match call.stage with
    | .launching => return w.launched s i call.job result
    | _ => none
  | .received c read => do
    let conn ← w.connections[c]?
    if conn.reader.isReading then return w.receive s c conn read else none
  | .drained c count => do
    let conn ← w.connections[c]?
    return (w.modifyConnection c fun _ => { conn with room := conn.room + count }, [])
  | .broken c reason => do
    let conn ← w.connections[c]?
    return (w.modifyConnection c fun _ => { conn with fault := some reason }, [])
  | .exited i problem => do
    let call ← w.calls[i]?
    match call.stage with
    | .reaping c problems => return w.reaped i c (problems ++ problem.toList)
    | _ => none

end State

end LanguageClient
