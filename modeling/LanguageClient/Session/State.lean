import LanguageClient.Session.Basic
import LanguageClient.Session.Connection

/-!
# The state of a session

A session is a phase, a slot for its connection, the documents that its server knows of, events that
wait for the host, and calls: what the host has asked for, and restarts that the session asked for
itself. Calls that change the connection or use it hold the lifecycle lock one at a time, in the
order in which they asked for it.
-/

namespace LanguageClient

/-- What a call is to do. -/
inductive Job
  | start
  /-- Start again after the loss of a connection. -/
  | restart (lost : Nat)
  | stop
  /-- Tell the server the text of a document; `opening` says which host call asked for it. -/
  | sync (opening : Bool) (doc : Document) (text : String)
  | close (doc : Document)
  /-- Wait for the start that activation began. -/
  | started
  /-- Wait for that start, then stop. -/
  | deactivate

/-- The answer of a call. -/
inductive Outcome
  | start (result : Except StartError Unit)
  | stop (result : Except StopError Unit)
  | document (result : Except NotifyError Forwarded)

/-- The two requests of a client. -/
inductive Ask
  | handshake
  | shutdown
  deriving DecidableEq, Repr

def Ask.method : Ask → String
  | .handshake => "initialize"
  | .shutdown => "shutdown"

/-- How long the answer may take. -/
def Ask.limit (options : Options) : Ask → Duration
  | .handshake => options.handshake
  | .shutdown => options.shutdown

/-- What follows when a connection has been given up. -/
inductive AfterDiscard
  /-- The server is launched anew. -/
  | relaunch
  /-- The start fails, the handshake having failed for a reason. -/
  | refuse (reason : String)
  /-- The stop goes on to its end. -/
  | settle

/-- How far a call has got. -/
inductive Stage
  | arriving
  /-- In line for the lock, or first in line and so holding it. -/
  | waiting
  /-- Until a start is done. -/
  | joining (start : Nat)
  /-- The launcher has been asked for a server. -/
  | launching
  /-- There is a connection, and nothing has been sent over it. -/
  | greeting (c : Nat)
  /-- The server has answered the handshake and is to be told so. -/
  | announcing (c : Nat)
  /-- These documents are to be opened again. -/
  | reopening (c : Nat) (documents : Table OpenDocument)
  /-- The connection is ready for the slot. -/
  | settling (c : Nat)
  /-- The connection is in the slot, and the session is to be running. -/
  | raising (c : Nat)
  /-- The connection may have closed before the session was running. -/
  | verifying (c : Nat)
  /-- The lock is about to be given back. -/
  | leaving (outcome : Outcome)
  /-- Before a request: is the connection closed? -/
  | testing (c : Nat) (ask : Ask)
  | registering (c : Nat) (ask : Ask)
  /-- The request is registered: is the connection closed by now? -/
  | retesting (c : Nat) (ask : Ask) (id : Nat)
  /-- The request is to be queued. -/
  | asking (c : Nat) (ask : Ask) (id : Nat)
  | awaiting (c : Nat) (ask : Ask) (id : Nat)
  /-- A stop has the connection: is it closed? -/
  | ending (c : Nat)
  /-- The server is to be told to exit. -/
  | exiting (c : Nat)
  /-- The writer is to be told to close the pipe. -/
  | closing (c : Nat) (problems : List String)
  /-- Until the writer has ended. -/
  | draining (c : Nat) (problems : List String)
  /-- Until the process has exited. -/
  | reaping (c : Nat) (problems : List String)
  /-- A stop has no connection any more. -/
  | concluding (result : Except StopError Unit)
  /-- The session is stopped, and what is left of it is to be cleared away. -/
  | purging (result : Except StopError Unit)
  /-- A connection is given up; its writer is to be told to close the pipe. -/
  | discarding (c : Nat) (next : AfterDiscard)
  /-- Its process and its tasks are to be stopped. -/
  | aborting (c : Nat) (next : AfterDiscard)
  /-- A notice is to be queued. -/
  | sending (c : Nat) (notice : Notice)
  /-- The diagnostics of a closed document are to be dropped. -/
  | forgetting (uri : String) (outcome : Outcome)
  | done (outcome : Outcome)
  /-- The host no longer waits. -/
  | dropped

namespace Stage

/-- The connection that a call has to itself, out of the session's slot. -/
def owned? : Stage → Option Nat
  | .greeting c | .announcing c | .reopening c _ | .settling c => some c
  | .testing c _ | .registering c _ | .retesting c _ _ | .asking c _ _ | .awaiting c _ _ => some c
  | .ending c | .exiting c | .closing c _ | .draining c _ | .reaping c _ => some c
  | .discarding c _ | .aborting c _ => some c
  | _ => none

/-- The time after which a call gives up waiting, where it does. -/
def limit? (options : Options) : Stage → Option Duration
  | .awaiting _ ask _ => some (ask.limit options)
  | .draining _ _ | .reaping _ _ => some options.shutdown
  | _ => none

def outcome? : Stage → Option Outcome
  | .done outcome => some outcome
  | _ => none

/-- Whether a call may have to wait at a stage. -/
def canWait : Stage → Bool
  | .arriving | .waiting | .joining _ | .launching => true
  | .registering _ _ | .retesting _ _ _ | .asking _ _ _ | .awaiting _ _ _ | .announcing _ => true
  | .reopening _ documents => !documents.isEmpty
  | .exiting _ | .closing _ _ | .draining _ _ | .reaping _ _ => true
  | .discarding _ _ | .aborting _ _ | .sending _ _ => true
  | _ => false

/-- Whether a call goes no further. -/
def hasEnded : Stage → Bool
  | .done _ | .dropped => true
  | _ => false

end Stage

structure Call where
  job : Job
  stage : Stage

/-- Whether a call can be given up: by the host, and so no restart, and while it waits. -/
def Call.canDrop (call : Call) : Bool :=
  match call.job with
  | .restart _ => false
  | _ => call.stage.canWait

/-- All of a session that changes. -/
structure State where
  phase : Phase
  /-- The connection that document calls use. -/
  slot : Option Nat
  documents : Table OpenDocument
  /-- How many restarts the session has begun. -/
  restarts : UInt32
  /-- Every connection there has been, the newest last. -/
  connections : List Connection
  /-- Every call there has been. -/
  calls : List Call
  /-- The calls in line for the lock; the first holds it. -/
  line : List Nat
  /-- What the host has not yet polled. -/
  events : List Event
  store : DiagnosticsStore
  /-- The activation, if there is one: its start, as long as nobody has asked how that went. -/
  activation : Option (Option Nat)

/-- What others see of a step. -/
inductive Effect
  | log (level : Level) (text : String)
  /-- The outbox of a connection took a command. -/
  | queued (c : Nat) (command : Command)
  /-- Bytes entered the pipe to a server. -/
  | wrote (c : Nat) (bytes : List UInt8)
  /-- An event arose; it is lost when too many wait already. -/
  | emitted (event : Event) (kept : Bool)

namespace State

def initial : State where
  phase := .created
  slot := none
  documents := []
  restarts := 0
  connections := []
  calls := []
  line := []
  events := []
  store := .empty
  activation := none

/-- How many events wait for the host at most. -/
def eventsSize : Nat := 256

/-- Whether nobody holds the lock. -/
def isFree (w : State) : Bool := w.line.isEmpty

/-- Whether a connection is the last one that was made. -/
def isNewest (w : State) (c : Nat) : Bool := c + 1 = w.connections.length

/-- Whether the reader of a connection has seen the stream end. -/
def isClosed (w : State) (c : Nat) : Bool := (w.connections[c]?).any (·.closed)

def modifyConnection (w : State) (c : Nat) (f : Connection → Connection) : State :=
  { w with connections := w.connections.modify c f }

def setStage (w : State) (i : Nat) (stage : Stage) : State :=
  { w with calls := w.calls.modify i fun call => { call with stage } }

/-- Give back the lock, or the place in line. -/
def leave (w : State) (i : Nat) : State := { w with line := w.line.erase i }

/-- End a call. -/
def finish (w : State) (i : Nat) (outcome : Outcome) : State :=
  (w.leave i).setStage i (.done outcome)

/-- Add a call. -/
def begin (w : State) (job : Job) : State := { w with calls := w.calls ++ [⟨job, .arriving⟩] }

/-- Add an event, unless too many wait. -/
def emit (w : State) (event : Event) : State × Bool :=
  if w.events.length < eventsSize then ({ w with events := w.events ++ [event] }, true)
  else (w, false)

end State

end LanguageClient
