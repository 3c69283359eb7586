import LanguageClient.Frame
import LanguageClient.Lifecycle

/-!
# Connections

A connection has an outbox of bounded size, a writer that takes from it and puts frames into the
pipe to the server, and a reader that takes frames from the server. Requests that wait for an answer
are registered by number. Once the reader has seen the stream end, the connection is closed: it
first says so, then lets go of every registered request, then reports the loss.
-/

namespace LanguageClient

/-- What the writer is told to do. -/
inductive Command
  | send (frame : Json)
  /-- Close the pipe to the server. -/
  | close

/-- The task that writes to the server. -/
inductive Writer
  | idle
  /-- Part way through a frame; what is still to be written of its header and body. -/
  | writing (header body : List UInt8)
  | ended

/-- The task that reads from the server. -/
inductive Reader
  | reading
  /-- A request of the server has been read, and its reply is to be queued. -/
  | replying (reply : Json)
  /-- The stream has ended. -/
  | closing (failure : RuntimeFailure)
  /-- The connection is marked as closed. -/
  | clearing (failure : RuntimeFailure)
  /-- The registered requests have been let go. -/
  | reporting (failure : RuntimeFailure)
  | ended

namespace Writer

def hasEnded : Writer → Bool
  | .ended => true
  | _ => false

end Writer

namespace Reader

def hasEnded : Reader → Bool
  | .ended => true
  | _ => false

def isReading : Reader → Bool
  | .reading => true
  | _ => false

end Reader

/-- A connection to a server. -/
structure Connection where
  /-- How many more bytes the pipe to the server takes. -/
  room : Nat
  /-- Why the pipe takes no more, if it has broken. -/
  fault : Option String
  /-- Whether the session still holds the connection. -/
  held : Bool
  /-- The number of the next request. -/
  nextId : Nat
  /-- The requests that wait for an answer. -/
  pending : List Nat
  /-- The answers that have come and not been taken. -/
  answers : List (Nat × Json)
  /-- Whether the reader has seen the stream end. -/
  closed : Bool
  outbox : List Command
  writer : Writer
  reader : Reader

namespace Connection

/-- How many commands the outbox holds. -/
def outboxSize : Nat := 64

/-- A new connection over a pipe that takes `room` bytes. -/
def fresh (room : Nat) : Connection where
  room := room
  fault := none
  held := true
  nextId := 1
  pending := []
  answers := []
  closed := false
  outbox := []
  writer := .idle
  reader := .reading

/-- What becomes of a command given to the outbox. -/
inductive Offer
  | accepted (c : Connection)
  /-- Nothing takes from the outbox any more. -/
  | refused
  /-- The outbox is full. -/
  | full

def offer (c : Connection) (command : Command) : Offer :=
  if c.writer.hasEnded then .refused
  else if c.outbox.length < outboxSize then
    .accepted { c with outbox := c.outbox ++ [command] }
  else .full

/-! ### Requests -/

/-- Give a request a number and register it. -/
def register (c : Connection) : Connection :=
  { c with nextId := c.nextId + 1, pending := c.nextId :: c.pending }

/-- Let go of a request. -/
def release (c : Connection) (id : Nat) : Connection := { c with pending := c.pending.erase id }

/-- The answer to a request. -/
def answer? (c : Connection) (id : Nat) : Option Json := c.answers.lookup id

/-- Take the answer to a request. -/
def take (c : Connection) (id : Nat) : Connection :=
  { c with answers := c.answers.filter fun a => a.1 ≠ id }

/-- A response has come: it answers the request of its number, if that is still waiting. -/
def respond (c : Connection) (id : Nat) (body : Json) : Option Connection :=
  if id ∈ c.pending then
    some { c with pending := c.pending.erase id, answers := c.answers ++ [(id, body)] }
  else none

/-! ### Tasks -/

/-- The writer has ended, and what was queued is lost. -/
def endWriter (c : Connection) : Connection := { c with writer := .ended, outbox := [] }

/-- Stop the reader where it is. -/
def endReader (c : Connection) : Connection := { c with reader := .ended }

/-- Stop both tasks and let the connection go. -/
def abort (c : Connection) : Connection := { c.endWriter.endReader with held := false }

/-- What a step of the writer does besides changing the connection. -/
inductive Written
  | nothing
  | bytes (bs : List UInt8)
  /-- Writing a part of a frame failed. -/
  | failed (part reason : String)

/-- The writer goes on with a frame, as far as the pipe takes it. -/
def write (c : Connection) (header body : List UInt8) : Option (Connection × Written) :=
  let part := if header.isEmpty then "body" else "header"
  match c.fault with
  | some reason => some (c.endWriter, .failed part reason)
  | none =>
    if c.room = 0 then none
    else if header.isEmpty then
      let rest := body.drop c.room
      let writer := if rest.isEmpty then Writer.idle else .writing [] rest
      some ({ c with room := c.room - body.length, writer }, .bytes (body.take c.room))
    else
      some ({ c with room := c.room - header.length, writer := .writing (header.drop c.room) body },
        .bytes (header.take c.room))

/-- One step of the writer; nothing when it has to wait. -/
def stepWriter (c : Connection) : Option (Connection × Written) :=
  match c.writer with
  | .ended => none
  | .writing header body => c.write header body
  | .idle =>
    match c.outbox with
    | .send frame :: rest =>
      let body := frame.encode
      some ({ c with outbox := rest, writer := .writing (Frame.header body.length) body }, .nothing)
    | .close :: _ => some (c.endWriter, .nothing)
    | [] => if c.held || !c.reader.hasEnded then none else some (c.endWriter, .nothing)

end Connection

end LanguageClient
