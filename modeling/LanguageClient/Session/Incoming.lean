import LanguageClient.Diagnostics.Published
import LanguageClient.Session.State

/-!
# What comes from the server

A response goes to the request that it answers, a request gets a reply, and of the notifications
published diagnostics become events and messages go to the log. When the stream ends while the
session is running on that connection, the session has failed, and may start again by itself.
-/

namespace LanguageClient

/-- A state and what others saw of the step that led to it. -/
abbrev Stepped := State × List Effect

namespace State

/-- Add an event and tell of it. -/
def publish (w : State) (event : Event) : Stepped × Bool :=
  let (w, kept) := w.emit event
  ((w, [.emitted event kept]), kept)

/-! ### Loss of a connection -/

/--
The reader of connection `c` has seen the stream end. Only a running session takes notice, and only
of its newest connection. The policy decides whether it starts again.
-/
def lose (s : Setup) (w : State) (c : Nat) (failure : RuntimeFailure) : Stepped :=
  if !w.isNewest c || !w.phase.isRunning then (w, [])
  else
    let w := { w with phase := .failed (.runtime failure) }
    let lost : Effect := .log .warn ("Language server connection lost: " ++ failure.message)
    let ((w, emitted), kept) := w.publish (.connectionLost failure)
    let full : List Effect :=
      if kept then [] else [.log .debug "Event queue full, dropping ConnectionLost"]
    let attempt := w.restarts + 1
    let seen := lost :: emitted ++ full
    if s.options.restart.allows attempt then
      ({ w with restarts := attempt }.begin (.restart c),
        seen ++ [.log .info "Restarting language server"])
    else if s.options.restart = .never then (w, seen)
    else (w, seen ++ [.log .warn "Restart limit reached, staying failed"])

/-! ### Frames -/

/-- Diagnostics have been published. -/
def receiveDiagnostics (s : Setup) (w : State) (params : Json) : Stepped :=
  match Published.decode params with
  | .error e =>
    let text := "Failed to parse publishDiagnostics from '" ++ s.options.id ++ "': " ++ e.message
    (w, [.log .debug text])
  | .ok p =>
    let ((w, emitted), kept) := w.publish (.diagnostics p.uri p.items)
    let full : List Effect :=
      if kept then []
      else [.log .warn ("Event queue full, dropping diagnostics from '" ++ s.options.id ++ "'")]
    (w, .log .trace "Diagnostics published" :: emitted ++ full)

/-- How severe a message of the server is. -/
def levelOf (m : ServerMessage) : Level :=
  if m.kind = 1 then .error else if m.kind = 2 then .warn else if m.kind = 3 then .info else .debug

/-- A notification has come. -/
def receiveNotification (s : Setup) (w : State) (method : String) : Option Json → Stepped
  | none =>
    (w, [.log .trace ("Ignoring " ++ method ++ " without params from '" ++ s.options.id ++ "'")])
  | some params =>
    if method = "textDocument/publishDiagnostics" then w.receiveDiagnostics s params
    else if method = "window/logMessage" || method = "window/showMessage" then
      match ServerMessage.decode params with
      | .ok m => (w, [.log (levelOf m) m.text])
      | .error _ => (w, [])
    else
      (w, [.log .trace ("Ignoring notification from '" ++ s.options.id ++ "': " ++ method)])

/-- A response has come on connection `c`. -/
def receiveResponse (s : Setup) (w : State) (c : Nat) (conn : Connection) (id : Nat) (body : Json) :
    Stepped :=
  match conn.respond id body with
  | some conn => (w.modifyConnection c fun _ => conn, [])
  | none =>
    (w, [.log .debug ("'" ++ s.options.id ++ "' answered unknown request id " ++ Nat.repr id)])

/-- What is said of a request before it is answered. -/
def noteRequest (s : Setup) (method : String) : List Effect :=
  if method = Message.configurationMethod || method ∈ Message.acknowledged then []
  else
    let text := "'" ++ s.options.id ++ "' sent request " ++ method ++ ", replying method not found"
    [.log .debug text]

/-- A frame has come on connection `c`. -/
def dispatch (s : Setup) (w : State) (c : Nat) (conn : Connection) (frame : Json) : Stepped :=
  match Incoming.classify frame with
  | none => (w, [.log .trace ("Ignoring malformed JSON-RPC frame from '" ++ s.options.id ++ "'")])
  | some (.response id body) => w.receiveResponse s c conn id body
  | some (.request id method params) =>
    let reply := Message.reply id method params
    (w.modifyConnection c fun conn => { conn with reader := .replying reply },
      noteRequest s method)
  | some (.notification method params) => w.receiveNotification s method params

/-- The reader of connection `c` has read something, or the end of the stream. -/
def receive (s : Setup) (w : State) (c : Nat) (conn : Connection) : Frame.Read → Stepped
  | .message frame => w.dispatch s c conn frame
  | .ended => (w.modifyConnection c fun conn => { conn with reader := .closing .processExited }, [])
  | .fault f =>
    (w.modifyConnection c fun conn => { conn with reader := .closing (.streamError f.message) },
      [.log .warn ("LSP read error: " ++ f.message)])

/-- A step that the reader of connection `c` takes without reading. -/
def stepReader (s : Setup) (w : State) (c : Nat) (conn : Connection) : Option Stepped :=
  match conn.reader with
  | .reading | .ended => none
  | .replying reply =>
    match conn.offer (.send reply) with
    | .full => none
    | .refused => some (w.modifyConnection c fun conn => { conn with reader := .reading }, [])
    | .accepted conn =>
      let w := w.modifyConnection c fun _ => { conn with reader := .reading }
      some (w, [.queued c (.send reply)])
  | .closing failure =>
    let close (conn : Connection) := { conn with closed := true, reader := .clearing failure }
    some (w.modifyConnection c close, [])
  | .clearing failure =>
    let clear (conn : Connection) := { conn with pending := [], reader := .reporting failure }
    some (w.modifyConnection c clear, [])
  | .reporting failure =>
    some ((w.modifyConnection c Connection.endReader).lose s c failure)

end State

end LanguageClient
