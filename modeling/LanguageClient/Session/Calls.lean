import LanguageClient.Session.Incoming
import LanguageClient.Uri.FilePath

/-!
# Calls

What a call does next. A call that has to wait, for its turn, for room in an outbox or for an
answer, has no next step until what it waits for is there.
-/

namespace LanguageClient

namespace State

/-! ### Ends of calls -/

/-- A start, or a restart, has failed; only of a restart nobody is told but the log. -/
def finishStart (w : State) (i : Nat) (job : Job) : Except StartError Unit → Stepped
  | .ok u => (w.finish i (.start (.ok u)), [])
  | .error e =>
    let said : List Effect := match job with
      | .restart _ => [.log .warn ("Restart failed: " ++ e.message)]
      | _ => []
    (w.finish i (.start (.error e)), said)

/-- The session could not be started. -/
def failStart (w : State) (i : Nat) (job : Job) (e : StartError) : Stepped :=
  let w := { w with phase := .failed (.start e) }
  let (w, said) := w.finishStart i job (.error e)
  (w, .log .warn ("Language server failed to start: " ++ e.message) :: said)

/-- Clear away the events and diagnostics of a stopped session. -/
def purge (w : State) (i : Nat) (result : Except StopError Unit) : Stepped :=
  let said : Effect := match result with
    | .ok _ => .log .info "Language server stopped"
    | .error e => .log .warn e.message
  ({ w with events := [], store := .empty }.finish i (.stop result), [said])

def finishDocument (w : State) (i : Nat) (result : Except NotifyError Forwarded) : Stepped :=
  (w.finish i (.document result), [])

/-- The session is not in a phase for document calls. -/
def refuseDocument (w : State) (i : Nat) : Stepped :=
  w.finishDocument i (.error (.notRunning w.phase.label))

/-! ### Commands -/

/-- Queue a command on connection `c`, if it can be queued or refused now. -/
def queue (w : State) (c : Nat) (command : Command) (accepted refused : State → Stepped) :
    Option Stepped :=
  match w.connections[c]? with
  | none => some (refused w)
  | some conn =>
    match conn.offer command with
    | .full => none
    | .refused => some (refused w)
    | .accepted conn =>
      let (w, said) := accepted (w.modifyConnection c fun _ => conn)
      some (w, .queued c command :: said)

/-- Go on at a stage. -/
def goto (i : Nat) (stage : Stage) (w : State) : Stepped := (w.setStage i stage, [])

/-- A stop is done with the server. -/
def endStop (w : State) (i : Nat) (result : Except StopError Unit) : Stepped :=
  w.goto i (.concluding result)

/-! ### Launching -/

/-- Ask for a server. -/
def launch (s : Setup) (w : State) (i : Nat) : Stepped :=
  ({ w with phase := .starting }.setStage i .launching,
    [.log .info ("Starting language server '" ++ s.command.command ++ "'")])

/-- A start that has the lock gives up a stale connection before it launches. -/
def relaunch (s : Setup) (w : State) (i : Nat) : Stepped :=
  match w.slot with
  | some c => { w with slot := none }.goto i (.discarding c .relaunch)
  | none => w.launch s i

/-- The launcher has a connection, or none and a reason. -/
def launched (s : Setup) (w : State) (i : Nat) (job : Job) : Except String Nat → Stepped
  | .error reason => w.failStart i job (.launchFailed s.command.command reason)
  | .ok room =>
    let c := w.connections.length
    { w with connections := w.connections ++ [Connection.fresh room] }.goto i (.greeting c)

/-! ### Requests -/

/-- The name of the workspace: the last part of its path. -/
def workspaceName (root : String) : String :=
  match Path.name? root.toList with
  | some name => String.ofList name
  | none => "workspace"

/-- The frame of a request. -/
def requestFrame (s : Setup) (id : Nat) : Ask → Json
  | .handshake =>
    let uri := (Uri.ofPath s.options.root.toList).getD []
    Message.request id Ask.handshake.method
      (some (Message.initializeParams s.processId (String.ofList uri) s.options.id
        (workspaceName s.options.root)))
  | .shutdown => Message.request id Ask.shutdown.method none

/-- A request has come to nothing. -/
def failAsk (w : State) (i c : Nat) (reason : String) : Ask → Stepped
  | .handshake => w.goto i (.discarding c (.refuse reason))
  | .shutdown => w.goto i (.closing c [reason])

/-- What an error in an answer says. -/
def errorText (error : Json) : String :=
  ((error.get? "message").bind Json.str?).getD "unknown error"

/-- The server has answered. -/
def answered (w : State) (i c : Nat) (ask : Ask) (body : Json) : Stepped :=
  match ask, body.get? "error" with
  | _, some error => w.failAsk i c ("server rejected " ++ ask.method ++ ": " ++ errorText error) ask
  | .shutdown, none => w.goto i (.exiting c)
  | .handshake, none =>
    let said : List Effect :=
      if ((body.get? "result").bind (Json.get? "serverInfo")).isSome then
        [.log .info "Server initialized"]
      else []
    (w.setStage i (.announcing c), said)

/-- Queue a registered request. -/
def ask (s : Setup) (w : State) (i c : Nat) (ask : Ask) (id : Nat) : Option Stepped :=
  w.queue c (.send (requestFrame s id ask)) (goto i (.awaiting c ask id)) fun w =>
    (w.modifyConnection c (·.release id)).failAsk i c "writer channel closed" ask

/-- Take the answer to a request, or notice that there will be none. -/
def await (w : State) (i c : Nat) (ask : Ask) (id : Nat) : Option Stepped := do
  let conn ← w.connections[c]?
  match conn.answer? id with
  | some body => return (w.modifyConnection c (·.take id)).answered i c ask body
  | none =>
    if id ∈ conn.pending then none
    else return w.failAsk i c ("server closed the connection during " ++ ask.method) ask

/-! ### Documents -/

/-- A notice has been sent or not. -/
def noticed (w : State) (i : Nat) (result : Except NotifyError Forwarded) : Notice → Stepped
  | .closed uri => (w.leave i).goto i (.forgetting uri (.document result))
  | _ => w.finishDocument i result

/-- Queue a notice, and keep track of the document. -/
def sendNotice (w : State) (i c : Nat) (notice : Notice) : Option Stepped :=
  w.queue c (.send notice.frame)
    (fun w => { w with documents := notice.apply w.documents }.noticed i (.ok .sent) notice)
    fun w =>
      let (w, said) := w.noticed i (.error (.connectionClosed notice.method)) notice
      (w, .log .debug ("Dropping " ++ notice.method ++ ": writer channel closed while sending "
        ++ notice.method) :: said)

/-- Use the connection in the slot. -/
def withSlot (w : State) (i : Nat) (notice : Notice) : Stepped :=
  match w.slot with
  | some c => w.goto i (.sending c notice)
  | none => w.noticed i (.error (.notRunning Phase.stopped.label)) notice

/-- A call that closes a document: it is no longer tracked, whatever becomes of the notice. -/
def closeDocument (w : State) (i : Nat) (uri : String) : Stepped :=
  match w.documents.find? uri with
  | none =>
    let (w, said) := w.finishDocument i (.ok .notOpen)
    (w, .log .trace "didClose for a document that was never opened" :: said)
  | some _ => { w with documents := w.documents.erase uri }.withSlot i (.closed uri)

/-- Of the documents that are to be opened again, the one at a place is; one that cannot be is left
at that. -/
def reopen (w : State) (i c : Nat) (documents : Table OpenDocument) (place : Nat) :
    Option Stepped :=
  match documents[place]? with
  | none => none
  | some (uri, doc) =>
    let notice := Notice.opened uri doc
    let next := Stage.reopening c (documents.eraseIdx place)
    w.queue c (.send notice.frame) (goto i next) fun w =>
      (w.setStage i next,
        [.log .warn ("Failed to re-open " ++ uri ++ ": writer channel closed while sending "
          ++ notice.method)])

/-! ### The first steps -/

/-- Take a place in line for the lock. -/
def enlist (w : State) (i : Nat) : Stepped := { w with line := w.line ++ [i] }.goto i .waiting

/-- The outcome of a start as the phase tells it. -/
def startOutcome (w : State) : Except StartError Unit :=
  match w.phase with
  | .failed (.start e) => .error e
  | _ => .ok ()

/-- A document call begins: the document has to be in scope and the session running. -/
def arriveDocument (s : Setup) (w : State) (i : Nat) (doc : Document) (outside : List Effect) :
    Stepped :=
  if !s.selector.admits doc then
    let (w, said) := w.finishDocument i (.ok .outOfScope)
    (w, outside ++ said)
  else if w.phase.isRunning then w.enlist i
  else w.refuseDocument i

/-- A call begins. -/
def arrive (s : Setup) (w : State) (i : Nat) : Job → Stepped
  | .start | .restart _ | .stop => w.enlist i
  | .sync opening doc _ =>
    let method := if opening then "didOpen" else "didChange"
    w.arriveDocument s i doc [.log .trace ("Not forwarding " ++ method ++ ", out of scope")]
  | .close doc => w.arriveDocument s i doc []
  | .started =>
    match w.activation with
    | some (some start) => { w with activation := some none }.goto i (.joining start)
    | _ => (w.finish i (.start w.startOutcome), [])
  | .deactivate =>
    let began := { w with activation := none }
    let (w, said) := match w.activation with
      | some (some start) => began.goto i (.joining start)
      | _ => began.enlist i
    (w, .log .info "Deactivating" :: said)

/-- A call that waited for a start goes on. -/
def joined (w : State) (i : Nat) (job : Job) (result : Except StartError Unit) : Stepped :=
  match job, result with
  | .deactivate, .error e =>
    let (w, said) := w.enlist i
    (w, .log .debug ("Start settled with an error before deactivation: " ++ e.message) :: said)
  | .deactivate, .ok _ => w.enlist i
  | _, _ => (w.finish i (.start result), [])

/-- A stop has the lock. -/
def enterStop (w : State) (i : Nat) : Stepped :=
  match w.phase with
  | .created | .stopped => (w.finish i (.stop (.ok ())), [.log .debug "Stop ignored"])
  | _ =>
    let stopping := { w with phase := .stopping, slot := none }
    let (w, said) := match w.slot with
      | some c => stopping.goto i (.ending c)
      | none => stopping.endStop i (.ok ())
    (w, .log .info "Stopping language server" :: said)

/-- A call has the lock. -/
def enter (s : Setup) (w : State) (i : Nat) (job : Job) : Stepped :=
  match job with
  | .start =>
    if w.phase.canStart then w.relaunch s i
    else (w.setStage i (.leaving (.start (.ok ()))), [.log .debug "Start ignored"])
  | .restart lost =>
    if w.isNewest lost && w.phase.failure?.isSome then w.relaunch s i
    else (w.finish i (.start (.ok ())), [.log .debug "Restart superseded"])
  | .sync _ doc text =>
    if w.phase.isRunning then w.withSlot i (.sync w.documents doc text) else w.refuseDocument i
  | .close doc => if w.phase.isRunning then w.closeDocument i doc.uri else w.refuseDocument i
  | .stop | .started | .deactivate => w.enterStop i

/-! ### Giving up a connection -/

/-- A connection has been given up. -/
def discarded (s : Setup) (w : State) (i : Nat) (job : Job) : AfterDiscard → Stepped
  | .relaunch => w.launch s i
  | .refuse reason => w.failStart i job (.handshakeFailed reason)
  | .settle => w.endStop i (.ok ())

/-- A stop has seen its connection through; the problems it met decide its result. -/
def reaped (w : State) (i c : Nat) (problems : List String) : Stepped :=
  let w := w.modifyConnection c fun conn => { conn.endReader with held := false }
  if problems.isEmpty then
    let (w, said) := w.endStop i (.ok ())
    (w, .log .debug "Server shut down cleanly" :: said)
  else w.endStop i (.error ⟨String.intercalate "; " problems⟩)

/-! ### The next step -/

/-- The next step of a call; nothing while it has to wait. A call with documents to open again has
none of its own: which of them is the next is not for the call to say. -/
def stepCall (s : Setup) (w : State) (i : Nat) (call : Call) : Option Stepped :=
  let job := call.job
  match call.stage with
  | .arriving => some (w.arrive s i job)
  | .waiting => if w.line.head? = some i then some (w.enter s i job) else none
  | .joining start =>
    match (w.calls[start]?).bind (·.stage.outcome?) with
    | some (.start result) => some (w.joined i job result)
    | _ => none
  | .greeting c =>
    match Uri.ofPath s.options.root.toList with
    | some _ => some (w.goto i (.testing c .handshake))
    | none =>
      let reason := "converting workspace root to URI: " ++ Uri.pathFault s.options.root
      some (w.failAsk i c reason .handshake)
  | .announcing c =>
    w.queue c (.send (Message.notification "initialized" (some (.obj []))))
      (fun w => w.goto i (.reopening c w.documents))
      fun w => w.failAsk i c "writer channel closed while sending initialized" .handshake
  | .reopening c documents => if documents.isEmpty then some (w.goto i (.settling c)) else none
  | .settling c => some ({ w with slot := some c }.goto i (.raising c))
  | .raising c =>
    some ({ w with phase := .running }.setStage i (.verifying c),
      [.log .info "Language server running"])
  | .verifying c =>
    let (w, said) := if w.isClosed c then w.lose s c .processExited else (w, [])
    some (w.setStage i (.leaving (.start (.ok ()))), said)
  | .leaving outcome => some (w.finish i outcome, [])
  | .testing c ask =>
    if w.isClosed c then
      some (w.failAsk i c ("connection closed before " ++ ask.method) ask)
    else some (w.goto i (.registering c ask))
  | .registering c ask => do
    let conn ← w.connections[c]?
    return (w.modifyConnection c Connection.register).goto i (.retesting c ask conn.nextId)
  | .retesting c ask id =>
    if w.isClosed c then
      some ((w.modifyConnection c (·.release id)).failAsk i c
        ("connection closed before " ++ ask.method) ask)
    else some (w.goto i (.asking c ask id))
  | .asking c ask id => w.ask s i c ask id
  | .awaiting c ask id => w.await i c ask id
  | .ending c =>
    if w.isClosed c then some (w.goto i (.discarding c .settle))
    else some (w.goto i (.testing c .shutdown))
  | .exiting c =>
    w.queue c (.send (Message.notification "exit" none)) (goto i (.closing c []))
      (goto i (.closing c ["writer channel closed while sending exit"]))
  | .closing c problems =>
    w.queue c .close (goto i (.draining c problems)) (goto i (.draining c problems))
  | .draining c problems =>
    if (w.connections[c]?).all (·.writer.hasEnded) then some (w.goto i (.reaping c problems))
    else none
  | .concluding result => some ({ w with phase := .stopped }.goto i (.purging result))
  | .purging result => some (w.purge i result)
  | .discarding c next => w.queue c .close (goto i (.aborting c next)) (goto i (.aborting c next))
  | .aborting c next => some ((w.modifyConnection c Connection.abort).discarded s i job next)
  | .sending c notice => w.sendNotice i c notice
  | .forgetting uri outcome => some ({ w with store := w.store.forget uri }.finish i outcome, [])
  | .launching | .reaping _ _ | .done _ | .dropped => none

/-- A call has waited as long as it may. -/
def expire (s : Setup) (w : State) (i : Nat) (call : Call) : Option Stepped :=
  match call.stage with
  | .awaiting c ask id =>
    some ((w.modifyConnection c (·.release id)).failAsk i c
      (ask.method ++ " timed out after " ++ (ask.limit s.options).text) ask)
  | .draining c problems =>
    some ((w.modifyConnection c Connection.endWriter).goto i
      (.reaping c (problems ++ ["writer did not drain in time"])))
  | .reaping c problems =>
    some (w.reaped i c
      (problems ++ ["server did not exit within " ++ s.options.shutdown.text ++ ", killed"]))
  | _ => none

/-- The host stops waiting for a call, which goes no further; a connection that it had is let go. -/
def drop (w : State) (i : Nat) (call : Call) : Stepped :=
  let w := (w.leave i).setStage i .dropped
  match call.stage.owned? with
  | some c => (w.modifyConnection c fun conn => { conn with held := false }, [])
  | none => (w, [])

end State

end LanguageClient
