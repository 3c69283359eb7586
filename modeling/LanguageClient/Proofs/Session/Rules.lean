import LanguageClient.Proofs.Session.Run

/-!
# The rules by which a session moves

`State.step` is a function; here is what it amounts to, as rules that name each kind of step. A deed
is a step of a connection's own reader, writer or pipe. An exchange is a step in which a call that
holds the lock deals with its connection and does nothing else to the session. An advance is any
step of a call, and a turn is any step at all: `State.Turn.of_step`.

The rules leave out what goes to the log: `news` is the rest of what others see.
-/

namespace LanguageClient

/-! ### What is seen besides the log -/

def Effect.isLog : Effect → Bool
  | .log _ _ => true
  | _ => false

/-- What others see besides the log. -/
def news (said : List Effect) : List Effect := said.filter (!·.isLog)

@[simp] lemma news_nil : news [] = [] := rfl

@[simp] lemma news_log (level : Level) (text : String) (said : List Effect) :
    news (.log level text :: said) = news said := rfl

@[simp] lemma news_queued (c : Nat) (command : Command) (said : List Effect) :
    news (.queued c command :: said) = .queued c command :: news said := rfl

@[simp] lemma news_wrote (c : Nat) (bytes : List UInt8) (said : List Effect) :
    news (.wrote c bytes :: said) = .wrote c bytes :: news said := rfl

@[simp] lemma news_emitted (event : Event) (kept : Bool) (said : List Effect) :
    news (.emitted event kept :: said) = .emitted event kept :: news said := rfl

@[simp] lemma news_append (said later : List Effect) :
    news (said ++ later) = news said ++ news later := List.filter_append ..

@[simp] lemma news_ite_log (kept : Prop) [Decidable kept] (level : Level) (text : String) :
    news (if kept then [] else [.log level text]) = [] := by
  split <;> rfl

/-! ### Deeds of a connection -/

namespace Connection

/-- Put a command at the end of the outbox. -/
def push (c : Connection) (command : Command) : Connection :=
  { c with outbox := c.outbox ++ [command] }

/-- The outbox takes commands. -/
def Takes (c : Connection) : Prop := c.writer.hasEnded = false ∧ c.outbox.length < outboxSize

/-- What its tasks and its pipe do to connection `c`. -/
inductive Deed (c : Nat) (conn : Connection) : Action → Connection → List Effect → Prop
  | write {conn' : Connection} {written : Written} :
    conn.stepWriter = some (conn', written) →
      Deed c conn (.write c) conn' (news (State.noteWritten c written))
  /-- A request of the server gets its reply. -/
  | reply {reply : Json} :
    conn.reader = .replying reply → conn.Takes →
      Deed c conn (.read c) { conn.push (.send reply) with reader := .reading }
        [.queued c (.send reply)]
  | forgo {reply : Json} :
    conn.reader = .replying reply → conn.writer.hasEnded = true →
      Deed c conn (.read c) { conn with reader := .reading } []
  | close {failure : RuntimeFailure} :
    conn.reader = .closing failure →
      Deed c conn (.read c) { conn with closed := true, reader := .clearing failure } []
  | clear {failure : RuntimeFailure} :
    conn.reader = .clearing failure →
      Deed c conn (.read c) { conn with pending := [], reader := .reporting failure } []
  /-- A response answers a request that waits for it. -/
  | respond {frame : Json} {id : Nat} {body : Json} :
    conn.reader = .reading → Incoming.classify frame = some (.response id body) →
      id ∈ conn.pending →
      Deed c conn (.received c (.message frame))
        { conn with pending := conn.pending.erase id, answers := conn.answers ++ [(id, body)] } []
  /-- A request of the server is read. -/
  | request {frame id : Json} {method : String} {params : Option Json} :
    conn.reader = .reading → Incoming.classify frame = some (.request id method params) →
      Deed c conn (.received c (.message frame))
        { conn with reader := .replying (Message.reply id method params) } []
  | ended : conn.reader = .reading →
      Deed c conn (.received c .ended) { conn with reader := .closing .processExited } []
  | fault (f : Frame.Fault) : conn.reader = .reading →
      Deed c conn (.received c (.fault f))
        { conn with reader := .closing (.streamError f.message) } []
  | drained (count : Nat) :
      Deed c conn (.drained c count) { conn with room := conn.room + count } []
  | broken (reason : String) :
      Deed c conn (.broken c reason) { conn with fault := some reason } []

lemma write_eq {conn conn' : Connection} {header body : List UInt8} {written : Written}
    (h : conn.write header body = some (conn', written)) :
    conn' = { conn with room := conn'.room, outbox := conn'.outbox, writer := conn'.writer } := by
  rcases Option.eq_none_or_eq_some conn.fault with hfault | ⟨reason, hfault⟩
  · by_cases hroom : conn.room = 0
    · simp [write, hfault, hroom] at h
    · cases header <;>
        simp only [write, hfault, hroom, List.isEmpty_nil, List.isEmpty_cons, if_true, if_false,
          Bool.false_eq_true, Option.some.injEq] at h <;>
        obtain ⟨rfl, -⟩ := Prod.mk.inj h <;>
        simp [hfault]
  · simp only [write, hfault, Option.some.injEq] at h
    obtain ⟨rfl, -⟩ := Prod.mk.inj h
    rfl

/-- The writer touches nothing but the outbox, itself and the pipe. -/
lemma stepWriter_eq {conn conn' : Connection} {written : Written}
    (h : conn.stepWriter = some (conn', written)) :
    conn' = { conn with room := conn'.room, outbox := conn'.outbox, writer := conn'.writer } := by
  unfold stepWriter at h
  split at h
  · cases h
  · exact write_eq h
  · split at h
    · obtain ⟨rfl, -⟩ := Prod.mk.inj (Option.some.inj h)
      rfl
    · obtain ⟨rfl, -⟩ := Prod.mk.inj (Option.some.inj h)
      rfl
    · split at h
      · cases h
      · obtain ⟨rfl, -⟩ := Prod.mk.inj (Option.some.inj h)
        rfl

end Connection

/-! ### The loss of a connection -/

namespace State

variable (s : Setup) (w : State) (c : Nat) (failure : RuntimeFailure)

/-- Whether the loss of connection `c` matters to the session. -/
def Heeds : Prop := w.isNewest c = true ∧ w.phase = .running

lemma lose_of_not_heeds (h : ¬w.Heeds c) : w.lose s c failure = (w, []) := by
  have hignored : (!w.isNewest c || !w.phase.isRunning) = true := by
    by_contra hboth
    refine h ⟨by simp_all, ?_⟩
    cases hphase : w.phase <;> simp_all [Phase.isRunning]
  simp [lose, hignored]

/-- A loss that matters fails the session, and the policy decides whether there is a restart. -/
lemma lose_of_heeds (h : w.Heeds c) :
    (w.lose s c failure).1 =
      (let failed := { (w.emit (.connectionLost failure)).1 with
        phase := .failed (.runtime failure) }
      if s.options.restart.allows (w.restarts + 1) then
        { failed with restarts := w.restarts + 1 }.begin (.restart c)
      else failed) ∧
    news (w.lose s c failure).2 =
      [.emitted (.connectionLost failure) (w.emit (.connectionLost failure)).2] := by
  obtain ⟨hnewest, hrunning⟩ := h
  simp only [lose, hnewest, hrunning, Phase.isRunning, Bool.not_true, Bool.or_self,
    Bool.false_eq_true, if_false, publish, emit]
  by_cases hroom : w.events.length < eventsSize <;> simp only [hroom, if_true, if_false]
  all_goals split
  · exact ⟨rfl, rfl⟩
  · split <;> exact ⟨rfl, rfl⟩
  · exact ⟨rfl, rfl⟩
  · split <;> exact ⟨rfl, rfl⟩

lemma emit_fst (event : Event) :
    (w.emit event).1 = { w with events := (w.emit event).1.events } := by
  unfold emit
  split <;> rfl

/-- A loss touches nothing but the phase, the events, the count of restarts and the calls. -/
lemma lose_fst :
    (w.lose s c failure).1 =
      { w with
        phase := (w.lose s c failure).1.phase, events := (w.lose s c failure).1.events
        restarts := (w.lose s c failure).1.restarts, calls := (w.lose s c failure).1.calls } := by
  by_cases h : w.Heeds c
  · rw [(lose_of_heeds s w c failure h).1, emit_fst]
    dsimp only
    split <;> rfl
  · rw [lose_of_not_heeds s w c failure h]

lemma line_lose : (w.lose s c failure).1.line = w.line := by rw [lose_fst]

lemma slot_lose : (w.lose s c failure).1.slot = w.slot := by rw [lose_fst]

lemma documents_lose : (w.lose s c failure).1.documents = w.documents := by rw [lose_fst]

lemma connections_lose : (w.lose s c failure).1.connections = w.connections := by rw [lose_fst]

/-- A loss may add a restart to the calls. -/
lemma calls_lose :
    (w.lose s c failure).1.calls = w.calls ∨
      (w.lose s c failure).1.calls = w.calls ++ [⟨.restart c, .arriving⟩] := by
  by_cases h : w.Heeds c
  · rw [(lose_of_heeds s w c failure h).1, emit_fst]
    dsimp only
    split
    · exact .inr rfl
    · exact .inl rfl
  · rw [lose_of_not_heeds s w c failure h]
    exact .inl rfl

lemma phase_lose_of_heeds (h : w.Heeds c) :
    (w.lose s c failure).1.phase = .failed (.runtime failure) := by
  rw [(lose_of_heeds s w c failure h).1]
  dsimp only
  split <;> rfl

end State

/-! ### Exchanges -/

/-- Where a request leads that came to nothing. -/
def Ask.failed (c : Nat) (reason : String) : Ask → Stage
  | .handshake => .discarding c (.refuse reason)
  | .shutdown => .closing c [reason]

namespace State

/-- The outbox of connection `c` takes commands. -/
def Takes (w : State) (c : Nat) : Prop := ∃ conn, w.connections[c]? = some conn ∧ conn.Takes

/-- Nothing takes from the outbox of connection `c` any more. -/
def Refuses (w : State) (c : Nat) : Prop :=
  ∀ conn, w.connections[c]? = some conn → conn.writer.hasEnded = true

/-- A call that has connection `c` to itself goes from one stage to the next, and changes at most
that connection. -/
inductive Exchange (s : Setup) (w : State) (c : Nat) :
    Stage → (Connection → Connection) → Stage → List Effect → Prop
  | greeted : (Uri.ofPath s.options.root.toList).isSome →
      Exchange s w c (.greeting c) id (.testing c .handshake) []
  | rootless (reason : String) : Uri.ofPath s.options.root.toList = none →
      Exchange s w c (.greeting c) id (.discarding c (.refuse reason)) []
  | closedBefore (ask : Ask) (reason : String) : w.isClosed c = true →
      Exchange s w c (.testing c ask) id (ask.failed c reason) []
  | tested (ask : Ask) : w.isClosed c = false →
      Exchange s w c (.testing c ask) id (.registering c ask) []
  | registered (ask : Ask) {conn : Connection} : w.connections[c]? = some conn →
      Exchange s w c (.registering c ask) Connection.register (.retesting c ask conn.nextId) []
  | closedSince (ask : Ask) (n : Nat) (reason : String) : w.isClosed c = true →
      Exchange s w c (.retesting c ask n) (·.release n) (ask.failed c reason) []
  | retested (ask : Ask) (n : Nat) : w.isClosed c = false →
      Exchange s w c (.retesting c ask n) id (.asking c ask n) []
  | asked (ask : Ask) (n : Nat) : w.Takes c →
      Exchange s w c (.asking c ask n) (·.push (.send (requestFrame s n ask)))
        (.awaiting c ask n) [.queued c (.send (requestFrame s n ask))]
  | unasked (ask : Ask) (n : Nat) (reason : String) : w.Refuses c →
      Exchange s w c (.asking c ask n) (·.release n) (ask.failed c reason) []
  /-- The answer says that the request failed. -/
  | rejected (ask : Ask) (n : Nat) {conn : Connection} {body error : Json} (reason : String) :
      w.connections[c]? = some conn → conn.answer? n = some body →
      body.get? "error" = some error →
      Exchange s w c (.awaiting c ask n) (·.take n) (ask.failed c reason) []
  | welcomed (n : Nat) {conn : Connection} {body : Json} :
      w.connections[c]? = some conn → conn.answer? n = some body → body.get? "error" = none →
      Exchange s w c (.awaiting c .handshake n) (·.take n) (.announcing c) []
  | dismissed (n : Nat) {conn : Connection} {body : Json} :
      w.connections[c]? = some conn → conn.answer? n = some body → body.get? "error" = none →
      Exchange s w c (.awaiting c .shutdown n) (·.take n) (.exiting c) []
  /-- There is no answer and nobody to give one. -/
  | forsaken (ask : Ask) (n : Nat) {conn : Connection} (reason : String) :
      w.connections[c]? = some conn → conn.answer? n = none → n ∉ conn.pending →
      Exchange s w c (.awaiting c ask n) id (ask.failed c reason) []
  | timedOut (ask : Ask) (n : Nat) (reason : String) :
      Exchange s w c (.awaiting c ask n) (·.release n) (ask.failed c reason) []
  | announced : w.Takes c →
      Exchange s w c (.announcing c)
        (·.push (.send (Message.notification "initialized" (some (.obj [])))))
        (.reopening c w.documents)
        [.queued c (.send (Message.notification "initialized" (some (.obj []))))]
  | unannounced (reason : String) : w.Refuses c →
      Exchange s w c (.announcing c) id (.discarding c (.refuse reason)) []
  | reopened (place : Nat) {documents : Table OpenDocument} {uri : String} {doc : OpenDocument} :
      documents[place]? = some (uri, doc) → w.Takes c →
      Exchange s w c (.reopening c documents)
        (·.push (.send (Notice.opened uri doc).frame)) (.reopening c (documents.eraseIdx place))
        [.queued c (.send (Notice.opened uri doc).frame)]
  | unopened (place : Nat) {documents : Table OpenDocument} {uri : String} {doc : OpenDocument} :
      documents[place]? = some (uri, doc) → w.Refuses c →
      Exchange s w c (.reopening c documents) id (.reopening c (documents.eraseIdx place)) []
  | allReopened : Exchange s w c (.reopening c []) id (.settling c) []
  | foundClosed : w.isClosed c = true →
      Exchange s w c (.ending c) id (.discarding c .settle) []
  | foundOpen : w.isClosed c = false →
      Exchange s w c (.ending c) id (.testing c .shutdown) []
  | dismissing : w.Takes c →
      Exchange s w c (.exiting c) (·.push (.send (Message.notification "exit" none)))
        (.closing c []) [.queued c (.send (Message.notification "exit" none))]
  | undismissed (problems : List String) : w.Refuses c →
      Exchange s w c (.exiting c) id (.closing c problems) []
  | closing (problems : List String) : w.Takes c →
      Exchange s w c (.closing c problems) (·.push .close) (.draining c problems)
        [.queued c .close]
  | unclosed (problems : List String) : w.Refuses c →
      Exchange s w c (.closing c problems) id (.draining c problems) []
  | drained (problems : List String) : w.Refuses c →
      Exchange s w c (.draining c problems) id (.reaping c problems) []
  | undrained (problems later : List String) :
      Exchange s w c (.draining c problems) Connection.endWriter (.reaping c later) []
  | discarding (next : AfterDiscard) : w.Takes c →
      Exchange s w c (.discarding c next) (·.push .close) (.aborting c next) [.queued c .close]
  | undiscarded (next : AfterDiscard) : w.Refuses c →
      Exchange s w c (.discarding c next) id (.aborting c next) []

end State

/-! ### Advances -/

/-- The document of a document call. -/
def Job.document? : Job → Option Document
  | .sync _ doc _ | .close doc => some doc
  | _ => none

/-- Whether a call stops the session once it has the lock. -/
def Job.isStop : Job → Bool
  | .stop | .started | .deactivate => true
  | _ => false

/-- Where a document call goes once its notice has been sent or not. -/
def Notice.settled (result : Except NotifyError Forwarded) : Notice → Stage
  | .closed uri => .forgetting uri (.document result)
  | _ => .done (.document result)

/-- The call that goes on in an action. -/
def Action.caller? : Action → Option Nat
  | .proceed i | .reopen i _ | .expire i | .launched i _ | .exited i _ => some i
  | _ => none

namespace State

/-- A start or a restart that has the lock launches a server. -/
def MayLaunch (w : State) : Job → Prop
  | .start => w.phase.canStart = true
  | .restart lost => w.isNewest lost = true ∧ w.phase.failure?.isSome = true
  | _ => False

/-- Call `i` with its job goes on from a stage. -/
inductive Advance (s : Setup) (w : State) (i : Nat) :
    Job → Action → Stage → State → List Effect → Prop
  | exchange {job : Job} {a : Action} {c : Nat} {before after : Stage}
      {f : Connection → Connection} {said : List Effect} :
      a = .proceed i ∨ a = .expire i ∨
        (∃ place documents, a = .reopen i place ∧ before = .reopening c documents) →
      Exchange s w c before f after said →
      Advance s w i job a before ((w.modifyConnection c f).setStage i after) said
  -- On arrival.
  | outOfScope {job : Job} {doc : Document} : job.document? = some doc →
      s.selector.admits doc = false →
      Advance s w i job (.proceed i) .arriving (w.finish i (.document (.ok .outOfScope))) []
  | refused {job : Job} {doc : Document} (stage : Stage) : job.document? = some doc →
      stage = .arriving ∨ stage = .waiting ∧ w.line.head? = some i → w.phase.isRunning = false →
      Advance s w i job (.proceed i) stage
        (w.finish i (.document (.error (.notRunning w.phase.label)))) []
  | enlist {job : Job} : job ≠ .started → job ≠ .deactivate →
      (∀ doc, job.document? = some doc →
        s.selector.admits doc = true ∧ w.phase.isRunning = true) →
      Advance s w i job (.proceed i) .arriving
        ({ w with line := w.line ++ [i] }.setStage i .waiting) []
  | told : (∀ start, w.activation ≠ some (some start)) →
      Advance s w i .started (.proceed i) .arriving (w.finish i (.start w.startOutcome)) []
  | join {start : Nat} : w.activation = some (some start) →
      Advance s w i .started (.proceed i) .arriving
        ({ w with activation := some none }.setStage i (.joining start)) []
  | joinFirst {start : Nat} : w.activation = some (some start) →
      Advance s w i .deactivate (.proceed i) .arriving
        ({ w with activation := none }.setStage i (.joining start)) []
  | deactivate : (∀ start, w.activation ≠ some (some start)) →
      Advance s w i .deactivate (.proceed i) .arriving
        ({ w with activation := none, line := w.line ++ [i] }.setStage i .waiting) []
  -- After the start that a call waited for.
  | joined {start : Nat} {result : Except StartError Unit} :
      (w.calls[start]?).bind (·.stage.outcome?) = some (.start result) →
      Advance s w i .deactivate (.proceed i) (.joining start)
        ({ w with line := w.line ++ [i] }.setStage i .waiting) []
  | heard {job : Job} {start : Nat} {result : Except StartError Unit} : job ≠ .deactivate →
      (w.calls[start]?).bind (·.stage.outcome?) = some (.start result) →
      Advance s w i job (.proceed i) (.joining start) (w.finish i (.start result)) []
  -- With the lock.
  | ignored : w.line.head? = some i → w.phase.canStart = false →
      Advance s w i .start (.proceed i) .waiting (w.setStage i (.leaving (.start (.ok ())))) []
  | superseded {lost : Nat} : w.line.head? = some i → ¬w.MayLaunch (.restart lost) →
      Advance s w i (.restart lost) (.proceed i) .waiting (w.finish i (.start (.ok ()))) []
  | vacate {job : Job} {c : Nat} : w.line.head? = some i → w.MayLaunch job → w.slot = some c →
      Advance s w i job (.proceed i) .waiting
        ({ w with slot := none }.setStage i (.discarding c .relaunch)) []
  | launch {job : Job} : w.line.head? = some i → w.MayLaunch job → w.slot = none →
      Advance s w i job (.proceed i) .waiting
        ({ w with phase := .starting }.setStage i .launching) []
  | notify {opening : Bool} {doc : Document} {text : String} {c : Nat} :
      w.line.head? = some i → w.phase.isRunning = true → w.slot = some c →
      Advance s w i (.sync opening doc text) (.proceed i) .waiting
        (w.setStage i (.sending c (.sync w.documents doc text))) []
  | notifyNobody {opening : Bool} {doc : Document} {text : String} :
      w.line.head? = some i → w.phase.isRunning = true → w.slot = none →
      Advance s w i (.sync opening doc text) (.proceed i) .waiting
        ((w.leave i).setStage i ((Notice.sync w.documents doc text).settled
          (.error (.notRunning Phase.stopped.label)))) []
  | notOpen {doc : Document} : w.line.head? = some i → w.phase.isRunning = true →
      w.documents.find? doc.uri = none →
      Advance s w i (.close doc) (.proceed i) .waiting
        (w.finish i (.document (.ok .notOpen))) []
  | notifyClosed {doc : Document} {c : Nat} : w.line.head? = some i →
      w.phase.isRunning = true → (w.documents.find? doc.uri).isSome → w.slot = some c →
      Advance s w i (.close doc) (.proceed i) .waiting
        ({ w with documents := w.documents.erase doc.uri }.setStage i
          (.sending c (.closed doc.uri))) []
  | closeNobody {doc : Document} : w.line.head? = some i → w.phase.isRunning = true →
      (w.documents.find? doc.uri).isSome → w.slot = none →
      Advance s w i (.close doc) (.proceed i) .waiting
        (({ w with documents := w.documents.erase doc.uri }.leave i).setStage i
          ((Notice.closed doc.uri).settled (.error (.notRunning Phase.stopped.label)))) []
  | stopIgnored {job : Job} : w.line.head? = some i → job.isStop = true →
      w.phase = .created ∨ w.phase = .stopped →
      Advance s w i job (.proceed i) .waiting (w.finish i (.stop (.ok ()))) []
  | stop {job : Job} {c : Nat} : w.line.head? = some i → job.isStop = true →
      w.phase ≠ .created → w.phase ≠ .stopped → w.slot = some c →
      Advance s w i job (.proceed i) .waiting
        ({ w with phase := .stopping, slot := none }.setStage i (.ending c)) []
  | stopNobody {job : Job} : w.line.head? = some i → job.isStop = true →
      w.phase ≠ .created → w.phase ≠ .stopped → w.slot = none →
      Advance s w i job (.proceed i) .waiting
        ({ w with phase := .stopping, slot := none }.setStage i (.concluding (.ok ()))) []
  -- On the way to a running session.
  | launchFailed {job : Job} (reason : String) :
      Advance s w i job (.launched i (.error reason)) .launching
        ({ w with phase := .failed (.start (.launchFailed s.command.command reason)) }.finish i
          (.start (.error (.launchFailed s.command.command reason)))) []
  | launched {job : Job} (room : Nat) :
      Advance s w i job (.launched i (.ok room)) .launching
        ({ w with connections := w.connections ++ [Connection.fresh room] }.setStage i
          (.greeting w.connections.length)) []
  | settle {job : Job} (c : Nat) :
      Advance s w i job (.proceed i) (.settling c)
        ({ w with slot := some c }.setStage i (.raising c)) []
  | raise {job : Job} (c : Nat) :
      Advance s w i job (.proceed i) (.raising c)
        ({ w with phase := .running }.setStage i (.verifying c)) []
  | lose {job : Job} {c : Nat} : w.isClosed c = true →
      Advance s w i job (.proceed i) (.verifying c)
        ((w.lose s c .processExited).1.setStage i (.leaving (.start (.ok ()))))
        (news (w.lose s c .processExited).2)
  | verify {job : Job} {c : Nat} : w.isClosed c = false →
      Advance s w i job (.proceed i) (.verifying c)
        (w.setStage i (.leaving (.start (.ok ())))) []
  | leave {job : Job} (outcome : Outcome) :
      Advance s w i job (.proceed i) (.leaving outcome) (w.finish i outcome) []
  -- On the way to a stopped one.
  | reaped {job : Job} {a : Action} {c : Nat} {problems : List String}
      (result : Except StopError Unit) : a = .expire i ∨ (∃ problem, a = .exited i problem) →
      Advance s w i job a (.reaping c problems)
        ((w.modifyConnection c fun conn => { conn.endReader with held := false }).setStage i
          (.concluding result)) []
  | conclude {job : Job} (result : Except StopError Unit) :
      Advance s w i job (.proceed i) (.concluding result)
        ({ w with phase := .stopped }.setStage i (.purging result)) []
  | purge {job : Job} (result : Except StopError Unit) :
      Advance s w i job (.proceed i) (.purging result)
        ({ w with events := [], store := .empty }.finish i (.stop result)) []
  -- When a connection has been given up.
  | relaunch {job : Job} (c : Nat) :
      Advance s w i job (.proceed i) (.aborting c .relaunch)
        ({ w.modifyConnection c Connection.abort with phase := .starting }.setStage i .launching) []
  | refuse {job : Job} (c : Nat) (reason : String) :
      Advance s w i job (.proceed i) (.aborting c (.refuse reason))
        ({ w.modifyConnection c Connection.abort with
          phase := .failed (.start (.handshakeFailed reason)) }.finish i
          (.start (.error (.handshakeFailed reason)))) []
  | aborted {job : Job} (c : Nat) :
      Advance s w i job (.proceed i) (.aborting c .settle)
        ((w.modifyConnection c Connection.abort).setStage i (.concluding (.ok ()))) []
  -- With a notice.
  | sent {job : Job} {c : Nat} (notice : Notice) : w.Takes c →
      Advance s w i job (.proceed i) (.sending c notice)
        (({ w.modifyConnection c (·.push (.send notice.frame)) with
          documents := notice.apply w.documents }.leave i).setStage i (notice.settled (.ok .sent)))
        [.queued c (.send notice.frame)]
  | unsent {job : Job} {c : Nat} (notice : Notice) : w.Refuses c →
      Advance s w i job (.proceed i) (.sending c notice)
        ((w.leave i).setStage i (notice.settled (.error (.connectionClosed notice.method)))) []
  | forget {job : Job} (uri : String) (outcome : Outcome) :
      Advance s w i job (.proceed i) (.forgetting uri outcome)
        ({ w with store := w.store.forget uri }.finish i outcome) []

/-- It is the call of its action. -/
lemma Advance.caller {s : Setup} {w w' : State} {i : Nat} {job : Job} {a : Action} {stage : Stage}
    {said : List Effect} (h : Advance s w i job a stage w' said) : a.caller? = some i := by
  cases h with
  | exchange ha => rcases ha with rfl | rfl | ⟨_, _, rfl, -⟩ <;> rfl
  | reaped _ ha => rcases ha with rfl | ⟨_, rfl⟩ <;> rfl
  | _ => rfl

end State

/-- No call goes on in a deed. -/
lemma Connection.Deed.no_caller {c : Nat} {conn conn' : Connection} {a : Action}
    {said : List Effect} (h : conn.Deed c a conn' said) : a.caller? = none := by
  cases h <;> rfl

namespace State

/-! ### Turns -/

/-- A step of a session. -/
inductive Turn (s : Setup) (w : State) : Action → State → List Effect → Prop
  | call (job : Job) : Turn s w (.call job) (w.begin job) []
  | activate : Turn s w .activate
      { w.begin .start with activation := some (some w.calls.length) } []
  | poll (budget : Nat) : Turn s w (.poll budget) (w.poll budget).1 []
  | drop {i : Nat} {call : Call} : w.calls[i]? = some call → call.canDrop = true →
      Turn s w (.drop i) (w.drop i call).1 []
  | advance {a : Action} {i : Nat} {job : Job} {stage : Stage} {w' : State}
      {said : List Effect} : w.calls[i]? = some ⟨job, stage⟩ →
      Advance s w i job a stage w' said → Turn s w a w' said
  | deed {a : Action} {c : Nat} {conn conn' : Connection} {said : List Effect} :
      w.connections[c]? = some conn → conn.Deed c a conn' said →
      Turn s w a (w.modifyConnection c fun _ => conn') said
  /-- Diagnostics have been published. -/
  | publish {c : Nat} {conn : Connection} {frame params : Json} {p : Published} :
      w.connections[c]? = some conn → conn.reader = .reading →
      Incoming.classify frame = some (.notification "textDocument/publishDiagnostics" params) →
      Published.decode params = .ok p →
      Turn s w (.received c (.message frame)) (w.emit (.diagnostics p.uri p.items)).1
        [.emitted (.diagnostics p.uri p.items) (w.emit (.diagnostics p.uri p.items)).2]
  /-- A frame has come that changes nothing. -/
  | overlook {c : Nat} {conn : Connection} {frame : Json} :
      w.connections[c]? = some conn → conn.reader = .reading →
      Turn s w (.received c (.message frame)) w []
  | report {c : Nat} {conn : Connection} {failure : RuntimeFailure} :
      w.connections[c]? = some conn → conn.reader = .reporting failure →
      Turn s w (.read c) ((w.modifyConnection c Connection.endReader).lose s c failure).1
        (news ((w.modifyConnection c Connection.endReader).lose s c failure).2)

/-- In an action of a call it is the call that goes on. -/
lemma Turn.of_caller {s : Setup} {w w' : State} {a : Action} {i : Nat} {said : List Effect}
    (h : Turn s w a w' said) (hcaller : a.caller? = some i) :
    ∃ (job : Job) (stage : Stage), w.calls[i]? = some ⟨job, stage⟩ ∧
      Advance s w i job a stage w' said := by
  cases h with
  | advance hi hadv =>
    obtain rfl := Option.some.inj (hadv.caller.symm.trans hcaller)
    exact ⟨_, _, hi, hadv⟩
  | deed _ hdeed =>
    rw [hdeed.no_caller] at hcaller
    cases hcaller
  | _ => cases hcaller

end State

end LanguageClient
