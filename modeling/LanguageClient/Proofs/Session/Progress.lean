import LanguageClient.Proofs.Session.Final

/-!
# What a start or a stop can wait for

A call that turns the session on or off goes on by itself, by its timers or by the call that has the
lock, but for one place: no timer runs while a command waits for room in an outbox. A server that
takes nothing more from its pipe holds up the writer, the full outbox holds up the call that has the
lock, and that call all others. `Run.goes_on_iff` says that this is the only such state.
-/

namespace LanguageClient

/-- Whether the client takes an action by itself: a call, its timer or its launcher, which gives up
after a time, a writer or a reader. -/
def Action.isClient : Action → Bool
  | .proceed _ | .reopen _ _ | .expire _ | .launched _ _ | .write _ | .read _ => true
  | _ => false

/-! ### Outboxes -/

namespace Connection

variable {conn : Connection}

/-- The outbox neither takes a command nor refuses it. -/
def Chokes (conn : Connection) : Prop :=
  conn.writer.hasEnded = false ∧ outboxSize ≤ conn.outbox.length

/-- The outbox is full, and the writer is held up in the middle of a frame. -/
structure Clogged (conn : Connection) : Prop where
  full : outboxSize ≤ conn.outbox.length
  midway : ∃ header body, conn.writer = .writing header body
  room : conn.room = 0
  fault : conn.fault = none

lemma Clogged.chokes (h : conn.Clogged) : conn.Chokes := by
  obtain ⟨header, body, hwriter⟩ := h.midway
  refine ⟨?_, h.full⟩
  rw [hwriter]
  rfl

lemma write_eq_none_iff {header body : List UInt8} :
    conn.write header body = none ↔ conn.room = 0 ∧ conn.fault = none := by
  rcases Option.eq_none_or_eq_some conn.fault with hfault | ⟨reason, hfault⟩
  · by_cases hroom : conn.room = 0
    · simp [write, hfault, hroom]
    · cases header <;> simp [write, hfault, hroom]
  · simp [write, hfault]

/-- A writer before a full outbox goes on until the pipe takes no more. -/
lemma Chokes.clogged_iff (h : conn.Chokes) : conn.stepWriter = none ↔ conn.Clogged := by
  obtain ⟨halive, hfull⟩ := h
  constructor
  · intro hnone
    unfold stepWriter at hnone
    split at hnone
    case h_1 hwriter =>
      rw [hwriter] at halive
      cases halive
    case h_2 header body hwriter =>
      obtain ⟨hroom, hfault⟩ := write_eq_none_iff.mp hnone
      exact ⟨hfull, ⟨header, body, hwriter⟩, hroom, hfault⟩
    case h_3 =>
      split at hnone
      case h_1 => cases hnone
      case h_2 => cases hnone
      case h_3 hempty =>
        rw [hempty] at hfull
        cases hfull
  · intro hclogged
    obtain ⟨header, body, hwriter⟩ := hclogged.midway
    simp only [stepWriter, hwriter]
    exact write_eq_none_iff.mpr ⟨hclogged.room, hclogged.fault⟩

end Connection

/-- The connection on which a call is to queue a command next. -/
def Stage.outlet? : Stage → Option Nat
  | .asking c _ _ | .announcing c | .reopening c (_ :: _) | .exiting c | .closing c _
  | .discarding c _ | .sending c _ => some c
  | _ => none

namespace State

variable {s : Setup} {w : State} {i k c : Nat} {call : Call} {conn : Connection}

lemma queue_eq_none_iff {command : Command} {accepted refused : State → Stepped} :
    w.queue c command accepted refused = none ↔
      ∃ conn, w.connections[c]? = some conn ∧ conn.Chokes := by
  unfold queue
  cases hc : w.connections[c]? with
  | none => simp
  | some conn =>
    by_cases hended : conn.writer.hasEnded = true
    · simp [Connection.offer, Connection.Chokes, hended]
    · by_cases hroom : conn.outbox.length < Connection.outboxSize
      · simp [Connection.offer, Connection.Chokes, hended, hroom]
      · simp [Connection.offer, Connection.Chokes, hended, hroom, Nat.le_of_not_lt hroom]

/-- A call that is to queue a command waits exactly for the outbox. -/
lemma stepCall_eq_none_iff (houtlet : call.stage.outlet? = some c)
    (hreopening : ∀ k documents, call.stage ≠ .reopening k documents) :
    w.stepCall s i call = none ↔ ∃ conn, w.connections[c]? = some conn ∧ conn.Chokes := by
  obtain ⟨job, stage⟩ := call
  cases stage with
  | reopening k documents => exact absurd rfl (hreopening k documents)
  | asking | announcing | exiting | closing | discarding | sending =>
    obtain rfl := Option.some.inj houtlet
    simp only [stepCall, ask, sendNotice]
    exact queue_eq_none_iff
  | _ => cases houtlet

/-- So does one that is to open a document again. -/
lemma reopen_eq_none_iff {documents : Table OpenDocument} {place : Nat}
    (hplace : place < documents.length) :
    w.reopen i c documents place = none ↔
      ∃ conn, w.connections[c]? = some conn ∧ conn.Chokes := by
  simp only [reopen, List.getElem?_eq_getElem hplace]
  exact queue_eq_none_iff

/-! ### Calls that do not go on -/

/-- A call takes no step: it neither goes on nor gives up, it has no launcher, and it can open no
document again. -/
structure Stuck (s : Setup) (w : State) (i : Nat) (call : Call) : Prop where
  waits : w.stepCall s i call = none
  untimed : w.expire s i call = none
  launching : call.stage ≠ .launching
  reopening : ∀ c documents place, call.stage = .reopening c documents →
    w.reopen i c documents place = none

lemma expire_of_outlet (houtlet : call.stage.outlet? = some c) : w.expire s i call = none := by
  obtain ⟨job, stage⟩ := call
  cases stage <;> first | rfl | cases houtlet

/-- A call that is to queue a command on an outbox that does not move does not move either. -/
lemma Stuck.of_chokes (houtlet : call.stage.outlet? = some c) (hc : w.connections[c]? = some conn)
    (hchokes : conn.Chokes) : Stuck s w i call := by
  obtain ⟨job, stage⟩ := call
  cases stage with
  | reopening k documents =>
    cases documents with
    | nil => cases houtlet
    | cons e rest =>
      obtain rfl := Option.some.inj houtlet
      refine ⟨rfl, rfl, by simp, ?_⟩
      rintro c documents place ⟨⟩
      rcases Nat.lt_or_ge place (e :: rest).length with hplace | hplace
      · exact (reopen_eq_none_iff hplace).mpr ⟨conn, hc, hchokes⟩
      · simp [reopen, List.getElem?_eq_none hplace]
  | launching => cases houtlet
  | _ =>
    refine ⟨?_, expire_of_outlet houtlet, by simp, by simp⟩
    exact (stepCall_eq_none_iff houtlet (by simp)).mpr ⟨conn, hc, hchokes⟩

/-! ### The call that has the lock -/

lemma step_proceed (hi : w.calls[i]? = some call) :
    w.step s (.proceed i) = w.stepCall s i call := by
  simp [step, hi]

lemma step_reopen {job : Job} {documents : Table OpenDocument}
    (hi : w.calls[i]? = some ⟨job, .reopening c documents⟩) (place : Nat) :
    w.step s (.reopen i place) = w.reopen i c documents place := by
  simp [step, hi]

/-- Where a call has a timer, the timer ends the wait. -/
lemma step_expire (hi : w.calls[i]? = some call)
    (htimer : (call.stage.limit? s.options).isSome = true) (hwaits : w.stepCall s i call = none) :
    (w.step s (.expire i)).isSome = true := by
  obtain ⟨job, stage⟩ := call
  cases stage with
  | awaiting | draining | reaping => simp [step, hi, hwaits, expire]
  | _ => cases htimer

/-- Away from the outboxes a call that has the lock goes on, or has a timer, or a launcher. -/
lemma Sound.stepCall_of_inside (h : Sound False w) (hi : w.calls[i]? = some call)
    (hin : call.stage.isInside = true) (houtlet : call.stage.outlet? = none) :
    (w.stepCall s i call).isSome = true ∨ (call.stage.limit? s.options).isSome = true ∨
      call.stage = .launching := by
  obtain ⟨job, stage⟩ := call
  cases stage with
  | launching => exact .inr (.inr rfl)
  | awaiting | draining | reaping => exact .inr (.inl rfl)
  | registering c ask =>
    left
    obtain ⟨conn, hc⟩ := (h.of_owned hi rfl).1.getElem?
    simp [stepCall, hc]
  | reopening c documents =>
    cases documents with
    | nil => exact .inl rfl
    | cons e rest => cases houtlet
  | greeting | testing | retesting | ending =>
    left
    simp only [stepCall]
    split <;> rfl
  | settling | raising | verifying | leaving | concluding | purging | aborting => exact .inl rfl
  | asking | announcing | exiting | closing | discarding | sending => cases houtlet
  | _ => cases hin

/-- A call that is to queue a command can open a document again, or waits for the outbox. -/
lemma head_goes_of_outlet (hk : w.calls[k]? = some call) (houtlet : call.stage.outlet? = some c)
    (hnext : w.stepCall s k call = none) :
    (∃ a, a.isClient = true ∧ a.caller? = some k ∧ (w.step s a).isSome = true) ∨
      ∃ c conn, call.stage.outlet? = some c ∧ w.connections[c]? = some conn ∧ conn.Chokes := by
  obtain ⟨job, stage⟩ := call
  cases stage with
  | reopening j documents =>
    cases documents with
    | nil => cases houtlet
    | cons e rest =>
      cases hopen : w.reopen k j (e :: rest) 0 with
      | some next =>
        refine .inl ⟨.reopen k 0, rfl, rfl, ?_⟩
        rw [step_reopen hk, hopen]
        rfl
      | none =>
        obtain ⟨conn, hc, hchokes⟩ := (reopen_eq_none_iff (Nat.zero_lt_succ _)).mp hopen
        exact .inr ⟨j, conn, rfl, hc, hchokes⟩
  | _ =>
    obtain ⟨conn, hc, hchokes⟩ := (stepCall_eq_none_iff houtlet (by simp)).mp hnext
    exact .inr ⟨c, conn, houtlet, hc, hchokes⟩

/-- The call that has the lock goes on, or waits for an outbox. -/
lemma Sound.head_goes (h : Sound False w) (hhead : w.line.head? = some k)
    (hk : w.calls[k]? = some call) :
    (∃ a, a.isClient = true ∧ a.caller? = some k ∧ (w.step s a).isSome = true) ∨
      ∃ c conn, call.stage.outlet? = some c ∧ w.connections[c]? = some conn ∧ conn.Chokes := by
  have hproceed (hsome : (w.stepCall s k call).isSome = true) :
      ∃ a, a.isClient = true ∧ a.caller? = some k ∧ (w.step s a).isSome = true := by
    refine ⟨.proceed k, rfl, rfl, ?_⟩
    rwa [step_proceed hk]
  have hline : call.stage.isInLine = true := by
    obtain ⟨call', hk', hline⟩ := (h.ordered.mem_iff k).mp (List.mem_of_mem_head? hhead)
    obtain rfl := Option.some.inj (hk.symm.trans hk')
    exact hline
  cases hnext : w.stepCall s k call with
  | some next => exact .inl (hproceed (by rw [hnext]; rfl))
  | none =>
    cases hin : call.stage.isInside with
    | false =>
      have hwaiting : call.stage = .waiting := Stage.eq_waiting hline hin
      simp [stepCall, hwaiting, hhead] at hnext
    | true =>
      cases houtlet : call.stage.outlet? with
      | some c =>
        rw [← houtlet]
        exact head_goes_of_outlet hk houtlet hnext
      | none =>
        left
        rcases h.stepCall_of_inside hk hin houtlet with hsome | htimer | hlaunching
        · exact hproceed hsome
        · exact ⟨.expire k, rfl, rfl, step_expire hk htimer hnext⟩
        · refine ⟨.launched k (.error ""), rfl, rfl, ?_⟩
          simp [step, hk, hlaunching]

/-! ### The calls in line -/

/-- An action that brings call `i` on: its own, one of the call that has the lock, or one of the
writer that makes room for that. -/
def Drives (w : State) (i : Nat) (a : Action) : Prop :=
  a.caller? = some i ∨ ∃ k call, w.line.head? = some k ∧ w.calls[k]? = some call ∧
    (a.caller? = some k ∨ ∃ c, call.stage.outlet? = some c ∧ a = .write c)

/-- The call that has the lock is to queue a command on a connection that is clogged. -/
def Blocked (w : State) : Prop :=
  ∃ k call c conn, w.line.head? = some k ∧ w.calls[k]? = some call ∧
    call.stage.outlet? = some c ∧ w.connections[c]? = some conn ∧ conn.Clogged

lemma step_write (hc : w.connections[c]? = some conn) :
    (w.step s (.write c)).isSome = conn.stepWriter.isSome := by
  cases h : conn.stepWriter <;> simp [step, hc, stepWriter, h]

/-- A call in line goes on unless the call that has the lock is blocked. -/
lemma Sound.driven (h : Sound False w) (hi : w.calls[i]? = some call)
    (hline : call.stage.isInLine = true) (hfree : ¬w.Blocked) :
    ∃ a, a.isClient = true ∧ w.Drives i a ∧ (w.step s a).isSome = true := by
  have hmem : i ∈ w.line := (h.ordered.mem_iff i).mpr ⟨call, hi, hline⟩
  obtain ⟨k, hhead⟩ : ∃ k, w.line.head? = some k := by
    cases hempty : w.line with
    | nil =>
      rw [hempty] at hmem
      cases hmem
    | cons k rest => exact ⟨k, rfl⟩
  obtain ⟨first, hk, -⟩ := (h.ordered.mem_iff k).mp (List.mem_of_mem_head? hhead)
  rcases h.head_goes (s := s) hhead hk with ⟨a, hclient, hcaller, hstep⟩ | ⟨c, conn, hc⟩
  · exact ⟨a, hclient, .inr ⟨k, first, hhead, hk, .inl hcaller⟩, hstep⟩
  · obtain ⟨houtlet, hconn, hchokes⟩ := hc
    refine ⟨.write c, rfl, .inr ⟨k, first, hhead, hk, .inr ⟨c, houtlet, rfl⟩⟩, ?_⟩
    rw [step_write hconn, Option.isSome_iff_ne_none]
    intro hnone
    exact hfree ⟨k, first, c, conn, hhead, hk, houtlet, hconn, hchokes.clogged_iff.mp hnone⟩

/-- A call that can only be brought on by others takes no step of its own. -/
lemma Stuck.step_eq_none (h : Stuck s w i call) (hi : w.calls[i]? = some call) {a : Action}
    (hclient : a.isClient = true) (hcaller : a.caller? = some i) : w.step s a = none := by
  cases a with
  | proceed k =>
    obtain rfl := Option.some.inj hcaller
    rw [step_proceed hi, h.waits]
  | reopen k place =>
    obtain rfl := Option.some.inj hcaller
    obtain ⟨job, stage⟩ := call
    cases stage with
    | reopening c documents =>
      rw [step_reopen hi]
      exact h.reopening c documents place rfl
    | _ => simp [step, hi]
  | expire k =>
    obtain rfl := Option.some.inj hcaller
    simp [step, hi, h.waits, h.untimed]
  | launched k result =>
    obtain rfl := Option.some.inj hcaller
    obtain ⟨job, stage⟩ := call
    cases stage with
    | launching => exact absurd rfl h.launching
    | _ => simp [step, hi]
  | exited => cases hclient
  | _ => cases hcaller

/-- Nothing is possible for the client when no call, no writer and no reader can go on. -/
lemma step_eq_none_of_stuck
    (hcalls : ∀ i call, w.calls[i]? = some call → Stuck s w i call)
    (hconnections : ∀ c conn, w.connections[c]? = some conn →
      conn.stepWriter = none ∧ w.stepReader s c conn = none)
    {a : Action} (hclient : a.isClient = true) : w.step s a = none := by
  cases a with
  | proceed i | reopen i | expire i | launched i =>
    cases hi : w.calls[i]? with
    | none => simp [step, hi]
    | some call => exact (hcalls i call hi).step_eq_none hi hclient rfl
  | write c =>
    cases hc : w.connections[c]? with
    | none => simp [step, hc]
    | some conn => simp [step, hc, stepWriter, (hconnections c conn hc).1]
  | read c =>
    cases hc : w.connections[c]? with
    | none => simp [step, hc]
    | some conn => simp [step, hc, (hconnections c conn hc).2]
  | _ => cases hclient

/-- While the call that has the lock is blocked, nothing that the client does brings a call in line
on. -/
lemma Sound.not_driven (h : Sound False w) (hi : w.calls[i]? = some call)
    (hline : call.stage.isInLine = true) (hblocked : w.Blocked) {a : Action}
    (hclient : a.isClient = true) (hdrives : w.Drives i a) : w.step s a = none := by
  obtain ⟨k, first, c, conn, hhead, hk, houtlet, hc, hclogged⟩ := hblocked
  have hfirst (hcaller : a.caller? = some k) : w.step s a = none :=
    (Stuck.of_chokes houtlet hc hclogged.chokes).step_eq_none hk hclient hcaller
  rcases hdrives with hcaller | ⟨k', first', hhead', hk', hdrives⟩
  · rcases eq_or_ne i k with rfl | hne
    · exact hfirst hcaller
    · -- Whoever is not first in line has not begun to use the lock.
      have hout : call.stage.isInside = false := by
        by_contra hin
        have hsame := h.ordered.head hi (by simpa using hin)
        exact hne (Option.some.inj (hsame.symm.trans hhead))
      have hwaiting : call.stage = .waiting := Stage.eq_waiting hline hout
      obtain ⟨job, stage⟩ := call
      obtain rfl : stage = .waiting := hwaiting
      have hwaits : w.stepCall s i ⟨job, .waiting⟩ = none := by simp [stepCall, hhead, hne.symm]
      exact Stuck.step_eq_none ⟨hwaits, rfl, by simp, by simp⟩ hi hclient hcaller
  · obtain rfl := Option.some.inj (hhead.symm.trans hhead')
    obtain rfl := Option.some.inj (hk.symm.trans hk')
    rcases hdrives with hcaller | ⟨c', houtlet', rfl⟩
    · exact hfirst hcaller
    · obtain rfl := Option.some.inj (houtlet.symm.trans houtlet')
      have hnone := step_write (s := s) hc
      rw [hclogged.chokes.clogged_iff.mpr hclogged] at hnone
      simpa using hnone

end State

namespace Run

variable {s : Setup} {past : List Moment} {w : State} {i : Nat} {call : Call}

/--
A start, a restart or a stop that has been asked for and has no answer yet is brought on by a step
that the client can take by itself, be it only the end of a timer, in every state but one kind: the
call is in line for the lock, and whoever has the lock is to queue a command on a connection whose
outbox is full and whose writer is held up by a full pipe. A call that joins a start in the
background asks for nothing of its own until that start, itself such a call, has its answer.
-/
theorem goes_on_iff (h : Run s past w) (hi : w.calls[i]? = some call)
    (hjob : call.job.isLifecycle = true) (hpending : call.stage.hasEnded = false)
    (hasked : ∀ start, call.stage ≠ .joining start) :
    (∃ a, a.isClient = true ∧ w.Drives i a ∧ (w.step s a).isSome = true) ↔
      ¬(call.stage.isInLine = true ∧ w.Blocked) := by
  have hsound : State.Sound False w := h.sound nofun
  constructor
  · rintro ⟨a, hclient, hdrives, hstep⟩ ⟨hline, hblocked⟩
    rw [hsound.not_driven hi hline hblocked hclient hdrives] at hstep
    cases hstep
  · intro hfree
    cases hline : call.stage.isInLine with
    | true => exact hsound.driven hi hline fun hblocked => hfree ⟨hline, hblocked⟩
    | false =>
      have hsuits : call.job.suits call.stage = true := hsound.suited hi
      obtain ⟨job, stage⟩ := call
      have harriving : stage = .arriving := by
        cases stage with
        | arriving => rfl
        | joining start => exact absurd rfl (hasked start)
        | forgetting =>
          have hdoc : job.document?.isSome = true := hsuits
          cases job with
          | sync | close => cases hjob
          | _ => cases hdoc
        | done | dropped => cases hpending
        | _ => cases hline
      subst harriving
      refine ⟨.proceed i, rfl, .inl rfl, ?_⟩
      rw [State.step_proceed hi]
      rfl

/-- A stop waits behind a start whose server has not answered the handshake: the timer of the start
brings it on. -/
theorem goes_on_behind_start :
    ∃ past w, Run .stock past w ∧ w.calls[1]? = some ⟨.stop, .waiting⟩ ∧ w.line = [0, 1] ∧
      ∃ a, a.isClient = true ∧ w.Drives 1 a ∧ (w.step .stock a).isSome = true := by
  obtain ⟨past, w, hplay, hi, hfirst, hline⟩ :
      ∃ past w, State.initial.play .stock (Action.firstStart.take 9 ++
        [Action.call .stop, .proceed 1]) = some (past, w) ∧
        w.calls[1]? = some ⟨.stop, .waiting⟩ ∧
        w.calls[0]? = some ⟨.start, .awaiting 0 .handshake 1⟩ ∧ w.line = [0, 1] :=
    ⟨_, _, rfl, rfl, rfl, rfl⟩
  refine ⟨past, w, of_play hplay, hi, hline, ?_⟩
  refine ((of_play hplay).goes_on_iff hi rfl rfl nofun).mpr ?_
  rintro ⟨-, k, call, c, conn, hhead, hk, houtlet, -⟩
  rw [hline] at hhead
  obtain rfl := Option.some.inj hhead
  obtain rfl := Option.some.inj (hfirst.symm.trans hk)
  cases houtlet

end Run

/-! ### A flood -/

namespace Connection

/-- A connection with more replies in its outbox. -/
def owing (n : Nat) (reply : Json) (conn : Connection) : Connection :=
  { conn with outbox := conn.outbox ++ List.replicate n (.send reply) }

lemma owing_owing (n m : Nat) (reply : Json) (conn : Connection) :
    (conn.owing n reply).owing m reply = conn.owing (n + m) reply := by
  simp [owing]

end Connection

namespace State

variable {s : Setup} {w : State} {c : Nat} {conn : Connection} {frame key : Json}
  {method : String} {params : Option Json}

lemma modifyConnection_modifyConnection (w : State) (c : Nat) (f g : Connection → Connection) :
    (w.modifyConnection c f).modifyConnection c g = w.modifyConnection c (g ∘ f) := by
  simp [modifyConnection, List.modify_modify_eq]

/-- While there is room in the outbox, a request is read and its reply queued. -/
lemma play_asked (hc : w.connections[c]? = some conn) (hreader : conn.reader = .reading)
    (hwriter : conn.writer.hasEnded = false)
    (hroom : conn.outbox.length < Connection.outboxSize)
    (hframe : Incoming.classify frame = some (.request key method params)) :
    ∃ later, w.play s [.received c (.message frame), .read c] =
      some (later,
        w.modifyConnection c (Connection.owing 1 (Message.reply key method params))) := by
  let reply := Message.reply key method params
  let asked := w.modifyConnection c fun conn => { conn with reader := .replying reply }
  have hreceived : w.step s (.received c (.message frame)) =
      some (asked, noteRequest s method) := by
    simp [step, hc, hreader, Reader.isReading, receive, dispatch, hframe, asked, reply]
  have hasked : asked.connections[c]? = some { conn with reader := .replying reply } := by
    simp [asked, modifyConnection, hc]
  have hread : asked.step s (.read c) =
      some (w.modifyConnection c (Connection.owing 1 reply), [.queued c (.send reply)]) := by
    simp only [step, hasked, Option.bind_eq_bind, Option.bind_some, stepReader, Connection.offer,
      hwriter, Bool.false_eq_true, if_false, hroom, if_true]
    simp only [asked, modifyConnection_modifyConnection]
    refine congrArg some (Prod.ext (modifyConnection_congr hc ?_) rfl)
    simp [Connection.owing, hreader]
  exact ⟨_, play_cons hreceived (play_cons hread rfl)⟩

/-- As long as there is room in the outbox, a server can ask again and again without reading. -/
lemma play_flood (n : Nat) (hc : w.connections[c]? = some conn) (hreader : conn.reader = .reading)
    (hwriter : conn.writer.hasEnded = false)
    (hroom : conn.outbox.length + n ≤ Connection.outboxSize)
    (hframe : Incoming.classify frame = some (.request key method params)) :
    ∃ later, w.play s (List.replicate n [.received c (.message frame), .read c]).flatten =
      some (later,
        w.modifyConnection c (Connection.owing n (Message.reply key method params))) := by
  induction n generalizing w conn with
  | zero =>
    have hsame : Connection.owing 0 (Message.reply key method params) = id := by
      funext conn
      simp [Connection.owing]
    exact ⟨[], by simp [play, hsame]⟩
  | succ n ih =>
    obtain ⟨first, hfirst⟩ := play_asked (s := s) hc hreader hwriter (by omega) hframe
    let reply := Message.reply key method params
    obtain ⟨rest, hrest⟩ := ih (getElem?_modifyConnection (Connection.owing 1 reply) hc)
      hreader hwriter (by simp [Connection.owing]; omega)
    refine ⟨first ++ rest, ?_⟩
    rw [List.replicate_succ, List.flatten_cons, play_append hfirst hrest,
      modifyConnection_modifyConnection]
    refine congrArg some (Prod.ext rfl (modifyConnection_congr hc ?_))
    rw [Function.comp_apply, Connection.owing_owing, Nat.add_comm]

end State

/-- What a server asks that wants to know its configuration. -/
def Message.asksConfiguration : Json :=
  .obj [("id", .int 1), ("jsonrpc", .str "2.0"), ("method", .str Message.configurationMethod),
    ("params", .obj [("items", .arr [])])]

namespace Run

/-- The pipe of a server takes no byte, and the server asks until the outbox has one place left. The
stop takes that place and then waits for the next, and nothing that the client does brings it on:
the writer waits for the pipe, the reader for the server, and the stop has no timer yet. -/
theorem goes_on_fails_clogged :
    ∃ past w, Run .stock past w ∧ w.calls[1]? = some ⟨.stop, .asking 0 .shutdown 2⟩ ∧
      ∀ a, a.isClient = true → w.step .stock a = none := by
  let flood : List Action :=
    (List.replicate 63 [.received 0 (.message Message.asksConfiguration), .read 0]).flatten
  let reply := Message.reply (.int 1) Message.configurationMethod (some (.obj [("items", .arr [])]))
  obtain ⟨first, w₁, conn₁, stop, w, conn, result, hfirst, hconn₁, hreader₁, hwriter₁, hroom₁,
      hstop, hcalls, hconn, hreader, hclogged⟩ :
      ∃ first w₁ conn₁ stop w conn result,
        State.initial.play .stock
          (Action.firstStart.set 3 (.launched 0 (.ok 0)) ++ [Action.write 0]) =
          some (first, w₁) ∧
        w₁.connections[0]? = some conn₁ ∧ conn₁.reader = .reading ∧
        conn₁.writer.hasEnded = false ∧ conn₁.outbox.length = 1 ∧
        (w₁.modifyConnection 0 (Connection.owing 63 reply)).play .stock
          (.call .stop :: List.replicate 6 (.proceed 1)) = some (stop, w) ∧
        w.calls = [⟨.start, .done result⟩, ⟨.stop, .asking 0 .shutdown 2⟩] ∧
        w.connections = [conn] ∧ conn.reader = .reading ∧ conn.Clogged :=
    ⟨_, _, _, _, _, _, _, rfl, rfl, rfl, rfl, rfl, rfl, rfl, rfl, rfl,
      ⟨by decide, ⟨_, _, rfl⟩, rfl, rfl⟩⟩
  have hasks : Incoming.classify Message.asksConfiguration =
      some (.request (.int 1) Message.configurationMethod (some (.obj [("items", .arr [])]))) := rfl
  obtain ⟨asked, hflood⟩ := State.play_flood (s := .stock) 63 hconn₁ hreader₁ hwriter₁
    (by rw [hroom₁]; decide) hasks
  have hstopping : w.calls[1]? = some ⟨.stop, .asking 0 .shutdown 2⟩ := by rw [hcalls]; rfl
  have hfull : w.connections[0]? = some conn := by rw [hconn]; rfl
  refine ⟨_, w, ((of_play hfirst).append_play hflood).append_play hstop, hstopping, ?_⟩
  intro a hclient
  refine State.step_eq_none_of_stuck ?_ ?_ hclient
  · intro i call hi
    have hmem := List.mem_of_getElem? hi
    simp only [hcalls, List.mem_cons, List.not_mem_nil, or_false] at hmem
    rcases hmem with rfl | rfl
    · exact ⟨rfl, rfl, nofun, nofun⟩
    · exact .of_chokes rfl hfull hclogged.chokes
  · intro c other hc
    have hmem := List.mem_of_getElem? hc
    rw [hconn, List.mem_singleton] at hmem
    subst hmem
    exact ⟨hclogged.chokes.clogged_iff.mpr hclogged, by simp [State.stepReader, hreader]⟩

end Run

end LanguageClient
