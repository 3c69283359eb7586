import LanguageClient.Proofs.Session.Dispatch
import LanguageClient.Proofs.Session.Documents
import LanguageClient.Proofs.Session.Order
import LanguageClient.Proofs.Session.Wire
import Mathlib.Data.List.Forall2

/-!
# Replies

A server may wait for the answers to its requests, so each of them gets one. On a connection with a
writer the requests that have come and the replies that were queued match one by one, in order, but
for the one that the reader is about to queue: `Run.requests_answered`.
-/

namespace LanguageClient

/-! ### Right replies -/

/-- A reply is the right one to a request. -/
structure Answers (frame reply : Json) : Prop where
  version : reply.get? "jsonrpc" = some (.str "2.0")
  id : reply.get? "id" = frame.get? "id"
  /-- There is either a result or an error. -/
  outcome : (reply.get? "error").isSome = !(reply.get? "result").isSome
  /-- A null stands for each item that was asked for. -/
  configuration : frame.get? "method" = some (.str "workspace/configuration") →
    ∃ nulls, reply.get? "result" = some (.arr nulls) ∧ (∀ value ∈ nulls, value = .null) ∧
      (∀ items, (frame.get? "params").bind (Json.get? "items") = some (.arr items) →
        nulls.length = items.length) ∧
      ((∀ items, (frame.get? "params").bind (Json.get? "items") ≠ some (.arr items)) →
        nulls = [])
  acknowledged : ∀ method ∈ ["client/registerCapability", "client/unregisterCapability",
      "window/workDoneProgress/create"],
    frame.get? "method" = some (.str method) → reply.get? "result" = some .null
  unknown : ∀ method ∉ ["workspace/configuration", "client/registerCapability",
      "client/unregisterCapability", "window/workDoneProgress/create"],
    frame.get? "method" = some (.str method) →
      ∃ error, reply.get? "error" = some error ∧ error.get? "code" = some (.int (-32601)) ∧
        error.get? "message" = some (.str ("Method not found: " ++ method))

section Answers

variable {frame id : Json} {method : String} {params : Option Json}

lemma eq_of_method (hmethod : frame.get? "method" = some (.str method)) {name : String}
    (h : frame.get? "method" = some (.str name)) : name = method := by
  rw [hmethod] at h
  exact (Json.str.inj (Option.some.inj h)).symm

lemma answers_configuration (hid : frame.get? "id" = some id)
    (hmethod : frame.get? "method" = some (.str "workspace/configuration"))
    (hparams : frame.get? "params" = params) :
    Answers frame
      (Message.response id (.arr (List.replicate (Message.configurationItems params) .null))) := by
  constructor
  · simp [Message.get?_response]
  · simp [Message.get?_response, hid]
  · simp [Message.get?_response]
  · intro _
    refine ⟨List.replicate (Message.configurationItems params) .null,
      by simp [Message.get?_response], fun _ => List.eq_of_mem_replicate, ?_, ?_⟩
    · intro items hitems
      rw [hparams] at hitems
      simp [Message.configurationItems, hitems, Json.items?]
    · intro hnone
      rw [hparams] at hnone
      have hitems : (params.bind (Json.get? "items")).bind Json.items? = none := by
        cases hvalue : params.bind (Json.get? "items") with
        | none => rfl
        | some value =>
          cases value with
          | arr items => exact absurd hvalue (hnone items)
          | _ => rfl
      simp [Message.configurationItems, hitems]
  · intro name hmem h
    obtain rfl := eq_of_method hmethod h
    simp at hmem
  · intro name hmem h
    obtain rfl := eq_of_method hmethod h
    simp at hmem

lemma answers_acknowledged (hid : frame.get? "id" = some id)
    (hmethod : frame.get? "method" = some (.str method)) (hmem : method ∈ Message.acknowledged) :
    Answers frame (Message.response id .null) := by
  constructor
  · simp [Message.get?_response]
  · simp [Message.get?_response, hid]
  · simp [Message.get?_response]
  · intro h
    obtain rfl := eq_of_method hmethod h
    simp [Message.acknowledged] at hmem
  · intros
    simp [Message.get?_response]
  · intro name hunknown h
    obtain rfl := eq_of_method hmethod h
    exact absurd (List.mem_cons_of_mem _ hmem) hunknown

lemma answers_unknown (hid : frame.get? "id" = some id)
    (hmethod : frame.get? "method" = some (.str method))
    (hconfiguration : method ≠ Message.configurationMethod)
    (hacknowledged : method ∉ Message.acknowledged) :
    Answers frame
      (Message.errorResponse id Message.methodNotFound ("Method not found: " ++ method)) := by
  constructor
  · simp [Message.get?_errorResponse]
  · simp [Message.get?_errorResponse, hid]
  · simp [Message.get?_errorResponse]
  · intro h
    exact absurd (eq_of_method hmethod h).symm hconfiguration
  · intro name hmem h
    obtain rfl := eq_of_method hmethod h
    exact absurd hmem hacknowledged
  · intro name _ h
    obtain rfl := eq_of_method hmethod h
    refine ⟨_, Message.get?_errorResponse "error", ?_, ?_⟩ <;>
      simp [Json.ofFields, Json.get?, Table.find?_insert, Message.methodNotFound]

/-- The reply that a reader gives is the right one. -/
theorem answers_reply (hframe : Incoming.classify frame = some (.request id method params)) :
    Answers frame (Message.reply id method params) := by
  obtain ⟨hid, hmethod, hparams⟩ := Json.fields_of_request hframe
  unfold Message.reply
  split
  case isTrue hconfiguration =>
    subst hconfiguration
    exact answers_configuration hid hmethod hparams
  case isFalse hconfiguration =>
    split
    case isTrue hacknowledged => exact answers_acknowledged hid hmethod hacknowledged
    case isFalse hacknowledged => exact answers_unknown hid hmethod hconfiguration hacknowledged

end Answers

/-! ### What is owed -/

/-- The reply that a reader is about to queue. -/
def Reader.owed : Reader → List Json
  | .replying reply => [reply]
  | _ => []

/-- What is queued on connection `c` in a moment, but not by a call. -/
def Moment.replies (c : Nat) (m : Moment) : List Json :=
  if m.action.caller?.isSome then [] else framesOn c m.said

/-- What has been queued on connection `c` other than by calls, the oldest first. -/
def repliesOn (c : Nat) (past : List Moment) : List Json := past.flatMap (·.replies c)

lemma repliesOn_append (c : Nat) (past later : List Moment) :
    repliesOn c (past ++ later) = repliesOn c past ++ repliesOn c later := List.flatMap_append

lemma repliesOn_singleton (c : Nat) (m : Moment) : repliesOn c [m] = m.replies c :=
  List.flatMap_singleton ..

lemma framesOn_of_untold {c : Nat} {said : List Effect} (h : Untold c said) :
    framesOn c said = [] := by
  rw [framesOn_eq, h.commandsOn]
  rfl

/-- Tasks queue what is owed, as long as there is a writer, and owe nothing more by themselves. -/
lemma Connection.Deed.settles {c : Nat} {conn conn' : Connection} {a : Action}
    {said : List Effect} (h : conn.Deed c a conn' said) (halive : conn'.writer.hasEnded = false)
    (hframe : a.frame? c = none) :
    framesOn c said ++ conn'.reader.owed = conn.reader.owed := by
  cases h with
  | @write _ written hstep =>
    rw [stepWriter_eq hstep]
    cases written <;> rfl
  | reply hreader =>
    rw [framesOn_queued_self, hreader]
    rfl
  | forgo _ hended =>
    rw [hended] at halive
    cases halive
  | close hreader | clear hreader | ended hreader | fault _ hreader =>
    rw [hreader]
    rfl
  | respond | request =>
    rw [Action.frame?_received] at hframe
    cases hframe
  | drained | broken => rfl

namespace State

variable {s : Setup} {w w' : State} {a : Action} {i c : Nat} {said : List Effect}
  {conn conn' : Connection}

/-- A turn that deals with connection `k`, and what that settles on connection `c`. -/
lemma settles_of_modify {k : Nat} {f : Connection → Connection}
    (hc : w.connections[c]? = some conn) (hc' : (w.connections.modify k f)[c]? = some conn')
    (hother : k ≠ c → framesOn c said = [])
    (hself : k = c → framesOn c said ++ (f conn).reader.owed = conn.reader.owed) :
    framesOn c said ++ conn'.reader.owed = conn.reader.owed := by
  rcases eq_or_ne k c with rfl | hne
  · rw [List.getElem?_modify_eq, hc] at hc'
    obtain rfl := Option.some.inj hc'
    exact hself rfl
  · rw [List.getElem?_modify_ne _ _ hne, hc] at hc'
    obtain rfl := Option.some.inj hc'
    rw [hother hne]
    rfl

lemma settles_of_eq (hc : w.connections[c]? = some conn) (hc' : w.connections[c]? = some conn')
    (hsaid : framesOn c said = []) : framesOn c said ++ conn'.reader.owed = conn.reader.owed := by
  obtain rfl := Option.some.inj (hc.symm.trans hc')
  rw [hsaid]
  rfl

/-- Without a frame and without a call, what was owed is queued, or still is owed. -/
lemma Turn.settles (h : Turn s w a w' said) (hc : w.connections[c]? = some conn)
    (hc' : w'.connections[c]? = some conn') (halive : conn'.writer.hasEnded = false)
    (hcaller : a.caller? = none) (hframe : a.frame? c = none) :
    framesOn c said ++ conn'.reader.owed = conn.reader.owed := by
  cases h with
  | drop =>
    unfold State.drop at hc'
    split at hc'
    · exact settles_of_modify hc hc' (fun _ => rfl) fun _ => rfl
    · exact settles_of_eq hc hc' rfl
  | advance _ hadv =>
    rw [hadv.caller] at hcaller
    cases hcaller
  | deed hk hdeed =>
    refine settles_of_modify hc hc' (fun hne => framesOn_of_untold (hdeed.untold hne)) ?_
    rintro rfl
    obtain rfl := Option.some.inj (hk.symm.trans hc)
    rw [getElem?_modifyConnection _ hc] at hc'
    obtain rfl := Option.some.inj hc'
    exact hdeed.settles halive hframe
  | publish =>
    rw [emit_fst] at hc'
    exact settles_of_eq hc hc' rfl
  | report hk hreader =>
    rw [connections_lose] at hc'
    refine settles_of_modify hc hc' (fun _ => framesOn_lose _ _) ?_
    rintro rfl
    obtain rfl := Option.some.inj (hk.symm.trans hc)
    rw [framesOn_lose, hreader]
    rfl
  | _ => exact settles_of_eq hc hc' rfl

/-- A frame that comes makes the reader owe a reply if it is a request, and queues nothing. -/
lemma Dispatched.owed {frame : Json} (h : w.Dispatched c conn frame w')
    (hc : w.connections[c]? = some conn) (hreader : conn.reader = .reading)
    (hc' : w'.connections[c]? = some conn') :
    List.Forall₂ Answers ([frame].filter Json.asks) conn'.reader.owed := by
  have hsame (hnot : frame.asks = false) (hafter : conn'.reader = .reading) :
      List.Forall₂ Answers ([frame].filter Json.asks) conn'.reader.owed := by
    simp [hnot, hafter, Reader.owed]
  have hasks (hnot : ∀ id method params,
      Incoming.classify frame ≠ some (.request id method params)) : frame.asks = false := by
    rw [← Bool.not_eq_true, Json.asks_iff]
    rintro ⟨id, method, params, hframe⟩
    exact hnot id method params hframe
  have hstay (hstay : w'.connections = w.connections) : conn'.reader = .reading := by
    rw [hstay, hc] at hc'
    rw [← Option.some.inj hc', hreader]
  cases h with
  | malformed hframe => exact hsame (hasks (by simp [hframe])) (hstay rfl)
  | unknown hframe => exact hsame (hasks (by simp [hframe])) (hstay rfl)
  | noted hframe => exact hsame (hasks (by simp [hframe])) (hstay rfl)
  | published hevent =>
    obtain ⟨params, p, hframe, -⟩ := Json.notification_of_published? hevent
    exact hsame (hasks (by simp [hframe])) (hstay (by rw [emit_fst]))
  | answered hframe =>
    refine hsame (hasks (by simp [hframe])) ?_
    rw [getElem?_modifyConnection _ hc] at hc'
    rw [← Option.some.inj hc', ← hreader]
  | @asked id method params hframe =>
    rw [getElem?_modifyConnection _ hc] at hc'
    obtain rfl := Option.some.inj hc'
    have hask : frame.asks = true := Json.asks_iff.mpr ⟨id, method, params, hframe⟩
    simpa [hask, Reader.owed] using answers_reply hframe

/-- A call that goes on changes nothing in what is owed, unless it takes the writer away. -/
lemma Advance.owed {job : Job} {stage : Stage} (h : Advance s w i job a stage w' said)
    (hc : w.connections[c]? = some conn) (hc' : w'.connections[c]? = some conn')
    (halive : conn'.writer.hasEnded = false)
    (hreaping : ∀ problems, stage = .reaping c problems → w.Refuses c) :
    conn'.reader.owed = conn.reader.owed := by
  have hmodify {k : Nat} {f : Connection → Connection}
      (hc' : (w.connections.modify k f)[c]? = some conn')
      (hself : k = c → (f conn).reader.owed = conn.reader.owed) :
      conn'.reader.owed = conn.reader.owed := by
    obtain ⟨old, hold, hchange⟩ := of_getElem?_modify hc'
    obtain rfl := Option.some.inj (hc.symm.trans hold)
    rcases hchange with rfl | ⟨hk, rfl⟩
    · rfl
    · exact hself hk
  have hsame (hc' : w.connections[c]? = some conn') : conn'.reader.owed = conn.reader.owed := by
    obtain rfl := Option.some.inj (hc.symm.trans hc')
    rfl
  have hcut {k : Nat} {f : Connection → Connection}
      (hc' : (w.connections.modify k f)[c]? = some conn')
      (hended : k = c → (f conn).writer.hasEnded = true) :
      conn'.reader.owed = conn.reader.owed := by
    refine hmodify hc' ?_
    rintro rfl
    rw [List.getElem?_modify_eq, hc] at hc'
    obtain rfl := Option.some.inj hc'
    rw [hended rfl] at halive
    cases halive
  cases h with
  | exchange _ hex => exact hmodify hc' fun _ => congrArg Reader.owed (hex.reader conn)
  | launched room =>
    have hlt : c < w.connections.length := (List.getElem?_eq_some_iff.mp hc).1
    have hold : (w.connections ++ [Connection.fresh room])[c]? = some conn' := hc'
    rw [List.getElem?_append_left hlt] at hold
    exact hsame hold
  | lose =>
    rw [setStage, connections_lose] at hc'
    exact hsame hc'
  | reaped =>
    refine hcut hc' ?_
    rintro rfl
    exact hreaping _ rfl conn hc
  | relaunch | refuse | aborted => exact hcut hc' fun _ => rfl
  | sent => exact hmodify hc' fun _ => rfl
  | _ => exact hsame hc'

/-! ### Connections without a writer -/

/-- A writer that has ended does not come back. -/
lemma Refuses.turn (h : w.Refuses c) (hturn : Turn s w a w' said)
    (hc : w.connections[c]? = some conn) : w'.Refuses c := by
  intro conn' hc'
  exact ((hturn.wire hc hc').hasEnded (h conn hc)).1

lemma Advance.refuses_of_reaping {job : Job} {stage : Stage} {problems : List String}
    {f : Connection → Connection} (h : Advance s w i job a stage w' said)
    (hex : Exchange s w c stage f (.reaping c problems) said) : w'.Refuses c := by
  have hstage : ∃ before, stage = .draining c before := by
    generalize hafter : Stage.reaping c problems = after at hex
    cases hex with
    | drained | undrained => exact ⟨_, rfl⟩
    | closedBefore ask | closedSince ask | unasked ask | rejected ask | forsaken ask
    | timedOut ask => cases ask <;> cases hafter
    | _ => cases hafter
  obtain ⟨before, rfl⟩ := hstage
  cases h with
  | exchange _ hex =>
    cases hex with
    | drained _ hrefuses =>
      intro conn hc
      rw [modifyConnection_id] at hc
      exact hrefuses conn hc
    | undrained =>
      intro conn hc
      obtain ⟨old, hold⟩ := Option.map_eq_some_iff.mp ((List.getElem?_modify_eq ..).symm.trans hc)
      rw [← hold.2]
      rfl
  | refused _ _ hstage => rcases hstage with hstage | ⟨hstage, -⟩ <;> cases hstage

end State

namespace Run

variable {s : Setup} {past : List Moment} {w : State} {i c : Nat} {job : Job} {conn : Connection}

/-- A stop waits for the process once the writer has ended. -/
lemma refuses_of_reaping (h : Run s past w) {problems : List String}
    (hi : w.calls[i]? = some ⟨job, .reaping c problems⟩) : w.Refuses c := by
  induction h generalizing i job problems with
  | initial => simp [State.initial] at hi
  | @step past w w' said a hrun hstep ih =>
    have hturn := State.Turn.of_step hstep
    have hsound : State.Sound False w := hrun.sound False.elim
    have hkept {k : Nat} {job : Job} {problems : List String}
        (hk : w.calls[k]? = some ⟨job, .reaping c problems⟩) : w'.Refuses c := by
      obtain ⟨conn, hc⟩ := (hsound.of_owned hk rfl).1.getElem?
      exact (ih hk).turn hturn hc
    cases hcaller : a.caller? with
    | none => exact hkept (hturn.of_owned hcaller hi rfl)
    | some k =>
      obtain ⟨job', stage, hk, hadv⟩ := hturn.of_caller hcaller
      rcases eq_or_ne k i with rfl | hne
      · obtain ⟨f, hex⟩ | ⟨-, -, hafter, -⟩ | ⟨-, -, -, hafter | hafter⟩ := hadv.of_owned hk hi rfl
        · exact hadv.refuses_of_reaping hex
        · cases hafter
        · cases hafter
        · cases hafter
      · rcases hadv.of_other hi hne with hi | hstage
        · exact hkept hi
        · cases hstage

/-- Nothing has come on a connection that there is not, and nothing was queued there. -/
lemma unheard_step {a : Action} {w' : State} {said : List Effect}
    (hstep : w.step s a = some (w', said)) (hc : w.connections.length ≤ c) :
    a.frame? c = none ∧ Moment.replies c ⟨w, a, w', said⟩ = [] := by
  constructor
  · cases hframe : a.frame? c with
    | none => rfl
    | some frame =>
      obtain rfl := Action.eq_received hframe
      obtain ⟨conn, hconn, -⟩ := State.Dispatched.of_step hstep
      have hlt := (List.getElem?_eq_some_iff.mp hconn).1
      omega
  · have huntold := (State.Turn.of_step hstep).untold hc
    unfold Moment.replies
    split
    · rfl
    · rw [← framesOn_news]
      exact framesOn_of_untold huntold

lemma unheard (h : Run s past w) (hc : w.connections.length ≤ c) :
    dispatched c past = [] ∧ repliesOn c past = [] := by
  induction h with
  | initial => exact ⟨rfl, rfl⟩
  | step a _ hstep ih =>
    have hbefore := Nat.le_trans (State.Turn.of_step hstep).length_le hc
    obtain ⟨hdispatched, hreplies⟩ := ih hbefore
    obtain ⟨hframe, hreply⟩ := unheard_step hstep hbefore
    rw [dispatched_append, dispatched_singleton, repliesOn_append, repliesOn_singleton,
      hdispatched, hreplies, hframe, hreply]
    exact ⟨rfl, rfl⟩

/-- A frame comes when nothing is owed, and nothing is queued with it. -/
lemma owed_of_frame {frame : Json} {w' : State} {said : List Effect} {old : Connection}
    (hstep : w.step s (.received c (.message frame)) = some (w', said))
    (hold : w.connections[c]? = some old) (hc : w'.connections[c]? = some conn) :
    old.reader.owed = [] ∧ framesOn c said = [] ∧
      List.Forall₂ Answers ([frame].filter Json.asks) conn.reader.owed := by
  obtain ⟨reading, hconn, hreader, hdispatched⟩ := State.Dispatched.of_step hstep
  obtain rfl := Option.some.inj (hold.symm.trans hconn)
  refine ⟨?_, ?_, hdispatched.owed hold hreader hc⟩
  · rw [hreader]
    rfl
  · rw [List.eq_nil_iff_forall_not_mem]
    intro reply hmem
    rw [← framesOn_news] at hmem
    obtain ⟨replying, hconn, hreplying⟩ := (State.Turn.of_step hstep).of_queued rfl hmem
    obtain rfl := Option.some.inj (hold.symm.trans hconn)
    rw [hreader] at hreplying
    cases hreplying

/-- Without a frame what was owed is queued, or still is owed. -/
lemma owed_of_none {a : Action} {w' : State} {said : List Effect} {old : Connection}
    (h : Run s past w) (hstep : w.step s a = some (w', said)) (hframe : a.frame? c = none)
    (hold : w.connections[c]? = some old) (hc : w'.connections[c]? = some conn)
    (halive : conn.writer.hasEnded = false) :
    Moment.replies c ⟨w, a, w', said⟩ ++ conn.reader.owed = old.reader.owed := by
  have hturn := State.Turn.of_step hstep
  cases hcaller : a.caller? with
  | none =>
    have hsettles := hturn.settles hold hc halive hcaller hframe
    rw [framesOn_news] at hsettles
    simpa [Moment.replies, hcaller] using hsettles
  | some i =>
    obtain ⟨job, stage, hi, hadv⟩ := hturn.of_caller hcaller
    have howed := hadv.owed hold hc halive fun problems hstage =>
      h.refuses_of_reaping (hstage ▸ hi)
    simpa [Moment.replies, hcaller] using howed

/-- On a connection with a writer all requests but the one at hand have had their replies. -/
theorem replied (h : Run s past w) (hc : w.connections[c]? = some conn)
    (halive : conn.writer.hasEnded = false) :
    List.Forall₂ Answers ((dispatched c past).filter Json.asks)
      (repliesOn c past ++ conn.reader.owed) := by
  induction h generalizing conn with
  | initial => simp [State.initial] at hc
  | @step past w w' said a hrun hstep ih =>
    have hturn := State.Turn.of_step hstep
    rw [dispatched_append, dispatched_singleton, repliesOn_append, repliesOn_singleton,
      List.filter_append, List.append_assoc]
    obtain ⟨old, hold, -⟩ | ⟨rfl, room, rfl⟩ := hturn.came hc
    · have halive' : old.writer.hasEnded = false := by
        by_contra hended
        have hended' := ((hturn.wire hold hc).hasEnded (by simpa using hended)).1
        rw [hended'] at halive
        cases halive
      have hbefore := ih hold halive'
      cases hframe : a.frame? c with
      | some frame =>
        obtain rfl := Action.eq_received hframe
        obtain ⟨hnone, hnothing, howed⟩ := owed_of_frame hstep hold hc
        have hlast : Moment.replies c ⟨w, .received c (.message frame), w', said⟩ = [] := hnothing
        rw [hnone, List.append_nil] at hbefore
        rw [hlast]
        exact List.rel_append hbefore howed
      | none =>
        rw [hrun.owed_of_none hstep hframe hold hc halive, Option.toList_none, List.filter_nil,
          List.append_nil]
        exact hbefore
    · obtain ⟨hdispatched, hreplies⟩ := hrun.unheard (Nat.le_refl _)
      obtain ⟨hframe, hreply⟩ := unheard_step hstep (Nat.le_refl _)
      rw [hdispatched, hreplies, hframe, hreply]
      exact .nil

/--
As long as a connection has a writer, the requests among the frames that have come and the replies
that were queued match one by one, in order; nothing else is queued but by calls. The last request
may still wait for room in the outbox: then nothing more is read, and the reader's next step queues
its reply as soon as there is room. Each reply has its request's id, and either a result or an
error.
-/
theorem requests_answered (h : Run s past w) (hc : w.connections[c]? = some conn)
    (halive : conn.writer.hasEnded = false) :
    List.Forall₂ Answers ((dispatched c past).filter Json.asks)
      (repliesOn c past ++ conn.reader.owed) ∧
    ∀ reply, conn.reader = .replying reply →
      (∀ read, w.step s (.received c read) = none) ∧
      (conn.outbox.length < Connection.outboxSize →
        ∃ w' conn', w.step s (.read c) = some (w', [.queued c (.send reply)]) ∧
          w'.connections[c]? = some conn' ∧ conn'.reader = .reading) := by
  refine ⟨h.replied hc halive, ?_⟩
  intro reply hreader
  constructor
  · intro read
    simp [State.step, hc, hreader, Reader.isReading]
  · intro hroom
    have hoffer : conn.offer (.send reply) = .accepted (conn.push (.send reply)) := by
      simp [Connection.offer, halive, hroom, Connection.push]
    have hstep : w.step s (.read c) =
        some (w.modifyConnection c fun _ => { conn.push (.send reply) with reader := .reading },
          [.queued c (.send reply)]) := by
      simp [State.step, State.stepReader, hc, hreader, hoffer]
    exact ⟨_, _, hstep, State.getElem?_modifyConnection _ hc, rfl⟩

/-- A server that asks for two configuration items, and for something unknown under the id null. -/
theorem requests_answered_asked :
    ∃ past w conn, Run .stock past w ∧ w.connections[0]? = some conn ∧
      conn.writer.hasEnded = false ∧
      ((dispatched 0 past).filter Json.asks).length = 2 ∧
      List.Forall₂ Answers ((dispatched 0 past).filter Json.asks)
        (repliesOn 0 past ++ conn.reader.owed) := by
  obtain ⟨past, w, conn, hplay, hc, halive, hlength⟩ :
      ∃ past w conn, State.initial.play .stock (Action.firstStart ++
          [Action.received 0 (.message (.obj [("id", .str "a"),
              ("method", .str "workspace/configuration"),
              ("params", .obj [("items", .arr [.null, .null])])])),
            .read 0,
            .received 0 (.message (.obj [("id", .null), ("method", .str "window/other")]))]) =
          some (past, w) ∧
        w.connections[0]? = some conn ∧ conn.writer.hasEnded = false ∧
        ((dispatched 0 past).filter Json.asks).length = 2 :=
    ⟨_, _, _, rfl, rfl, rfl, rfl⟩
  have hrun := of_play hplay
  exact ⟨past, w, conn, hrun, hc, halive, hlength, (hrun.requests_answered hc halive).1⟩

end Run

end LanguageClient
