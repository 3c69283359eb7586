import LanguageClient.Proofs.Session.Rules

/-!
# Every step is a turn

The functions that make up `State.step`, read backwards: whatever they lead to, one of the rules
leads there. `State.Turn.of_step` is all that the properties of runs need of the step function.
-/

namespace LanguageClient

namespace State

/-! ### Commands -/

lemma modifyConnection_congr {w : State} {c : Nat} {conn : Connection}
    {f g : Connection → Connection} (hc : w.connections[c]? = some conn) (h : f conn = g conn) :
    w.modifyConnection c f = w.modifyConnection c g := by
  have : w.connections.modify c f = w.connections.modify c g := by
    refine List.ext_getElem? fun k => ?_
    rw [List.getElem?_modify, List.getElem?_modify]
    rcases eq_or_ne c k with rfl | hk
    · simp [hc, h]
    · simp [hk]
  rw [modifyConnection, modifyConnection, this]

lemma getElem?_modifyConnection {w : State} {c : Nat} {conn : Connection}
    (f : Connection → Connection) (hc : w.connections[c]? = some conn) :
    (w.modifyConnection c f).connections[c]? = some (f conn) := by
  simp [modifyConnection, hc]

@[simp] lemma modifyConnection_id (w : State) (c : Nat) : w.modifyConnection c id = w := by
  simp [modifyConnection]

/-- A command is queued, if the outbox takes it, or refused, if nothing takes from there. -/
lemma queue_cases {w : State} {c : Nat} {command : Command} {accepted refused : State → Stepped}
    {r : Stepped} (h : w.queue c command accepted refused = some r) :
    (w.Takes c ∧
      r = ((accepted (w.modifyConnection c (·.push command))).1,
        .queued c command :: (accepted (w.modifyConnection c (·.push command))).2)) ∨
    (w.Refuses c ∧ r = refused w) := by
  unfold queue at h
  cases hc : w.connections[c]? with
  | none =>
    simp only [hc, Option.some.injEq] at h
    exact .inr ⟨by simp [Refuses, hc], h.symm⟩
  | some conn =>
    simp only [hc, Connection.offer] at h
    by_cases hended : conn.writer.hasEnded = true
    · simp only [hended, if_true, Option.some.injEq] at h
      exact .inr ⟨by simp [Refuses, hc, hended], h.symm⟩
    · by_cases hroom : conn.outbox.length < Connection.outboxSize
      · simp only [hended, hroom, if_true, Bool.false_eq_true, if_false, Option.some.injEq] at h
        refine .inl ⟨⟨conn, hc, by simpa using hended, hroom⟩, ?_⟩
        rw [← modifyConnection_congr hc (f := fun _ => conn.push command) rfl]
        exact h.symm
      · simp [hended, hroom] at h

lemma failAsk_eq (w : State) (i c : Nat) (reason : String) (ask : Ask) :
    w.failAsk i c reason ask = (w.setStage i (ask.failed c reason), []) := by
  cases ask <;> rfl

lemma noticed_eq (w : State) (i : Nat) (result : Except NotifyError Forwarded) (notice : Notice) :
    w.noticed i result notice = ((w.leave i).setStage i (notice.settled result), []) := by
  cases notice <;> rfl

/-! ### Calls -/

variable {s : Setup} {w w' : State} {i : Nat} {job : Job} {said : List Effect}

namespace Advance

/-- An exchange that leaves the connection alone. -/
lemma of_idle {c : Nat} {before after : Stage} (h : Exchange s w c before id after said) :
    Advance s w i job (.proceed i) before (w.setStage i after) said := by
  have hadv : Advance s w i job (.proceed i) before
      ((w.modifyConnection c id).setStage i after) said := .exchange (.inl rfl) h
  simpa using hadv

lemma of_arriveDocument (doc : Document) {outside : List Effect} (hdoc : job.document? = some doc)
    (hout : news outside = []) (h : w.arriveDocument s i doc outside = (w', said)) :
    Advance s w i job (.proceed i) .arriving w' (news said) := by
  unfold arriveDocument at h
  split at h
  case isTrue hscope =>
    obtain ⟨rfl, rfl⟩ := Prod.mk.inj h
    simpa [finishDocument, hout] using .outOfScope hdoc (by simpa using hscope)
  case isFalse hscope =>
    split at h
    case isTrue hrunning =>
      obtain ⟨rfl, rfl⟩ := Prod.mk.inj h
      refine .enlist ?_ ?_ fun d hd => ?_
      · rintro rfl
        simp [Job.document?] at hdoc
      · rintro rfl
        simp [Job.document?] at hdoc
      · obtain rfl := Option.some.inj (hdoc.symm.trans hd)
        exact ⟨by simpa using hscope, hrunning⟩
    case isFalse hrunning =>
      obtain ⟨rfl, rfl⟩ := Prod.mk.inj h
      exact .refused .arriving hdoc (.inl rfl) (by simpa using hrunning)

lemma of_arrive (h : w.arrive s i job = (w', said)) :
    Advance s w i job (.proceed i) .arriving w' (news said) := by
  cases job with
  | start | restart | stop =>
    obtain ⟨rfl, rfl⟩ := Prod.mk.inj h
    exact .enlist (by simp) (by simp) (by simp [Job.document?])
  | sync opening doc text =>
    exact of_arriveDocument doc rfl (by simp) h
  | close doc => exact of_arriveDocument doc rfl rfl h
  | started =>
    simp only [arrive] at h
    split at h
    case h_1 start hstart =>
      obtain ⟨rfl, rfl⟩ := Prod.mk.inj h
      exact .join hstart
    case h_2 hnone =>
      obtain ⟨rfl, rfl⟩ := Prod.mk.inj h
      exact .told fun start hstart => hnone start hstart
  | deactivate =>
    simp only [arrive] at h
    obtain ⟨rfl, rfl⟩ := Prod.mk.inj h
    split
    case h_1 start hstart => exact .joinFirst hstart
    case h_2 hnone => exact .deactivate fun start hstart => hnone start hstart

lemma of_joined {start : Nat} {result : Except StartError Unit}
    (hstart : (w.calls[start]?).bind (·.stage.outcome?) = some (.start result))
    (h : w.joined i job result = (w', said)) :
    Advance s w i job (.proceed i) (.joining start) w' (news said) := by
  unfold State.joined at h
  split at h
  case h_1 | h_2 =>
    obtain ⟨rfl, rfl⟩ := Prod.mk.inj h
    exact .joined hstart
  case h_3 herror hok =>
    obtain ⟨rfl, rfl⟩ := Prod.mk.inj h
    refine .heard ?_ hstart
    rintro rfl
    cases result with
    | error e => exact herror e rfl rfl
    | ok u => exact hok u rfl rfl

lemma of_relaunch (hhead : w.line.head? = some i) (hmay : w.MayLaunch job)
    (h : w.relaunch s i = (w', said)) :
    Advance s w i job (.proceed i) .waiting w' (news said) := by
  unfold State.relaunch at h
  split at h
  case h_1 c hslot =>
    obtain ⟨rfl, rfl⟩ := Prod.mk.inj h
    exact .vacate hhead hmay hslot
  case h_2 hslot =>
    obtain ⟨rfl, rfl⟩ := Prod.mk.inj h
    exact .launch hhead hmay hslot

lemma of_closeDocument {doc : Document} (hhead : w.line.head? = some i)
    (hrunning : w.phase.isRunning = true) (h : w.closeDocument i doc.uri = (w', said)) :
    Advance s w i (.close doc) (.proceed i) .waiting w' (news said) := by
  unfold closeDocument at h
  split at h
  case h_1 hnone =>
    obtain ⟨rfl, rfl⟩ := Prod.mk.inj h
    exact .notOpen hhead hrunning hnone
  case h_2 before hsome =>
    have htracked : (w.documents.find? doc.uri).isSome := by simp [hsome]
    unfold withSlot at h
    split at h
    case h_1 c hslot =>
      obtain ⟨rfl, rfl⟩ := Prod.mk.inj h
      exact .notifyClosed hhead hrunning htracked hslot
    case h_2 hslot =>
      rw [noticed_eq] at h
      obtain ⟨rfl, rfl⟩ := Prod.mk.inj h
      exact .closeNobody hhead hrunning htracked hslot

lemma of_enterStop (hhead : w.line.head? = some i) (hjob : job.isStop = true)
    (h : w.enterStop i = (w', said)) :
    Advance s w i job (.proceed i) .waiting w' (news said) := by
  unfold enterStop at h
  split at h
  case h_1 hphase =>
    obtain ⟨rfl, rfl⟩ := Prod.mk.inj h
    exact .stopIgnored hhead hjob (.inl hphase)
  case h_2 hphase =>
    obtain ⟨rfl, rfl⟩ := Prod.mk.inj h
    exact .stopIgnored hhead hjob (.inr hphase)
  case h_3 hcreated hstopped =>
    cases hslot : w.slot with
    | some c =>
      simp only [hslot] at h
      obtain ⟨rfl, rfl⟩ := Prod.mk.inj h
      exact .stop hhead hjob hcreated hstopped hslot
    | none =>
      simp only [hslot] at h
      obtain ⟨rfl, rfl⟩ := Prod.mk.inj h
      exact .stopNobody hhead hjob hcreated hstopped hslot

lemma of_enter (hhead : w.line.head? = some i) (h : w.enter s i job = (w', said)) :
    Advance s w i job (.proceed i) .waiting w' (news said) := by
  cases job with
  | start =>
    simp only [enter] at h
    split at h
    case isTrue hstart => exact of_relaunch hhead hstart h
    case isFalse hstart =>
      obtain ⟨rfl, rfl⟩ := Prod.mk.inj h
      exact .ignored hhead (by simpa using hstart)
  | restart lost =>
    simp only [enter, Bool.and_eq_true] at h
    split at h
    case isTrue hmay => exact of_relaunch hhead hmay h
    case isFalse hmay =>
      obtain ⟨rfl, rfl⟩ := Prod.mk.inj h
      exact .superseded hhead hmay
  | sync opening doc text =>
    simp only [enter, withSlot] at h
    split at h
    case isTrue hrunning =>
      split at h
      case h_1 c hslot =>
        obtain ⟨rfl, rfl⟩ := Prod.mk.inj h
        exact .notify hhead hrunning hslot
      case h_2 hslot =>
        rw [noticed_eq] at h
        obtain ⟨rfl, rfl⟩ := Prod.mk.inj h
        exact .notifyNobody hhead hrunning hslot
    case isFalse hrunning =>
      obtain ⟨rfl, rfl⟩ := Prod.mk.inj h
      exact .refused .waiting rfl (.inr ⟨rfl, hhead⟩) (by simpa using hrunning)
  | close doc =>
    simp only [enter] at h
    split at h
    case isTrue hrunning => exact of_closeDocument hhead hrunning h
    case isFalse hrunning =>
      obtain ⟨rfl, rfl⟩ := Prod.mk.inj h
      exact .refused .waiting rfl (.inr ⟨rfl, hhead⟩) (by simpa using hrunning)
  | stop | started | deactivate => exact of_enterStop hhead rfl h

/-! ### What a call does with its connection -/

lemma of_queue {c : Nat} {command : Command} {before taken : Stage}
    {r : State → Stepped} (h : w.queue c command (goto i taken) r = some (w', said))
    (htaken : w.Takes c →
      Exchange s w c before (·.push command) taken [.queued c command])
    (hrefused : w.Refuses c → r w = (w', said) →
      Advance s w i job (.proceed i) before w' (news said)) :
    Advance s w i job (.proceed i) before w' (news said) := by
  obtain ⟨ht, hr⟩ | ⟨hr, hw⟩ := queue_cases h
  · obtain ⟨rfl, rfl⟩ := Prod.mk.inj hr
    exact .exchange (.inl rfl) (htaken ht)
  · exact hrefused hr hw.symm

lemma of_await {c n : Nat} {ask : Ask} (h : w.await i c ask n = some (w', said)) :
    Advance s w i job (.proceed i) (.awaiting c ask n) w' (news said) := by
  simp only [await, Option.bind_eq_bind, Option.bind_eq_some_iff] at h
  obtain ⟨conn, hc, h⟩ := h
  cases hanswer : conn.answer? n with
  | none =>
    simp only [hanswer] at h
    split at h
    case isTrue => simp at h
    case isFalse hpending =>
      rw [failAsk_eq] at h
      obtain ⟨rfl, rfl⟩ := Prod.mk.inj (Option.some.inj h)
      exact of_idle (.forsaken ask n _ hc hanswer hpending)
  | some body =>
    simp only [hanswer, answered] at h
    split at h
    case h_1 error herror =>
      rw [failAsk_eq] at h
      obtain ⟨rfl, rfl⟩ := Prod.mk.inj (Option.some.inj h)
      exact .exchange (.inl rfl) (.rejected _ n _ hc hanswer herror)
    case h_2 hok =>
      obtain ⟨rfl, rfl⟩ := Prod.mk.inj (Option.some.inj h)
      exact .exchange (.inl rfl) (.dismissed n hc hanswer hok)
    case h_3 hok =>
      obtain ⟨rfl, rfl⟩ := Prod.mk.inj (Option.some.inj h)
      have hquiet : ∀ b : Bool,
          news (if b = true then [.log .info "Server initialized"] else []) = [] := by
        intro b
        cases b <;> rfl
      rw [hquiet]
      exact .exchange (.inl rfl) (.welcomed n hc hanswer hok)

lemma of_discarded {c : Nat} {next : AfterDiscard}
    (h : (w.modifyConnection c Connection.abort).discarded s i job next = (w', said)) :
    Advance s w i job (.proceed i) (.aborting c next) w' (news said) := by
  cases next with
  | relaunch =>
    obtain ⟨rfl, rfl⟩ := Prod.mk.inj h
    exact .relaunch c
  | refuse reason =>
    obtain ⟨rfl, rfl⟩ := Prod.mk.inj h
    cases job <;> exact .refuse c reason
  | settle =>
    obtain ⟨rfl, rfl⟩ := Prod.mk.inj h
    exact .aborted c

lemma of_reaped {a : Action} {c : Nat} {problems later : List String}
    (ha : a = .expire i ∨ ∃ problem, a = .exited i problem)
    (h : w.reaped i c later = (w', said)) :
    Advance s w i job a (.reaping c problems) w' (news said) := by
  unfold State.reaped at h
  split at h
  case isTrue =>
    obtain ⟨rfl, rfl⟩ := Prod.mk.inj h
    exact .reaped _ ha
  case isFalse =>
    obtain ⟨rfl, rfl⟩ := Prod.mk.inj h
    exact .reaped _ ha

lemma of_launched {result : Except String Nat} (h : w.launched s i job result = (w', said)) :
    Advance s w i job (.launched i result) .launching w' (news said) := by
  cases result with
  | error reason =>
    obtain ⟨rfl, rfl⟩ := Prod.mk.inj h
    cases job <;> exact .launchFailed reason
  | ok room =>
    obtain ⟨rfl, rfl⟩ := Prod.mk.inj h
    exact .launched room

lemma of_reopen {c place : Nat} {documents : Table OpenDocument}
    (h : w.reopen i c documents place = some (w', said)) :
    Advance s w i job (.reopen i place) (.reopening c documents) w' (news said) := by
  unfold reopen at h
  split at h
  case h_1 => cases h
  case h_2 uri doc hplace =>
    obtain ⟨ht, hr⟩ | ⟨hr, hw⟩ := queue_cases h
    · obtain ⟨rfl, rfl⟩ := Prod.mk.inj hr
      exact .exchange (.inr (.inr ⟨place, documents, rfl, rfl⟩)) (.reopened place hplace ht)
    · obtain ⟨rfl, rfl⟩ := Prod.mk.inj hw
      have hadv : Advance s w i job (.reopen i place) (.reopening c documents)
          ((w.modifyConnection c id).setStage i (.reopening c (documents.eraseIdx place))) [] :=
        .exchange (.inr (.inr ⟨place, documents, rfl, rfl⟩)) (.unopened place hplace hr)
      simpa using hadv

/-! ### The steps of a call -/

theorem of_stepCall {call : Call} (h : w.stepCall s i call = some (w', said)) :
    Advance s w i call.job (.proceed i) call.stage w' (news said) := by
  obtain ⟨job, stage⟩ := call
  cases stage with
  | arriving => exact of_arrive (Option.some.inj h)
  | waiting =>
    simp only [stepCall] at h
    split at h
    case isTrue hhead => exact of_enter hhead (Option.some.inj h)
    case isFalse => cases h
  | joining start =>
    simp only [stepCall] at h
    split at h
    case h_1 result hstart => exact of_joined hstart (Option.some.inj h)
    case h_2 => cases h
  | greeting c =>
    simp only [stepCall, failAsk_eq] at h
    split at h
    case h_1 uri huri =>
      obtain ⟨rfl, rfl⟩ := Prod.mk.inj (Option.some.inj h)
      exact of_idle (.greeted (by simp [huri]))
    case h_2 huri =>
      obtain ⟨rfl, rfl⟩ := Prod.mk.inj (Option.some.inj h)
      exact of_idle (.rootless _ huri)
  | announcing c =>
    simp only [stepCall, failAsk_eq] at h
    obtain ⟨ht, hr⟩ | ⟨hr, hw⟩ := queue_cases h
    · obtain ⟨rfl, rfl⟩ := Prod.mk.inj hr
      exact .exchange (.inl rfl) (.announced ht)
    · obtain ⟨rfl, rfl⟩ := Prod.mk.inj hw
      exact of_idle (.unannounced _ hr)
  | reopening c documents =>
    simp only [stepCall] at h
    split at h
    case isTrue hempty =>
      obtain rfl := List.isEmpty_iff.mp hempty
      obtain ⟨rfl, rfl⟩ := Prod.mk.inj (Option.some.inj h)
      exact of_idle .allReopened
    case isFalse => cases h
  | settling c =>
    obtain ⟨rfl, rfl⟩ := Prod.mk.inj (Option.some.inj h)
    exact .settle c
  | raising c =>
    obtain ⟨rfl, rfl⟩ := Prod.mk.inj (Option.some.inj h)
    exact .raise c
  | verifying c =>
    simp only [stepCall] at h
    cases hclosed : w.isClosed c with
    | true =>
      simp only [hclosed, if_true] at h
      obtain ⟨rfl, rfl⟩ := Prod.mk.inj (Option.some.inj h)
      exact .lose hclosed
    | false =>
      simp only [hclosed, Bool.false_eq_true, if_false] at h
      obtain ⟨rfl, rfl⟩ := Prod.mk.inj (Option.some.inj h)
      exact .verify hclosed
  | leaving outcome =>
    obtain ⟨rfl, rfl⟩ := Prod.mk.inj (Option.some.inj h)
    exact .leave outcome
  | testing c ask =>
    simp only [stepCall, failAsk_eq] at h
    split at h
    case isTrue hclosed =>
      obtain ⟨rfl, rfl⟩ := Prod.mk.inj (Option.some.inj h)
      exact of_idle (.closedBefore ask _ hclosed)
    case isFalse hclosed =>
      obtain ⟨rfl, rfl⟩ := Prod.mk.inj (Option.some.inj h)
      exact of_idle (.tested ask (by simpa using hclosed))
  | registering c ask =>
    simp only [stepCall, Option.bind_eq_bind, Option.bind_eq_some_iff] at h
    obtain ⟨conn, hc, h⟩ := h
    obtain ⟨rfl, rfl⟩ := Prod.mk.inj (Option.some.inj h)
    exact .exchange (.inl rfl) (.registered ask hc)
  | retesting c ask n =>
    simp only [stepCall, failAsk_eq] at h
    split at h
    case isTrue hclosed =>
      obtain ⟨rfl, rfl⟩ := Prod.mk.inj (Option.some.inj h)
      exact .exchange (.inl rfl) (.closedSince ask n _ hclosed)
    case isFalse hclosed =>
      obtain ⟨rfl, rfl⟩ := Prod.mk.inj (Option.some.inj h)
      exact of_idle (.retested ask n (by simpa using hclosed))
  | asking c ask n =>
    simp only [stepCall, State.ask, failAsk_eq] at h
    refine of_queue h (.asked ask n) fun hr hw => ?_
    obtain ⟨rfl, rfl⟩ := Prod.mk.inj hw
    exact .exchange (.inl rfl) (.unasked ask n _ hr)
  | awaiting c ask n => exact of_await h
  | ending c =>
    simp only [stepCall] at h
    split at h
    case isTrue hclosed =>
      obtain ⟨rfl, rfl⟩ := Prod.mk.inj (Option.some.inj h)
      exact of_idle (.foundClosed hclosed)
    case isFalse hclosed =>
      obtain ⟨rfl, rfl⟩ := Prod.mk.inj (Option.some.inj h)
      exact of_idle (.foundOpen (by simpa using hclosed))
  | exiting c =>
    refine of_queue (w := w) h .dismissing fun hr hw => ?_
    obtain ⟨rfl, rfl⟩ := Prod.mk.inj hw
    exact of_idle (.undismissed _ hr)
  | closing c problems =>
    refine of_queue (w := w) h (.closing problems) fun hr hw => ?_
    obtain ⟨rfl, rfl⟩ := Prod.mk.inj hw
    exact of_idle (.unclosed problems hr)
  | draining c problems =>
    simp only [stepCall] at h
    split at h
    case isTrue hended =>
      obtain ⟨rfl, rfl⟩ := Prod.mk.inj (Option.some.inj h)
      refine of_idle (.drained problems fun conn hc => ?_)
      simpa [hc] using hended
    case isFalse => cases h
  | concluding result =>
    obtain ⟨rfl, rfl⟩ := Prod.mk.inj (Option.some.inj h)
    exact .conclude result
  | purging result =>
    obtain ⟨rfl, rfl⟩ := Prod.mk.inj (Option.some.inj h)
    cases result <;> exact .purge _
  | discarding c next =>
    refine of_queue (w := w) h (.discarding next) fun hr hw => ?_
    obtain ⟨rfl, rfl⟩ := Prod.mk.inj hw
    exact of_idle (.undiscarded next hr)
  | aborting c next => exact of_discarded (Option.some.inj h)
  | sending c notice =>
    simp only [stepCall, sendNotice, noticed_eq] at h
    obtain ⟨ht, hr⟩ | ⟨hr, hw⟩ := queue_cases h
    · obtain ⟨rfl, rfl⟩ := Prod.mk.inj hr
      exact .sent notice ht
    · obtain ⟨rfl, rfl⟩ := Prod.mk.inj hw
      exact .unsent notice hr
  | forgetting uri outcome =>
    obtain ⟨rfl, rfl⟩ := Prod.mk.inj (Option.some.inj h)
    exact .forget uri outcome
  | launching | reaping | done | dropped => cases h

theorem of_expire {call : Call} (h : w.expire s i call = some (w', said)) :
    Advance s w i call.job (.expire i) call.stage w' (news said) := by
  obtain ⟨job, stage⟩ := call
  cases stage with
  | awaiting c ask n =>
    simp only [expire, failAsk_eq] at h
    obtain ⟨rfl, rfl⟩ := Prod.mk.inj (Option.some.inj h)
    exact .exchange (.inr (.inl rfl)) (.timedOut ask n _)
  | draining c problems =>
    obtain ⟨rfl, rfl⟩ := Prod.mk.inj (Option.some.inj h)
    exact .exchange (.inr (.inl rfl)) (.undrained problems _)
  | reaping c problems => exact of_reaped (.inl rfl) (Option.some.inj h)
  | _ => cases h

end Advance

namespace Turn

/-! ### The tasks of a connection -/

variable {c : Nat} {conn : Connection}

/-- A deed that is written as a change of whatever stands at the connection's place. -/
lemma of_deed {a : Action} {f : Connection → Connection} (hc : w.connections[c]? = some conn)
    (h : conn.Deed c a (f conn) said) : Turn s w a (w.modifyConnection c f) said := by
  rw [modifyConnection_congr hc (g := fun _ => f conn) rfl]
  exact .deed hc h

lemma of_stepWriter (hc : w.connections[c]? = some conn)
    (h : w.stepWriter c conn = some (w', said)) : Turn s w (.write c) w' (news said) := by
  simp only [stepWriter, Option.bind_eq_bind, Option.bind_eq_some_iff] at h
  obtain ⟨⟨conn', written⟩, hstep, h⟩ := h
  obtain ⟨rfl, rfl⟩ := Prod.mk.inj (Option.some.inj h)
  exact .deed hc (.write hstep)

lemma of_stepReader (hc : w.connections[c]? = some conn)
    (h : w.stepReader s c conn = some (w', said)) : Turn s w (.read c) w' (news said) := by
  unfold stepReader at h
  split at h
  case h_1 | h_2 => cases h
  case h_3 reply hreader =>
    simp only [Connection.offer] at h
    by_cases hended : conn.writer.hasEnded = true
    · simp only [hended, if_true] at h
      obtain ⟨rfl, rfl⟩ := Prod.mk.inj (Option.some.inj h)
      exact of_deed hc (.forgo hreader hended)
    · by_cases hroom : conn.outbox.length < Connection.outboxSize
      · simp only [hended, hroom, if_true, Bool.false_eq_true, if_false] at h
        obtain ⟨rfl, rfl⟩ := Prod.mk.inj (Option.some.inj h)
        exact .deed hc (.reply hreader ⟨by simpa using hended, hroom⟩)
      · simp [hended, hroom] at h
  case h_4 failure hreader =>
    obtain ⟨rfl, rfl⟩ := Prod.mk.inj (Option.some.inj h)
    exact of_deed hc (.close hreader)
  case h_5 failure hreader =>
    obtain ⟨rfl, rfl⟩ := Prod.mk.inj (Option.some.inj h)
    exact of_deed hc (.clear hreader)
  case h_6 failure hreader =>
    obtain ⟨rfl, rfl⟩ := Prod.mk.inj (Option.some.inj h)
    exact .report hc hreader

lemma of_receiveNotification {frame : Json} {method : String} {params : Option Json}
    (hc : w.connections[c]? = some conn) (hreader : conn.reader = .reading)
    (hframe : Incoming.classify frame = some (.notification method params))
    (h : w.receiveNotification s method params = (w', said)) :
    Turn s w (.received c (.message frame)) w' (news said) := by
  cases params with
  | none =>
    obtain ⟨rfl, rfl⟩ := Prod.mk.inj h
    exact .overlook hc hreader
  | some params =>
    simp only [receiveNotification] at h
    split at h
    case isTrue hmethod =>
      subst hmethod
      simp only [receiveDiagnostics] at h
      split at h
      case h_1 =>
        obtain ⟨rfl, rfl⟩ := Prod.mk.inj h
        exact .overlook hc hreader
      case h_2 p hp =>
        obtain ⟨rfl, rfl⟩ := Prod.mk.inj h
        rw [news_append, news_log, news_ite_log, List.append_nil]
        exact .publish hc hreader hframe hp
    case isFalse =>
      split at h
      case isTrue =>
        split at h
        all_goals
          obtain ⟨rfl, rfl⟩ := Prod.mk.inj h
          exact .overlook hc hreader
      case isFalse =>
        obtain ⟨rfl, rfl⟩ := Prod.mk.inj h
        exact .overlook hc hreader

lemma of_dispatch {frame : Json} (hc : w.connections[c]? = some conn)
    (hreader : conn.reader = .reading) (h : w.dispatch s c conn frame = (w', said)) :
    Turn s w (.received c (.message frame)) w' (news said) := by
  unfold dispatch at h
  split at h
  case h_1 =>
    obtain ⟨rfl, rfl⟩ := Prod.mk.inj h
    exact .overlook hc hreader
  case h_2 id body hframe =>
    simp only [receiveResponse, Connection.respond] at h
    by_cases hid : id ∈ conn.pending
    · simp only [hid, if_true] at h
      obtain ⟨rfl, rfl⟩ := Prod.mk.inj h
      exact of_deed hc (.respond hreader hframe hid)
    · simp only [hid, if_false] at h
      obtain ⟨rfl, rfl⟩ := Prod.mk.inj h
      exact .overlook hc hreader
  case h_3 id method params hframe =>
    obtain ⟨rfl, rfl⟩ := Prod.mk.inj h
    have hquiet : news (noteRequest s method) = [] := by
      unfold noteRequest
      split <;> rfl
    rw [hquiet]
    exact of_deed hc (.request hreader hframe)
  case h_4 method params hframe => exact of_receiveNotification hc hreader hframe h

lemma of_receive {read : Frame.Read} (hc : w.connections[c]? = some conn)
    (hreader : conn.reader = .reading) (h : w.receive s c conn read = (w', said)) :
    Turn s w (.received c read) w' (news said) := by
  cases read with
  | message frame => exact of_dispatch hc hreader h
  | ended =>
    obtain ⟨rfl, rfl⟩ := Prod.mk.inj h
    exact of_deed hc (.ended hreader)
  | fault f =>
    obtain ⟨rfl, rfl⟩ := Prod.mk.inj h
    exact of_deed hc (.fault f hreader)

/-! ### All steps -/

/-- Whatever a session does is a turn. -/
theorem of_step {a : Action} (h : w.step s a = some (w', said)) : Turn s w a w' (news said) := by
  cases a with
  | call job =>
    obtain ⟨rfl, rfl⟩ := Prod.mk.inj (Option.some.inj h)
    exact .call job
  | activate =>
    obtain ⟨rfl, rfl⟩ := Prod.mk.inj (Option.some.inj h)
    exact .activate
  | poll budget =>
    obtain ⟨rfl, rfl⟩ := Prod.mk.inj (Option.some.inj h)
    have hquiet : ∀ events : List Event, news (events.flatMap notePolled) = [] := by
      intro events
      induction events with
      | nil => rfl
      | cons event rest ih => cases event <;> simpa [notePolled] using ih
    rw [hquiet]
    exact .poll budget
  | drop i =>
    simp only [step, Option.bind_eq_bind, Option.bind_eq_some_iff] at h
    obtain ⟨call, hi, h⟩ := h
    split at h
    case isTrue hdrop =>
      have hquiet : (w.drop i call).2 = [] := by
        unfold State.drop
        split <;> rfl
      have hdropped : w.drop i call = (w', said) := Option.some.inj h
      obtain rfl : (w.drop i call).1 = w' := congrArg Prod.fst hdropped
      obtain rfl : (w.drop i call).2 = said := congrArg Prod.snd hdropped
      rw [hquiet]
      exact .drop hi hdrop
    case isFalse => cases h
  | proceed i =>
    simp only [step, Option.bind_eq_bind, Option.bind_eq_some_iff] at h
    obtain ⟨call, hi, h⟩ := h
    exact .advance hi (.of_stepCall h)
  | reopen i place =>
    simp only [step, Option.bind_eq_bind, Option.bind_eq_some_iff] at h
    obtain ⟨⟨job, stage⟩, hi, h⟩ := h
    split at h
    case h_1 c documents hstage =>
      obtain rfl : stage = .reopening c documents := hstage
      exact .advance hi (.of_reopen h)
    case h_2 => cases h
  | write c =>
    simp only [step, Option.bind_eq_bind, Option.bind_eq_some_iff] at h
    obtain ⟨conn, hc, h⟩ := h
    exact of_stepWriter hc h
  | read c =>
    simp only [step, Option.bind_eq_bind, Option.bind_eq_some_iff] at h
    obtain ⟨conn, hc, h⟩ := h
    exact of_stepReader hc h
  | expire i =>
    simp only [step, Option.bind_eq_bind, Option.bind_eq_some_iff] at h
    obtain ⟨call, hi, h⟩ := h
    split at h
    case isTrue => cases h
    case isFalse => exact .advance hi (.of_expire h)
  | launched i result =>
    simp only [step, Option.bind_eq_bind, Option.bind_eq_some_iff] at h
    obtain ⟨⟨job, stage⟩, hi, h⟩ := h
    split at h
    case h_1 hstage =>
      obtain rfl : stage = .launching := hstage
      exact .advance hi (.of_launched (Option.some.inj h))
    case h_2 => cases h
  | received c read =>
    simp only [step, Option.bind_eq_bind, Option.bind_eq_some_iff] at h
    obtain ⟨conn, hc, h⟩ := h
    split at h
    case isTrue hreading =>
      have hreader : conn.reader = .reading := by
        cases hr : conn.reader <;> simp [hr, Reader.isReading] at hreading ⊢
      exact of_receive hc hreader (Option.some.inj h)
    case isFalse => cases h
  | drained c count =>
    simp only [step, Option.bind_eq_bind, Option.bind_eq_some_iff] at h
    obtain ⟨conn, hc, h⟩ := h
    obtain ⟨rfl, rfl⟩ := Prod.mk.inj (Option.some.inj h)
    exact .deed hc (.drained count)
  | broken c reason =>
    simp only [step, Option.bind_eq_bind, Option.bind_eq_some_iff] at h
    obtain ⟨conn, hc, h⟩ := h
    obtain ⟨rfl, rfl⟩ := Prod.mk.inj (Option.some.inj h)
    exact .deed hc (.broken reason)
  | exited i problem =>
    simp only [step, Option.bind_eq_bind, Option.bind_eq_some_iff] at h
    obtain ⟨⟨job, stage⟩, hi, h⟩ := h
    split at h
    case h_1 c problems hstage =>
      obtain rfl : stage = .reaping c problems := hstage
      exact .advance hi (.of_reaped (.inr ⟨problem, rfl⟩) (Option.some.inj h))
    case h_2 => cases h

end Turn

end State

end LanguageClient
