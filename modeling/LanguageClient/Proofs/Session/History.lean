import LanguageClient.Proofs.Session.Documents
import LanguageClient.Proofs.Session.Sound

/-!
# What document calls have come to

The documents of a session are what the answers of its document calls amount to, one after another:
`Run.recorded`. A call that closes a document takes it away before it has its answer, so in between
the documents are a call ahead: `Job.Announces`. No answer is counted twice or left out:
`Run.perm_answers`.
-/

namespace LanguageClient

/-! ### Answers and what they do -/

/-- The answer of a document call. -/
abbrev Answer := Except NotifyError Forwarded

/-- The answer of a call, once it is settled. A call that closes a document has its answer before it
drops the diagnostics. -/
def Stage.answer? : Stage → Option Answer
  | .forgetting _ (.document result) | .done (.document result) => some result
  | _ => none

/-- What a document call does to the documents by its answer. A text counts only once it is sent; a
document is closed whether or not there was still a server to tell. -/
def Job.effect (documents : Table OpenDocument) : Job → Answer → Table OpenDocument
  | .sync _ doc text, .ok .sent =>
    let version := match documents.find? doc.uri with
      | some before => OpenDocument.nextVersion before.version
      | none => 1
    documents.insert doc.uri ⟨doc.languageId, version, text⟩
  | .close doc, .ok .sent | .close doc, .error (.connectionClosed _) => documents.erase doc.uri
  | _, _ => documents

/-- Whether an answer says that there was nothing to do, or nobody to do it for. -/
def Answer.isVoid : Answer → Bool
  | .ok .outOfScope | .ok .notOpen | .error (.notRunning _) => true
  | .ok .sent | .error (.connectionClosed _) => false

lemma Job.effect_of_isVoid {answer : Answer} (h : answer.isVoid = true) (job : Job)
    (documents : Table OpenDocument) : job.effect documents answer = documents := by
  rcases answer with error | forwarded
  · cases error <;> cases job <;> first | rfl | cases h
  · cases forwarded <;> cases job <;> first | rfl | cases h

/-- The job of a document call and its answer, once that is settled. -/
def Call.answer? (call : Call) : Option (Job × Answer) := call.stage.answer?.map (call.job, ·)

/-- What a call comes to have as its answer in a moment. -/
def Moment.answer? (m : Moment) : Option (Job × Answer) := do
  let i ← m.action.caller?
  let before ← m.before.calls[i]?
  let after ← m.after.calls[i]?
  if before.answer?.isSome then none else after.answer?

/-- The answers that document calls have had, the oldest first. -/
def answers (past : List Moment) : List (Job × Answer) := past.filterMap (·.answer?)

lemma answers_concat (past : List Moment) (m : Moment) :
    answers (past ++ [m]) = answers past ++ m.answer?.toList := by
  rw [answers, List.filterMap_append]
  cases h : m.answer? <;> simp [answers, h]

/-- The documents after answers, when there were none before. -/
def effects (answers : List (Job × Answer)) : Table OpenDocument :=
  answers.foldl (fun documents e => e.1.effect documents e.2) []

/-- What a moment does to the documents. -/
def Moment.effect (documents : Table OpenDocument) (m : Moment) : Table OpenDocument :=
  m.answer?.elim documents fun e => e.1.effect documents e.2

lemma effects_answers_append (past : List Moment) (m : Moment) :
    effects (answers (past ++ [m])) = m.effect (effects (answers past)) := by
  rw [answers_concat, effects, List.foldl_append, Moment.effect]
  cases m.answer? <;> rfl

lemma Notice.answer?_settled (notice : Notice) (result : Answer) :
    (notice.settled result).answer? = some result := by
  cases notice <;> rfl

lemma Moment.answer?_of_caller {m : Moment} {i : Nat} {before after : Call}
    (hcaller : m.action.caller? = some i) (hi : m.before.calls[i]? = some before)
    (hi' : m.after.calls[i]? = some after) :
    m.answer? = if before.answer?.isSome then none else after.answer? := by
  simp [Moment.answer?, hcaller, hi, hi']

lemma Moment.effect_of_no_caller {m : Moment} (h : m.action.caller? = none)
    (documents : Table OpenDocument) : m.effect documents = documents := by
  simp [Moment.effect, Moment.answer?, h]

/-! ### Notices that are about to be sent -/

namespace Stage

def isSending : Stage → Bool
  | .sending _ _ => true
  | _ => false

lemma isInside_of_isSending {stage : Stage} (h : stage.isSending = true) :
    stage.isInside = true := by
  cases stage <;> first | rfl | cases h

end Stage

/-- What a document call is about to tell the server, and how far the session's documents are from
the answers by then. -/
def Job.Announces (settled documents : Table OpenDocument) (notice : Notice) : Job → Prop
  | .sync _ doc text => notice = .sync settled doc text ∧ documents = settled
  | .close doc => notice = .closed doc.uri ∧ documents = settled.erase doc.uri
  | _ => False

/-- A text that is sent counts as the notice says. -/
lemma Notice.apply_sync (documents : Table OpenDocument) (opening : Bool) (doc : Document)
    (text : String) :
    (Notice.sync documents doc text).apply documents =
      (Job.sync opening doc text).effect documents (.ok .sent) := by
  unfold Notice.sync
  cases hfind : documents.find? doc.uri <;> simp [Job.effect, hfind, Notice.apply]

namespace Job.Announces

variable {settled documents : Table OpenDocument} {notice : Notice} {job : Job}

lemma sent (h : job.Announces settled documents notice) :
    notice.apply documents = job.effect settled (.ok .sent) := by
  cases job with
  | sync opening doc text =>
    obtain ⟨rfl, rfl⟩ := h
    exact Notice.apply_sync ..
  | close doc =>
    obtain ⟨rfl, rfl⟩ := h
    exact Table.erase_erase ..
  | _ => exact h.elim

lemma unsent (h : job.Announces settled documents notice) (method : String) :
    documents = job.effect settled (.error (.connectionClosed method)) := by
  cases job with
  | sync | close => exact h.2
  | _ => exact h.elim

end Job.Announces

/-- What a document call has to tell the server. -/
def Job.Sends (notice : Notice) : Job → Prop
  | .sync _ doc text => ∃ documents, notice = .sync documents doc text
  | .close doc => notice = .closed doc.uri
  | _ => False

lemma Notice.isSending_settled (notice : Notice) (result : Answer) :
    (notice.settled result).isSending = false := by
  cases notice <;> rfl

namespace State

variable {s : Setup} {w w' : State} {a : Action} {i : Nat} {job : Job} {before : Stage}
  {said : List Effect}

/-! ### What steps of calls have to do with documents -/

/-- A step of a call does nothing about documents, or begins to tell the server of one, or is done
with that. -/
inductive Bears (w : State) (i : Nat) (job : Job) (before : Stage) (w' : State) : Prop
  | nothing {after : Stage} : w'.calls[i]? = some ⟨job, after⟩ →
      before.isSending = false → after.isSending = false → w'.documents = w.documents →
      (before.answer?.isSome = true ∨ ∀ result, after.answer? = some result →
        ∀ documents, job.effect documents result = documents) →
      Bears w i job before w'
  | announces {c : Nat} {notice : Notice} : before = .waiting → w.line.head? = some i →
      w'.calls[i]? = some ⟨job, .sending c notice⟩ →
      job.Announces w.documents w'.documents notice → Bears w i job before w'
  | answers {c : Nat} {notice : Notice} (result : Answer) :
      before = .sending c notice → w'.calls[i]? = some ⟨job, notice.settled result⟩ →
      result = .ok .sent ∧ w'.documents = notice.apply w.documents ∨
        result = .error (.connectionClosed notice.method) ∧ w'.documents = w.documents →
      Bears w i job before w'

lemma Exchange.not_isSending {c : Nat} {after : Stage} {f : Connection → Connection}
    (h : Exchange s w c before f after said) :
    before.isSending = false ∧ after.isSending = false ∧ after.answer? = none := by
  cases h with
  | closedBefore ask | closedSince ask | unasked ask | rejected ask | forsaken ask
  | timedOut ask => cases ask <;> exact ⟨rfl, rfl, rfl⟩
  | _ => exact ⟨rfl, rfl, rfl⟩

lemma Advance.bears (hi : w.calls[i]? = some ⟨job, before⟩)
    (h : Advance s w i job a before w' said) (hsound : Sound True w) :
    Bears w i job before w' := by
  cases h with
  | exchange _ hex =>
    obtain ⟨hbefore, hafter, hanswer⟩ := hex.not_isSending
    exact .nothing (getElem?_moveCall_self _ hi) hbefore hafter rfl (.inr (by simp [hanswer]))
  -- Calls that end without a word to the server.
  | outOfScope =>
    refine .nothing (getElem?_moveCall_self _ hi) rfl rfl rfl (.inr ?_)
    rintro _ ⟨⟩
    exact Job.effect_of_isVoid rfl job
  | refused _ _ hstage =>
    have hbefore : before.isSending = false := by
      rcases hstage with rfl | ⟨rfl, -⟩ <;> rfl
    refine .nothing (getElem?_moveCall_self _ hi) hbefore rfl rfl (.inr ?_)
    rintro _ ⟨⟩
    exact Job.effect_of_isVoid rfl job
  | notOpen =>
    refine .nothing (getElem?_moveCall_self _ hi) rfl rfl rfl (.inr ?_)
    rintro _ ⟨⟩
    exact Job.effect_of_isVoid rfl _
  | notifyNobody hfirst hrunning hslot | closeNobody hfirst hrunning _ hslot =>
    obtain ⟨live, -, hidle⟩ := hsound.fits_of_head hfirst hi
    exact absurd (hidle.slotted (Phase.eq_running hrunning)) (by simp [hslot])
  -- Calls that tell the server something.
  | notify hfirst => exact .announces rfl hfirst (getElem?_moveCall_self _ hi) ⟨rfl, rfl⟩
  | notifyClosed hfirst => exact .announces rfl hfirst (getElem?_moveCall_self _ hi) ⟨rfl, rfl⟩
  | sent notice =>
    exact .answers (.ok .sent) rfl (getElem?_moveCall_self _ hi) (.inl ⟨rfl, rfl⟩)
  | unsent notice =>
    exact .answers _ rfl (getElem?_moveCall_self _ hi) (.inr ⟨rfl, rfl⟩)
  | forget uri outcome =>
    refine .nothing (getElem?_moveCall_self _ hi) rfl rfl rfl ?_
    cases outcome with
    | document => exact .inl rfl
    | start | stop => exact .inr nofun
  -- The others.
  | leave outcome =>
    have hstart : job.isStart = true := hsound.suited hi
    refine .nothing (getElem?_moveCall_self _ hi) rfl rfl rfl (.inr fun result _ documents => ?_)
    cases job <;> first | rfl | cases hstart
  | lose =>
    exact .nothing (getElem?_moveCall_self _ (getElem?_calls_lose hi)) rfl rfl
      (documents_lose ..) (.inr nofun)
  | _ => exact .nothing (getElem?_moveCall_self _ hi) rfl rfl rfl (.inr nofun)

/-- A call comes to tell the server of its own document only. -/
lemma Advance.sends (h : Advance s w i job a before w' said)
    (hi : w.calls[i]? = some ⟨job, before⟩) {c : Nat} {notice : Notice}
    (hi' : w'.calls[i]? = some ⟨job, .sending c notice⟩) : job.Sends notice := by
  have hsettled {told : Notice} {result : Answer}
      (hi' : (moveCall w.calls i (told.settled result))[i]? = some ⟨job, .sending c notice⟩) :
      job.Sends notice := by
    have hsending := told.isSending_settled result
    rw [← (Call.mk.inj (eq_of_moveCall hi hi')).2] at hsending
    cases hsending
  cases h with
  | exchange _ hex =>
    obtain ⟨-, hsending, -⟩ := hex.not_isSending
    obtain ⟨-, rfl⟩ := Call.mk.inj (eq_of_moveCall hi hi')
    cases hsending
  | notify =>
    cases eq_of_moveCall hi hi'
    exact ⟨_, rfl⟩
  | notifyClosed =>
    cases eq_of_moveCall hi hi'
    rfl
  | notifyNobody | closeNobody | sent | unsent => exact hsettled hi'
  | lose => cases eq_of_moveCall (getElem?_calls_lose hi) hi'
  | _ => cases eq_of_moveCall hi hi'

/-! ### The documents and the answers -/

/-- The documents are what answers amount to, unless a call is about to tell the server of one. -/
structure Recorded (w : State) (settled : Table OpenDocument) : Prop where
  pending : ∀ {i c : Nat} {job : Job} {notice : Notice},
    w.calls[i]? = some ⟨job, .sending c notice⟩ → job.Announces settled w.documents notice
  idle : (holder w.line w.calls).isSending = false → w.documents = settled

namespace Recorded

variable {settled : Table OpenDocument}

theorem initial : Recorded .initial [] where
  pending hi := by simp [State.initial] at hi
  idle _ := rfl

/-- A turn that is not about documents. -/
lemma keep (h : Recorded w settled) (hdocuments : w'.documents = w.documents)
    (hcalls : ∀ {k : Nat} {call : Call}, w'.calls[k]? = some call → call.stage.isSending = true →
      w.calls[k]? = some call)
    (hholder : (holder w'.line w'.calls).isSending = false →
      (holder w.line w.calls).isSending = false) : Recorded w' settled where
  pending hi := by
    rw [hdocuments]
    exact h.pending (hcalls hi rfl)
  idle hidle := by
    rw [hdocuments]
    exact h.idle (hholder hidle)

end Recorded

/-- Who else stands first in line for the lock still does when a call goes on. -/
lemma Advance.isSending_holder (hi : w.calls[i]? = some ⟨job, before⟩)
    (h : Advance s w i job a before w' said) (hordered : Ordered w.line w.calls)
    (hbefore : before.isSending = false) :
    (holder w'.line w'.calls).isSending = false → (holder w.line w.calls).isSending = false := by
  intro hafter
  cases hhead : w.line.head? with
  | none => simp [holder, hhead, Stage.isSending]
  | some k =>
    obtain ⟨call, hk, -⟩ := (hordered.mem_iff k).mp (List.mem_of_mem_head? hhead)
    rw [holder_of_head hhead hk]
    rcases eq_or_ne i k with rfl | hne
    · obtain rfl := Option.some.inj (hi.symm.trans hk)
      exact hbefore
    · obtain ⟨rest, hrest⟩ : ∃ rest, w.line = k :: rest := List.head?_eq_some_iff.mp hhead
      have hhead' : w'.line.head? = some k := by
        rcases h.line with hline | hline | hline <;> rw [hline, hrest]
        · rfl
        · rfl
        · simp [hne.symm]
      rwa [holder_of_head hhead' (h.other hk hne)] at hafter

namespace Recorded

variable {settled : Table OpenDocument}

lemma advance (h : Recorded w settled) (hsound : Sound True w) (hsound' : Sound True w')
    (hi : w.calls[i]? = some ⟨job, before⟩) (hadv : Advance s w i job a before w' said)
    (heard : List Effect) : Recorded w' (Moment.effect settled ⟨w, a, w', heard⟩) := by
  have hothers {k : Nat} {call : Call} (hk : w'.calls[k]? = some call)
      (hsending : call.stage.isSending = true) (hne : i ≠ k) : w.calls[k]? = some call := by
    rcases hadv.of_other hk hne with hk | harriving
    · exact hk
    · simp [harriving, Stage.isSending] at hsending
  have hanswer {after : Stage} (hi' : w'.calls[i]? = some ⟨job, after⟩) :
      Moment.answer? ⟨w, a, w', heard⟩ =
        if (Call.mk job before).answer?.isSome then none else (Call.mk job after).answer? :=
    Moment.answer?_of_caller hadv.caller hi hi'
  cases hadv.bears hi hsound with
  | @nothing after hi' hbefore hafter hdocuments heffect =>
    have hsame : Moment.effect settled ⟨w, a, w', heard⟩ = settled := by
      rw [Moment.effect, hanswer hi']
      rcases heffect with hanswered | heffect
      · simp [Call.answer?, hanswered]
      · cases hresult : after.answer? with
        | none => simp [Call.answer?, hresult]
        | some result => split <;> simp [Call.answer?, hresult, heffect result hresult]
    rw [hsame]
    refine h.keep hdocuments (fun {k call} hk hsending => ?_)
      (hadv.isSending_holder hi hsound.ordered hbefore)
    rcases eq_or_ne i k with rfl | hne
    · obtain rfl := Option.some.inj (hi'.symm.trans hk)
      exact absurd hsending (by simp [hafter])
    · exact hothers hk hsending hne
  | @announces c notice hwaiting hfirst hi' hannounces =>
    subst hwaiting
    have hsame : Moment.effect settled ⟨w, a, w', heard⟩ = settled := by
      rw [Moment.effect, hanswer hi']
      rfl
    have hsettled : w.documents = settled :=
      h.idle (by rw [holder_of_head hfirst hi]; rfl)
    have hhead' := hsound'.head_of_inside hi' rfl
    rw [hsame]
    refine ⟨fun {k _ _ _} hk => ?_, fun hidle => ?_⟩
    · obtain rfl : i = k :=
        Option.some.inj (hhead'.symm.trans (hsound'.head_of_inside hk rfl))
      obtain ⟨rfl, rfl, rfl⟩ : _ := by simpa using hi'.symm.trans hk
      rwa [← hsettled]
    · rw [holder_of_head hhead' hi'] at hidle
      cases hidle
  | @answers c notice result hsending hi' hresult =>
    subst hsending
    have hannounces := h.pending hi
    have heffect : Moment.effect settled ⟨w, a, w', heard⟩ = job.effect settled result := by
      rw [Moment.effect, hanswer hi', Call.answer?, Call.answer?, Notice.answer?_settled]
      rfl
    rw [heffect]
    refine ⟨fun {k _ _ _} hk => ?_, fun _ => ?_⟩
    · rcases eq_or_ne i k with rfl | hne
      · have hsettled := congrArg Call.stage (Option.some.inj (hi'.symm.trans hk))
        cases notice <;> cases hsettled
      · have hhead := hsound.head_of_inside hi rfl
        have hhead' := hsound.head_of_inside (hothers hk rfl hne) rfl
        exact absurd (Option.some.inj (hhead.symm.trans hhead')) hne
    · rcases hresult with ⟨rfl, hdocuments⟩ | ⟨rfl, hdocuments⟩
      · exact hdocuments.trans hannounces.sent
      · exact hdocuments.trans (hannounces.unsent _)

/-- A new call has nothing to say yet. -/
lemma begin (h : Recorded w settled) (hordered : Ordered w.line w.calls) (job : Job) :
    Recorded (w.begin job) settled := by
  refine h.keep rfl (fun hk hsending => ?_) fun hidle => ?_
  · rcases of_getElem?_append_call hk with hk | rfl
    · exact hk
    · cases hsending
  · rwa [← hordered.holder_begin job]

/-- A call is given up before it uses the lock. -/
lemma drop (h : Recorded w settled) (hordered : Ordered w.line w.calls)
    (hi : w.calls[i]? = some ⟨job, before⟩) (hout : before.isInside = false) :
    Recorded (w.drop i ⟨job, before⟩).1 settled := by
  rw [drop_of_not_owned (Stage.owned?_eq_none hout)]
  refine h.keep rfl (fun {k call} hk hsending => ?_) fun hidle => ?_
  · have hk : (moveCall w.calls i .dropped)[k]? = some call := hk
    rcases eq_or_ne i k with rfl | hne
    · rw [getElem?_moveCall_self _ hi] at hk
      obtain rfl := Option.some.inj hk
      cases hsending
    · rwa [getElem?_moveCall_ne _ _ hne] at hk
  · by_cases hhead : w.line.head? = some i
    · rw [holder_of_head hhead hi]
      exact Bool.eq_false_iff.mpr fun hsending => by
        simp [Stage.isInside_of_isSending hsending] at hout
    · rwa [← hordered.holder_leave_of_ne hhead .dropped]

theorem turn (h : Recorded w settled) (hsound : Sound True w) (hsound' : Sound True w')
    (hturn : Turn s w a w' said) (hwhole : ∀ call, ¬w.Interrupts a call) (heard : List Effect) :
    Recorded w' (Moment.effect settled ⟨w, a, w', heard⟩) := by
  cases hturn with
  | advance hi hadv => exact h.advance hsound hsound' hi hadv heard
  | call job =>
    rw [Moment.effect_of_no_caller rfl]
    exact h.begin hsound.ordered job
  | activate =>
    have hbegun := h.begin hsound.ordered .start
    rw [Moment.effect_of_no_caller rfl]
    exact ⟨hbegun.pending, hbegun.idle⟩
  | @drop i call hi =>
    have hout : call.stage.isInside = false := isInside_of_not_interrupts hwhole hi
    rw [Moment.effect_of_no_caller rfl]
    exact h.drop hsound.ordered hi hout
  | deed _ hdeed =>
    rw [Moment.effect_of_no_caller hdeed.no_caller]
    exact ⟨h.pending, h.idle⟩
  | publish =>
    rw [Moment.effect_of_no_caller rfl, emit_fst]
    exact ⟨h.pending, h.idle⟩
  | poll | overlook =>
    rw [Moment.effect_of_no_caller rfl]
    exact ⟨h.pending, h.idle⟩
  | @report c =>
    have hended : Ordered (w.modifyConnection c Connection.endReader).line
        (w.modifyConnection c Connection.endReader).calls := hsound.ordered
    rw [Moment.effect_of_no_caller rfl]
    refine h.keep (documents_lose ..) (fun hk hsending => ?_) fun hidle => ?_
    · rcases of_getElem?_calls_lose hk with hk | harriving
      · exact hk
      · simp [harriving, Stage.isSending] at hsending
    · rw [holder_lose hended] at hidle
      exact hidle

end Recorded

end State

/-! ### The answers are those of the calls -/

/-- The answers that calls have. -/
abbrev callAnswers (calls : List Call) : List (Job × Answer) :=
  calls.filterMap (·.answer?)

lemma callAnswers_begin (calls : List Call) (job : Job) :
    callAnswers (calls ++ [⟨job, .arriving⟩]) = callAnswers calls := by
  simp [callAnswers, Call.answer?, Stage.answer?]

/-- A call that has its answer keeps it, and one that comes to have one adds it to the others. -/
lemma perm_callAnswers_moveCall {calls : List Call} {i : Nat} {job : Job} {before after : Stage}
    (hi : calls[i]? = some ⟨job, before⟩)
    (hkeeps : before.answer? = none ∨ after.answer? = before.answer?) :
    (callAnswers (moveCall calls i after)).Perm (callAnswers calls ++
      (if (Call.mk job before).answer?.isSome then none
        else (Call.mk job after).answer?).toList) := by
  have hlt : i < calls.length := (List.getElem?_eq_some_iff.mp hi).1
  obtain ⟨earlier, call, later, rfl, rfl, hmoved⟩ :=
    List.exists_of_modify (fun call : Call => { call with stage := after }) hlt
  obtain rfl : call = ⟨job, before⟩ := by simpa using hi
  rw [moveCall, hmoved]
  simp only [callAnswers, List.filterMap_append, List.filterMap_cons]
  rcases hkeeps with hnone | hsame
  · have hunanswered : (Call.mk job before).answer? = none := by simp [Call.answer?, hnone]
    rw [hunanswered]
    cases hafter : (Call.mk job after).answer? with
    | none => simp
    | some answer =>
      simpa using List.perm_middle.trans (List.perm_append_singleton answer _).symm
  · have hkept : (Call.mk job after).answer? = (Call.mk job before).answer? := by
      simp [Call.answer?, hsame]
    rw [hkept]
    cases (Call.mk job before).answer? <;> simp

namespace State

variable {s : Setup} {w w' : State} {a : Action} {i : Nat} {job : Job} {before : Stage}
  {said : List Effect}

lemma callAnswers_lose (s : Setup) (w : State) (c : Nat) (failure : RuntimeFailure) :
    callAnswers (w.lose s c failure).1.calls = callAnswers w.calls := by
  rcases calls_lose s w c failure with hcalls | hcalls <;> rw [hcalls]
  exact callAnswers_begin _ _

/-- A step of a call moves that call, takes no answer back, and begins a restart at most. -/
lemma Advance.moves (hi : w.calls[i]? = some ⟨job, before⟩)
    (h : Advance s w i job a before w' said) :
    ∃ calls after, w'.calls = moveCall calls i after ∧ calls[i]? = some ⟨job, before⟩ ∧
      callAnswers calls = callAnswers w.calls ∧
      (before.answer? = none ∨ after.answer? = before.answer?) := by
  cases h with
  | exchange _ hex => exact ⟨_, _, rfl, hi, rfl, .inl (by cases hex <;> rfl)⟩
  | refused _ _ hstage =>
    exact ⟨_, _, rfl, hi, rfl, .inl (by rcases hstage with rfl | ⟨rfl, -⟩ <;> rfl)⟩
  | forget uri outcome =>
    exact ⟨_, _, rfl, hi, rfl, .inr (by cases outcome <;> rfl)⟩
  | lose => exact ⟨_, _, rfl, getElem?_calls_lose hi, callAnswers_lose .., .inl rfl⟩
  | _ => exact ⟨_, _, rfl, hi, rfl, .inl rfl⟩

lemma Turn.perm_callAnswers (h : Turn s w a w' said) (heard : List Effect) :
    (callAnswers w'.calls).Perm
      (callAnswers w.calls ++ (Moment.answer? ⟨w, a, w', heard⟩).toList) := by
  have hsame (hcaller : a.caller? = none) (hanswers : callAnswers w'.calls = callAnswers w.calls) :
      (callAnswers w'.calls).Perm
        (callAnswers w.calls ++ (Moment.answer? ⟨w, a, w', heard⟩).toList) := by
    simp [Moment.answer?, hcaller, hanswers]
  cases h with
  | advance hi hadv =>
    obtain ⟨calls, after, hcalls, hi', hanswers, hkeeps⟩ := hadv.moves hi
    have hmoved : w'.calls[_]? = some _ := hcalls ▸ getElem?_moveCall_self after hi'
    rw [Moment.answer?_of_caller hadv.caller hi hmoved, hcalls, ← hanswers]
    exact perm_callAnswers_moveCall hi' hkeeps
  | call | activate => exact hsame rfl (callAnswers_begin _ _)
  | poll | overlook => exact hsame rfl rfl
  | publish => exact hsame rfl (by rw [emit_fst])
  | deed _ hdeed => exact hsame hdeed.no_caller rfl
  | report => exact hsame rfl (callAnswers_lose ..)
  | @drop i call hi hdrop =>
    have hwait : call.stage.answer? = none := by
      have hwait := canWait_of_canDrop hdrop
      cases hstage : call.stage <;> simp [hstage, Stage.canWait, Stage.answer?] at hwait ⊢
    have hcalls : (w.drop i call).1.calls = moveCall w.calls i .dropped := by
      unfold State.drop
      split <;> rfl
    have hmoved : (callAnswers (moveCall w.calls i .dropped)).Perm _ :=
      perm_callAnswers_moveCall hi (.inl hwait)
    rw [hcalls]
    simpa [Moment.answer?, Action.caller?, Call.answer?, Stage.answer?] using hmoved

end State

namespace Run

variable {s : Setup} {past : List Moment} {w : State}

theorem sends (h : Run s past w) {i c : Nat} {job : Job} {notice : Notice}
    (hi : w.calls[i]? = some ⟨job, .sending c notice⟩) : job.Sends notice := by
  induction h with
  | initial => simp [State.initial] at hi
  | step a _ hstep ih =>
    rcases (State.Turn.of_step hstep).of_call hi with hold | hstage | hstage | ⟨stage, hold, hadv⟩
    · exact ih hold
    · cases hstage
    · cases hstage
    · exact hadv.sends hold hi

/-- The answers that calls have had in a run are those that they have now, each once. -/
theorem perm_answers (h : Run s past w) : (answers past).Perm (callAnswers w.calls) := by
  induction h with
  | initial => exact .refl _
  | @step past w w' said a _ hstep ih =>
    have hturn := (State.Turn.of_step hstep).perm_callAnswers said
    rw [answers_concat]
    exact (ih.append_right _).trans hturn.symm

theorem recorded (h : Run s past w) (hwhole : ∀ m ∈ past, ∀ call, ¬m.interrupts call) :
    State.Recorded w (effects (answers past)) := by
  refine induction_of_whole (P := fun past w => State.Recorded w (effects (answers past))) .initial
    ?_ h hwhole
  intro past w w' a said _ hrecorded hsound hsound' hturn hlast
  rw [effects_answers_append]
  exact hrecorded.turn hsound hsound' hturn hlast _

end Run

end LanguageClient
