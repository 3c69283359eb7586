import LanguageClient.Proofs.Session.History
import LanguageClient.Proofs.Session.Inbox
import LanguageClient.Proofs.Session.Omission

/-!
# Document calls that fail

A document call goes on in few ways: `State.Deals`. It only ever gets further, and from where it is
it can come to some answers only. A call that has come to nothing has thus never done anything but
go on, and the run without it is a run in which everybody else does and sees the same. A call that
closes a document when nothing takes its notice any more has taken the document from those that are
tracked at one moment, has dropped its diagnostics at a later one, and has done nothing else:
`Run.failed_calls_consistent`.
-/

namespace LanguageClient

/-- Whether the answer of a document call says that it has done nothing. -/
def Call.cameToNothing (call : Call) : Bool :=
  match call.job, call.stage with
  | .sync _ _ _, .done (.document (.error _)) => true
  | .close _, .done (.document (.error (.notRunning _))) => true
  | .close _, .done (.document (.ok .notOpen)) => true
  | _, _ => false

lemma Call.of_cameToNothing {call : Call} (h : call.cameToNothing = true) :
    call.job.document?.isSome = true ∧ ∃ answer : Answer, call.stage = .done (.document answer) ∧
      answer ≠ .ok .sent ∧ ∀ doc, call.job = .close doc → answer.isVoid = true := by
  unfold cameToNothing at h
  split at h
  case h_1 hjob hstage => exact ⟨by rw [hjob]; rfl, _, hstage, nofun, by simp [hjob]⟩
  case h_2 hjob hstage => exact ⟨by rw [hjob]; rfl, _, hstage, nofun, fun _ _ => rfl⟩
  case h_3 hjob hstage => exact ⟨by rw [hjob]; rfl, _, hstage, nofun, fun _ _ => rfl⟩
  case h_4 => cases h

/-! ### How a document call goes on -/

namespace Stage

/-- How far a document call has got. -/
def progress : Stage → Nat
  | .arriving => 0
  | .waiting => 1
  | .sending _ _ => 2
  | .forgetting _ _ => 3
  | _ => 4

lemma progress_le (stage : Stage) : stage.progress ≤ 4 := by
  cases stage <;> simp [progress]

/-- Whether a document call may still come to an answer. -/
def leadsTo (answer : Answer) : Stage → Prop
  | .arriving | .waiting => True
  | .sending _ _ => answer.isVoid = false
  | .forgetting _ outcome => outcome = .document answer ∧ answer.isVoid = false
  | .done outcome => outcome = .document answer
  | _ => False

end Stage

lemma Notice.leadsTo_settled {notice : Notice} {result answer : Answer}
    (h : (notice.settled result).leadsTo answer) : answer = result := by
  cases notice with
  | opened | changed => exact (Outcome.document.inj h).symm
  | closed => exact (Outcome.document.inj h.1).symm

lemma Notice.progress_settled (notice : Notice) (result : Answer) :
    2 < (notice.settled result).progress := by
  cases notice <;> simp [settled, Stage.progress]

namespace State

variable {s : Setup} {w w' : State} {a : Action} {i : Nat} {job : Job} {stage after : Stage}
  {said : List Effect} {answer : Answer}

/-- What a document call does when it goes on. -/
inductive Deals (w : State) (i : Nat) (job : Job) : Stage → State → List Effect → Prop
  /-- It ends, there being nothing to do. -/
  | settle {stage : Stage} (answer : Answer) : stage = .arriving ∨ stage = .waiting →
      answer.isVoid = true → Deals w i job stage (w.finish i (.document answer)) []
  | enlist : Deals w i job .arriving ({ w with line := w.line ++ [i] }.setStage i .waiting) []
  /-- It has the lock, and goes on to send a text. -/
  | write (c : Nat) {opening : Bool} {doc : Document} {text : String} :
      job = .sync opening doc text →
      Deals w i job .waiting (w.setStage i (.sending c (.sync w.documents doc text))) []
  /-- It has the lock, and goes on to close a document that is tracked no more. -/
  | untrack (c : Nat) {doc : Document} : job = .close doc →
      (w.documents.find? doc.uri).isSome = true →
      Deals w i job .waiting ({ w with documents := w.documents.erase doc.uri }.setStage i
        (.sending c (.closed doc.uri))) []
  | sent {c : Nat} {notice : Notice} {w' : State} {said : List Effect} :
      w'.calls = moveCall w.calls i (notice.settled (.ok .sent)) →
      Deals w i job (.sending c notice) w' said
  | unsent {c : Nat} (notice : Notice) :
      Deals w i job (.sending c notice) ((w.leave i).setStage i
        (notice.settled (.error (.connectionClosed notice.method)))) []
  | forget (uri : String) (outcome : Outcome) :
      Deals w i job (.forgetting uri outcome)
        ({ w with store := w.store.forget uri }.finish i outcome) []

lemma isLifecycle_of_document (hdoc : job.document?.isSome = true) : job.isLifecycle = false := by
  cases job <;> first | rfl | cases hdoc

theorem Advance.deals (h : Advance s w i job a stage w' said) (hsound : Sound False w)
    (hi : w.calls[i]? = some ⟨job, stage⟩) (hdoc : job.document?.isSome = true) :
    Deals w i job stage w' said := by
  have hsuits : job.suits stage = true := hsound.suited hi
  have hother : job.isStart = false ∧ job.isStopping = false := by
    simpa [Job.isLifecycle] using isLifecycle_of_document hdoc
  cases h with
  | exchange _ hex =>
    obtain ⟨c, notice, rfl⟩ := Job.eq_sending hsuits hex.inside.1 (isLifecycle_of_document hdoc)
    cases hex.not_isSending.1
  | outOfScope => exact .settle _ (.inl rfl) rfl
  | refused _ _ hstage => exact .settle _ (hstage.imp_right And.left) rfl
  | enlist => exact .enlist
  | notify => exact .write _ rfl
  | notOpen => exact .settle _ (.inr rfl) rfl
  | notifyClosed _ _ hopen => exact .untrack _ rfl hopen
  | notifyNobody hfirst hrunning hslot | closeNobody hfirst hrunning _ hslot =>
    obtain ⟨live, -, hidle⟩ := hsound.fits_of_head hfirst hi
    exact absurd (hidle.slotted (Phase.eq_running hrunning)) (by simp [hslot])
  | sent => exact .sent rfl
  | unsent notice => exact .unsent notice
  | forget uri outcome => exact .forget uri outcome
  | told | join | joinFirst | deactivate | joined | ignored | superseded => cases hdoc
  | heard =>
    cases job with
    | sync | close => cases hsuits
    | _ => cases hdoc
  | vacate _ hmay | launch _ hmay =>
    cases job with
    | sync | close => exact hmay.elim
    | _ => cases hdoc
  | stopIgnored _ hstop | stop _ hstop | stopNobody _ hstop =>
    cases job with
    | sync | close => cases hstop
    | _ => cases hdoc
  | _ => simp [Job.suits, hother] at hsuits

namespace Deals

/-- A call only ever gets further. -/
lemma progress_lt (h : Deals w i job stage w' said) (hi : w.calls[i]? = some ⟨job, stage⟩)
    (hi' : w'.calls[i]? = some ⟨job, after⟩) : stage.progress < after.progress := by
  cases h with
  | settle answer hstage =>
    obtain rfl := stage_of_moveCall hi hi'
    rcases hstage with rfl | rfl <;> simp [Stage.progress]
  | sent hcalls =>
    rw [hcalls] at hi'
    obtain rfl := stage_of_moveCall hi hi'
    exact Notice.progress_settled ..
  | unsent =>
    obtain rfl := stage_of_moveCall hi hi'
    exact Notice.progress_settled ..
  | _ =>
    obtain rfl := stage_of_moveCall hi hi'
    simp [Stage.progress]

/-- A call drops diagnostics once it has told the server, or tried to. -/
lemma outcome_of_forgetting {uri : String} {outcome : Outcome}
    (h : Deals w i job stage w' said) (hi : w.calls[i]? = some ⟨job, stage⟩)
    (hi' : w'.calls[i]? = some ⟨job, .forgetting uri outcome⟩) :
    ∃ result : Answer, outcome = .document result ∧ result.isVoid = false := by
  have hsettled {notice : Notice} {result : Answer}
      (hstage : .forgetting uri outcome = notice.settled result) : outcome = .document result := by
    cases notice <;> cases hstage
    rfl
  cases h with
  | sent hcalls =>
    rw [hcalls] at hi'
    exact ⟨_, hsettled (stage_of_moveCall hi hi'), rfl⟩
  | unsent => exact ⟨_, hsettled (stage_of_moveCall hi hi'), rfl⟩
  | _ => cases stage_of_moveCall hi hi'

/-- The answers that a call may come to are among those that it might have come to before. -/
lemma leadsTo_of_after (h : Deals w i job stage w' said) (hi : w.calls[i]? = some ⟨job, stage⟩)
    (hi' : w'.calls[i]? = some ⟨job, after⟩)
    (hforgetting : ∀ uri outcome, stage = .forgetting uri outcome →
      ∃ result : Answer, outcome = .document result ∧ result.isVoid = false)
    (hafter : after.leadsTo answer) : stage.leadsTo answer := by
  cases h with
  | settle _ hstage => rcases hstage with rfl | rfl <;> trivial
  | enlist | write | untrack => trivial
  | sent hcalls =>
    rw [hcalls] at hi'
    obtain rfl := stage_of_moveCall hi hi'
    obtain rfl := Notice.leadsTo_settled hafter
    rfl
  | unsent =>
    obtain rfl := stage_of_moveCall hi hi'
    obtain rfl := Notice.leadsTo_settled hafter
    rfl
  | forget uri outcome =>
    obtain rfl := stage_of_moveCall hi hi'
    obtain ⟨result, rfl, hvoid⟩ := hforgetting uri outcome rfl
    obtain rfl : result = answer := Outcome.document.inj hafter
    exact ⟨rfl, hvoid⟩

/-- A call that comes to nothing does nothing but go on. -/
lemma inert (h : Deals w i job stage w' said) (hi : w.calls[i]? = some ⟨job, stage⟩)
    (hi' : w'.calls[i]? = some ⟨job, after⟩) (hbefore : stage.leadsTo answer)
    (hafter : after.leadsTo answer) (hunsent : answer ≠ .ok .sent)
    (hclose : ∀ doc, job = .close doc → answer.isVoid = true)
    (hforgetting : ∀ uri outcome, stage = .forgetting uri outcome → ∃ doc, job = .close doc) :
    w.Inert i w' ∧ said = [] := by
  cases h with
  | settle | unsent => exact ⟨inert_leave _ _ _, rfl⟩
  | enlist => exact ⟨inert_enlist _ _ _, rfl⟩
  | write => exact ⟨inert_setStage _ _ _, rfl⟩
  | untrack c hjob =>
    obtain rfl := stage_of_moveCall hi hi'
    cases (hclose _ hjob).symm.trans hafter
  | sent hcalls =>
    rw [hcalls] at hi'
    obtain rfl := stage_of_moveCall hi hi'
    exact absurd (Notice.leadsTo_settled hafter) hunsent
  | forget uri outcome =>
    obtain ⟨doc, hjob⟩ := hforgetting uri outcome rfl
    cases (hclose doc hjob).symm.trans hbefore.2

/-- A call that closes a document, and of which the server will not be told, takes the document away
when it has the lock, drops the diagnostics as the last, and otherwise does nothing but go on. -/
lemma of_close {doc : Document} (h : Deals w i (.close doc) stage w' said)
    (hi : w.calls[i]? = some ⟨.close doc, stage⟩)
    (hi' : w'.calls[i]? = some ⟨.close doc, after⟩) (hafter : after.leadsTo answer)
    (hvoid : answer.isVoid = false) (hunsent : answer ≠ .ok .sent)
    (hsends : ∀ c notice, stage = .sending c notice → notice = .closed doc.uri)
    (hforgetting : ∀ uri outcome, stage = .forgetting uri outcome → doc.uri = uri) :
    after.progress = stage.progress + 1 ∧ said = [] ∧
      (stage.progress = 1 ∧ (w.documents.find? doc.uri).isSome = true ∧
          Inert i { w with documents := w.documents.erase doc.uri } w' ∨
        stage.progress = 3 ∧ Inert i { w with store := w.store.forget doc.uri } w' ∨
        stage.progress ≠ 1 ∧ stage.progress ≠ 3 ∧ w.Inert i w') := by
  cases h with
  | settle result hstage hvoid' =>
    obtain rfl := stage_of_moveCall hi hi'
    obtain rfl : result = answer := Outcome.document.inj hafter
    cases hvoid.symm.trans hvoid'
  | enlist =>
    obtain rfl := stage_of_moveCall hi hi'
    exact ⟨rfl, rfl, .inr (.inr ⟨by decide, by decide, inert_enlist _ _ _⟩)⟩
  | write _ hjob => cases hjob
  | untrack c hjob hopen =>
    obtain rfl := Job.close.inj hjob
    obtain rfl := stage_of_moveCall hi hi'
    exact ⟨rfl, rfl, .inl ⟨rfl, hopen, inert_setStage _ _ _⟩⟩
  | sent hcalls =>
    rw [hcalls] at hi'
    obtain rfl := stage_of_moveCall hi hi'
    exact absurd (Notice.leadsTo_settled hafter) hunsent
  | unsent notice =>
    obtain rfl := hsends _ _ rfl
    obtain rfl := stage_of_moveCall hi hi'
    exact ⟨rfl, rfl, .inr (.inr ⟨by simp [Stage.progress], by simp [Stage.progress],
      inert_leave _ _ _⟩)⟩
  | forget uri outcome =>
    obtain rfl := hforgetting uri outcome rfl
    obtain rfl := stage_of_moveCall hi hi'
    exact ⟨rfl, rfl, .inr (.inl ⟨rfl, inert_leave _ _ _⟩)⟩

end Deals

/-- A document call gets further or stays where it is. -/
lemma Turn.goes_on (h : Turn s w a w' said) (hsound : Sound False w)
    (hi : w.calls[i]? = some ⟨job, stage⟩) (hdoc : job.document?.isSome = true)
    (hforgetting : ∀ uri outcome, stage = .forgetting uri outcome →
      ∃ result : Answer, outcome = .document result ∧ result.isVoid = false) :
    ∃ after, w'.calls[i]? = some ⟨job, after⟩ ∧ stage.progress ≤ after.progress ∧
      ∀ answer, after.leadsTo answer → stage.leadsTo answer := by
  rcases h.call_cases hi with hsame | hdropped | hadv
  · exact ⟨stage, hsame, Nat.le_refl _, fun _ hleads => hleads⟩
  · exact ⟨.dropped, hdropped, stage.progress_le, fun _ hleads => hleads.elim⟩
  · obtain ⟨calls, after, hcalls, hbefore, -⟩ := hadv.moved hi
    have hi' : w'.calls[i]? = some ⟨job, after⟩ := hcalls ▸ getElem?_moveCall_self after hbefore
    have hdeals := hadv.deals hsound hi hdoc
    exact ⟨after, hi', Nat.le_of_lt (hdeals.progress_lt hi hi'),
      fun _ => hdeals.leadsTo_of_after hi hi' hforgetting⟩

end State

namespace Run

variable {s : Setup} {past later : List Moment} {m : Moment} {w : State} {i : Nat} {job : Job}
  {stage : Stage} {answer : Answer}

/-- A call drops diagnostics once it has told the server, or tried to. -/
lemma outcome_of_forgetting (h : Run s past w) {uri : String} {outcome : Outcome}
    (hi : w.calls[i]? = some ⟨job, .forgetting uri outcome⟩) :
    ∃ result : Answer, outcome = .document result ∧ result.isVoid = false := by
  induction h with
  | initial => simp [State.initial] at hi
  | @step past w w' said a hrun hstep ih =>
    have hsound : State.Sound False w' := (hrun.step a hstep).sound False.elim
    have hdoc : job.document?.isSome = true := hsound.suited hi
    cases (State.Turn.of_step hstep).origin hi with
    | same hold => exact ih hold
    | begun _ hstage => cases hstage
    | dropped _ _ _ hstage => cases hstage
    | advanced hold hadv =>
      exact (hadv.deals (hrun.sound False.elim) hold hdoc).outcome_of_forgetting hold hi

/-- From a moment on, a document call gets further or stays where it is. -/
lemma goes_on (h : Run s (past ++ m :: later) w) (hi : m.after.calls[i]? = some ⟨job, stage⟩)
    (hdoc : job.document?.isSome = true) :
    ∃ final, w.calls[i]? = some ⟨job, final⟩ ∧ stage.progress ≤ final.progress ∧
      ∀ answer, final.leadsTo answer → stage.leadsTo answer := by
  refine h.induction_from (P := fun w => ∃ final, w.calls[i]? = some ⟨job, final⟩ ∧
    stage.progress ≤ final.progress ∧ ∀ answer, final.leadsTo answer → stage.leadsTo answer)
    ⟨stage, hi, Nat.le_refl _, fun _ hleads => hleads⟩ ?_
  rintro m' - earlier hrun hstep ⟨before, hbefore, hle, hleads⟩
  obtain ⟨after, hafter, hle', hleads'⟩ := (State.Turn.of_step hstep).goes_on
    (hrun.sound False.elim) hbefore hdoc fun uri outcome hstage => hrun.outcome_of_forgetting (hstage ▸ hbefore)
  exact ⟨after, hafter, Nat.le_trans hle hle',
    fun answer hlast => hleads answer (hleads' answer hlast)⟩

/-- A moment that is about a call with an answer is one in which the call goes on, and the answer is
one that the call may come to then. -/
lemma deals_of_mem (h : Run s (past ++ m :: later) w) (hmover : m.action.mover? = some i)
    (hi : w.calls[i]? = some ⟨job, .done (.document answer)⟩)
    (hdoc : job.document?.isSome = true) :
    ∃ before after, m.action.caller? = some i ∧ m.before.calls[i]? = some ⟨job, before⟩ ∧
      m.after.calls[i]? = some ⟨job, after⟩ ∧
      State.Deals m.before i job before m.after (news m.said) ∧
      before.leadsTo answer ∧ after.leadsTo answer := by
  obtain ⟨hrun, hstep⟩ := h.of_split
  have hlast {stage : Stage} (hafter : m.after.calls[i]? = some ⟨job, stage⟩) :
      stage.leadsTo answer := by
    obtain ⟨final, hfinal, -, hleads⟩ := h.goes_on hafter hdoc
    obtain ⟨-, rfl⟩ := Call.mk.inj (Option.some.inj (hi.symm.trans hfinal))
    exact hleads answer rfl
  have hjob {job' : Job} {stage : Stage} (hbefore : m.before.calls[i]? = some ⟨job', stage⟩) :
      job' = job := by
    obtain ⟨final, hfinal⟩ := h.keeps_job hbefore
    exact congrArg Call.job (Option.some.inj (hfinal.symm.trans hi))
  rcases Action.of_mover hmover with hdrop | hcaller
  · -- A call that is dropped never has an answer.
    rw [hdrop] at hstep
    simp only [State.step, Option.bind_eq_bind, Option.bind_eq_some_iff] at hstep
    obtain ⟨⟨job', before⟩, hbefore, hstep⟩ := hstep
    obtain rfl := hjob hbefore
    split at hstep
    case isTrue =>
      have hdropped : (m.before.drop i ⟨job', before⟩).1 = m.after :=
        congrArg Prod.fst (Option.some.inj hstep)
      have hafter : m.after.calls[i]? = some ⟨job', .dropped⟩ := by
        rw [← hdropped, State.calls_drop]
        exact getElem?_moveCall_self _ hbefore
      exact (hlast hafter).elim
    case isFalse => cases hstep
  · obtain ⟨job', before, hbefore, hadv⟩ := (State.Turn.of_step hstep).of_caller hcaller
    obtain rfl := hjob hbefore
    obtain ⟨calls, after, hcalls, hmoved, -⟩ := hadv.moved hbefore
    have hafter : m.after.calls[i]? = some ⟨job', after⟩ :=
      hcalls ▸ getElem?_moveCall_self after hmoved
    have hdeals := hadv.deals (hrun.sound False.elim) hbefore hdoc
    refine ⟨before, after, hcaller, hbefore, hafter, hdeals, ?_, hlast hafter⟩
    refine hdeals.leadsTo_of_after hbefore hafter (fun uri outcome hstage => ?_) (hlast hafter)
    exact hrun.outcome_of_forgetting (hstage ▸ hbefore)

/-- A call that comes to nothing does nothing but go on. -/
lemma idles_of_cameToNothing (h : Run s past w) (hm : m ∈ past) (hmover : m.action.mover? = some i)
    {call : Call} (hi : w.calls[i]? = some call) (hnothing : call.cameToNothing = true) :
    m.Idles i := by
  obtain ⟨earlier, later, rfl⟩ := List.mem_iff_append.mp hm
  obtain ⟨job, stage⟩ := call
  obtain ⟨hdoc, answer, rfl, hunsent, hclose⟩ := Call.of_cameToNothing hnothing
  obtain ⟨before, after, -, hbefore, hafter, hdeals, hleads, hleads'⟩ :=
    h.deals_of_mem hmover hi hdoc
  refine hdeals.inert hbefore hafter hleads hleads' hunsent hclose fun uri outcome hstage => ?_
  have hcloses : before.closes? = some uri := by
    rw [hstage]
    rfl
  obtain ⟨doc, hjob, -⟩ := h.of_split.1.closes hbefore hcloses
  exact ⟨doc, hjob⟩

/-- A call that has got somewhere has got there in some moment. -/
lemma exists_progress {n : Nat} (h : Run s past w) (hi : w.calls[i]? = some ⟨job, stage⟩)
    (hstage : stage ≠ .dropped) (hpositive : 0 < n) (hn : n ≤ stage.progress) :
    ∃ earlier m later before after, past = earlier ++ m :: later ∧ m.action.caller? = some i ∧
      m.before.calls[i]? = some ⟨job, before⟩ ∧ m.after.calls[i]? = some ⟨job, after⟩ ∧
      before.progress < n ∧ n ≤ after.progress := by
  induction h generalizing stage with
  | initial => simp [State.initial] at hi
  | @step past w w' said a hrun hstep ih =>
    have hearlier {before : Stage} (hold : w.calls[i]? = some ⟨job, before⟩)
        (hbefore : before ≠ .dropped) (hn : n ≤ before.progress) :
        ∃ earlier m later before after, past ++ [⟨w, a, w', said⟩] = earlier ++ m :: later ∧
          m.action.caller? = some i ∧ m.before.calls[i]? = some ⟨job, before⟩ ∧
          m.after.calls[i]? = some ⟨job, after⟩ ∧ before.progress < n ∧ n ≤ after.progress := by
      obtain ⟨earlier, m, later, before, after, rfl, hm⟩ := ih hold hbefore hn
      exact ⟨earlier, m, later ++ [⟨w, a, w', said⟩], before, after, by simp, hm⟩
    cases (State.Turn.of_step hstep).origin hi with
    | same hold => exact hearlier hold hstage hn
    | begun _ hbegun =>
      obtain rfl : stage = .arriving := hbegun
      exact absurd hpositive (Nat.not_lt_of_le hn)
    | dropped _ _ _ hdropped => exact absurd hdropped hstage
    | @advanced before hold hadv =>
      by_cases hbefore : n ≤ before.progress
      · refine hearlier hold ?_ hbefore
        rintro rfl
        cases hadv.not_ended
      · exact ⟨past, _, [], before, stage, rfl, hadv.caller, hold, hi,
          Nat.lt_of_not_le hbefore, hn⟩

section Close

variable {doc : Document} {method : String}
  (hi : w.calls[i]? =
    some ⟨.close doc, .done (.document (.error (.connectionClosed method)))⟩)

include hi

/-- What a call does that closes a document and can tell nobody. -/
lemma of_close (h : Run s (past ++ m :: later) w) (hmover : m.action.mover? = some i)
    (hbefore : m.before.calls[i]? = some ⟨.close doc, stage⟩) :
    (∃ after, m.after.calls[i]? = some ⟨.close doc, after⟩ ∧
        after.progress = stage.progress + 1) ∧
      news m.said = [] ∧
        (stage.progress = 1 ∧ (m.before.documents.find? doc.uri).isSome = true ∧
            State.Inert i { m.before with documents := m.before.documents.erase doc.uri } m.after ∨
          stage.progress = 3 ∧
            State.Inert i { m.before with store := m.before.store.forget doc.uri } m.after ∨
          stage.progress ≠ 1 ∧ stage.progress ≠ 3 ∧ m.before.Inert i m.after) := by
  obtain ⟨hrun, -⟩ := h.of_split
  obtain ⟨_, after, -, hbefore', hafter, hdeals, -, hleads⟩ := h.deals_of_mem hmover hi rfl
  obtain ⟨-, rfl⟩ := Call.mk.inj (Option.some.inj (hbefore.symm.trans hbefore'))
  have hsends : ∀ c notice, stage = .sending c notice → notice = .closed doc.uri := by
    rintro c notice rfl
    exact hrun.sends hbefore
  have hforgetting : ∀ uri outcome, stage = .forgetting uri outcome → doc.uri = uri := by
    rintro uri outcome rfl
    obtain ⟨doc', hjob, huri⟩ := hrun.closes hbefore rfl
    obtain rfl := Job.close.inj hjob
    exact huri
  obtain ⟨hnext, hacts⟩ := hdeals.of_close hbefore hafter hleads rfl nofun hsends hforgetting
  exact ⟨⟨after, hafter, hnext⟩, hacts⟩

/-- It gets further from one moment to another. -/
lemma progress_lt_of_close {m' : Moment} {between : List Moment} {stage' : Stage}
    (h : Run s (past ++ m :: (between ++ m' :: later)) w) (hmover : m.action.mover? = some i)
    (hbefore : m.before.calls[i]? = some ⟨.close doc, stage⟩)
    (hbefore' : m'.before.calls[i]? = some ⟨.close doc, stage'⟩) :
    stage.progress < stage'.progress := by
  obtain ⟨⟨after, hafter, hnext⟩, -⟩ := h.of_close hi hmover hbefore
  rw [← List.cons_append, ← List.append_assoc] at h
  obtain ⟨final, hfinal, hle, -⟩ := h.of_split.1.goes_on hafter rfl
  obtain ⟨-, rfl⟩ := Call.mk.inj (Option.some.inj (hbefore'.symm.trans hfinal))
  omega

lemma idles_of_close (h : Run s (past ++ m :: later) w) (hmover : m.action.mover? = some i)
    (hother : ∀ stage, m.before.calls[i]? = some ⟨.close doc, stage⟩ →
      stage.progress ≠ 1 ∧ stage.progress ≠ 3) : m.Idles i := by
  obtain ⟨stage, -, -, hbefore, -⟩ := h.deals_of_mem hmover hi rfl
  obtain ⟨hfirst, hthird⟩ := hother stage hbefore
  obtain ⟨-, hquiet, ⟨hone, -⟩ | ⟨hthree, -⟩ | ⟨-, -, hinert⟩⟩ := h.of_close hi hmover hbefore
  · exact absurd hone hfirst
  · exact absurd hthree hthird
  · exact ⟨hinert, hquiet⟩

/-- It takes the document away at one moment, drops the diagnostics at a later one, and does nothing
but go on at all others. -/
lemma moments_of_close (h : Run s past w) :
    ∃ before enter between forget after, past = before ++ enter :: (between ++ forget :: after) ∧
      enter.action.mover? = some i ∧ forget.action.mover? = some i ∧
      news enter.said = [] ∧ news forget.said = [] ∧
      (enter.before.documents.find? doc.uri).isSome = true ∧
      State.Inert i { enter.before with documents := enter.before.documents.erase doc.uri }
        enter.after ∧
      State.Inert i { forget.before with store := forget.before.store.forget doc.uri }
        forget.after ∧
      ∀ m ∈ before ++ (between ++ after), m.action.mover? = some i → m.Idles i := by
  obtain ⟨earlier, forget, after, third, _, rfl, hforget, hthird, hlast, hbelow, habove⟩ :=
    h.exists_progress hi nofun (by decide) (Nat.le_refl 4)
  have hforget := Action.mover_of_caller hforget
  obtain ⟨⟨_, hlast', hnext⟩, hquiet₃, hacts₃⟩ := h.of_close hi hforget hthird
  obtain ⟨-, rfl⟩ := Call.mk.inj (Option.some.inj (hlast.symm.trans hlast'))
  have hthree : third.progress = 3 := by omega
  -- It cannot have got to the third stage without having gone through the first.
  obtain ⟨before, enter, between, first, _, rfl, henter, hfirst, hcalls, hbelow, habove⟩ :=
    h.of_split.1.exists_progress (n := 2) hthird (by rintro rfl; cases hthree) (by decide)
      (by omega)
  have henter := Action.mover_of_caller henter
  rw [List.append_assoc, List.cons_append] at h
  obtain ⟨⟨_, hcalls', hnext⟩, hquiet₁, hacts₁⟩ := h.of_close hi henter hfirst
  obtain ⟨-, rfl⟩ := Call.mk.inj (Option.some.inj (hcalls.symm.trans hcalls'))
  have hone : first.progress = 1 := by omega
  obtain ⟨-, hopen, huntracks⟩ : first.progress = 1 ∧ _ := by
    rcases hacts₁ with hacts | ⟨hthree, -⟩ | ⟨hne, -⟩
    · exact hacts
    · omega
    · exact absurd hone hne
  obtain ⟨-, hforgets⟩ : third.progress = 3 ∧ _ := by
    rcases hacts₃ with ⟨hone, -⟩ | hacts | ⟨-, hne, -⟩
    · omega
    · exact hacts
    · exact absurd hthree hne
  refine ⟨before, enter, between, forget, after, by simp, henter, hforget, hquiet₁, hquiet₃, hopen,
    huntracks, hforgets, fun m hm hmover => ?_⟩
  -- At any other moment it is at another stage, because it leaves none twice.
  rcases List.mem_append.mp hm with hm | hm
  · obtain ⟨x, y, rfl⟩ := List.mem_iff_append.mp hm
    rw [List.append_assoc, List.cons_append] at h
    refine h.idles_of_close hi hmover fun stage hstage => ?_
    have hlt := h.progress_lt_of_close hi hmover hstage hfirst
    omega
  rcases List.mem_append.mp hm with hm | hm
  · obtain ⟨x, y, rfl⟩ := List.mem_iff_append.mp hm
    rw [List.append_assoc, List.cons_append] at h
    have hsplit := h
    rw [← List.cons_append, ← List.append_assoc] at hsplit
    refine hsplit.idles_of_close hi hmover fun stage hstage => ?_
    have hlt := h.progress_lt_of_close hi henter hfirst hstage
    have hlt' := hsplit.progress_lt_of_close hi hmover hstage hthird
    omega
  · obtain ⟨x, y, rfl⟩ := List.mem_iff_append.mp hm
    rw [← List.cons_append, ← List.append_assoc] at h
    have hsplit := h
    rw [← List.cons_append, ← List.append_assoc] at hsplit
    refine hsplit.idles_of_close hi hmover fun stage hstage => ?_
    have hlt := h.progress_lt_of_close hi hforget hthird hstage
    omega

end Close

/--
A text that a call could not send, and a close for which nobody was there or nothing to close, has
changed neither the documents that are tracked nor the diagnostics, and has queued nothing. What is
more, the run without any of these calls is a run, in which all others do and see the same: one that
tries again sends what it would have sent. A close that could not be told to the server has queued
nothing either; it has taken its document from those that are tracked, at one moment, has dropped
the diagnostics of it, at a later one, and has changed nothing else and nothing at any other moment.
-/
theorem failed_calls_consistent (h : Run s past w) :
    (∀ omitted : Nat → Bool,
      (∀ i, omitted i = true → ∃ call, w.calls[i]? = some call ∧ call.cameToNothing = true) →
      (∀ m ∈ past, m.isOmitted omitted = true → news m.said = [] ∧
        m.after.documents = m.before.documents ∧ m.after.store = m.before.store ∧
        m.after.without omitted = m.before.without omitted) ∧
      Run s (remainingMoments omitted past) (w.without omitted) ∧
      news (seen (remainingMoments omitted past)) = news (seen past) ∧
      ∀ (k : Nat) (call : Call), w.calls[k]? = some call → omitted k = false →
        (w.without omitted).calls[renumber omitted k]? = some (call.renumber omitted)) ∧
    ∀ (i : Nat) (doc : Document) (method : String), w.calls[i]? =
        some ⟨.close doc, .done (.document (.error (.connectionClosed method)))⟩ →
      ∃ before enter between forget after, past = before ++ enter :: (between ++ forget :: after) ∧
        enter.subject? = some i ∧ forget.subject? = some i ∧
        news enter.said = [] ∧ news forget.said = [] ∧
        (enter.before.documents.find? doc.uri).isSome = true ∧
        enter.after.without (· == i) = { enter.before.without (· == i) with
          documents := enter.before.documents.erase doc.uri } ∧
        forget.after.without (· == i) = { forget.before.without (· == i) with
          store := forget.before.store.forget doc.uri } ∧
        ∀ m ∈ before ++ (between ++ after), m.subject? = some i →
          news m.said = [] ∧ m.after.without (· == i) = m.before.without (· == i) := by
  constructor
  · intro omitted hfailed
    have hdoc : ∀ (i : Nat) (call : Call), w.calls[i]? = some call → omitted i = true →
        call.job.document?.isSome := by
      intro i call hi homitted
      obtain ⟨call', hi', hnothing⟩ := hfailed i homitted
      obtain rfl := Option.some.inj (hi.symm.trans hi')
      exact (Call.of_cameToNothing hnothing).1
    have hidle : ∀ m ∈ past, ∀ i, m.action.mover? = some i → omitted i = true → m.Idles i := by
      intro m hm i hmover homitted
      obtain ⟨call, hi, hnothing⟩ := hfailed i homitted
      exact h.idles_of_cameToNothing hm hmover hi hnothing
    obtain ⟨hrun, hnews, hsame⟩ := h.without hdoc hidle
    refine ⟨fun m hm homitted => ?_, hrun, hnews,
      fun k call hk hin => State.getElem?_without hin hk⟩
    obtain ⟨hquiet, hsame⟩ := hsame m hm homitted
    have hdocuments := congrArg State.documents hsame
    have hstore := congrArg State.store hsame
    exact ⟨hquiet, hdocuments, hstore, hsame⟩
  · intro i doc method hi
    obtain ⟨before, enter, between, forget, after, rfl, henter, hforget, hquiet, hquiet', hopen,
      huntracks, hforgets, hidle⟩ := h.moments_of_close hi
    refine ⟨before, enter, between, forget, after, rfl, Moment.subject?_of_mover henter,
      Moment.subject?_of_mover hforget, hquiet, hquiet', hopen,
      huntracks.without_eq (beq_self_eq_true i), hforgets.without_eq (beq_self_eq_true i), ?_⟩
    intro m hm hsubject
    have hmem : m ∈ before ++ enter :: (between ++ forget :: after) := by
      simp only [List.mem_append, List.mem_cons] at hm ⊢
      tauto
    obtain ⟨earlier, later, hsplit⟩ := List.mem_iff_append.mp hmem
    rw [hsplit] at h
    have hdoc : ∀ (k : Nat) (call : Call), m.after.calls[k]? = some call → (k == i) = true →
        call.job.document?.isSome := by
      rintro k ⟨job, stage⟩ hk homitted
      obtain rfl := beq_iff_eq.mp homitted
      obtain ⟨stage', hk'⟩ := h.keeps_job_after hk
      obtain ⟨rfl, -⟩ := Call.mk.inj (Option.some.inj (hk'.symm.trans hi))
      rfl
    refine (without_eq_of_isOmitted h.of_split.2 hdoc ?_ ?_).symm
    · intro k hmover homitted
      obtain rfl := beq_iff_eq.mp homitted
      exact hidle m hm hmover
    · simp [Moment.isOmitted, hsubject]

/-- The pipe to the server breaks after the host has opened a document. The host cannot change it
any more, and closes it. -/
theorem failed_calls_consistent_broken :
    ∃ past w, ∃ doc : Document, Run .stock past w ∧
      w.calls[2]?.map (·.stage) =
        some (.done (.document (.error (.connectionClosed "textDocument/didChange")))) ∧
      Run .stock (remainingMoments (· == 2) past) (w.without (· == 2)) ∧
      news (seen (remainingMoments (· == 2) past)) = news (seen past) ∧
      w.calls[3]?.map (·.stage) =
        some (.done (.document (.error (.connectionClosed "textDocument/didClose")))) ∧
      ∃ enter ∈ past, enter.subject? = some 3 ∧
        (enter.before.documents.find? doc.uri).isSome = true ∧
        enter.after.documents = enter.before.documents.erase doc.uri := by
  obtain ⟨past, w, hplay, hchange, hclose⟩ :
      ∃ past w, State.initial.play .stock (Action.firstStart ++
          Action.call (.sync true ⟨"file:///a", "file", "yaml"⟩ "a") ::
            List.replicate 3 (Action.proceed 1) ++
          [Action.broken 0 "gone", .write 0, .write 0] ++
          Action.call (.sync false ⟨"file:///a", "file", "yaml"⟩ "b") ::
            List.replicate 3 (Action.proceed 2) ++
          Action.call (.close ⟨"file:///a", "file", "yaml"⟩) ::
            List.replicate 4 (Action.proceed 3)) =
            some (past, w) ∧
        w.calls[2]? = some ⟨.sync false ⟨"file:///a", "file", "yaml"⟩ "b",
          .done (.document (.error (.connectionClosed "textDocument/didChange")))⟩ ∧
        w.calls[3]? = some ⟨.close ⟨"file:///a", "file", "yaml"⟩,
          .done (.document (.error (.connectionClosed "textDocument/didClose")))⟩ :=
    ⟨_, _, rfl, rfl, rfl⟩
  obtain ⟨hnothing, hclosed⟩ := (of_play hplay).failed_calls_consistent
  obtain ⟨-, hrun, hnews, -⟩ := hnothing (· == 2) fun i hi => by
    obtain rfl := beq_iff_eq.mp hi
    exact ⟨_, hchange, rfl⟩
  obtain ⟨before, enter, between, forget, after, rfl, henter, -, -, -, hopen, huntracked, -⟩ :=
    hclosed 3 _ _ hclose
  have hdocuments := congrArg State.documents huntracked
  exact ⟨_, w, _, of_play hplay, by rw [hchange]; rfl, hrun, hnews, by rw [hclose]; rfl, enter,
    List.mem_append_right _ List.mem_cons_self, henter, hopen, hdocuments⟩

end Run

end LanguageClient
