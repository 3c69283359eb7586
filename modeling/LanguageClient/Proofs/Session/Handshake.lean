import LanguageClient.Proofs.Session.Inversion
import LanguageClient.Proofs.Session.Lock

/-!
# Why handshakes fail

A start that has a server, and gives it up before the session runs, says why: `Stage.Blames` has the
reasons, each with the stage at which it arises. Whatever a call or the phase says of a failed
handshake is one of them: `Run.reasons`. Without a URI for the workspace the first of them is the
only one, and the session never runs: `Run.rootless`.
-/

namespace LanguageClient

/-! ### Reasons -/

/-- What is said when the workspace has no URI. -/
def Setup.rootFault (s : Setup) : String :=
  "converting workspace root to URI: " ++ Uri.pathFault s.options.root

/-- Why a call gives up connection `c` at a stage of the handshake. -/
inductive Stage.Blames (s : Setup) (c : Nat) : Stage → String → Prop
  | rootless : Uri.ofPath s.options.root.toList = none → Blames s c (.greeting c) s.rootFault
  | closedBefore : Blames s c (.testing c .handshake) "connection closed before initialize"
  | closedSince (n : Nat) :
      Blames s c (.retesting c .handshake n) "connection closed before initialize"
  | unasked (n : Nat) : Blames s c (.asking c .handshake n) "writer channel closed"
  | rejected (n : Nat) (error : Json) : Blames s c (.awaiting c .handshake n)
      ("server rejected initialize: " ++ State.errorText error)
  | forsaken (n : Nat) : Blames s c (.awaiting c .handshake n)
      "server closed the connection during initialize"
  | timedOut (n : Nat) : Blames s c (.awaiting c .handshake n)
      ("initialize timed out after " ++ s.options.handshake.text)
  | unannounced :
      Blames s c (.announcing c) "writer channel closed while sending initialized"

/-- The stages of a handshake at which a call may give its connection up. -/
inductive Stage.Shakes (c : Nat) : Stage → Prop
  | greeting : Shakes c (.greeting c)
  | testing : Shakes c (.testing c .handshake)
  | retesting (n : Nat) : Shakes c (.retesting c .handshake n)
  | asking (n : Nat) : Shakes c (.asking c .handshake n)
  | awaiting (n : Nat) : Shakes c (.awaiting c .handshake n)
  | announcing : Shakes c (.announcing c)

namespace State

variable {s : Setup} {w w' : State} {a : Action} {i c k : Nat} {job : Job} {stage : Stage}
  {said : List Effect} {reason : String}

lemma Exchange.shakes {f : Connection → Connection}
    (h : Exchange s w k stage f (.discarding c (.refuse reason)) said) : stage.Shakes c := by
  generalize hafter : Stage.discarding c (.refuse reason) = after at h
  cases h with
  | rootless =>
    cases hafter
    exact .greeting
  | closedBefore ask | closedSince ask | unasked ask | rejected ask | forsaken ask
  | timedOut ask =>
    cases ask <;> cases hafter
    constructor
  | unannounced =>
    cases hafter
    exact .announcing
  | _ => cases hafter

/-- A call comes to give up its connection for a reason in an exchange of the handshake. -/
lemma Advance.shakes (h : Advance s w i job a stage w' said)
    (hi : w.calls[i]? = some ⟨job, stage⟩)
    (hi' : w'.calls[i]? = some ⟨job, .discarding c (.refuse reason)⟩) :
    stage.Shakes c ∧ (a = .proceed i ∨ a = .expire i) := by
  have hsettled {notice : Notice} {result : Except NotifyError Forwarded}
      (hi' : (moveCall w.calls i (notice.settled result))[i]? =
        some ⟨job, .discarding c (.refuse reason)⟩) : False := by
    cases notice <;> cases eq_of_moveCall hi hi'
  cases h with
  | exchange ha hex =>
    obtain ⟨-, rfl⟩ := Call.mk.inj (eq_of_moveCall hi hi')
    have hshakes := hex.shakes
    rcases ha with rfl | rfl | ⟨place, documents, -, rfl⟩
    · exact ⟨hshakes, .inl rfl⟩
    · exact ⟨hshakes, .inr rfl⟩
    · cases hshakes
  | notifyNobody | closeNobody | sent | unsent => exact (hsettled hi').elim
  | lose => cases eq_of_moveCall (getElem?_calls_lose hi) hi'
  | _ => cases eq_of_moveCall hi hi'

/-- A call that goes on gives its connection up for one of the reasons. -/
lemma blames_of_stepCall (h : w.stepCall s i ⟨job, stage⟩ = some (w', said))
    (hi : w.calls[i]? = some ⟨job, stage⟩)
    (hi' : w'.calls[i]? = some ⟨job, .discarding c (.refuse reason)⟩) :
    stage.Blames s c reason := by
  obtain ⟨hshakes, -⟩ := (Advance.of_stepCall h).shakes hi hi'
  cases hshakes with
  | greeting =>
    simp only [stepCall, failAsk_eq] at h
    split at h
    case h_1 =>
      obtain ⟨rfl, -⟩ := Prod.mk.inj (Option.some.inj h)
      cases eq_of_moveCall hi hi'
    case h_2 hroot =>
      obtain ⟨rfl, -⟩ := Prod.mk.inj (Option.some.inj h)
      cases eq_of_moveCall hi hi'
      exact .rootless hroot
  | testing =>
    simp only [stepCall, failAsk_eq] at h
    split at h <;> obtain ⟨rfl, -⟩ := Prod.mk.inj (Option.some.inj h) <;>
      cases eq_of_moveCall hi hi'
    exact .closedBefore
  | retesting n =>
    simp only [stepCall, failAsk_eq] at h
    split at h <;> obtain ⟨rfl, -⟩ := Prod.mk.inj (Option.some.inj h) <;>
      cases eq_of_moveCall hi hi'
    exact .closedSince n
  | asking n =>
    simp only [stepCall, ask, failAsk_eq] at h
    obtain ⟨-, hr⟩ | ⟨-, hr⟩ := queue_cases h <;> obtain ⟨rfl, -⟩ := Prod.mk.inj hr <;>
      cases eq_of_moveCall hi hi'
    exact .unasked n
  | awaiting n =>
    simp only [stepCall, await, Option.bind_eq_bind, Option.bind_eq_some_iff] at h
    obtain ⟨conn, -, h⟩ := h
    split at h
    case h_1 body _ =>
      simp only [answered] at h
      split at h
      case h_1 error _ =>
        rw [failAsk_eq] at h
        obtain ⟨rfl, -⟩ := Prod.mk.inj (Option.some.inj h)
        cases eq_of_moveCall hi hi'
        exact .rejected n error
      case h_2 hask _ => cases hask
      case h_3 =>
        obtain ⟨rfl, -⟩ := Prod.mk.inj (Option.some.inj h)
        cases eq_of_moveCall hi hi'
    case h_2 =>
      split at h
      case isTrue => cases h
      case isFalse =>
        rw [failAsk_eq] at h
        obtain ⟨rfl, -⟩ := Prod.mk.inj (Option.some.inj h)
        cases eq_of_moveCall hi hi'
        exact .forsaken n
  | announcing =>
    simp only [stepCall, failAsk_eq] at h
    obtain ⟨-, hr⟩ | ⟨-, hr⟩ := queue_cases h <;> obtain ⟨rfl, -⟩ := Prod.mk.inj hr <;>
      cases eq_of_moveCall hi hi'
    exact .unannounced

/-- So does one that has waited as long as it may. -/
lemma blames_of_expire (h : w.expire s i ⟨job, stage⟩ = some (w', said))
    (hi : w.calls[i]? = some ⟨job, stage⟩)
    (hi' : w'.calls[i]? = some ⟨job, .discarding c (.refuse reason)⟩) :
    stage.Blames s c reason := by
  obtain ⟨hshakes, -⟩ := (Advance.of_expire h).shakes hi hi'
  cases hshakes with
  | awaiting n =>
    simp only [expire, failAsk_eq] at h
    obtain ⟨rfl, -⟩ := Prod.mk.inj (Option.some.inj h)
    cases eq_of_moveCall hi hi'
    exact .timedOut n
  | _ => cases h

/-- In each step a call that comes to give its connection up has one of the reasons. -/
lemma blames_of_step (h : w.step s a = some (w', said)) (hi : w.calls[i]? = some ⟨job, stage⟩)
    (hi' : w'.calls[i]? = some ⟨job, .discarding c (.refuse reason)⟩) :
    stage = .discarding c (.refuse reason) ∨ stage.Blames s c reason := by
  rcases (Turn.of_step h).of_call hi' with hsame | hstage | hstage | ⟨before, hold, hadv⟩
  · obtain ⟨-, rfl⟩ := Call.mk.inj (Option.some.inj (hi.symm.trans hsame))
    exact .inl rfl
  · cases hstage
  · cases hstage
  · obtain ⟨-, rfl⟩ := Call.mk.inj (Option.some.inj (hi.symm.trans hold))
    right
    rcases (hadv.shakes hi hi').2 with rfl | rfl
    · simp only [step, hi, Option.bind_eq_bind, Option.bind_some] at h
      exact blames_of_stepCall h hi hi'
    · simp only [step, hi, Option.bind_eq_bind, Option.bind_some] at h
      split at h
      case isTrue => cases h
      case isFalse => exact blames_of_expire h hi hi'

end State

/-! ### What is said of a failed handshake -/

/-- The reason that a stage, an outcome or a phase gives for a failed handshake. -/
def Outcome.refusal? : Outcome → Option String
  | .start (.error (.handshakeFailed reason)) => some reason
  | _ => none

def Stage.refusal? : Stage → Option String
  | .discarding _ (.refuse reason) | .aborting _ (.refuse reason) => some reason
  | .leaving outcome | .forgetting _ outcome | .done outcome => outcome.refusal?
  | _ => none

def Phase.refusal? : Phase → Option String
  | .failed (.start (.handshakeFailed reason)) => some reason
  | _ => none

lemma Notice.refusal?_settled (notice : Notice) (result : Except NotifyError Forwarded) :
    (notice.settled result).refusal? = none := by
  cases notice <;> rfl

lemma Stage.refusal?_of_outcome? {stage : Stage} {outcome : Outcome}
    (h : stage.outcome? = some outcome) : stage.refusal? = outcome.refusal? := by
  cases stage <;> cases h
  rfl

namespace State

variable {s : Setup} {w w' : State} {a : Action} {i c k : Nat} {job : Job} {stage : Stage}
  {said : List Effect} {reason : String} {P : String → Prop}

lemma refusal?_startOutcome (w : State) :
    (Outcome.start w.startOutcome).refusal? = w.phase.refusal? := by
  unfold startOutcome
  cases hphase : w.phase with
  | failed cause =>
    cases cause with
    | start e => cases e <;> rfl
    | runtime => rfl
  | _ => rfl

/-- No handshake fails when a connection is lost. -/
lemma refusal?_phase_lose {failure : RuntimeFailure}
    (h : (w.lose s c failure).1.phase.refusal? = some reason) : w.phase.refusal? = some reason := by
  by_cases hheeds : w.Heeds c
  · rw [phase_lose_of_heeds s w c failure hheeds] at h
    cases h
  · rwa [lose_of_not_heeds s w c failure hheeds] at h

lemma Exchange.refusal? {f : Connection → Connection} {after : Stage}
    (h : Exchange s w k stage f after said) (hreason : after.refusal? = some reason) :
    stage.refusal? = some reason ∨ ∃ c, after = .discarding c (.refuse reason) := by
  cases h with
  | rootless | unannounced =>
    obtain rfl := Option.some.inj hreason
    exact .inr ⟨_, rfl⟩
  | closedBefore ask | closedSince ask | unasked ask | rejected ask | forsaken ask
  | timedOut ask =>
    cases ask <;> cases hreason
    exact .inr ⟨_, rfl⟩
  | discarding next | undiscarded next =>
    cases next <;> cases hreason
    exact .inl rfl
  | _ => cases hreason

/-- Every reason that is given for a failed handshake is of some kind. -/
structure Reasons (P : String → Prop) (w : State) : Prop where
  phase : ∀ reason, w.phase.refusal? = some reason → P reason
  calls : ∀ {i : Nat} {call : Call} {reason : String}, w.calls[i]? = some call →
    call.stage.refusal? = some reason → P reason

namespace Reasons

/-- The phase has its reason from the call that gave the server up. -/
lemma phase_advance (h : Reasons P w) (hi : w.calls[i]? = some ⟨job, stage⟩)
    (hadv : Advance s w i job a stage w' said) (hreason : w'.phase.refusal? = some reason) :
    P reason := by
  cases hadv with
  | refuse c reason' =>
    obtain rfl := Option.some.inj hreason
    exact h.calls hi rfl
  | lose => exact h.phase _ (refusal?_phase_lose hreason)
  | launch | stop | stopNobody | launchFailed | raise | conclude | relaunch => cases hreason
  | _ => exact h.phase _ hreason

/-- A call has its reason from an earlier stage, from the phase or from another call, unless it has
just come to give its connection up. -/
lemma calls_advance {after : Stage} (h : Reasons P w) (hi : w.calls[i]? = some ⟨job, stage⟩)
    (hadv : Advance s w i job a stage w' said) (hi' : w'.calls[i]? = some ⟨job, after⟩)
    (hreason : after.refusal? = some reason)
    (hnew : ∀ c, after = .discarding c (.refuse reason) → P reason) : P reason := by
  have hsettled {notice : Notice} {result : Except NotifyError Forwarded}
      (hi' : (moveCall w.calls i (notice.settled result))[i]? = some ⟨job, after⟩) : P reason := by
    obtain ⟨-, rfl⟩ := Call.mk.inj (eq_of_moveCall hi hi')
    rw [Notice.refusal?_settled] at hreason
    cases hreason
  cases hadv with
  | exchange _ hex =>
    obtain ⟨-, rfl⟩ := Call.mk.inj (eq_of_moveCall hi hi')
    rcases hex.refusal? hreason with hbefore | ⟨c, rfl⟩
    · exact h.calls hi hbefore
    · exact hnew c rfl
  | told =>
    obtain ⟨-, rfl⟩ := Call.mk.inj (eq_of_moveCall hi hi')
    exact h.phase _ ((refusal?_startOutcome w).symm.trans hreason)
  | heard _ hstart =>
    obtain ⟨-, rfl⟩ := Call.mk.inj (eq_of_moveCall hi hi')
    obtain ⟨call, hk, houtcome⟩ := Option.bind_eq_some_iff.mp hstart
    exact h.calls hk ((Stage.refusal?_of_outcome? houtcome).trans hreason)
  | leave | forget | refuse =>
    cases eq_of_moveCall hi hi'
    exact h.calls hi hreason
  | notifyNobody | closeNobody | sent | unsent => exact hsettled hi'
  | lose =>
    cases eq_of_moveCall (getElem?_calls_lose hi) hi'
    cases hreason
  | _ =>
    cases eq_of_moveCall hi hi'
    cases hreason

/-- A step keeps the reasons to their kind when each call that comes to give its connection up has
one of that kind. -/
lemma turn (h : Reasons P w) (hturn : Turn s w a w' said)
    (hnew : ∀ {i c : Nat} {job : Job} {stage : Stage} {reason : String},
      w.calls[i]? = some ⟨job, stage⟩ →
      w'.calls[i]? = some ⟨job, .discarding c (.refuse reason)⟩ → P reason) : Reasons P w' where
  phase reason hreason := by
    cases hturn with
    | drop =>
      unfold State.drop at hreason
      split at hreason <;> exact h.phase reason hreason
    | advance hi hadv => exact h.phase_advance hi hadv hreason
    | publish =>
      rw [emit_fst] at hreason
      exact h.phase reason hreason
    | @report c =>
      have hended : (w.modifyConnection c Connection.endReader).phase.refusal? = some reason :=
        refusal?_phase_lose hreason
      exact h.phase reason hended
    | _ => exact h.phase reason hreason
  calls {i call reason} hi' hreason := by
    rcases hturn.of_call hi' with hsame | hstage | hstage | ⟨stage, hi, hadv⟩
    · exact h.calls hsame hreason
    · rw [hstage] at hreason
      cases hreason
    · rw [hstage] at hreason
      cases hreason
    · refine h.calls_advance hi hadv hi' hreason fun c hafter => hnew (c := c) hi ?_
      rw [← hafter]
      exact hi'

end Reasons

/-! ### Workspaces without a URI -/

end State

/-- Whether a call is past the look at the workspace on the way to a running session. -/
def Stage.isPastGreeting : Stage → Bool
  | .testing _ ask | .registering _ ask | .retesting _ ask _ | .asking _ ask _
  | .awaiting _ ask _ => ask = .handshake
  | .announcing _ | .reopening _ _ | .settling _ | .raising _ | .verifying _ => true
  | _ => false

namespace State

/-- No call has got past the look at the workspace, and the session does not run. -/
structure Grounded (w : State) : Prop where
  phase : w.phase.isRunning = false
  calls : ∀ {i : Nat} {call : Call}, w.calls[i]? = some call →
    call.stage.isPastGreeting = false

lemma Exchange.isPastGreeting {f : Connection → Connection} {after : Stage}
    (hroot : Uri.ofPath s.options.root.toList = none) (h : Exchange s w c stage f after said)
    (hstage : stage.isPastGreeting = false) : after.isPastGreeting = false := by
  cases h with
  | greeted hsome => simp [hroot] at hsome
  | closedBefore ask | closedSince ask | unasked ask | rejected ask | forsaken ask
  | timedOut ask => cases ask <;> rfl
  | tested ask | registered ask | retested ask | asked ask => exact hstage
  | welcomed | announced | reopened | unopened | allReopened => cases hstage
  | _ => rfl

namespace Grounded

lemma advance (hroot : Uri.ofPath s.options.root.toList = none) (h : Grounded w)
    (hi : w.calls[i]? = some ⟨job, stage⟩) (hadv : Advance s w i job a stage w' said) :
    w'.phase.isRunning = false ∧
      ∀ after, w'.calls[i]? = some ⟨job, after⟩ → after.isPastGreeting = false := by
  have hstage := h.calls hi
  have hsettled {notice : Notice} {result : Except NotifyError Forwarded} :
      (notice.settled result).isPastGreeting = false := by
    cases notice <;> rfl
  have hmoved {after : Stage} (hafter : after.isPastGreeting = false) {next : Stage}
      (hi' : (moveCall w.calls i after)[i]? = some ⟨job, next⟩) : next.isPastGreeting = false := by
    obtain ⟨-, rfl⟩ := Call.mk.inj (eq_of_moveCall hi hi')
    exact hafter
  cases hadv with
  | exchange _ hex => exact ⟨h.phase, fun _ => hmoved (hex.isPastGreeting hroot hstage)⟩
  | settle | raise | lose | verify => cases hstage
  | notifyNobody | closeNobody | sent | unsent => exact ⟨h.phase, fun _ => hmoved hsettled⟩
  | launch | launchFailed | stop | stopNobody | conclude | relaunch | refuse =>
    exact ⟨rfl, fun _ => hmoved rfl⟩
  | _ => exact ⟨h.phase, fun _ => hmoved rfl⟩

lemma turn (hroot : Uri.ofPath s.options.root.toList = none) (h : Grounded w)
    (hturn : Turn s w a w' said) : Grounded w' where
  phase := by
    cases hturn with
    | drop =>
      unfold State.drop
      split <;> exact h.phase
    | advance hi hadv => exact (h.advance hroot hi hadv).1
    | publish =>
      rw [emit_fst]
      exact h.phase
    | @report c conn failure =>
      have hidle : ¬(w.modifyConnection c Connection.endReader).Heeds c := by
        rintro ⟨-, hrunning⟩
        have hrunning : w.phase = .running := hrunning
        have hphase := h.phase
        rw [hrunning] at hphase
        cases hphase
      rw [lose_of_not_heeds _ _ _ _ hidle]
      exact h.phase
    | _ => exact h.phase
  calls {i call} hi' := by
    rcases hturn.of_call hi' with hsame | hstage | hstage | ⟨stage, hi, hadv⟩
    · exact h.calls hsame
    · rw [hstage]
      rfl
    · rw [hstage]
      rfl
    · exact (h.advance hroot hi hadv).2 _ hi'

end Grounded

end State

namespace Run

variable {s : Setup} {past : List Moment} {w : State} {reason : String}

/-- Each reason that is given for a failed handshake arose at a stage of one. -/
theorem reasons (h : Run s past w) :
    State.Reasons (fun reason => ∃ c stage, Stage.Blames s c stage reason) w := by
  induction h with
  | initial => exact ⟨nofun, by simp [State.initial]⟩
  | step a hrun hstep ih =>
    refine ih.turn (.of_step hstep) fun {i c job stage reason} hi hi' => ?_
    rcases State.blames_of_step hstep hi hi' with rfl | hblames
    · exact ih.calls hi rfl
    · exact ⟨c, stage, hblames⟩

/-- Without a URI for the workspace the session never runs, and that is the only reason given. -/
theorem rootless (h : Run s past w) (hroot : Uri.ofPath s.options.root.toList = none) :
    State.Grounded w ∧ State.Reasons (· = s.rootFault) w := by
  induction h with
  | initial => exact ⟨⟨rfl, by simp [State.initial]⟩, ⟨nofun, by simp [State.initial]⟩⟩
  | step a hrun hstep ih =>
    obtain ⟨hgrounded, hreasons⟩ := ih
    refine ⟨hgrounded.turn hroot (.of_step hstep), ?_⟩
    refine hreasons.turn (.of_step hstep) fun {i c job stage reason} hi hi' => ?_
    rcases State.blames_of_step hstep hi hi' with rfl | hblames
    · exact hreasons.calls hi rfl
    · cases hblames with
      | rootless => rfl
      | _ => cases hgrounded.calls hi

end Run

end LanguageClient
