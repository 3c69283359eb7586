import LanguageClient.Proofs.Session.Final
import LanguageClient.Proofs.Session.Restarts

/-!
# Restarts give way to the host

A restart launches a server only if the connection whose loss it was begun for is still the newest
and the session has failed. A start or stop of the host that gets the lock before it therefore
stands in its way, and so does all that follows from it, with one exception: when the launcher has
no server for the host's start, there is no new connection and the session has failed again. The
restart then goes on as if the host had not acted. That there is no other exception is
`Run.restart_gives_way`.
-/

namespace LanguageClient

/-! ### Failures -/

/-- Whether a start at a stage is about to get a server. -/
def Stage.isRelaunching : Stage → Bool
  | .launching | .discarding _ .relaunch | .aborting _ .relaunch => true
  | _ => false

lemma Stage.isInside_of_isRelaunching {stage : Stage} (h : stage.isRelaunching = true) :
    stage.isInside = true := by
  cases stage <;> first | rfl | cases h

lemma Notice.isRelaunching_settled (notice : Notice) (result : Except NotifyError Forwarded) :
    (notice.settled result).isRelaunching = false := by
  cases notice <;> rfl

namespace State

variable {s : Setup} {w w' : State} {a : Action} {i c : Nat} {said : List Effect} {job : Job}
  {stage : Stage} {call : Call}

/-- The launcher has no server for a start of the host. -/
def FailsStart (w : State) (a : Action) : Prop :=
  ∃ i reason, a = .launched i (.error reason) ∧ w.calls[i]? = some ⟨.start, .launching⟩

lemma Advance.failed (h : Advance s w i job a stage w' said)
    (hfailed : w'.phase.failure?.isSome = true) :
    w'.phase = w.phase ∨ w.phase = .running ∨ (∃ c, stage.raises? = some c) ∨
      stage = .launching ∧ ∃ reason, a = .launched i (.error reason) := by
  cases h with
  | launch | stop | stopNobody | raise | conclude | relaunch => cases hfailed
  | launchFailed reason => exact .inr (.inr (.inr ⟨rfl, reason, rfl⟩))
  | refuse c reason => exact .inr (.inr (.inl ⟨c, rfl⟩))
  | @lose _ c =>
    by_cases hheeds : w.Heeds c
    · exact .inr (.inl hheeds.2)
    · refine .inl ?_
      rw [lose_of_not_heeds s w c _ hheeds]
      rfl
  | _ => exact .inl rfl

/-- A session fails when it was running, when a start gives up its connection, or when the launcher
has no server. -/
lemma Turn.failed (h : Turn s w a w' said) (hfailed : w'.phase.failure?.isSome = true) :
    w'.phase = w.phase ∨ w.phase = .running ∨ (∃ c, w.Raises c) ∨
      ∃ i job reason, w.calls[i]? = some ⟨job, .launching⟩ ∧
        a = .launched i (.error reason) := by
  rcases h.phase_cases with hsame | ⟨hrunning, -⟩ | ⟨i, job, stage, hi, hadv⟩
  · exact .inl hsame
  · exact .inr (.inl hrunning)
  · rcases hadv.failed hfailed with hsame | hrunning | ⟨c, hraises⟩ | ⟨rfl, reason, ha⟩
    · exact .inl hsame
    · exact .inr (.inl hrunning)
    · exact .inr (.inr (.inl ⟨c, i, _, hi, hraises⟩))
    · exact .inr (.inr (.inr ⟨i, job, reason, hi, ha⟩))

lemma Exchange.isRelaunching {before after : Stage} {f : Connection → Connection}
    (h : Exchange s w c before f after said) : after.isRelaunching = before.isRelaunching := by
  cases h with
  | closedBefore ask | closedSince ask | unasked ask | rejected ask | forsaken ask
  | timedOut ask => cases ask <;> rfl
  | discarding next | undiscarded next => cases next <;> rfl
  | _ => rfl

/-- A call is about to get a server only if it was before, or may launch one. -/
lemma Advance.of_isRelaunching (h : Advance s w i job a stage w' said)
    (hi : w.calls[i]? = some ⟨job, stage⟩) (hk : w'.calls[i]? = some call)
    (hafter : call.stage.isRelaunching = true) :
    stage.isRelaunching = true ∨ w.MayLaunch job := by
  cases h with
  | exchange _ hex =>
    obtain rfl := eq_of_moveCall hi hk
    exact .inl (hex.isRelaunching.symm.trans hafter)
  | lose =>
    obtain rfl := eq_of_moveCall (getElem?_calls_lose hi) hk
    cases hafter
  | notifyNobody | closeNobody | sent | unsent =>
    obtain rfl := eq_of_moveCall hi hk
    rw [Notice.isRelaunching_settled] at hafter
    cases hafter
  | vacate _ hmay | launch _ hmay => exact .inr hmay
  | relaunch => exact .inl rfl
  | _ =>
    obtain rfl := eq_of_moveCall hi hk
    cases hafter

/-- While the newest connection is spent, a session that had not failed does so only when the
launcher has no server. -/
lemma Spent.failed (h : w.Spent c) (hsound : Sound False w) (hturn : Turn s w a w' said)
    (hnewest : w'.isNewest c = true) (hfailed : w'.phase.failure?.isSome = true) :
    w'.phase = w.phase ∨ w.FailsStart a ∨
      ∃ i lost, a.caller? = some i ∧ w.calls[i]? = some ⟨.restart lost, .launching⟩ := by
  have hbefore := hturn.isNewest h.made hnewest
  rcases hturn.failed hfailed with hsame | hrunning | ⟨k, hraises⟩ | ⟨i, job, reason, hi, rfl⟩
  · exact .inl hsame
  · exact absurd hrunning (h.unused hbefore).1
  · exact absurd hraises (h.not_raises hsound hbefore k)
  · have hsuits : job.isStart = true := hsound.suited hi
    cases job with
    | start => exact .inr (.inl ⟨i, reason, rfl, hi⟩)
    | restart lost => exact .inr (.inr ⟨i, lost, rfl, hi⟩)
    | _ => cases hsuits

/-! ### The host has acted -/

/-- The host has acted after the loss of connection `c`, and nothing that came of it lets a restart
go on. -/
structure Superseded (w : State) (c : Nat) : Prop where
  spent : w.Spent c
  calm : w.isNewest c = true → w.phase.failure? = none
  alone : w.isNewest c = true → ∀ {i lost : Nat} {stage : Stage},
    w.calls[i]? = some ⟨.restart lost, stage⟩ → stage.isRelaunching = false

namespace Superseded

lemma not_mayLaunch (h : w.Superseded c) : ¬w.MayLaunch (.restart c) := by
  rintro ⟨hnewest, hfailed⟩
  rw [h.calm hnewest] at hfailed
  cases hfailed

/-- A start or stop of the host that has the lock acts. -/
lemma of_acts (hspent : w.Spent c) (hsound : Sound False w)
    (hi : w.calls[i]? = some ⟨job, stage⟩) (hhead : w.line.head? = some i)
    (hadv : Advance s w i job a stage w' said) (hhost : job.isRestart = false)
    (hacts : w'.phase ≠ w.phase ∨ w'.calls[i]? = some ⟨job, .launching⟩)
    (hkept : ¬w.FailsStart a) : w'.Superseded c := by
  have hturn : Turn s w a w' said := .advance hi hadv
  have hsound' : Sound False w' := hsound.turn hturn nofun
  refine ⟨hspent.turn hsound hturn, ?calm, ?alone⟩
  case calm =>
    intro hnewest
    by_contra hfailure
    have hfailed : w'.phase.failure?.isSome = true := Option.isSome_iff_ne_none.mpr hfailure
    rcases hspent.failed hsound hturn hnewest hfailed with hsame | hfails | ⟨k, lost, hcaller, hk⟩
    · have hlaunching := hacts.resolve_left (not_not_intro hsame)
      obtain ⟨live, -, hphase, -⟩ := hsound'.fits_of_inside hlaunching rfl
      rw [hphase] at hfailed
      cases hfailed
    · exact hkept hfails
    · obtain rfl : i = k := Option.some.inj (hadv.caller.symm.trans hcaller)
      cases hi.symm.trans hk
      cases hhost
  case alone =>
    intro _ k lost later hk
    -- The host's call has the lock, so that no restart does.
    by_contra hrelaunching
    have hafter : later.isRelaunching = true := by simpa using hrelaunching
    rcases hturn.of_call hk with hold | harriving | hdropped | ⟨before, hold, hother⟩
    · have hfirst := hsound.head_of_inside hold (Stage.isInside_of_isRelaunching hafter)
      obtain rfl : i = k := Option.some.inj (hhead.symm.trans hfirst)
      cases hi.symm.trans hold
      cases hhost
    · obtain rfl : later = .arriving := harriving
      cases hafter
    · obtain rfl : later = .dropped := hdropped
      cases hafter
    · obtain rfl : i = k := Option.some.inj (hadv.caller.symm.trans hother.caller)
      cases hi.symm.trans hold
      cases hhost

/-- What has come of it stays in the way, until the launcher has no server for the host. -/
theorem turn (h : w.Superseded c) (hsound : Sound False w) (hturn : Turn s w a w' said)
    (hkept : ¬w.FailsStart a) : w'.Superseded c := by
  refine ⟨h.spent.turn hsound hturn, ?calm, ?alone⟩
  case calm =>
    intro hnewest
    have hbefore := hturn.isNewest h.spent.made hnewest
    by_contra hfailure
    have hfailed : w'.phase.failure?.isSome = true := Option.isSome_iff_ne_none.mpr hfailure
    rcases h.spent.failed hsound hturn hnewest hfailed with hsame | hfails | ⟨k, lost, -, hk⟩
    · rw [hsame] at hfailure
      exact hfailure (h.calm hbefore)
    · exact hkept hfails
    · cases h.alone hbefore hk
  case alone =>
    intro hnewest k lost later hk
    have hbefore := hturn.isNewest h.spent.made hnewest
    rcases hturn.of_call hk with hold | harriving | hdropped | ⟨stage, hold, hadv⟩
    · exact h.alone hbefore hold
    · obtain rfl : later = .arriving := harriving
      rfl
    · obtain rfl : later = .dropped := hdropped
      rfl
    · by_contra hrelaunching
      rcases hadv.of_isRelaunching hold hk (by simpa using hrelaunching) with hwas | hmay
      · cases (h.alone hbefore hold).symm.trans hwas
      · have hfailed := hmay.2
        rw [h.calm hbefore] at hfailed
        cases hfailed

end Superseded

/-! ### Calls that have ended -/

/-- Call `i` goes no further. -/
def Ended (w : State) (i : Nat) : Prop :=
  ∃ call, w.calls[i]? = some call ∧ call.stage.hasEnded = true

namespace Ended

lemma not_caller (h : w.Ended i) (hturn : Turn s w a w' said) : a.caller? ≠ some i := by
  intro hcaller
  obtain ⟨call, hi, hended⟩ := h
  obtain ⟨job, stage, hi', hadv⟩ := hturn.of_caller hcaller
  cases hi.symm.trans hi'
  cases hadv.not_ended.symm.trans hended

lemma turn (h : w.Ended i) (hturn : Turn s w a w' said) : w'.Ended i := by
  obtain ⟨call, hi, hended⟩ := h
  rcases hturn.call_cases hi with hsame | hdropped | hadv
  · exact ⟨call, hsame, hended⟩
  · exact ⟨_, hdropped, rfl⟩
  · cases hadv.not_ended.symm.trans hended

end Ended

/-- A restart that has the lock ends at once unless it may launch a server. -/
lemma Advance.ended (h : Advance s w i (.restart c) a .waiting w' said)
    (hi : w.calls[i]? = some ⟨.restart c, .waiting⟩) (hmay : ¬w.MayLaunch (.restart c)) :
    w'.Ended i := by
  cases h with
  | exchange _ hex => cases hex
  | refused _ hdoc => cases hdoc
  | stopIgnored _ hstop | stop _ hstop | stopNobody _ hstop => cases hstop
  | superseded => exact ⟨_, getElem?_moveCall_self _ hi, rfl⟩
  | vacate _ hlaunches | launch _ hlaunches => exact absurd hlaunches hmay

end State

/-! ### Runs -/

namespace Moment

/-- The launcher has no server for a start of the host. -/
def failsStart (m : Moment) : Prop := m.before.FailsStart m.action

/-- A call of the host that has the lock acts: it changes the phase, or asks the launcher for a
server. -/
def hostActs (m : Moment) : Prop :=
  ∃ i job stage, m.action.caller? = some i ∧ m.before.line.head? = some i ∧
    m.before.calls[i]? = some ⟨job, stage⟩ ∧ job.isRestart = false ∧
    (m.after.phase ≠ m.before.phase ∨ m.after.calls[i]? = some ⟨job, .launching⟩)

end Moment

namespace Run

variable {s : Setup} {past earlier between later : List Moment} {m loss enter launch : Moment}
  {w : State} {i c : Nat}

/-- A call that has ended has done so for good. -/
lemma ended (h : Run s (past ++ m :: later) w) (hm : m.after.Ended i) : w.Ended i := by
  refine h.induction_from (P := fun w => w.Ended i) hm ?_
  intro m' _ _ _ hstep hended
  exact hended.turn (.of_step hstep)

/-- A restart that asks for a server was allowed to when it got the lock. -/
lemma mayLaunch_of_relaunches (h : Run s (past ++ enter :: later) w)
    (henter : enter.enters i (.restart c)) (hm : launch ∈ enter :: later)
    (hcaller : launch.action.caller? = some i) (hlaunch : launch.relaunches = true) :
    enter.before.MayLaunch (.restart c) := by
  obtain ⟨ha, -, hi⟩ := henter
  by_contra hmay
  obtain ⟨-, hstep⟩ := h.of_split
  obtain ⟨job, stage, hi', hadv⟩ := (State.Turn.of_step hstep).of_caller (i := i) (by rw [ha]; rfl)
  cases hi.symm.trans hi'
  have hended : enter.after.Ended i := hadv.ended hi hmay
  rcases List.mem_cons.mp hm with rfl | hm
  · obtain ⟨call, hcall, hdone⟩ := hended
    have hlaunching : call.job.isRestart = true ∧ call.stage.isLaunching = true := by
      simpa [Moment.relaunches, hcaller, hcall] using hlaunch
    cases hstage : call.stage <;> simp_all [Stage.isLaunching, Stage.hasEnded]
  · obtain ⟨first, last, rfl⟩ := List.mem_iff_append.mp hm
    rw [← List.cons_append, ← List.append_assoc] at h
    obtain ⟨hbefore, hstep⟩ := h.of_split
    exact (hbefore.ended hended).not_caller (.of_step hstep) hcaller

/-- A connection is spent after a report that begins a restart. -/
lemma spent_of_scheduled (h : Run s (past ++ m :: later) w) (hreported : m.reported? = some c)
    (hscheduled : m.scheduled = 1) : m.after.Spent c := by
  obtain ⟨hrun, hstep⟩ := h.of_split
  have hreport := (State.Turn.of_step hstep).reported hreported
  have hheeds : m.before.Heeds c := by
    by_contra hheeds
    have hnothing := (hreport.ignores hheeds).nothing.2.2
    rw [hscheduled] at hnothing
    cases hnothing
  cases hreport with
  | ignored hother => exact absurd hheeds hother
  | heeded failure _ _ hphase =>
    refine .of_heeds hheeds (hrun.sound nofun) (.of_step hstep) ?_
    rw [hphase]
    exact nofun

/--
The loss of a connection is reported and a restart is begun for it. If that restart asks the
launcher for a server in the end, then whatever a call of the host did with the lock in the
meantime, the launcher had no server for it, or none for a later start of the host.
-/
theorem restart_gives_way (h : Run s (earlier ++ loss :: between ++ enter :: later) w)
    (hreported : loss.reported? = some c) (hscheduled : loss.scheduled = 1)
    (henter : enter.enters i (.restart c)) (hm : launch ∈ enter :: later)
    (hcaller : launch.action.caller? = some i) (hlaunch : launch.relaunches = true) :
    ∀ first m rest, between = first ++ m :: rest → m.hostActs →
      ∃ m' ∈ m :: rest, m'.failsStart := by
  rintro first m rest rfl hacts
  by_contra hnone
  have hkept : ∀ m' ∈ m :: rest, ¬m'.failsStart := fun m' hm' hfails => hnone ⟨m', hm', hfails⟩
  have hmay := h.mayLaunch_of_relaunches henter hm hcaller hlaunch
  -- The run up to the restart's first step with the lock.
  obtain ⟨hrun, -⟩ := h.of_split
  rw [← List.cons_append, ← List.append_assoc] at hrun
  obtain ⟨hbefore, hstep⟩ := hrun.of_split
  have hspent : m.before.Spent c := by
    have hlost := hbefore.spent_of_scheduled hreported hscheduled
    refine hbefore.induction_from (P := fun w => w.Spent c) hlost ?_
    intro m' _ _ hrun hstep hspent
    exact hspent.turn (hrun.sound nofun) (.of_step hstep)
  have hafter : m.after.Superseded c := by
    obtain ⟨k, job, stage, hcalls, hhead, hk, hhost, hacts⟩ := hacts
    obtain ⟨job', stage', hk', hadv⟩ := (State.Turn.of_step hstep).of_caller hcalls
    cases hk.symm.trans hk'
    exact .of_acts hspent (hbefore.sound nofun) hk hhead hadv hhost hacts
      (hkept m List.mem_cons_self)
  have hend : enter.before.Superseded c := by
    refine hrun.induction_from (P := fun w => w.Superseded c) hafter ?_
    intro m' hm' _ hrun hstep hsuperseded
    exact hsuperseded.turn (hrun.sound nofun) (.of_step hstep)
      (hkept m' (List.mem_cons_of_mem _ hm'))
  exact hend.not_mayLaunch hmay

/-- The host stops the session after a loss and starts it again, but there is no server for it. The
restart that was begun for the loss launches one. -/
theorem restart_gives_way_stopped :
    ∃ earlier loss first m rest enter w,
      Run (.restarting 1) (earlier ++ loss :: (first ++ m :: rest) ++ [enter]) w ∧
      loss.reported? = some 0 ∧ loss.scheduled = 1 ∧ m.after.phase = .stopping ∧ m.hostActs ∧
      enter.enters 1 (.restart 0) ∧ enter.relaunches = true ∧ ∃ m' ∈ m :: rest, m'.failsStart := by
  obtain ⟨earlier, w₁, loss, w₂, first, w₃, m, w₄, rest, w₅, enter, w, hearlier, hloss, hfirst, hm,
      hrest, henter, hreported, hscheduled, hbefore, hafter, hcaller, hhead, hi, henters,
      hrestart, hlaunch⟩ :
      ∃ earlier w₁ loss w₂ first w₃ m w₄ rest w₅ enter w,
        State.initial.play (.restarting 1) (Action.firstStart ++
          [Action.received 0 .ended, .read 0, .read 0]) = some (earlier, w₁) ∧
        w₁.play (.restarting 1) [.read 0] = some ([loss], w₂) ∧
        w₂.play (.restarting 1) [.call .stop, .proceed 2] = some (first, w₃) ∧
        w₃.play (.restarting 1) [.proceed 2] = some ([m], w₄) ∧
        w₄.play (.restarting 1) (List.replicate 5 (Action.proceed 2) ++
          [Action.call .start, .proceed 3, .proceed 3, .launched 3 (.error "gone"), .proceed 1]) =
            some (rest, w₅) ∧
        w₅.play (.restarting 1) [.proceed 1] = some ([enter], w) ∧
        loss.reported? = some 0 ∧ loss.scheduled = 1 ∧
        m.before.phase = .failed (.runtime .processExited) ∧ m.after.phase = .stopping ∧
        m.action.caller? = some 2 ∧ m.before.line.head? = some 2 ∧
        m.before.calls[2]? = some ⟨.stop, .waiting⟩ ∧ enter.enters 1 (.restart 0) ∧
        enter.action.caller? = some 1 ∧ enter.relaunches = true :=
    ⟨_, _, _, _, _, _, _, _, _, _, _, _, rfl, rfl, rfl, rfl, rfl, rfl, rfl, rfl, rfl, rfl, rfl,
      rfl, rfl, ⟨rfl, rfl, rfl⟩, rfl, rfl⟩
  have hrun : Run (.restarting 1) (earlier ++ loss :: (first ++ m :: rest) ++ [enter]) w := by
    have hall := (((((of_play hearlier).append_play hloss).append_play hfirst).append_play
      hm).append_play hrest).append_play henter
    simpa using hall
  have hacts : m.hostActs := by
    refine ⟨2, .stop, .waiting, hcaller, hhead, hi, rfl, .inl ?_⟩
    rw [hbefore, hafter]
    exact nofun
  exact ⟨earlier, loss, first, m, rest, enter, w, hrun, hreported, hscheduled, hafter, hacts,
    henters, hlaunch, hrun.restart_gives_way hreported hscheduled henters
      (List.mem_singleton_self enter) hrestart hlaunch first m rest rfl hacts⟩

/-- After a loss the host tries to start the session itself, and there is no server for it. The
restart that was begun for the loss does not give way. -/
theorem restart_does_not_give_way :
    ∃ earlier loss between enter w,
      Run (.restarting 2) (earlier ++ loss :: between ++ [enter]) w ∧
      loss.reported? = some 0 ∧ loss.scheduled = 1 ∧ (∃ m ∈ between, m.hostActs) ∧
      enter.enters 1 (.restart 0) ∧ enter.relaunches = true := by
  obtain ⟨earlier, w₁, loss, w₂, first, w₃, m, w₄, rest, w₅, enter, w, hearlier, hloss, hfirst, hm,
      hrest, henter, hreported, hscheduled, hcaller, hhead, hi, hlaunching, henters, hlaunch⟩ :
      ∃ earlier w₁ loss w₂ first w₃ m w₄ rest w₅ enter w,
        State.initial.play (.restarting 2) (Action.firstStart ++
          [Action.received 0 .ended, .read 0, .read 0]) = some (earlier, w₁) ∧
        w₁.play (.restarting 2) [.read 0] = some ([loss], w₂) ∧
        w₂.play (.restarting 2) (.call .start :: List.replicate 3 (.proceed 2)) =
          some (first, w₃) ∧
        w₃.play (.restarting 2) [.proceed 2] = some ([m], w₄) ∧
        w₄.play (.restarting 2) [.launched 2 (.error "gone"), .proceed 1] = some (rest, w₅) ∧
        w₅.play (.restarting 2) [.proceed 1] = some ([enter], w) ∧
        loss.reported? = some 0 ∧ loss.scheduled = 1 ∧
        m.action.caller? = some 2 ∧ m.before.line.head? = some 2 ∧
        m.before.calls[2]? = some ⟨.start, .aborting 0 .relaunch⟩ ∧
        m.after.calls[2]? = some ⟨.start, .launching⟩ ∧ enter.enters 1 (.restart 0) ∧
        enter.relaunches = true :=
    ⟨_, _, _, _, _, _, _, _, _, _, _, _, rfl, rfl, rfl, rfl, rfl, rfl, rfl, rfl, rfl, rfl, rfl,
      rfl, ⟨rfl, rfl, rfl⟩, rfl⟩
  have hrun : Run (.restarting 2) (earlier ++ loss :: (first ++ m :: rest) ++ [enter]) w := by
    have hall := (((((of_play hearlier).append_play hloss).append_play hfirst).append_play
      hm).append_play hrest).append_play henter
    simpa using hall
  have hacts : m.hostActs :=
    ⟨2, .start, .aborting 0 .relaunch, hcaller, hhead, hi, rfl, .inr hlaunching⟩
  exact ⟨earlier, loss, first ++ m :: rest, enter, w, hrun, hreported, hscheduled,
    ⟨m, by simp, hacts⟩, henters, hlaunch⟩

end Run

end LanguageClient
