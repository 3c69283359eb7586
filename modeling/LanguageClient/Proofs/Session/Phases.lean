import LanguageClient.Proofs.Session.Sound

/-!
# The phases of a session

A session passes from phase to phase only in the ways of `Phase.Change`, and a start that is over
leaves it in a phase that goes with the answer: `Run.phase_changes`. The phase is written under the
lock by starts and stops, and outside of it when a connection is lost.
-/

namespace LanguageClient

/-- The ways in which the phase of a session changes. -/
inductive Phase.Change : Phase → Phase → Prop
  | firstStart : Change .created .starting
  | started : Change .starting .running
  | startFailed (e : StartError) : Change .starting (.failed (.start e))
  | lost (failure : RuntimeFailure) : Change .running (.failed (.runtime failure))
  | stop : Change .running .stopping
  | retry (cause : FailureCause) : Change (.failed cause) .starting
  | giveUp (cause : FailureCause) : Change (.failed cause) .stopping
  | stopped : Change .stopping .stopped
  | startAgain : Change .stopped .starting

/-- What the phase is when a start is over. -/
def Phase.Answers (phase : Phase) : Except StartError Unit → Prop
  | .error e => phase = .failed (.start e)
  | .ok _ => phase = .running ∨ ∃ failure, phase = .failed (.runtime failure)

namespace State

variable {s : Setup} {w w' : State} {a : Action} {i : Nat} {said : List Effect}

lemma change_of_mayLaunch {job : Job} (hmay : w.MayLaunch job) :
    Phase.Change w.phase .starting := by
  have hcan : w.phase.canStart = true := by
    cases job with
    | start => exact hmay
    | restart =>
      have hfailed := hmay.2
      cases hphase : w.phase <;> simp_all [Phase.failure?, Phase.canStart]
    | _ => cases hmay
  cases hphase : w.phase with
  | created => exact .firstStart
  | stopped => exact .startAgain
  | failed cause => exact .retry cause
  | starting | running | stopping => simp [hphase, Phase.canStart] at hcan

lemma change_of_stop {live : Option Nat} (hidle : Idle True w.phase w.slot live)
    (hcreated : w.phase ≠ .created) (hstopped : w.phase ≠ .stopped) :
    Phase.Change w.phase .stopping := by
  have hsettled := (hidle.kept trivial).1
  cases hphase : w.phase with
  | running => exact .stop
  | failed cause => exact .giveUp cause
  | created | stopped => contradiction
  | starting | stopping => simp [hphase, Phase.isSettled] at hsettled

lemma phase_lose (c : Nat) (failure : RuntimeFailure) :
    (w.lose s c failure).1.phase = w.phase ∨
      Phase.Change w.phase (w.lose s c failure).1.phase := by
  by_cases hheeds : w.Heeds c
  · rw [phase_lose_of_heeds s w c failure hheeds, hheeds.2]
    exact .inr (.lost failure)
  · rw [lose_of_not_heeds s w c failure hheeds]
    exact .inl rfl

namespace Sound

/-- A call changes the phase in one of the known ways. -/
lemma phase_advance (h : Sound True w) {job : Job} {stage : Stage}
    (hi : w.calls[i]? = some ⟨job, stage⟩) (hadv : Advance s w i job a stage w' said) :
    w'.phase = w.phase ∨ Phase.Change w.phase w'.phase := by
  cases hadv with
  | launch _ hmay => exact .inr (change_of_mayLaunch hmay)
  | stop hhead _ hcreated hstopped | stopNobody hhead _ hcreated hstopped =>
    obtain ⟨live, -, hidle⟩ := h.fits_of_head hhead hi
    exact .inr (change_of_stop hidle hcreated hstopped)
  | launchFailed reason =>
    obtain ⟨live, -, hphase, -⟩ := h.fits_of_inside hi rfl
    exact .inr (hphase ▸ .startFailed _)
  | raise c =>
    obtain ⟨live, -, hphase, -⟩ := h.fits_of_inside hi rfl
    exact .inr (hphase ▸ .started)
  | lose => exact phase_lose _ _
  | conclude result =>
    obtain ⟨live, -, hphase, -⟩ := h.fits_of_inside hi rfl
    exact .inr (hphase ▸ .stopped)
  | relaunch c =>
    obtain ⟨live, -, hfailed, -⟩ := h.fits_of_inside hi rfl
    obtain ⟨cause, hcause⟩ := Option.isSome_iff_exists.mp hfailed
    have hphase : w.phase = .failed cause := by
      cases hphase : w.phase <;> simp_all [Phase.failure?]
    exact .inr (hphase ▸ .retry cause)
  | refuse c reason =>
    obtain ⟨live, -, hphase, -⟩ := h.fits_of_inside hi rfl
    exact .inr (hphase ▸ .startFailed _)
  | _ => exact .inl rfl

lemma phase_turn (h : Sound True w) (hturn : Turn s w a w' said) :
    w'.phase = w.phase ∨ Phase.Change w.phase w'.phase := by
  cases hturn with
  | @drop i call =>
    refine .inl ?_
    unfold State.drop
    split <;> rfl
  | advance hi hadv => exact h.phase_advance hi hadv
  | publish =>
    rw [emit_fst]
    exact .inl rfl
  | report => exact phase_lose _ _
  | _ => exact .inl rfl

/-! ### The end of a start -/

/-- A start that goes out of the line has its answer, and the phase goes with it. -/
lemma start_ends (h : Sound True w) {stage : Stage} (hi : w.calls[i]? = some ⟨.start, stage⟩)
    (hadv : Advance s w i .start a stage w' said) (hmem : i ∈ w.line) (hleft : i ∉ w'.line) :
    ∃ result, w'.calls[i]? = some ⟨.start, .done (.start result)⟩ ∧ w'.phase.Answers result := by
  have hsuits : Job.start.suits stage = true := h.suited hi
  cases hadv with
  | launchFailed reason =>
    exact ⟨.error (.launchFailed s.command.command reason), getElem?_moveCall_self _ hi, rfl⟩
  | refuse c reason =>
    exact ⟨.error (.handshakeFailed reason), getElem?_moveCall_self _ hi, rfl⟩
  | leave outcome =>
    obtain ⟨live, -, rfl, -, hup⟩ := h.fits_of_inside hi rfl
    refine ⟨.ok (), getElem?_moveCall_self _ hi, ?_⟩
    have hphase := hup trivial
    cases hw : w.phase with
    | running => exact .inl hw
    | failed cause =>
      cases cause with
      | start e => simp [hw, Phase.isUp] at hphase
      | runtime failure => exact .inr ⟨failure, hw⟩
    | _ => simp [hw, Phase.isUp] at hphase
  | outOfScope hdoc | refused _ hdoc => simp [Job.document?] at hdoc
  | stopIgnored _ hstop => cases hstop
  | enlist => exact absurd (List.mem_append_left _ hmem) hleft
  | lose =>
    rw [← line_lose] at hmem
    exact absurd hmem hleft
  | heard | purge | sent | unsent | forget => cases hsuits
  | _ => exact absurd hmem hleft

end Sound

end State

namespace Run

variable {s : Setup} {past : List Moment} {w : State}

/--
As long as no start and no stop that has the lock is given up, the phase changes only in the known
ways, and when a start gives back the lock it has its answer, which the phase goes with.
-/
theorem phase_changes (h : Run s past w)
    (hkept : ∀ m ∈ past, ∀ call, m.interrupts call → call.job.isLifecycle = false) :
    ∀ m ∈ past,
      (m.after.phase = m.before.phase ∨ Phase.Change m.before.phase m.after.phase) ∧
      ∀ i, m.releases i → (m.before.calls[i]?).map (·.job) = some .start →
        m.action ≠ .drop i →
        ∃ result, m.after.calls[i]? = some ⟨.start, .done (.start result)⟩ ∧
          m.after.phase.Answers result := by
  intro m hm
  obtain ⟨hsound, hturn⟩ := h.turn_of_mem (fun _ : True => hkept) hm
  refine ⟨hsound.phase_turn hturn, fun i hreleases hjob hdrop => ?_⟩
  have hmem : i ∈ m.before.line := List.mem_of_mem_head? hreleases.1
  obtain hgiven | ⟨job, stage, hi, hadv⟩ := hturn.of_leaves hmem hreleases.2
  · exact absurd hgiven hdrop
  · obtain rfl : job = .start := by simpa [hi] using hjob
    exact hsound.start_ends hi hadv hmem hreleases.2

/-- A first start gives back the lock in the end, with an answer. -/
theorem phase_changes_firstStart :
    ∃ past w, Run .stock past w ∧ (∀ m ∈ past, ∀ call, ¬m.interrupts call) ∧
      ∃ m ∈ past, m.releases 0 ∧
        ∃ result, m.after.calls[0]? = some ⟨.start, .done (.start result)⟩ ∧
          m.after.phase.Answers result := by
  obtain ⟨past, w, hplay, m, hlast, hhead, hline, hjob, haction⟩ :
      ∃ past w, State.initial.play .stock Action.firstStart = some (past, w) ∧
        ∃ m, past.getLast? = some m ∧ m.before.line.head? = some 0 ∧ m.after.line = [] ∧
          (m.before.calls[0]?).map (·.job) = some .start ∧ m.action = .proceed 0 :=
    ⟨_, _, rfl, _, rfl, rfl, rfl, rfl, rfl⟩
  have hrun := of_play hplay
  have hkept := not_interrupts_of_play hplay (by simp [Action.firstStart])
  have hm : m ∈ past := List.mem_of_getLast? hlast
  have hreleases : m.releases 0 := ⟨hhead, by simp [hline]⟩
  have hanswer := (hrun.phase_changes (fun m hm call h => absurd h (hkept m hm call)) m hm).2
  exact ⟨past, w, hrun, hkept, m, hm, hreleases,
    hanswer 0 hreleases hjob (by simp [haction])⟩

end Run

end LanguageClient
