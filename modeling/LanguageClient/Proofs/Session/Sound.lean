import LanguageClient.Proofs.Session.Slot

/-!
# The state as a whole

In every state the line for the lock, the stages of the calls, the phase, the slot and the
connections go together: `State.Sound`, which each turn keeps and so each run has (`Run.sound`).
What the session's life is like comes down to this.
-/

namespace LanguageClient

namespace State

variable {s : Setup} {w w' : State} {i c : Nat} {kept : Prop}

/-- A state in which the line for the lock, the calls, the phase, the slot and the connections go
together. -/
structure Sound (kept : Prop) (w : State) : Prop where
  ordered : Ordered w.line w.calls
  suited : ∀ {i : Nat} {call : Call}, w.calls[i]? = some call → call.job.suits call.stage = true
  fits : ∃ live, Alive w.connections live ∧
    (holder w.line w.calls).Fits kept w.phase w.slot live

/-- Whether an action gives up a call that has the lock and has begun to use it. -/
def Interrupts (w : State) (a : Action) (call : Call) : Prop :=
  ∃ i, a = .drop i ∧ w.calls[i]? = some call ∧ call.stage.isInside = true

/-- A call that is given up without interrupting anything does not use the lock. -/
lemma isInside_of_not_interrupts {call : Call} (h : ∀ call, ¬w.Interrupts (.drop i) call)
    (hi : w.calls[i]? = some call) : call.stage.isInside = false := by
  by_contra hin
  exact h call ⟨i, rfl, hi, by simpa using hin⟩

namespace Sound

variable {job : Job} {before after : Stage}

theorem initial : Sound kept .initial where
  ordered := .empty
  suited hi := by simp [State.initial] at hi
  fits := ⟨none, .empty, {
    live_eq := rfl
    isUp := by simp [State.initial]
    slotted := by simp [State.initial]
    kept := by simp [State.initial, Phase.isSettled, Phase.isUp] }⟩

lemma suits_moveCall (h : Sound kept w) (hi : w.calls[i]? = some ⟨job, before⟩)
    (hsuits : job.suits after = true) {k : Nat} {call : Call}
    (hk : (moveCall w.calls i after)[k]? = some call) : call.job.suits call.stage = true := by
  rcases eq_or_ne i k with rfl | hne
  · rw [getElem?_moveCall_self _ hi] at hk
    obtain rfl := Option.some.inj hk
    exact hsuits
  · rw [getElem?_moveCall_ne _ _ hne] at hk
    exact h.suited hk

/-- What goes with the stage of whoever holds the lock. -/
lemma fits_of_head (h : Sound kept w) (hhead : w.line.head? = some i)
    (hi : w.calls[i]? = some ⟨job, before⟩) :
    ∃ live, Alive w.connections live ∧ before.Fits kept w.phase w.slot live := by
  have hfits := h.fits
  rwa [holder_of_head hhead hi] at hfits

/-- What is so while nobody has the lock. -/
lemma idle_of_free (h : Sound kept w) (hfree : w.isFree = true) :
    ∃ live, Alive w.connections live ∧ Idle kept w.phase w.slot live := by
  have hline : w.line = [] := by simpa [State.isFree] using hfree
  have hwaiting : holder w.line w.calls = .waiting := by simp [holder, hline]
  obtain ⟨live, halive, hfits⟩ := h.fits
  rw [hwaiting] at hfits
  exact ⟨live, halive, hfits⟩

/-- The connection in the slot is the one that is alive. -/
lemma alive_of_slot (h : Sound kept w) (hslot : w.slot = some c) :
    Alive w.connections (some c) := by
  obtain ⟨live, halive, hfits⟩ := h.fits
  have hlive : live = w.slot.or (holder w.line w.calls).owned? := Stage.Fits.live_eq_or hfits
  obtain rfl : live = some c := by simpa [hslot] using hlive
  exact halive

lemma head_of_inside (h : Sound kept w) (hi : w.calls[i]? = some ⟨job, before⟩)
    (hin : before.isInside = true) : w.line.head? = some i := h.ordered.head hi hin

/-- What goes with the stage of a call that uses the lock. -/
lemma fits_of_inside (h : Sound kept w) (hi : w.calls[i]? = some ⟨job, before⟩)
    (hin : before.isInside = true) :
    ∃ live, Alive w.connections live ∧ before.Fits kept w.phase w.slot live :=
  h.fits_of_head (h.head_of_inside hi hin) hi

/-- The connection that a call has to itself is the one that is alive, and is not in the slot. -/
lemma of_owned (h : Sound kept w) (hi : w.calls[i]? = some ⟨job, before⟩)
    (howned : before.owned? = some c) : Alive w.connections (some c) ∧ w.slot = none := by
  obtain ⟨live, halive, hfits⟩ := h.fits_of_inside hi (Stage.isInside_of_owned howned)
  have hslot : w.slot = none := hfits.slot_of_owned howned
  obtain rfl : live = some c := by simpa [hslot, howned] using hfits.live_eq_or
  exact ⟨halive, hslot⟩

/-- No two calls use the lock. -/
lemma eq_of_inside (h : Sound kept w) {k : Nat} {job' : Job}
    (hi : w.calls[i]? = some ⟨job, before⟩) (hin : before.isInside = true)
    (hk : w.calls[k]? = some ⟨job', after⟩) (hink : after.isInside = true) : i = k := by
  have hi := h.head_of_inside hi hin
  have hk := h.head_of_inside hk hink
  exact Option.some.inj (hi.symm.trans hk)

/-- The call that holds the lock goes on holding it. -/
lemma move (h : Sound kept w) (hhead : w.line.head? = some i)
    (hi : w.calls[i]? = some ⟨job, before⟩) (hsame : w'.line = w.line)
    (hcalls : w'.calls = moveCall w.calls i after) (hline : before.isInLine = true)
    (hin : after.isInside = true) (hsuits : job.suits after = true)
    (hfits : ∃ live, Alive w'.connections live ∧ after.Fits kept w'.phase w'.slot live) :
    Sound kept w' where
  ordered := by
    rw [hsame, hcalls]
    exact h.ordered.move hi ((Stage.isInLine_of_isInside hin).trans hline.symm) fun _ => hhead
  suited hk := by
    rw [hcalls] at hk
    exact h.suits_moveCall hi hsuits hk
  fits := by
    rw [hsame, hcalls, Ordered.holder_move_self hhead hi]
    exact hfits

/-- The call that holds the lock gives it back. -/
lemma leave (h : Sound kept w) (hhead : w.line.head? = some i)
    (hi : w.calls[i]? = some ⟨job, before⟩) (hline : w'.line = w.line.erase i)
    (hcalls : w'.calls = moveCall w.calls i after) (hout : after.isInLine = false)
    (hsuits : job.suits after = true)
    (hidle : ∃ live, Alive w'.connections live ∧ Idle kept w'.phase w'.slot live) :
    Sound kept w' where
  ordered := by
    rw [hline, hcalls]
    exact h.ordered.leave hi hout
  suited hk := by
    rw [hcalls] at hk
    exact h.suits_moveCall hi hsuits hk
  fits := by
    rw [hline, hcalls, h.ordered.holder_leave hi hhead hout]
    exact hidle

lemma head_ne (h : Sound kept w) (hi : w.calls[i]? = some ⟨job, before⟩)
    (hout : before.isInLine = false) : w.line.head? ≠ some i := fun hhead =>
  h.ordered.notMem_line hi hout (List.mem_of_mem_head? hhead)

/-- A call that does not hold the lock goes on out of the line. -/
lemma elsewhere (h : Sound kept w) (hi : w.calls[i]? = some ⟨job, before⟩)
    (hhead : w.line.head? ≠ some i) (hafter : after.isInLine = false)
    (hsuits : job.suits after = true) (hline : w'.line = w.line.erase i)
    (hcalls : w'.calls = moveCall w.calls i after) (hconns : w'.connections = w.connections)
    (hphase : w'.phase = w.phase) (hslot : w'.slot = w.slot) : Sound kept w' where
  ordered := by
    rw [hline, hcalls]
    exact h.ordered.leave hi hafter
  suited hk := by
    rw [hcalls] at hk
    exact h.suits_moveCall hi hsuits hk
  fits := by
    rw [hline, hcalls, h.ordered.holder_leave_of_ne hhead, hconns, hphase, hslot]
    exact h.fits

/-- A call takes its place in line. -/
lemma enlist (h : Sound kept w) (hi : w.calls[i]? = some ⟨job, before⟩)
    (hout : before.isInLine = false) (hsuits : job.suits .waiting = true)
    (hline : w'.line = w.line ++ [i]) (hcalls : w'.calls = moveCall w.calls i .waiting)
    (hconns : w'.connections = w.connections) (hphase : w'.phase = w.phase)
    (hslot : w'.slot = w.slot) : Sound kept w' where
  ordered := by
    rw [hline, hcalls]
    exact h.ordered.enlist hi hout
  suited hk := by
    rw [hcalls] at hk
    exact h.suits_moveCall hi hsuits hk
  fits := by
    rw [hline, hcalls, h.ordered.holder_enlist hi hout, hconns, hphase, hslot]
    exact h.fits

/-! ### Steps outside of calls -/

theorem begin (h : Sound kept w) (job : Job) : Sound kept (w.begin job) where
  ordered := h.ordered.begin job
  suited hk := by
    rcases of_getElem?_append_call hk with hk | rfl
    · exact h.suited hk
    · rfl
  fits := by
    have hholder : holder (w.begin job).line (w.begin job).calls = holder w.line w.calls :=
      h.ordered.holder_begin job
    rw [hholder]
    exact h.fits

theorem modifyConnection (h : Sound kept w) {f : Connection → Connection}
    (hf : ∀ conn, w.connections[c]? = some conn → (f conn).held = conn.held) :
    Sound kept (w.modifyConnection c f) where
  ordered := h.ordered
  suited hk := h.suited hk
  fits := by
    obtain ⟨live, halive, hfits⟩ := h.fits
    exact ⟨live, halive.modify hf, hfits⟩

theorem lose (h : Sound kept w) (failure : RuntimeFailure) :
    Sound kept (w.lose s c failure).1 := by
  by_cases hheeds : w.Heeds c
  · obtain ⟨live, halive, hfits⟩ := h.fits
    rw [hheeds.2] at hfits
    have hfailed (events : List Event) (restarts : UInt32) :
        Sound kept { w with phase := .failed (.runtime failure), events, restarts } :=
      ⟨h.ordered, h.suited, live, halive, hfits.lost failure⟩
    rw [(lose_of_heeds s w c failure hheeds).1, emit_fst]
    dsimp only
    split
    · exact (hfailed _ _).begin _
    · exact hfailed _ _
  · rwa [lose_of_not_heeds s w c failure hheeds]

/-- A call is given up. -/
theorem drop (h : Sound kept w) (hi : w.calls[i]? = some ⟨job, before⟩)
    (hwait : before.canWait = true)
    (hkept : kept → before.isInside = true → job.isLifecycle = false) :
    Sound kept (w.drop i ⟨job, before⟩).1 := by
  by_cases hhead : w.line.head? = some i
  · obtain ⟨live, halive, hfits⟩ := h.fits_of_head hhead hi
    have hsuits : job.suits before = true := h.suited hi
    obtain ⟨howned, hfree⟩ := hfits.dropped hwait fun hk hin =>
      Job.eq_sending hsuits hin (hkept hk hin)
    cases hc : before.owned? with
    | some c =>
      obtain ⟨rfl, hidle⟩ := howned c hc
      rw [drop_of_owned hc]
      exact h.leave hhead hi rfl rfl rfl rfl ⟨none, halive.release fun _ => rfl, hidle⟩
    | none =>
      rw [drop_of_not_owned hc]
      exact h.leave hhead hi rfl rfl rfl rfl ⟨live, halive, hfree hc⟩
  · have hin : before.isInside = false := by
      by_contra hin
      exact hhead (h.head_of_inside hi (by simpa using hin))
    rw [drop_of_not_owned (Stage.owned?_eq_none hin)]
    exact h.elsewhere hi hhead rfl rfl rfl rfl rfl rfl rfl

/-! ### Steps of calls -/

/-- A call that is not in line goes on out of it. -/
lemma aside (h : Sound kept w) (hi : w.calls[i]? = some ⟨job, before⟩)
    (hout : before.isInLine = false) (hafter : after.isInLine = false)
    (hsuits : job.suits after = true) (hline : w'.line = w.line)
    (hcalls : w'.calls = moveCall w.calls i after) (hconns : w'.connections = w.connections)
    (hphase : w'.phase = w.phase) (hslot : w'.slot = w.slot) : Sound kept w' :=
  have herase : w'.line = w.line.erase i := by
    rw [hline, List.erase_of_not_mem (h.ordered.notMem_line hi hout)]
  h.elsewhere hi (h.head_ne hi hout) hafter hsuits herase hcalls hconns hphase hslot

/-- A document call ends without having come to send anything. -/
lemma refused (h : Sound kept w) (hi : w.calls[i]? = some ⟨job, before⟩)
    (hstage : before = .arriving ∨ before = .waiting ∧ w.line.head? = some i)
    (outcome : Outcome) : Sound kept (w.finish i outcome) := by
  rcases hstage with rfl | ⟨rfl, hhead⟩
  · exact h.elsewhere hi (h.head_ne hi rfl) rfl rfl rfl rfl rfl rfl rfl
  · exact h.leave hhead hi rfl rfl rfl rfl (h.fits_of_head hhead hi)

/-- A start has had a last look at its connection, and has perhaps found it lost. -/
lemma verified (h : Sound kept w) (hi : w.calls[i]? = some ⟨job, .verifying c⟩) :
    Sound kept (w.setStage i (.leaving (.start (.ok ())))) := by
  have hhead := h.head_of_inside hi rfl
  obtain ⟨live, halive, hup, hslot, hlive⟩ := h.fits_of_head hhead hi
  have hsuits : job.suits (.verifying c) = true := h.suited hi
  exact h.move hhead hi rfl rfl rfl rfl hsuits
    ⟨live, halive, rfl, .up hup hslot hlive, fun _ => hup⟩

/-- A notice has been sent, or not. -/
lemma noticed (h : Sound kept w) {notice : Notice} {result : Except NotifyError Forwarded}
    (hi : w.calls[i]? = some ⟨job, .sending c notice⟩) (documents : Table OpenDocument) :
    Sound kept (({ w with documents }.leave i).setStage i (notice.settled result)) := by
  have hhead := h.head_of_inside hi rfl
  obtain ⟨live, halive, hup, hslot, hlive⟩ := h.fits_of_head hhead hi
  exact h.leave hhead hi rfl rfl notice.isInLine_settled (notice.suits_settled (h.suited hi))
    ⟨live, halive, .up hup hslot hlive⟩

lemma advance (h : Sound kept w) {a : Action} {said : List Effect}
    (hi : w.calls[i]? = some ⟨job, before⟩) (hadv : Advance s w i job a before w' said) :
    Sound kept w' := by
  have hsuits : job.suits before = true := h.suited hi
  cases hadv with
  | exchange _ hex =>
    have hhead := h.head_of_inside hi hex.inside.1
    obtain ⟨live, halive, hfits⟩ := h.fits_of_head hhead hi
    exact h.move hhead hi rfl rfl (Stage.isInLine_of_isInside hex.inside.1) hex.inside.2
      ((hex.suits job).trans hsuits)
      ⟨live, halive.modify fun conn _ => hex.held conn, hex.fits hfits⟩
  -- On arrival, and after the start that a call waited for.
  | outOfScope | told => exact h.refused hi (.inl rfl) _
  | refused _ _ hstage => exact h.refused hi hstage _
  | enlist hstarted =>
    have hwaits : job.suits .waiting = true := by cases job <;> simp_all [Job.suits]
    exact h.enlist hi rfl hwaits rfl rfl rfl rfl rfl
  | deactivate | joined => exact h.enlist hi rfl rfl rfl rfl rfl rfl rfl
  | join | joinFirst => exact h.aside hi rfl rfl rfl rfl rfl rfl rfl rfl
  | heard | forget => exact h.elsewhere hi (h.head_ne hi rfl) rfl rfl rfl rfl rfl rfl rfl
  -- With the lock.
  | ignored hhead hstart =>
    obtain ⟨live, halive, hidle⟩ := h.fits_of_head hhead hi
    have hup : kept → w.phase.isUp = true := fun hk => by
      obtain ⟨hsettled, -⟩ := hidle.kept hk
      cases hphase : w.phase <;> simp_all [Phase.canStart, Phase.isSettled, Phase.isUp]
    exact h.move hhead hi rfl rfl rfl rfl rfl ⟨live, halive, rfl, hidle, hup⟩
  | superseded hhead | notOpen hhead | stopIgnored hhead =>
    exact h.leave hhead hi rfl rfl rfl rfl (h.fits_of_head hhead hi)
  | vacate hhead hmay hslot =>
    obtain ⟨live, halive, hidle⟩ := h.fits_of_head hhead hi
    exact h.move hhead hi rfl rfl rfl rfl hmay.isStart
      ⟨live, halive, hmay.failure hidle hslot, rfl, hidle.live_eq.trans hslot⟩
  | launch hhead hmay hslot =>
    obtain ⟨live, halive, hidle⟩ := h.fits_of_head hhead hi
    exact h.move hhead hi rfl rfl rfl rfl hmay.isStart
      ⟨live, halive, rfl, hslot, hidle.live_eq.trans hslot⟩
  | notify hhead hrunning hslot | notifyClosed hhead hrunning _ hslot =>
    obtain ⟨live, halive, hidle⟩ := h.fits_of_head hhead hi
    exact h.move hhead hi rfl rfl rfl rfl rfl
      ⟨live, halive, hidle.isUp (by simp [hslot]), hslot, hidle.live_eq.trans hslot⟩
  | notifyNobody hhead hrunning hslot | closeNobody hhead hrunning _ hslot =>
    obtain ⟨live, halive, hidle⟩ := h.fits_of_head hhead hi
    exact absurd (hidle.slotted (Phase.eq_running hrunning)) (by simp [hslot])
  | stop hhead hstop _ _ hslot | stopNobody hhead hstop _ _ hslot =>
    obtain ⟨live, halive, hidle⟩ := h.fits_of_head hhead hi
    exact h.move hhead hi rfl rfl rfl rfl (isStopping_of_isStop hsuits hstop)
      ⟨live, halive, rfl, rfl, hidle.live_eq.trans hslot⟩
  -- On the way to a running session.
  | launchFailed reason =>
    have hhead := h.head_of_inside hi rfl
    obtain ⟨live, halive, -, hslot, hlive⟩ := h.fits_of_head hhead hi
    exact h.leave hhead hi rfl rfl rfl rfl ⟨live, halive, .down rfl (fun _ => rfl) hslot hlive⟩
  | launched room =>
    have hhead := h.head_of_inside hi rfl
    obtain ⟨live, halive, hphase, hslot, rfl⟩ := h.fits_of_head hhead hi
    exact h.move hhead hi rfl rfl rfl rfl hsuits ⟨_, halive.push room, hphase, hslot, rfl⟩
  | settle c =>
    have hhead := h.head_of_inside hi rfl
    obtain ⟨live, halive, hphase, -, hlive⟩ := h.fits_of_head hhead hi
    exact h.move hhead hi rfl rfl rfl rfl hsuits ⟨live, halive, hphase, rfl, hlive⟩
  | raise c =>
    have hhead := h.head_of_inside hi rfl
    obtain ⟨live, halive, -, hslot, hlive⟩ := h.fits_of_head hhead hi
    exact h.move hhead hi rfl rfl rfl rfl hsuits ⟨live, halive, rfl, hslot, hlive⟩
  | lose => exact (h.lose _).verified (getElem?_calls_lose hi)
  | verify => exact h.verified hi
  | leave outcome =>
    have hhead := h.head_of_inside hi rfl
    obtain ⟨live, halive, -, hidle, -⟩ := h.fits_of_head hhead hi
    exact h.leave hhead hi rfl rfl rfl rfl ⟨live, halive, hidle⟩
  -- On the way to a stopped one.
  | reaped result =>
    have hhead := h.head_of_inside hi rfl
    obtain ⟨live, halive, hphase, hslot, rfl⟩ := h.fits_of_head hhead hi
    exact h.move hhead hi rfl rfl rfl rfl hsuits
      ⟨none, halive.release fun _ => rfl, hphase, hslot, rfl⟩
  | conclude result =>
    have hhead := h.head_of_inside hi rfl
    obtain ⟨live, halive, -, hnone⟩ := h.fits_of_head hhead hi
    exact h.move hhead hi rfl rfl rfl rfl hsuits ⟨live, halive, rfl, hnone⟩
  | purge result =>
    have hhead := h.head_of_inside hi rfl
    obtain ⟨live, halive, hphase, hslot, hlive⟩ := h.fits_of_head hhead hi
    have hidle : Idle kept w.phase w.slot live := by
      rw [hphase]
      exact .down rfl (fun _ => rfl) hslot hlive
    exact h.leave hhead hi rfl rfl rfl rfl ⟨live, halive, hidle⟩
  -- When a connection has been given up.
  | relaunch c =>
    have hhead := h.head_of_inside hi rfl
    obtain ⟨live, halive, -, hslot, rfl⟩ := h.fits_of_head hhead hi
    exact h.move hhead hi rfl rfl rfl rfl hsuits
      ⟨none, halive.release fun _ => rfl, rfl, hslot, rfl⟩
  | refuse c reason =>
    have hhead := h.head_of_inside hi rfl
    obtain ⟨live, halive, -, hslot, rfl⟩ := h.fits_of_head hhead hi
    exact h.leave hhead hi rfl rfl rfl rfl
      ⟨none, halive.release fun _ => rfl, .down rfl (fun _ => rfl) hslot rfl⟩
  | aborted c =>
    have hhead := h.head_of_inside hi rfl
    obtain ⟨live, halive, hphase, hslot, rfl⟩ := h.fits_of_head hhead hi
    exact h.move hhead hi rfl rfl rfl rfl hsuits
      ⟨none, halive.release fun _ => rfl, hphase, hslot, rfl⟩
  -- With a notice.
  | @sent _ c notice =>
    have hpushed : Sound kept (w.modifyConnection c (·.push (.send notice.frame))) :=
      h.modifyConnection fun _ _ => rfl
    exact hpushed.noticed hi _
  | unsent notice => exact h.noticed hi w.documents

/-! ### Turns and runs -/

theorem turn (h : Sound kept w) {a : Action} {said : List Effect} (hturn : Turn s w a w' said)
    (hkept : kept → ∀ call, w.Interrupts a call → call.job.isLifecycle = false) :
    Sound kept w' := by
  cases hturn with
  | call job => exact h.begin job
  | activate =>
    have hbegun := h.begin .start
    exact ⟨hbegun.ordered, hbegun.suited, hbegun.fits⟩
  | poll budget => exact ⟨h.ordered, h.suited, h.fits⟩
  | drop hi hdrop =>
    exact h.drop hi (canWait_of_canDrop hdrop) fun hk hin => hkept hk _ ⟨_, rfl, hi, hin⟩
  | advance hi hadv => exact h.advance hi hadv
  | deed hc hdeed =>
    refine h.modifyConnection fun conn hc' => ?_
    obtain rfl := Option.some.inj (hc.symm.trans hc')
    exact hdeed.held
  | publish =>
    rw [emit_fst]
    exact ⟨h.ordered, h.suited, h.fits⟩
  | overlook => exact h
  | @report c =>
    have hended : Sound kept (w.modifyConnection c Connection.endReader) :=
      h.modifyConnection fun _ _ => rfl
    exact hended.lose _

end Sound

end State

/-- Whether a call that uses the lock is given up in a moment. -/
def Moment.interrupts (m : Moment) (call : Call) : Prop := m.before.Interrupts m.action call

namespace Run

variable {s : Setup} {past : List Moment} {w : State}

/-- Every state of every run is sound. -/
theorem sound (h : Run s past w) {kept : Prop}
    (hkept : kept → ∀ m ∈ past, ∀ call, m.interrupts call → call.job.isLifecycle = false) :
    State.Sound kept w := by
  induction h with
  | initial => exact .initial
  | @step past w w' said a _ hstep ih =>
    have hsound := ih fun hk m hm => hkept hk m (List.mem_append_left _ hm)
    exact hsound.turn (.of_step hstep) fun hk =>
      hkept hk _ (List.mem_append_right _ (List.mem_singleton_self _))

/-- Every state of a run is sound that gives up no call that uses the lock. -/
theorem sound_of_whole (h : Run s past w) (hwhole : ∀ m ∈ past, ∀ call, ¬m.interrupts call) :
    State.Sound True w :=
  h.sound fun _ m hm call hinterrupts => absurd hinterrupts (hwhole m hm call)

/-- What is so in the beginning and is kept by each turn that interrupts no call is so of every run
without such an interruption. -/
theorem induction_of_whole {P : List Moment → State → Prop} (hinitial : P [] .initial)
    (hturn : ∀ {past : List Moment} {w w' : State} {a : Action} {said : List Effect},
      Run s past w → P past w → State.Sound True w → State.Sound True w' →
      State.Turn s w a w' (news said) → (∀ call, ¬w.Interrupts a call) →
      P (past ++ [⟨w, a, w', said⟩]) w')
    (h : Run s past w) (hwhole : ∀ m ∈ past, ∀ call, ¬m.interrupts call) : P past w := by
  induction h with
  | initial => exact hinitial
  | @step past w w' said a hrun hstep ih =>
    have hearlier : ∀ m ∈ past, ∀ call, ¬m.interrupts call := fun m hm =>
      hwhole m (List.mem_append_left _ hm)
    have hlast : ∀ call, ¬w.Interrupts a call :=
      hwhole _ (List.mem_append_right _ (List.mem_singleton_self _))
    exact hturn hrun (ih hearlier) (hrun.sound_of_whole hearlier)
      ((hrun.step a hstep).sound_of_whole hwhole) (.of_step hstep) hlast

/-- Each moment of a run begins in a sound state and is a turn. -/
theorem turn_of_mem (h : Run s past w) {kept : Prop}
    (hkept : kept → ∀ m ∈ past, ∀ call, m.interrupts call → call.job.isLifecycle = false)
    {m : Moment} (hm : m ∈ past) :
    State.Sound kept m.before ∧ State.Turn s m.before m.action m.after (news m.said) := by
  obtain ⟨earlier, later, rfl, hrun, hstep⟩ := h.step_of_mem hm
  exact ⟨hrun.sound fun hk m hm => hkept hk m (List.mem_append_left _ hm), .of_step hstep⟩

/-- As long as nobody gives up a call, nobody interrupts one. -/
lemma not_interrupts_of_play {w last : State} {actions : List Action}
    (hp : w.play s actions = some (past, last)) (hdrop : ∀ i, Action.drop i ∉ actions) :
    ∀ m ∈ past, ∀ call, ¬m.interrupts call := by
  rintro m hm call ⟨i, ha, -⟩
  refine hdrop i ?_
  rw [← actions_of_play hp, ← ha]
  exact List.mem_map_of_mem hm

end Run

end LanguageClient
