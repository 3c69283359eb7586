import LanguageClient.Proofs.Session.Sound

/-!
# One server at a time

Of all the servers that have been launched for a session, all but at most one have been shut down or
given up, and that one is in the slot or with the call that has the lock: `Run.one_server`. While
nobody has the lock it is in the slot, exactly when the phase says that there is one.
-/

namespace LanguageClient

/-! ### Counting servers -/

/-- Whether the launcher comes up with a server. -/
def Action.isLaunch : Action → Bool
  | .launched _ (.ok _) => true
  | _ => false

/-- Whether the step after a stage is the last of a server: its process is reaped or killed. -/
def Stage.isLast : Stage → Bool
  | .reaping _ _ | .aborting _ _ => true
  | _ => false

/-- Whether an action shuts a server down for good, or gives it up. -/
def State.Consumes (w : State) (a : Action) : Bool :=
  (a.caller?.bind (w.calls[·]?)).any (·.stage.isLast)

namespace Moment

def launches (m : Moment) : Bool := m.action.isLaunch

def consumes (m : Moment) : Bool := m.before.Consumes m.action

end Moment

/-- How many connections are held. -/
def State.held (w : State) : Nat := w.connections.countP (·.held)

/-- The connection in the slot, or with the call that has the lock. -/
def State.live? (w : State) : Option Nat := w.slot.or (State.holder w.line w.calls).owned?

lemma Alive.countP_held {connections : List Connection} {live : Option Nat}
    (h : Alive connections live) : connections.countP (·.held) = live.toList.length := by
  cases live with
  | none =>
    refine List.countP_eq_zero.mpr fun conn hconn hheld => ?_
    obtain ⟨c, hc⟩ := List.mem_iff_getElem?.mp hconn
    simpa using (h.held_iff hc).mp hheld
  | some c =>
    have hlast := h.newest rfl
    obtain ⟨init, last, rfl⟩ : ∃ init last, connections = init ++ [last] := by
      rcases List.eq_nil_or_concat connections with rfl | ⟨init, last, rfl⟩
      · simp at hlast
      · exact ⟨init, last, List.concat_eq_append⟩
    obtain rfl : c = init.length := by simpa using hlast
    have hinit : init.countP (·.held) = 0 := by
      refine List.countP_eq_zero.mpr fun conn hconn hheld => ?_
      obtain ⟨k, hk⟩ := List.mem_iff_getElem?.mp hconn
      have hlt : k < init.length := (List.getElem?_eq_some_iff.mp hk).1
      have hkc := (h.held_iff (by rwa [List.getElem?_append_left hlt])).mp hheld
      exact absurd (Option.some.inj hkc) (Nat.ne_of_gt hlt)
    have hheld : last.held = true := (h.held_iff (by simp)).mpr rfl
    simp [List.countP_append, hinit, hheld]

namespace State

variable {s : Setup} {w w' : State} {a : Action} {i : Nat} {said : List Effect}

namespace Sound

lemma held_eq {kept : Prop} (h : Sound kept w) : w.held = w.live?.toList.length := by
  obtain ⟨live, halive, hfits⟩ := h.fits
  rw [State.held, halive.countP_held, hfits.live_eq_or]
  rfl

/-- The call that has a connection to itself holds it alone, and loses it with its last step. -/
lemma held_release (h : Sound True w) {job : Job} {stage : Stage} {c : Nat}
    (hi : w.calls[i]? = some ⟨job, stage⟩) (hin : stage.isInside = true)
    (howned : stage.owned? = some c) {f : Connection → Connection}
    (hf : ∀ conn, (f conn).held = false) :
    (w.connections.modify c f).countP (·.held) + 1 = w.held := by
  obtain ⟨live, halive, hfits⟩ := h.fits_of_head (h.head_of_inside hi hin) hi
  have hlive := hfits.live_eq_or
  have hslot : w.slot = none := hfits.slot_of_owned howned
  obtain rfl : live = some c := by simpa [hslot, howned] using hlive
  rw [(halive.release hf).countP_held, State.held, halive.countP_held]
  rfl

lemma held_modify {c : Nat} {f : Connection → Connection} {kept : Prop} (h : Sound kept w)
    (hf : ∀ conn, w.connections[c]? = some conn → (f conn).held = conn.held) :
    (w.modifyConnection c f).held = w.held := by
  obtain ⟨live, halive, -⟩ := h.fits
  rw [State.held, State.held, halive.countP_held]
  exact (halive.modify hf).countP_held

end Sound

lemma held_lose (c : Nat) (failure : RuntimeFailure) :
    (w.lose s c failure).1.held = w.held := by
  rw [State.held, connections_lose]
  rfl

namespace Sound

/-- Held connections become more by launches, and fewer by last steps. -/
lemma held_advance (h : Sound True w) {job : Job} {stage : Stage}
    (hi : w.calls[i]? = some ⟨job, stage⟩) (hadv : Advance s w i job a stage w' said) :
    w'.held + stage.isLast.toNat = w.held + a.isLaunch.toNat := by
  cases hadv with
  | exchange ha hex =>
    have hlast : stage.isLast = false := by cases hex <;> rfl
    have hlaunch : a.isLaunch = false := by rcases ha with rfl | rfl | ⟨_, _, rfl, -⟩ <;> rfl
    rw [hlast, hlaunch]
    exact h.held_modify fun conn _ => hex.held conn
  | launched room => simp [State.held, setStage, Action.isLaunch, Stage.isLast, Connection.fresh]
  | reaped _ ha =>
    have hlaunch : a.isLaunch = false := by rcases ha with rfl | ⟨_, rfl⟩ <;> rfl
    rw [hlaunch]
    exact h.held_release hi rfl rfl fun _ => rfl
  | relaunch c | refuse c | aborted c => exact h.held_release hi rfl rfl fun _ => rfl
  | @sent _ c notice => exact h.held_modify fun _ _ => rfl
  | lose => exact held_lose _ _
  | refused _ _ hstage => rcases hstage with rfl | ⟨rfl, -⟩ <;> rfl
  | _ => rfl

lemma held_turn (h : Sound True w) (hturn : Turn s w a w' said)
    (hkept : ∀ call, w.Interrupts a call → call.job.isLifecycle = false) :
    w'.held + (w.Consumes a).toNat = w.held + a.isLaunch.toNat := by
  cases hturn with
  | @drop i call hi hdrop =>
    have howned : call.stage.owned? = none := by
      by_cases hin : call.stage.isInside = true
      · have hjob := hkept call ⟨i, rfl, hi, hin⟩
        obtain ⟨c, notice, hstage⟩ := Job.eq_sending (h.suited hi) hin hjob
        rw [hstage]
        rfl
      · cases hstage : call.stage <;> first | rfl | simp [hstage, Stage.isInside] at hin
    rw [drop_of_not_owned howned]
    rfl
  | @advance _ i job stage _ _ hi hadv =>
    have hconsumes : w.Consumes a = stage.isLast := by simp [Consumes, hadv.caller, hi]
    rw [hconsumes]
    exact h.held_advance hi hadv
  | deed hc hdeed =>
    have hquiet : a.caller? = none ∧ a.isLaunch = false := by cases hdeed <;> exact ⟨rfl, rfl⟩
    simp only [Consumes, hquiet, Option.bind_none, Option.any_none, Bool.toNat_false, Nat.add_zero]
    refine h.held_modify fun conn hc' => ?_
    obtain rfl := Option.some.inj (hc.symm.trans hc')
    exact hdeed.held
  | publish =>
    rw [emit_fst]
    rfl
  | @report c =>
    have hended : (w.modifyConnection c Connection.endReader).held = w.held :=
      h.held_modify fun _ _ => rfl
    exact (held_lose _ _).trans hended
  | _ => rfl

end Sound

end State

namespace Run

variable {s : Setup} {past : List Moment} {w : State}

/-- The servers that were launched are those that came to their end and those still held. -/
lemma launches_eq (h : Run s past w)
    (hkept : ∀ m ∈ past, ∀ call, m.interrupts call → call.job.isLifecycle = false) :
    past.countP (·.launches) = past.countP (·.consumes) + w.held := by
  induction h with
  | initial => rfl
  | @step past w w' said a hrun hstep ih =>
    have hearlier := fun m hm => hkept m (List.mem_append_left _ hm)
    have hlast := hkept ⟨w, a, w', said⟩ (List.mem_append_right _ (List.mem_singleton_self _))
    have hturn : w'.held + (w.Consumes a).toNat = w.held + a.isLaunch.toNat :=
      (hrun.sound fun _ : True => hearlier).held_turn (.of_step hstep) hlast
    have hcount := ih hearlier
    have hone (b : Bool) : (if b = true then 1 else 0) = b.toNat := by cases b <;> rfl
    simp only [List.countP_append, List.countP_singleton, Moment.launches, Moment.consumes, hone]
    simp only [Moment.launches, Moment.consumes] at hcount
    omega

/--
As long as no start and no stop that has the lock is given up: while nobody has the lock, the phase
is a settled one, and there is a connection in the slot exactly when the phase says so. The servers
that were launched are those that came to their end and at most one more, which is in the slot or
with the call that has the lock. And a call that finds the session running, or sends a notice, has
the connection in the slot to send it over.
-/
theorem one_server (h : Run s past w)
    (hkept : ∀ m ∈ past, ∀ call, m.interrupts call → call.job.isLifecycle = false) :
    (w.isFree = true →
      w.phase.isSettled = true ∧ (w.slot.isSome = true ↔ w.phase.isUp = true)) ∧
    past.countP (·.launches) = past.countP (·.consumes) + w.live?.toList.length ∧
    (∀ (i : Nat) job, w.line.head? = some i → w.calls[i]? = some ⟨job, .waiting⟩ →
      w.phase.isRunning = true → w.slot.isSome = true) ∧
    ∀ (i : Nat) job c notice, w.calls[i]? = some ⟨job, .sending c notice⟩ →
      w.slot = some c := by
  have hsound := h.sound fun _ : True => hkept
  refine ⟨fun hfree => ?_, ?_, fun i job hhead hi hrunning => ?_, fun i job c notice hi => ?_⟩
  · obtain ⟨live, -, hidle⟩ := hsound.idle_of_free hfree
    exact ⟨(hidle.kept trivial).1, hidle.isUp, (hidle.kept trivial).2⟩
  · rw [h.launches_eq hkept, hsound.held_eq]
  · obtain ⟨live, -, hidle⟩ := hsound.fits_of_head hhead hi
    exact hidle.slotted (Phase.eq_running hrunning)
  · obtain ⟨live, -, -, hslot, -⟩ := hsound.fits_of_inside hi rfl
    exact hslot

/-- After a first start the one server that was launched is in the slot. -/
theorem one_server_firstStart :
    ∃ past w, Run .stock past w ∧ (∀ m ∈ past, ∀ call, ¬m.interrupts call) ∧
      w.isFree = true ∧ w.phase.isSettled = true ∧ (w.slot.isSome = true ↔ w.phase.isUp = true) ∧
      past.countP (·.launches) = past.countP (·.consumes) + w.live?.toList.length := by
  obtain ⟨past, w, hplay, hfree⟩ :
      ∃ past w, State.initial.play .stock Action.firstStart = some (past, w) ∧
        w.isFree = true := ⟨_, _, rfl, rfl⟩
  have hkept := not_interrupts_of_play hplay (by simp [Action.firstStart])
  obtain ⟨hsettled, hcount, -⟩ :=
    (of_play hplay).one_server fun m hm call h => absurd h (hkept m hm call)
  exact ⟨past, w, of_play hplay, hkept, hfree, (hsettled hfree).1, (hsettled hfree).2, hcount⟩

end Run

end LanguageClient
