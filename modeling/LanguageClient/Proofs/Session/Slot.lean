import LanguageClient.Proofs.Session.Lock

/-!
# The slot and its connection

At most one connection is alive at a time, and `Stage.Fits` says where it is while the lock is held
at a stage: in the slot, with the call, or nowhere. It also says which phase goes with that.

Calls may be given up half way. Some of the facts hold only as long as no start or stop is; they
stand under the proposition `kept`.
-/

namespace LanguageClient

/-! ### Jobs and stages -/

namespace Job

def isStart : Job → Bool
  | .start | .restart _ => true
  | _ => false

/-- Whether a call takes the session down. -/
def isStopping : Job → Bool
  | .stop | .deactivate => true
  | _ => false

/-- Whether a call turns the session on or off. -/
def isLifecycle (job : Job) : Bool := job.isStart || job.isStopping

/-- Whether a call with a job may come to a stage. -/
def suits (job : Job) : Stage → Bool
  | .arriving | .done _ | .dropped => true
  | .waiting => !(job matches .started)
  | .joining _ => (job matches .started | .deactivate)
  | .sending _ _ | .forgetting _ _ => job.document?.isSome
  | .launching | .greeting _ | .announcing _ | .reopening _ _ | .settling _ => job.isStart
  | .raising _ | .verifying _ | .leaving _ => job.isStart
  | .discarding _ .relaunch | .aborting _ .relaunch => job.isStart
  | .discarding _ (.refuse _) | .aborting _ (.refuse _) => job.isStart
  | .testing _ .handshake | .registering _ .handshake | .retesting _ .handshake _ => job.isStart
  | .asking _ .handshake _ | .awaiting _ .handshake _ => job.isStart
  | .testing _ .shutdown | .registering _ .shutdown | .retesting _ .shutdown _ =>
    job.isStopping
  | .asking _ .shutdown _ | .awaiting _ .shutdown _ | .ending _ | .exiting _ | .closing _ _ =>
    job.isStopping
  | .draining _ _ | .reaping _ _ | .concluding _ | .purging _ => job.isStopping
  | .discarding _ .settle | .aborting _ .settle => job.isStopping

/-- A call that turns nothing on or off uses the lock only to send a notice. -/
lemma eq_sending {job : Job} {stage : Stage} (hsuits : job.suits stage = true)
    (hin : stage.isInside = true) (hjob : job.isLifecycle = false) :
    ∃ c notice, stage = .sending c notice := by
  simp only [isLifecycle, Bool.or_eq_false_iff] at hjob
  obtain ⟨hstart, hstop⟩ := hjob
  cases stage with
  | sending c notice => exact ⟨c, notice, rfl⟩
  | testing c ask | registering c ask | retesting c ask | asking c ask | awaiting c ask =>
    cases ask <;> simp [suits, hstart, hstop] at hsuits
  | discarding c next | aborting c next =>
    cases next <;> simp [suits, hstart, hstop] at hsuits
  | arriving | waiting | joining | forgetting | done | dropped => cases hin
  | _ => simp [suits, hstart, hstop] at hsuits

end Job

namespace Phase

/-- Whether a connection belongs to a phase: it is in use, or broken and still in the slot. -/
def isUp : Phase → Bool
  | .running | .failed (.runtime _) => true
  | _ => false

lemma eq_of_isUp {phase : Phase} (h : phase.isUp = true) :
    phase = .running ∨ ∃ failure, phase = .failed (.runtime failure) := by
  rcases phase with _ | _ | _ | _ | _ | _ | failure
  · cases h
  · cases h
  · exact .inl rfl
  · cases h
  · cases h
  · cases h
  · exact .inr ⟨failure, rfl⟩

lemma eq_running {phase : Phase} (h : phase.isRunning = true) : phase = .running := by
  cases phase <;> first | rfl | cases h

/-- Whether a session can be in a phase while nobody works at it. -/
def isSettled : Phase → Bool
  | .created | .running | .stopped | .failed _ => true
  | .starting | .stopping => false

end Phase

/-- The phase in which a request is made. -/
def Ask.phase : Ask → Phase
  | .handshake => .starting
  | .shutdown => .stopping

namespace Notice

variable {result : Except NotifyError Forwarded}

lemma isInLine_settled (notice : Notice) : (notice.settled result).isInLine = false := by
  cases notice <;> rfl

lemma suits_settled (notice : Notice) {job : Job} {c : Nat}
    (h : job.suits (.sending c notice) = true) : job.suits (notice.settled result) = true := by
  cases notice <;> first | rfl | exact h

end Notice

/-! ### The connection that is alive -/

/-- Of all connections only `live` is held, and it is the newest. -/
structure Alive (connections : List Connection) (live : Option Nat) : Prop where
  held_iff : ∀ {c : Nat} {conn : Connection}, connections[c]? = some conn →
    (conn.held = true ↔ live = some c)
  newest : ∀ {c : Nat}, live = some c → c + 1 = connections.length

namespace Alive

variable {connections : List Connection} {live : Option Nat} {c : Nat}

theorem empty : Alive [] none where
  held_iff := by simp
  newest := by simp

theorem modify (h : Alive connections live) {f : Connection → Connection}
    (hf : ∀ conn, connections[c]? = some conn → (f conn).held = conn.held) :
    Alive (connections.modify c f) live where
  held_iff {k conn} hk := by
    rcases eq_or_ne c k with rfl | hne
    · rw [List.getElem?_modify_eq] at hk
      obtain ⟨old, hold, rfl⟩ := Option.map_eq_some_iff.mp hk
      rw [hf old hold]
      exact h.held_iff hold
    · rw [List.getElem?_modify_ne _ _ hne] at hk
      exact h.held_iff hk
  newest hlive := by
    rw [List.length_modify]
    exact h.newest hlive

/-- The connection that is alive is there. -/
lemma getElem? (h : Alive connections (some c)) : ∃ conn, connections[c]? = some conn := by
  have hlt : c < connections.length := by
    have hnewest := h.newest rfl
    omega
  exact ⟨_, List.getElem?_eq_getElem hlt⟩

/-- The connection that is alive is let go. -/
theorem release (h : Alive connections (some c)) {f : Connection → Connection}
    (hf : ∀ conn, (f conn).held = false) : Alive (connections.modify c f) none where
  held_iff {k conn} hk := by
    rcases eq_or_ne c k with rfl | hne
    · rw [List.getElem?_modify_eq] at hk
      obtain ⟨old, -, rfl⟩ := Option.map_eq_some_iff.mp hk
      simp [hf old]
    · rw [List.getElem?_modify_ne _ _ hne] at hk
      simp [h.held_iff hk, hne]
  newest := by simp

theorem push (h : Alive connections none) (room : Nat) :
    Alive (connections ++ [Connection.fresh room]) (some connections.length) where
  held_iff {k conn} hk := by
    rw [List.getElem?_append] at hk
    split at hk
    case isTrue hlt =>
      have hold := h.held_iff hk
      simp only [reduceCtorEq, iff_false] at hold
      refine ⟨fun hheld => absurd hheld hold, fun hlive => ?_⟩
      have hkeq : connections.length = k := Option.some.inj hlive
      omega
    case isFalse hge =>
      rw [List.getElem?_singleton] at hk
      split at hk
      case isTrue hlast =>
        obtain rfl := Option.some.inj hk
        have hkeq : connections.length = k := by omega
        simp [Connection.fresh, hkeq]
      case isFalse => cases hk
  newest hlive := by
    obtain rfl := Option.some.inj hlive
    simp

end Alive

/-! ### What goes with a stage -/

/-- How phase, slot and live connection go together while nobody uses the lock. -/
structure Idle (kept : Prop) (phase : Phase) (slot live : Option Nat) : Prop where
  live_eq : live = slot
  isUp : slot.isSome = true → phase.isUp = true
  slotted : phase = .running → slot.isSome = true
  kept : kept → phase.isSettled = true ∧ (phase.isUp = true → slot.isSome = true)

namespace Idle

variable {kept : Prop} {phase : Phase}

/-- Without a connection. -/
lemma down {slot live : Option Nat} (hup : phase.isUp = false)
    (hkept : kept → phase.isSettled = true) (hslot : slot = none) (hlive : live = none) :
    Idle kept phase slot live where
  live_eq := hlive.trans hslot.symm
  isUp := by simp [hslot]
  slotted := by
    rintro rfl
    cases hup
  kept hk := ⟨hkept hk, by simp [hup]⟩

/-- With a connection in the slot. -/
lemma up {c : Nat} {slot live : Option Nat} (hup : phase.isUp = true) (hslot : slot = some c)
    (hlive : live = some c) : Idle kept phase slot live where
  live_eq := hlive.trans hslot.symm
  isUp _ := hup
  slotted _ := by simp [hslot]
  kept _ := by
    refine ⟨?_, fun _ => by simp [hslot]⟩
    cases phase <;> first | rfl | cases hup

end Idle

/-- How they go together while the lock is held at a stage. -/
def Stage.Fits (kept : Prop) (phase : Phase) (slot live : Option Nat) : Stage → Prop
  | .launching => phase = .starting ∧ slot = none ∧ live = none
  | .greeting c | .announcing c | .reopening c _ | .settling c =>
    phase = .starting ∧ slot = none ∧ live = some c
  | .testing c ask | .registering c ask | .retesting c ask _ | .asking c ask _
  | .awaiting c ask _ => phase = ask.phase ∧ slot = none ∧ live = some c
  | .raising c => phase = .starting ∧ slot = some c ∧ live = some c
  | .verifying c | .sending c _ => phase.isUp = true ∧ slot = some c ∧ live = some c
  | .leaving outcome =>
    outcome = .start (.ok ()) ∧ Idle kept phase slot live ∧ (kept → phase.isUp = true)
  | .ending c | .exiting c | .closing c _ | .draining c _ | .reaping c _ =>
    phase = .stopping ∧ slot = none ∧ live = some c
  | .concluding _ => phase = .stopping ∧ slot = none ∧ live = none
  | .purging _ => phase = .stopped ∧ slot = none ∧ live = none
  | .discarding c next | .aborting c next =>
    (match next with
      | .relaunch => phase.failure?.isSome = true
      | .refuse _ => phase = .starting
      | .settle => phase = .stopping) ∧ slot = none ∧ live = some c
  | .arriving | .waiting | .joining _ | .forgetting _ _ | .done _ | .dropped =>
    Idle kept phase slot live

namespace Stage

variable {kept : Prop} {phase : Phase} {slot live : Option Nat} {stage : Stage}

/-- Where the live connection is. -/
lemma Fits.live_eq_or (h : stage.Fits kept phase slot live) : live = slot.or stage.owned? := by
  cases stage with
  | arriving | waiting | joining | forgetting | done | dropped =>
    simpa [owned?] using Idle.live_eq h
  | leaving => simpa [owned?] using Idle.live_eq h.2.1
  | _ =>
    obtain ⟨-, rfl, rfl⟩ := h
    rfl

lemma Fits.slot_of_owned {c : Nat} (h : stage.Fits kept phase slot live)
    (howned : stage.owned? = some c) : slot = none := by
  cases stage <;> first | exact h.2.1 | cases howned

/-- A running session has a connection in its slot. -/
lemma Fits.isSome_slot (h : stage.Fits kept .running slot live) : slot.isSome = true := by
  cases stage with
  | arriving | waiting | joining | forgetting | done | dropped => exact Idle.slotted h rfl
  | leaving => exact h.2.1.slotted rfl
  | verifying | sending =>
    obtain ⟨-, rfl, -⟩ := h
    rfl
  | testing c ask | registering c ask | retesting c ask | asking c ask | awaiting c ask =>
    cases ask <;> cases h.1
  | discarding c next | aborting c next => cases next <;> cases h.1
  | _ => cases h.1

/-- What goes with a stage still does when a running session has failed. -/
lemma Fits.lost (h : stage.Fits kept .running slot live) (failure : RuntimeFailure) :
    stage.Fits kept (.failed (.runtime failure)) slot live := by
  have hidle : Idle kept .running slot live →
      Idle kept (.failed (.runtime failure)) slot live := fun h => {
    live_eq := h.live_eq
    isUp := fun _ => rfl
    slotted := by simp
    kept := fun _ => ⟨rfl, fun _ => h.slotted rfl⟩ }
  cases stage with
  | arriving | waiting | joining | forgetting | done | dropped => exact hidle h
  | leaving => exact ⟨h.1, hidle h.2.1, fun _ => rfl⟩
  | verifying | sending => exact ⟨rfl, h.2⟩
  | testing c ask | registering c ask | retesting c ask | asking c ask | awaiting c ask =>
    cases ask <;> cases h.1
  | discarding c next | aborting c next => cases next <;> cases h.1
  | _ => cases h.1

/-- What is left when a call is given up: its connection is let go, and the lock is free. -/
lemma Fits.dropped (h : stage.Fits kept phase slot live) (hwait : stage.canWait = true)
    (hkept : kept → stage.isInside = true → ∃ c notice, stage = .sending c notice) :
    (∀ c, stage.owned? = some c → live = some c ∧ Idle kept phase slot none) ∧
      (stage.owned? = none → Idle kept phase slot live) := by
  have hbare : slot = none → ¬phase = .running → ¬kept → Idle kept phase slot none :=
    fun hslot hphase hkept => {
      live_eq := hslot.symm
      isUp := by simp [hslot]
      slotted := fun hrunning => absurd hrunning hphase
      kept := fun hk => absurd hk hkept }
  cases stage with
  | arriving | waiting | joining => exact ⟨by simp [owned?], fun _ => h⟩
  | sending c notice =>
    obtain ⟨hup, hslot, hlive⟩ := h
    exact ⟨by simp [owned?], fun _ => .up hup hslot hlive⟩
  | launching =>
    obtain ⟨rfl, hslot, rfl⟩ := h
    exact ⟨by simp [owned?], fun _ => hbare hslot (by simp) fun hk => by
      simpa using hkept hk rfl⟩
  | announcing c | reopening c | exiting c | closing c | draining c | reaping c =>
    obtain ⟨rfl, hslot, rfl⟩ := h
    refine ⟨fun k hk => ⟨hk, hbare hslot (by simp) fun hk => ?_⟩, by simp [owned?]⟩
    simpa using hkept hk rfl
  | registering c ask | retesting c ask | asking c ask | awaiting c ask =>
    obtain ⟨rfl, hslot, rfl⟩ := h
    refine ⟨fun k hk => ⟨hk, hbare hslot (by cases ask <;> simp [Ask.phase]) fun hk => ?_⟩,
      by simp [owned?]⟩
    simpa using hkept hk rfl
  | discarding c next | aborting c next =>
    obtain ⟨hphase, hslot, rfl⟩ := h
    refine ⟨fun k hk => ⟨hk, hbare hslot ?_ fun hk => ?_⟩, by simp [owned?]⟩
    · rintro rfl
      cases next <;> cases hphase
    · simpa using hkept hk rfl
  | _ => cases hwait

end Stage

/-! ### Deeds -/

lemma Connection.Deed.held {c : Nat} {conn conn' : Connection} {a : Action} {said : List Effect}
    (h : conn.Deed c a conn' said) : conn'.held = conn.held := by
  cases h with
  | write hstep => rw [stepWriter_eq hstep]
  | _ => rfl

namespace State

variable {s : Setup} {w w' : State} {i c : Nat} {kept : Prop}

/-! ### Exchanges keep to what goes with their stages -/

namespace Exchange

variable {before after : Stage} {f : Connection → Connection} {said : List Effect}

lemma inside (h : Exchange s w c before f after said) :
    before.isInside = true ∧ after.isInside = true := by
  cases h with
  | closedBefore ask | closedSince ask | unasked ask | rejected ask | forsaken ask
  | timedOut ask => cases ask <;> exact ⟨rfl, rfl⟩
  | _ => exact ⟨rfl, rfl⟩

lemma suits (h : Exchange s w c before f after said) (job : Job) :
    job.suits after = job.suits before := by
  cases h with
  | closedBefore ask | tested ask | registered ask | closedSince ask | retested ask | asked ask
  | unasked ask | rejected ask | forsaken ask | timedOut ask => cases ask <;> rfl
  | discarding next | undiscarded next => cases next <;> rfl
  | _ => rfl

lemma held (h : Exchange s w c before f after said) (conn : Connection) :
    (f conn).held = conn.held := by
  cases h <;> rfl

lemma fits (h : Exchange s w c before f after said) {phase : Phase} {slot live : Option Nat}
    (hfits : before.Fits kept phase slot live) : after.Fits kept phase slot live := by
  cases h with
  | closedBefore ask | closedSince ask | unasked ask | rejected ask | forsaken ask
  | timedOut ask => cases ask <;> exact hfits
  | _ => exact hfits

end Exchange

/-! ### Calls that are given up -/

lemma canWait_of_canDrop {call : Call} (h : call.canDrop = true) : call.stage.canWait = true := by
  unfold Call.canDrop at h
  split at h
  · cases h
  · exact h

lemma drop_of_owned {call : Call} (h : call.stage.owned? = some c) :
    (w.drop i call).1 =
      ((w.leave i).setStage i .dropped).modifyConnection c fun conn =>
        { conn with held := false } := by
  simp [State.drop, h]

lemma drop_of_not_owned {call : Call} (h : call.stage.owned? = none) :
    (w.drop i call).1 = (w.leave i).setStage i .dropped := by
  simp [State.drop, h]

/-! ### Who may launch and stop -/

lemma MayLaunch.isStart {job : Job} (h : w.MayLaunch job) : job.isStart = true := by
  cases job <;> first | rfl | cases h

/-- A connection that stands in the way of a launch has been lost. -/
lemma MayLaunch.failure {job : Job} {live : Option Nat} (h : w.MayLaunch job)
    (hidle : Idle kept w.phase w.slot live) (hslot : w.slot = some c) :
    w.phase.failure?.isSome = true := by
  have hup : w.phase.isUp = true := hidle.isUp (by simp [hslot])
  cases job with
  | start =>
    have hstart : w.phase.canStart = true := h
    cases hphase : w.phase <;> simp_all [Phase.canStart, Phase.isUp, Phase.failure?]
  | restart => exact h.2
  | _ => cases h

lemma isStopping_of_isStop {job : Job} (hsuits : job.suits .waiting = true)
    (hstop : job.isStop = true) : job.isStopping = true := by
  cases job <;> simp_all [Job.suits, Job.isStop, Job.isStopping]

end State

end LanguageClient
