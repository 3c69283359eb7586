import LanguageClient.Proofs.Session.Losses

/-!
# Losses and restarts are counted

Each connection fails the session once at most, tells the host of its loss once at most and has the
session begin one restart at most. Each restart launches a server once at most, so the launches of
all restarts keep to the policy: `Run.restart_budget`.
-/

namespace LanguageClient

/-! ### Moments of a loss -/

def Job.isRestart : Job → Bool
  | .restart _ => true
  | _ => false

def Stage.isLaunching : Stage → Bool
  | .launching => true
  | _ => false

namespace Moment

/-- The connection of which a loss is reported. -/
def reported? (m : Moment) : Option Nat := m.before.reports? m.action

/-- Whether a running session fails. -/
def fails (m : Moment) : Bool := m.before.phase.isRunning && m.after.phase.isLost

/-- How often the host is told of a loss. -/
def losses (m : Moment) : Nat := m.said.countP (·.isLoss)

/-- The jobs of the calls that are begun. -/
def begun (m : Moment) : List Job := m.after.jobs.drop m.before.jobs.length

/-- How many restarts are begun. -/
def scheduled (m : Moment) : Nat := m.begun.countP (·.isRestart)

/-- Nothing changes but some connection or the stage of some call. -/
structure Ignored (m : Moment) : Prop where
  same : m.after =
    { m.before with connections := m.after.connections, calls := m.after.calls }
  jobs : m.after.jobs = m.before.jobs
  said : news m.said = []

/-- Whether a restart asks the launcher for a server. -/
def relaunches (m : Moment) : Bool :=
  m.action.caller?.any fun i => (m.after.calls[i]?).any fun call =>
    call.job.isRestart && call.stage.isLaunching

end Moment

/-- The moments of a run in which the loss of connection `c` is reported. -/
def reportsOf (c : Nat) (past : List Moment) : List Moment :=
  past.filter fun m => m.reported? = some c

lemma countP_isLoss_news (said : List Effect) :
    (news said).countP (·.isLoss) = said.countP (·.isLoss) := by
  induction said with
  | nil => rfl
  | cons e said ih =>
    cases e with
    | log level text => exact ih
    | _ => simp only [news_queued, news_wrote, news_emitted, List.countP_cons, ih]

namespace State

variable {s : Setup} {w w' : State} {a : Action} {c : Nat} {said : List Effect} {m : Moment}

namespace Reported

lemma ignores (h : Reported s m.before c m.after (news m.said)) (hheeds : ¬m.before.Heeds c) :
    m.Ignored := by
  cases h with
  | ignored _ hsame hjobs hsaid => exact ⟨hsame, hjobs, hsaid⟩
  | heeded _ _ hother => exact absurd hother hheeds

/-- A report is noticed once at most. -/
lemma le_one (h : Reported s m.before c m.after (news m.said)) :
    m.losses ≤ 1 ∧ m.scheduled ≤ 1 := by
  rw [Moment.losses, Moment.scheduled, Moment.begun, ← countP_isLoss_news]
  cases h with
  | ignored _ _ hjobs hsaid =>
    rw [hjobs, hsaid]
    simp
  | heeded _ _ _ _ hsaid hrestart =>
    rw [hsaid]
    refine ⟨by simp [Effect.isLoss], ?_⟩
    rcases hrestart with ⟨-, -, hjobs⟩ | ⟨-, hjobs⟩
    · rw [hjobs, List.drop_left]
      simp [Job.isRestart]
    · rw [hjobs]
      simp

end Reported

end State

lemma Moment.Ignored.nothing {m : Moment} (h : m.Ignored) :
    m.fails = false ∧ m.losses = 0 ∧ m.scheduled = 0 := by
  refine ⟨?_, ?_, ?_⟩
  · have hphase : m.after.phase = m.before.phase := by rw [h.same]
    rw [fails, hphase]
    cases m.before.phase <;> rfl
  · rw [losses, ← countP_isLoss_news, h.said]
    rfl
  · rw [scheduled, begun, h.jobs, List.drop_length]
    rfl

/-! ### One report of a connection is noticed -/

/-- Whether the loss of connection `c` is reported and matters. -/
def Moment.notices (m : Moment) (c : Nat) : Bool :=
  m.reported? = some c && m.before.isNewest c && m.before.phase.isRunning

lemma Moment.notices_iff {m : Moment} {c : Nat} :
    m.notices c = true ↔ m.reported? = some c ∧ m.before.Heeds c := by
  rw [notices, Bool.and_eq_true, Bool.and_eq_true, decide_eq_true_eq, State.Heeds, and_assoc]
  cases m.before.phase <;> simp [Phase.isRunning]

/-- When the list of each `x` has one `q` at most, and none unless `x` is `p`, all the lists
together have no more of `q` than there are of `p`. -/
lemma countP_flatMap_le {α β : Type} {l : List α} {p : α → Bool} {f : α → List β} {q : β → Bool}
    (hone : ∀ x ∈ l, (f x).countP q ≤ 1) (hzero : ∀ x ∈ l, p x = false → (f x).countP q = 0) :
    (l.flatMap f).countP q ≤ l.countP p := by
  induction l with
  | nil => exact Nat.le_refl 0
  | cons x l ih =>
    have hrest := ih (fun y hy => hone y (List.mem_cons_of_mem _ hy))
      fun y hy => hzero y (List.mem_cons_of_mem _ hy)
    have hx := hone x List.mem_cons_self
    rw [List.flatMap_cons, List.countP_append, List.countP_cons]
    cases hp : p x with
    | false =>
      have hnothing := hzero x List.mem_cons_self hp
      simp only [Bool.false_eq_true, if_false]
      omega
    | true =>
      simp only [if_true]
      omega

namespace Run

variable {s : Setup} {past : List Moment} {w : State} {m : Moment} {c : Nat}

/-- What the report of a moment comes to. -/
lemma reported (h : Run s past w) (hm : m ∈ past) (hreported : m.reported? = some c) :
    State.Reported s m.before c m.after (news m.said) := by
  obtain ⟨_, _, _, _, hstep⟩ := h.step_of_mem hm
  exact (State.Turn.of_step hstep).reported hreported

/-- After a report that was noticed, the connection is spent. -/
lemma noticed_once (h : Run s past w) (c : Nat) :
    past.countP (·.notices c) = 0 ∨ past.countP (·.notices c) = 1 ∧ w.Spent c := by
  induction h with
  | initial => exact .inl rfl
  | @step past w w' said a hrun hstep ih =>
    have hsound : State.Sound False w := hrun.sound nofun
    have hturn := State.Turn.of_step hstep
    rw [List.countP_append, List.countP_singleton]
    cases hnotices : Moment.notices ⟨w, a, w', said⟩ c with
    | false =>
      rcases ih with hnone | ⟨hone, hspent⟩
      · exact .inl (by simp [hnone])
      · exact .inr ⟨by simp [hone], hspent.turn hsound hturn⟩
    | true =>
      obtain ⟨hreported, hheeds⟩ := Moment.notices_iff.mp hnotices
      rcases ih with hnone | ⟨-, hspent⟩
      · refine .inr ⟨by simp [hnone], .of_heeds hheeds hsound hturn ?_⟩
        cases hturn.reported hreported with
        | ignored hother => exact absurd hheeds hother
        | heeded failure _ _ hphase =>
          rw [hphase]
          exact nofun
      · exact absurd hheeds hspent.not_heeds

/-- The reports of one connection fail the session, tell the host and begin a restart once at
most. -/
lemma reports_le_one (h : Run s past w) (c : Nat) :
    (reportsOf c past).countP (·.fails) ≤ 1 ∧
      (seen (reportsOf c past)).countP (·.isLoss) ≤ 1 ∧
      ((reportsOf c past).flatMap (·.begun)).countP (·.isRestart) ≤ 1 := by
  have hcount : (reportsOf c past).countP (·.notices c) ≤ 1 := by
    refine Nat.le_trans List.filter_sublist.countP_le ?_
    rcases h.noticed_once c with hnone | ⟨hone, -⟩
    · omega
    · omega
  have hreported : ∀ m ∈ reportsOf c past, m.reported? = some c := by
    intro m hm
    simpa using (List.mem_filter.mp hm).2
  have hreports : ∀ m ∈ reportsOf c past, State.Reported s m.before c m.after (news m.said) :=
    fun m hm => h.reported (List.mem_of_mem_filter hm) (hreported m hm)
  have hignored : ∀ m ∈ reportsOf c past, m.notices c = false → m.Ignored := by
    intro m hm hunnoticed
    refine (hreports m hm).ignores ?_
    intro hheeds
    have hnotices := Moment.notices_iff.mpr ⟨hreported m hm, hheeds⟩
    cases hunnoticed.symm.trans hnotices
  refine ⟨Nat.le_trans (List.countP_mono_left ?_) hcount, Nat.le_trans ?_ hcount,
    Nat.le_trans ?_ hcount⟩
  · intro m hm hfails
    by_contra hunnoticed
    rw [(hignored m hm (by simpa using hunnoticed)).nothing.1] at hfails
    cases hfails
  · exact countP_flatMap_le (fun m hm => (hreports m hm).le_one.1)
      fun m hm hunnoticed => (hignored m hm hunnoticed).nothing.2.1
  · exact countP_flatMap_le (fun m hm => (hreports m hm).le_one.2)
      fun m hm hunnoticed => (hignored m hm hunnoticed).nothing.2.2

end Run

/-! ### Moments without a report -/

namespace State

variable {s : Setup} {w w' : State} {a : Action} {said : List Effect}

/-- The host begins no restarts. -/
lemma Unreported.isRestart (h : Unreported w a w' said)
    (hhost : ∀ lost, a ≠ .call (.restart lost)) :
    w'.jobs.countP (·.isRestart) = w.jobs.countP (·.isRestart) ∧
      (w'.jobs.drop w.jobs.length).countP (·.isRestart) = 0 := by
  rcases h.jobs with hjobs | ⟨job, hjob, hjobs⟩
  · rw [hjobs]
    exact ⟨rfl, by simp⟩
  · have hother : job.isRestart = false := by
      rcases hjob with rfl | ⟨-, rfl⟩
      · cases job with
        | restart lost => exact absurd rfl (hhost lost)
        | _ => rfl
      · rfl
    rw [hjobs]
    simp [hother]

end State

namespace Run

variable {s : Setup} {past : List Moment} {w : State} {m : Moment}

lemma unreported (h : Run s past w) (hm : m ∈ past) (hreported : m.reported? = none) :
    State.Unreported m.before m.action m.after (news m.said) := by
  obtain ⟨_, _, _, _, hstep⟩ := h.step_of_mem hm
  exact (State.Turn.of_step hstep).unreported hreported

/-- Where no loss is reported, none is noticed. -/
lemma nothing_unreported (h : Run s past w) (hm : m ∈ past) (hreported : m.reported? = none)
    (hhost : ∀ lost, m.action ≠ .call (.restart lost)) :
    m.fails = false ∧ m.losses = 0 ∧ m.scheduled = 0 := by
  have hplain := h.unreported hm hreported
  refine ⟨?_, ?_, (hplain.isRestart hhost).2⟩
  · rw [Moment.fails]
    cases hlost : m.after.phase.isLost with
    | false => exact Bool.and_false _
    | true =>
      have hbefore := hplain.phase hlost
      cases hphase : m.before.phase <;> simp_all [Phase.isRunning, Phase.isLost]
  · rw [Moment.losses, ← countP_isLoss_news]
    exact hplain.said

/-- Each restart that was begun is counted, and the count keeps to what the policy allows. -/
lemma restarts_eq (h : Run s past w)
    (hhost : ∀ m ∈ past, ∀ lost, m.action ≠ .call (.restart lost)) {bound : Nat}
    (hbound : bound < 0xFFFFFFFF)
    (hallows : ∀ attempt, s.options.restart.allows attempt = true → attempt.toNat ≤ bound) :
    w.jobs.countP (·.isRestart) = w.restarts.toNat ∧ w.restarts.toNat ≤ bound := by
  induction h with
  | initial => exact ⟨rfl, Nat.zero_le _⟩
  | @step past w w' said a hrun hstep ih =>
    obtain ⟨hcount, hle⟩ := ih fun m hm => hhost m (List.mem_append_left _ hm)
    have hlast := hhost ⟨w, a, w', said⟩ (List.mem_append_right _ (List.mem_singleton_self _))
    have hturn := State.Turn.of_step hstep
    cases hreports : w.reports? a with
    | none =>
      have hplain := hturn.unreported hreports
      rw [(hplain.isRestart hlast).1, hplain.restarts]
      exact ⟨hcount, hle⟩
    | some c =>
      cases hturn.reported hreports with
      | ignored _ hsame hjobs =>
        have hrestarts : w'.restarts = w.restarts := by rw [hsame]
        rw [hrestarts, hjobs]
        exact ⟨hcount, hle⟩
      | heeded _ _ _ _ _ hrestart =>
        rcases hrestart with ⟨hallowed, hrestarts, hjobs⟩ | ⟨hrestarts, hjobs⟩
        · -- The count does not wrap around, since the policy stops it before.
          have hnext : (w.restarts + 1).toNat = w.restarts.toNat + 1 := by
            rw [UInt32.toNat_add]
            exact Nat.mod_eq_of_lt (by simp; omega)
          have hkeeps := hallows _ hallowed
          rw [hrestarts, hjobs, List.countP_append, hcount, hnext]
          exact ⟨rfl, by omega⟩
        · rw [hrestarts, hjobs]
          exact ⟨hcount, hle⟩

end Run

/-! ### Each restart launches once -/

/-- Whether a start at a stage has not asked the launcher yet. -/
def Stage.isBeforeLaunch : Stage → Bool
  | .arriving | .waiting | .joining _ => true
  | .discarding _ .relaunch | .aborting _ .relaunch => true
  | _ => false

/-- Whether a call is a restart that got as far as the launcher, or ended without it. -/
def Call.isSpentRestart (call : Call) : Bool := call.job.isRestart && !call.stage.isBeforeLaunch

lemma countP_moveCall {calls : List Call} {i : Nat} {job : Job} {before : Stage} (p : Call → Bool)
    (hi : calls[i]? = some ⟨job, before⟩) (after : Stage) :
    (moveCall calls i after).countP p + (p ⟨job, before⟩).toNat =
      calls.countP p + (p ⟨job, after⟩).toNat := by
  induction calls generalizing i with
  | nil => cases hi
  | cons first rest ih =>
    cases i with
    | zero =>
      obtain rfl := Option.some.inj hi
      simp only [moveCall, List.modify_zero_cons, List.countP_cons]
      cases p ⟨job, before⟩ <;> cases p ⟨job, after⟩ <;> simp
    | succ i =>
      have hrest := ih (by simpa using hi)
      simp only [moveCall, List.modify_succ_cons, List.countP_cons] at hrest ⊢
      omega

namespace State

variable {s : Setup} {w w' : State} {a : Action} {i c : Nat} {said : List Effect} {job : Job}
  {stage : Stage} {call : Call}

lemma Exchange.isBeforeLaunch {before after : Stage} {f : Connection → Connection}
    (h : Exchange s w c before f after said) : after.isBeforeLaunch = before.isBeforeLaunch := by
  cases h with
  | closedBefore ask | closedSince ask | unasked ask | rejected ask | forsaken ask
  | timedOut ask => cases ask <;> rfl
  | discarding next | undiscarded next => cases next <;> rfl
  | _ => rfl

/-- No call comes back to before its launch. -/
lemma Advance.isBeforeLaunch (h : Advance s w i job a stage w' said)
    (hi : w.calls[i]? = some ⟨job, stage⟩) (hk : w'.calls[i]? = some call)
    (hbefore : call.stage.isBeforeLaunch = true) : stage.isBeforeLaunch = true := by
  cases h with
  | exchange _ hex =>
    obtain rfl := eq_of_moveCall hi hk
    exact hex.isBeforeLaunch.symm.trans hbefore
  | lose =>
    obtain rfl := eq_of_moveCall (getElem?_calls_lose hi) hk
    cases hbefore
  | sent notice | unsent notice =>
    obtain rfl := eq_of_moveCall hi hk
    cases notice <;> cases hbefore
  | refused _ _ hstage => rcases hstage with rfl | ⟨rfl, -⟩ <;> rfl
  | outOfScope | told | enlist | join | joinFirst | deactivate | joined | heard | ignored
  | superseded | vacate | launch | notify | notifyNobody | notOpen | notifyClosed | closeNobody
  | stopIgnored | stop | stopNobody | relaunch => rfl
  | _ =>
    obtain rfl := eq_of_moveCall hi hk
    cases hbefore

lemma Exchange.isLaunching {before after : Stage} {f : Connection → Connection}
    (h : Exchange s w c before f after said) : after.isLaunching = false := by
  cases h with
  | closedBefore ask | closedSince ask | unasked ask | rejected ask | forsaken ask
  | timedOut ask => cases ask <;> rfl
  | _ => rfl

/-- A call asks the launcher once it has the lock and the old connection is given up. -/
lemma Advance.of_launching (h : Advance s w i job a stage w' said)
    (hi : w.calls[i]? = some ⟨job, stage⟩) (hk : w'.calls[i]? = some call)
    (hlaunching : call.stage.isLaunching = true) : stage.isBeforeLaunch = true := by
  cases h with
  | exchange _ hex =>
    obtain rfl := eq_of_moveCall hi hk
    cases hex.isLaunching.symm.trans hlaunching
  | lose =>
    obtain rfl := eq_of_moveCall (getElem?_calls_lose hi) hk
    cases hlaunching
  | sent notice | unsent notice =>
    obtain rfl := eq_of_moveCall hi hk
    cases notice <;> cases hlaunching
  | launch | relaunch | notifyNobody | closeNobody => rfl
  | _ =>
    obtain rfl := eq_of_moveCall hi hk
    cases hlaunching

/-- How many restarts got as far as the launcher, or ended without it. -/
def spentRestarts (w : State) : Nat := w.calls.countP (·.isSpentRestart)

lemma spentRestarts_le : w.spentRestarts ≤ w.jobs.countP (·.isRestart) := by
  rw [spentRestarts, jobs, List.countP_map]
  refine List.countP_mono_left fun call _ hspent => ?_
  exact (Bool.and_eq_true_iff.mp hspent).1

lemma countP_append_arriving (calls : List Call) (job : Job) :
    (calls ++ [Call.mk job .arriving]).countP (·.isSpentRestart) =
      calls.countP (·.isSpentRestart) := by
  rw [List.countP_append, List.countP_singleton, Call.isSpentRestart]
  simp [Stage.isBeforeLaunch]

/-- A restart that asks for a server has not done so before. -/
lemma Advance.spentRestarts (h : Advance s w i job a stage w' said)
    (hi : w.calls[i]? = some ⟨job, stage⟩) :
    w.spentRestarts + (Moment.mk w a w' said).relaunches.toNat ≤ w'.spentRestarts := by
  obtain ⟨calls, after, hcalls, hstays, hnew⟩ := h.moved hi
  have hafter : w'.calls[i]? = some ⟨job, after⟩ := by
    rw [hcalls]
    exact getElem?_moveCall_self after hstays
  have hsame : calls.countP (·.isSpentRestart) = w.spentRestarts := by
    rcases hnew with rfl | ⟨c, rfl⟩
    · rfl
    · exact countP_append_arriving _ _
  have hmoved := countP_moveCall (·.isSpentRestart) hstays after
  have hrelaunches : (Moment.mk w a w' said).relaunches = (job.isRestart && after.isLaunching) := by
    simp [Moment.relaunches, h.caller, hafter]
  have hback : after.isBeforeLaunch = true → stage.isBeforeLaunch = true :=
    h.isBeforeLaunch hi hafter
  have hasks : after.isLaunching = true →
      stage.isBeforeLaunch = true ∧ after.isBeforeLaunch = false := by
    intro hlaunching
    refine ⟨h.of_launching hi hafter hlaunching, ?_⟩
    cases after <;> first | rfl | cases hlaunching
  have hgrows : (job.isRestart && after.isLaunching).toNat +
      (Call.mk job stage).isSpentRestart.toNat ≤ (Call.mk job after).isSpentRestart.toNat := by
    unfold Call.isSpentRestart
    cases job.isRestart with
    | false => exact Nat.le_refl 0
    | true =>
      cases hlaunching : after.isLaunching with
      | true =>
        obtain ⟨hbefore, hpast⟩ := hasks hlaunching
        rw [hbefore, hpast]
        exact Nat.le_refl 1
      | false =>
        cases hbefore : after.isBeforeLaunch with
        | true =>
          rw [hback hbefore]
          exact Nat.le_refl 0
        | false => cases stage.isBeforeLaunch <;> decide
  have hnow : w'.spentRestarts = (moveCall calls i after).countP (·.isSpentRestart) :=
    congrArg (List.countP _) hcalls
  rw [hsame] at hmoved
  rw [hrelaunches, hnow]
  omega

/-- Restarts become spent by turns, and each that asks for a server is. -/
lemma Turn.spentRestarts (h : Turn s w a w' said) :
    w.spentRestarts + (Moment.mk w a w' said).relaunches.toNat ≤ w'.spentRestarts := by
  have hquiet (hcaller : a.caller? = none) :
      (Moment.mk w a w' said).relaunches = false := by simp [Moment.relaunches, hcaller]
  cases h with
  | call | activate =>
    rw [hquiet rfl]
    exact Nat.le_of_eq (countP_append_arriving _ _).symm
  | @drop i call hi hdrop =>
    obtain ⟨job, stage⟩ := call
    have hjob (stage : Stage) : (Call.mk job stage).isSpentRestart = false := by
      cases job <;> first | rfl | cases hdrop
    have hmoved := countP_moveCall (·.isSpentRestart) hi .dropped
    have hnow : (w.drop i ⟨job, stage⟩).1.spentRestarts =
        (moveCall w.calls i .dropped).countP (·.isSpentRestart) := by
      unfold State.drop
      split <;> rfl
    rw [hjob, hjob] at hmoved
    rw [hquiet rfl, hnow]
    exact Nat.le_of_eq hmoved.symm
  | advance hi hadv => exact hadv.spentRestarts hi
  | deed _ hdeed =>
    rw [hquiet hdeed.no_caller]
    exact Nat.le_refl _
  | publish =>
    rw [hquiet rfl, emit_fst]
    exact Nat.le_refl _
  | @report c _ failure =>
    rw [hquiet rfl, State.spentRestarts, State.spentRestarts]
    rcases calls_lose s (w.modifyConnection c Connection.endReader) c failure with hcalls | hcalls
    · rw [hcalls]
      exact Nat.le_refl _
    · rw [hcalls]
      exact Nat.le_of_eq (countP_append_arriving _ _).symm
  | _ =>
    rw [hquiet rfl]
    exact Nat.le_refl _

end State

namespace Run

variable {s : Setup} {past : List Moment} {w : State}

lemma relaunches_le (h : Run s past w) : past.countP (·.relaunches) ≤ w.spentRestarts := by
  induction h with
  | initial => exact Nat.le_refl 0
  | @step past w w' said a hrun hstep ih =>
    have hgrows := (State.Turn.of_step hstep).spentRestarts
    have hlast : (Moment.mk w a w' said).relaunches.toNat =
        [Moment.mk w a w' said].countP (·.relaunches) := by
      rw [List.countP_singleton]
      cases (Moment.mk w a w' said).relaunches <;> rfl
    rw [List.countP_append, ← hlast]
    exact Nat.le_trans (Nat.add_le_add_right ih _) hgrows

/-- The restarts of a run ask for no more servers than the policy allows. -/
lemma relaunches_le_bound (h : Run s past w)
    (hhost : ∀ m ∈ past, ∀ lost, m.action ≠ .call (.restart lost)) {bound : Nat}
    (hbound : bound < 0xFFFFFFFF)
    (hallows : ∀ attempt, s.options.restart.allows attempt = true → attempt.toNat ≤ bound) :
    past.countP (·.relaunches) ≤ bound := by
  obtain ⟨hcount, hle⟩ := h.restarts_eq hhost hbound hallows
  calc past.countP (·.relaunches) ≤ w.spentRestarts := h.relaunches_le
    _ ≤ w.jobs.countP (·.isRestart) := State.spentRestarts_le
    _ = w.restarts.toNat := hcount
    _ ≤ bound := hle

/--
Restarts are begun by the session alone, since the host has no call for them. Only a report of a
lost connection fails a running session, tells the host of a loss or begins a restart, and all
reports of one connection together do each of these once at most; the report of a connection that is
not the newest changes nothing of the session. Over the whole run the restarts ask the launcher for
no server when the policy is never to restart, and else for as many at most as the policy says, as
long as that is less than the largest count there is.
-/
theorem restart_budget (h : Run s past w)
    (hhost : ∀ m ∈ past, ∀ lost, m.action ≠ .call (.restart lost)) :
    (∀ m ∈ past, m.reported? = none → m.fails = false ∧ m.losses = 0 ∧ m.scheduled = 0) ∧
    (∀ c, (reportsOf c past).countP (·.fails) ≤ 1 ∧
      (seen (reportsOf c past)).countP (·.isLoss) ≤ 1 ∧
      ((reportsOf c past).flatMap (·.begun)).countP (·.isRestart) ≤ 1) ∧
    (∀ m ∈ past, ∀ c, m.reported? = some c → m.before.isNewest c = false → m.Ignored) ∧
    (s.options.restart = .never → past.countP (·.relaunches) = 0) ∧
    ∀ max, s.options.restart = .onFailure max → max < 0xFFFFFFFF →
      past.countP (·.relaunches) ≤ max.toNat := by
  refine ⟨?_, h.reports_le_one, ?_, ?_, ?_⟩
  · intro m hm hreported
    exact h.nothing_unreported hm hreported (hhost m hm)
  · intro m hm c hreported hold
    refine (h.reported hm hreported).ignores ?_
    rintro ⟨hnewest, -⟩
    cases hold.symm.trans hnewest
  · intro hnever
    refine Nat.le_zero.mp (h.relaunches_le_bound hhost (by decide) ?_)
    intro attempt hallowed
    rw [hnever] at hallowed
    cases hallowed
  · intro max hpolicy hmax
    refine h.relaunches_le_bound hhost hmax ?_
    intro attempt hallowed
    rw [hpolicy] at hallowed
    exact UInt32.le_iff_toNat_le.mp (of_decide_eq_true hallowed)

/-- The server is lost, launched anew by the one restart there may be, and lost again. -/
theorem restart_budget_spent :
    ∃ past w, Run (.restarting 1) past w ∧ past.countP (·.fails) = 2 ∧
      past.countP (·.relaunches) = 1 ∧ past.countP (·.relaunches) ≤ (1 : UInt32).toNat ∧
      ∀ c, (reportsOf c past).countP (·.fails) ≤ 1 ∧
        (seen (reportsOf c past)).countP (·.isLoss) ≤ 1 ∧
        ((reportsOf c past).flatMap (·.begun)).countP (·.isRestart) ≤ 1 := by
  obtain ⟨past, w, hplay, hfails, hrelaunches⟩ :
      ∃ past w, State.initial.play (.restarting 1) (Action.firstStart ++ Action.lose 0 ++
          [Action.proceed 1] ++ Action.secondStart ++ Action.lose 1) = some (past, w) ∧
        past.countP (·.fails) = 2 ∧ past.countP (·.relaunches) = 1 := ⟨_, _, rfl, rfl, rfl⟩
  have hhost : ∀ m ∈ past, ∀ lost, m.action ≠ .call (.restart lost) := by
    intro m hm lost ha
    have hmem := List.mem_map_of_mem (f := Moment.action) hm
    rw [actions_of_play hplay, ha] at hmem
    simp [Action.firstStart, Action.lose, Action.secondStart] at hmem
  obtain ⟨-, honce, -, -, hbudget⟩ := (of_play hplay).restart_budget hhost
  exact ⟨past, w, of_play hplay, hfails, hrelaunches, hbudget 1 rfl (by decide), honce⟩

end Run

end LanguageClient
