import LanguageClient.Proofs.Session.Connections
import LanguageClient.Proofs.Session.Sound

/-!
# A connection is lost once

The loss of a connection may be reported twice: by its reader, and by a start that looks at the mark
after it has made the session running. A session takes notice of it once at most, since a connection
whose loss it has noticed never again is the one that it runs on: `Spent.turn`.
-/

namespace LanguageClient

/-! ### Connections on their way up -/

/-- The connection that a start is bringing up at a stage, or has failed to. -/
def Stage.raises? : Stage → Option Nat
  | .greeting c | .announcing c | .reopening c _ | .settling c | .raising c => some c
  | .testing c .handshake | .registering c .handshake | .retesting c .handshake _
  | .asking c .handshake _ | .awaiting c .handshake _ => some c
  | .discarding c (.refuse _) | .aborting c (.refuse _) => some c
  | _ => none

lemma Stage.isInside_of_raises {stage : Stage} {c : Nat} (h : stage.raises? = some c) :
    stage.isInside = true := by
  cases stage <;> first | rfl | cases h

/-- A connection that is on its way up is the live one, while the session is starting. -/
lemma Stage.Fits.of_raises {kept : Prop} {phase : Phase} {slot live : Option Nat} {stage : Stage}
    {c : Nat} (h : stage.Fits kept phase slot live) (hraises : stage.raises? = some c) :
    phase = .starting ∧ live = some c := by
  cases stage with
  | greeting | announcing | reopening | settling | raising =>
    obtain rfl := Option.some.inj hraises
    exact ⟨h.1, h.2.2⟩
  | testing _ ask | registering _ ask | retesting _ ask | asking _ ask | awaiting _ ask =>
    cases ask with
    | handshake =>
      obtain rfl := Option.some.inj hraises
      exact ⟨h.1, h.2.2⟩
    | shutdown => cases hraises
  | discarding _ next | aborting _ next =>
    cases next with
    | refuse =>
      obtain rfl := Option.some.inj hraises
      exact ⟨h.1, h.2.2⟩
    | _ => cases hraises
  | _ => cases hraises

lemma Notice.raises_settled (notice : Notice) (result : Except NotifyError Forwarded) :
    (notice.settled result).raises? = none := by
  cases notice <;> rfl

namespace State

variable {s : Setup} {w w' : State} {a : Action} {i c : Nat} {said : List Effect} {job : Job}
  {stage : Stage}

/-- Some start is bringing up connection `c`, or has failed to. -/
def Raises (w : State) (c : Nat) : Prop :=
  ∃ (i : Nat) (call : Call), w.calls[i]? = some call ∧ call.stage.raises? = some c

lemma Raises.starting (h : w.Raises c) (hsound : Sound False w) :
    w.phase = .starting ∧ Alive w.connections (some c) := by
  obtain ⟨i, ⟨job, stage⟩, hi, hraises⟩ := h
  obtain ⟨live, halive, hfits⟩ := hsound.fits_of_inside hi (Stage.isInside_of_raises hraises)
  obtain ⟨hphase, rfl⟩ := hfits.of_raises hraises
  exact ⟨hphase, halive⟩

lemma Exchange.raises {before after : Stage} {f : Connection → Connection}
    (h : Exchange s w c before f after said) : after.raises? = before.raises? := by
  cases h with
  | closedBefore ask | tested ask | registered ask | closedSince ask | retested ask | asked ask
  | unasked ask | rejected ask | forsaken ask | timedOut ask => cases ask <;> rfl
  | discarding next | undiscarded next => cases next <;> rfl
  | _ => rfl

/-- A start goes on with its connection, unless it has just got a new one. -/
lemma Advance.raises (h : Advance s w i job a stage w' said)
    (hi : w.calls[i]? = some ⟨job, stage⟩) {call : Call} (hk : w'.calls[i]? = some call)
    (hraises : call.stage.raises? = some c) :
    stage.raises? = some c ∨ c = w.connections.length := by
  cases h with
  | exchange _ hex =>
    obtain rfl := eq_of_moveCall hi hk
    rw [hex.raises] at hraises
    exact .inl hraises
  | launched =>
    obtain rfl := eq_of_moveCall hi hk
    exact .inr (Option.some.inj hraises).symm
  | settle =>
    obtain rfl := eq_of_moveCall hi hk
    exact .inl hraises
  | lose =>
    obtain rfl := eq_of_moveCall (getElem?_calls_lose hi) hk
    cases hraises
  | notifyNobody | closeNobody | sent | unsent =>
    obtain rfl := eq_of_moveCall hi hk
    rw [Notice.raises_settled] at hraises
    cases hraises
  | _ =>
    obtain rfl := eq_of_moveCall hi hk
    cases hraises

lemma Turn.raises (h : Turn s w a w' said) (hraises : w'.Raises c) :
    w.Raises c ∨ c = w.connections.length := by
  obtain ⟨i, call, hi, hraises⟩ := hraises
  rcases h.of_call hi with hold | hstage | hstage | ⟨stage, hold, hadv⟩
  · exact .inl ⟨i, call, hold, hraises⟩
  · rw [hstage] at hraises
    cases hraises
  · rw [hstage] at hraises
    cases hraises
  · rcases hadv.raises hold hi hraises with hbefore | hnew
    · exact .inl ⟨i, _, hold, hbefore⟩
    · exact .inr hnew

/-- Only a start makes a session running, and with the connection that it has brought up. -/
lemma Advance.running (h : Advance s w i job a stage w' said) (hrunning : w'.phase = .running) :
    w.phase = .running ∨ ∃ c, stage = .raising c := by
  cases h with
  | launch | stop | stopNobody | launchFailed | conclude | relaunch | refuse => cases hrunning
  | raise c => exact .inr ⟨c, rfl⟩
  | @lose _ k =>
    by_cases hheeds : w.Heeds k
    · cases (phase_lose_of_heeds s w k .processExited hheeds).symm.trans hrunning
    · rw [lose_of_not_heeds s w k _ hheeds] at hrunning
      exact .inl hrunning
  | _ => exact .inl hrunning

/-- The phase is changed by calls, and by the report of a loss. -/
lemma Turn.phase_cases (h : Turn s w a w' said) :
    w'.phase = w.phase ∨
      (w.phase = .running ∧ ∃ failure, w'.phase = .failed (.runtime failure)) ∨
      ∃ i job stage, w.calls[i]? = some ⟨job, stage⟩ ∧ Advance s w i job a stage w' said := by
  cases h with
  | drop =>
    refine .inl ?_
    unfold State.drop
    split <;> rfl
  | advance hi hadv => exact .inr (.inr ⟨_, _, _, hi, hadv⟩)
  | publish =>
    rw [emit_fst]
    exact .inl rfl
  | @report k _ failure =>
    by_cases hheeds : (w.modifyConnection k Connection.endReader).Heeds k
    · exact .inr (.inl ⟨hheeds.2, failure, phase_lose_of_heeds s _ k failure hheeds⟩)
    · rw [lose_of_not_heeds s _ k failure hheeds]
      exact .inl rfl
  | _ => exact .inl rfl

lemma Turn.running (h : Turn s w a w' said) (hrunning : w'.phase = .running) :
    w.phase = .running ∨ ∃ c, w.Raises c := by
  rcases h.phase_cases with hsame | ⟨-, failure, hfailed⟩ | ⟨i, job, stage, hi, hadv⟩
  · exact .inl (hsame.symm.trans hrunning)
  · cases hfailed.symm.trans hrunning
  · rcases hadv.running hrunning with hbefore | ⟨c, rfl⟩
    · exact .inl hbefore
    · exact .inr ⟨c, i, _, hi, rfl⟩

/-! ### Connections that are spent -/

/-- A start brings up the newest connection. -/
lemma Raises.isNewest (h : w.Raises c) (hsound : Sound False w) : w.isNewest c = true := by
  obtain ⟨-, halive⟩ := h.starting hsound
  exact isNewest_iff.mpr (halive.newest rfl)

/-- The newest connection was so before. -/
lemma Turn.isNewest (h : Turn s w a w' said) (hc : c < w.connections.length)
    (hnewest : w'.isNewest c = true) : w.isNewest c = true := by
  rw [isNewest_iff] at hnewest ⊢
  have hlength := h.length_le
  omega

/-- The session does not run on connection `c`, and no start is going to make it. -/
structure Spent (w : State) (c : Nat) : Prop where
  made : c < w.connections.length
  unused : w.isNewest c = true → w.phase ≠ .running ∧ ¬w.Raises c

namespace Spent

lemma not_heeds (h : w.Spent c) : ¬w.Heeds c := by
  rintro ⟨hnewest, hrunning⟩
  exact (h.unused hnewest).1 hrunning

/-- While a spent connection is the newest, no start brings up any. -/
lemma not_raises (h : w.Spent c) (hsound : Sound False w) (hnewest : w.isNewest c = true)
    (k : Nat) : ¬w.Raises k := by
  intro hraises
  have hlast := hraises.isNewest hsound
  rw [isNewest_iff] at hnewest hlast
  obtain rfl : k = c := by omega
  exact (h.unused (isNewest_iff.mpr hnewest)).2 hraises

theorem turn (h : w.Spent c) (hsound : Sound False w) (hturn : Turn s w a w' said) :
    w'.Spent c := by
  refine ⟨Nat.lt_of_lt_of_le h.made hturn.length_le, ?_⟩
  intro hnewest
  have hbefore := hturn.isNewest h.made hnewest
  obtain ⟨hstill, hnobody⟩ := h.unused hbefore
  constructor
  · intro hrunning
    rcases hturn.running hrunning with hwas | ⟨k, hraises⟩
    · exact hstill hwas
    · exact h.not_raises hsound hbefore k hraises
  · intro hraises
    rcases hturn.raises hraises with hwas | rfl
    · exact hnobody hwas
    · exact absurd h.made (Nat.lt_irrefl _)

/-- Once its loss has been noticed, a connection is spent. -/
lemma of_heeds (hheeds : w.Heeds c) (hsound : Sound False w) (hturn : Turn s w a w' said)
    (hphase : w'.phase ≠ .running) : w'.Spent c := by
  have hmade : c < w.connections.length := by
    have hlast := isNewest_iff.mp hheeds.1
    omega
  refine ⟨Nat.lt_of_lt_of_le hmade hturn.length_le, fun _ => ⟨hphase, ?_⟩⟩
  intro hraises
  rcases hturn.raises hraises with hwas | rfl
  · obtain ⟨hstarting, -⟩ := hwas.starting hsound
    cases hheeds.2.symm.trans hstarting
  · exact absurd hmade (Nat.lt_irrefl _)

end Spent

/-! ### Reports -/

/-- The connection of which a reader reports the loss in an action, or a start that finds it
closed. -/
def reports? (w : State) : Action → Option Nat
  | .read c =>
    match (w.connections[c]?).map Connection.reader with
    | some (.reporting _) => some c
    | _ => none
  | .proceed i =>
    match (w.calls[i]?).map Call.stage with
    | some (.verifying c) => if w.isClosed c then some c else none
    | _ => none
  | _ => none

/-- The jobs of all calls there have been. -/
def jobs (w : State) : List Job := w.calls.map (·.job)

lemma jobs_moveCall (calls : List Call) (i : Nat) (after : Stage) :
    (moveCall calls i after).map (·.job) = calls.map (·.job) := by
  refine List.ext_getElem? fun k => ?_
  rw [List.getElem?_map, List.getElem?_map, moveCall, List.getElem?_modify]
  cases calls[k]? with
  | none => rfl
  | some call => split <;> rfl

lemma of_reports (h : w.reports? a = some c) :
    (a = .read c ∧ ∃ conn failure, w.connections[c]? = some conn ∧
      conn.reader = .reporting failure) ∨
    ∃ i job, a = .proceed i ∧ w.calls[i]? = some ⟨job, .verifying c⟩ ∧ w.isClosed c = true := by
  unfold reports? at h
  split at h
  case h_1 k =>
    split at h
    case h_1 failure hreader =>
      obtain rfl := Option.some.inj h
      obtain ⟨conn, hc, hreader⟩ := Option.map_eq_some_iff.mp hreader
      exact .inl ⟨rfl, conn, failure, hc, hreader⟩
    case h_2 => cases h
  case h_2 i =>
    split at h
    case h_1 k hstage =>
      split at h
      case isTrue hclosed =>
        obtain rfl := Option.some.inj h
        obtain ⟨⟨job, stage⟩, hi, rfl⟩ := Option.map_eq_some_iff.mp hstage
        exact .inr ⟨i, job, rfl, hi, hclosed⟩
      case isFalse => cases h
    case h_2 => cases h
  case h_3 => cases h

/-- What a report of the loss of connection `c` comes to: nothing, or a failure, an event and
perhaps a restart. -/
inductive Reported (s : Setup) (w : State) (c : Nat) (w' : State) (said : List Effect) : Prop
  | ignored : ¬w.Heeds c →
      w' = { w with connections := w'.connections, calls := w'.calls } → w'.jobs = w.jobs →
      said = [] → Reported s w c w' said
  | heeded (failure : RuntimeFailure) (kept : Bool) : w.Heeds c →
      w'.phase = .failed (.runtime failure) → said = [.emitted (.connectionLost failure) kept] →
      (s.options.restart.allows (w.restarts + 1) = true ∧ w'.restarts = w.restarts + 1 ∧
          w'.jobs = w.jobs ++ [.restart c] ∨
        w'.restarts = w.restarts ∧ w'.jobs = w.jobs) → Reported s w c w' said

lemma reported_lose (s : Setup) (w : State) (c : Nat) (failure : RuntimeFailure) :
    Reported s w c (w.lose s c failure).1 (news (w.lose s c failure).2) := by
  by_cases hheeds : w.Heeds c
  · obtain ⟨hafter, hsaid⟩ := lose_of_heeds s w c failure hheeds
    refine .heeded failure _ hheeds (phase_lose_of_heeds s w c failure hheeds) hsaid ?_
    rw [hafter, emit_fst]
    dsimp only
    split
    case isTrue hallows =>
      refine .inl ⟨hallows, rfl, ?_⟩
      simp [jobs, begin]
    case isFalse => exact .inr ⟨rfl, rfl⟩
  · rw [lose_of_not_heeds s w c failure hheeds]
    exact .ignored hheeds rfl rfl rfl

/-- The end of its reader is nothing to the report of a loss. -/
lemma Reported.of_modifyConnection {k : Nat} {f : Connection → Connection}
    (h : Reported s (w.modifyConnection k f) c w' said) : Reported s w c w' said := by
  cases h with
  | ignored hheeds hsame hjobs hsaid =>
    rw [heeds_modifyConnection] at hheeds
    exact .ignored hheeds hsame hjobs hsaid
  | heeded failure kept hheeds hphase hsaid hrestart =>
    rw [heeds_modifyConnection] at hheeds
    exact .heeded failure kept hheeds hphase hsaid hrestart

/-- Nor is the end of the start that makes it. -/
lemma Reported.setStage (h : Reported s w c w' said) (i : Nat) (after : Stage) :
    Reported s w c (w'.setStage i after) said := by
  have hmoved : (w'.setStage i after).jobs = w'.jobs := jobs_moveCall w'.calls i after
  cases h with
  | ignored hheeds hsame hjobs hsaid =>
    refine .ignored hheeds ?_ (hmoved.trans hjobs) hsaid
    rw [hsame]
    rfl
  | heeded failure kept hheeds hphase hsaid hrestart =>
    refine .heeded failure kept hheeds hphase hsaid ?_
    rw [hmoved]
    exact hrestart

theorem Turn.reported (h : Turn s w a w' said) (hreports : w.reports? a = some c) :
    Reported s w c w' said := by
  rcases of_reports hreports with ⟨rfl, conn, failure, hc, hreader⟩ | ⟨i, job, rfl, hi, hclosed⟩
  · cases h with
    | advance _ hadv => cases hadv.caller
    | deed hc' hdeed =>
      cases hdeed with
      | reply hother | forgo hother | close hother | clear hother =>
        obtain rfl := Option.some.inj (hc.symm.trans hc')
        rw [hreader] at hother
        cases hother
    | report hc' hother => exact (reported_lose s _ c _).of_modifyConnection
  · obtain ⟨job', stage, hi', hadv⟩ := h.of_caller rfl
    cases Option.some.inj (hi.symm.trans hi')
    cases hadv with
    | exchange _ hex => cases hex
    | refused _ _ hstage => rcases hstage with hstage | ⟨hstage, -⟩ <;> cases hstage
    | lose => exact (reported_lose s w c .processExited).setStage i _
    | verify hopen =>
      rw [hopen] at hclosed
      cases hclosed

end State

/-! ### Moments without a report -/

/-- Whether a session in a phase has lost its connection. -/
def Phase.isLost : Phase → Bool
  | .failed (.runtime _) => true
  | _ => false

/-- Whether an effect tells the host of a loss. -/
def Effect.isLoss : Effect → Bool
  | .emitted (.connectionLost _) _ => true
  | _ => false

namespace State

variable {s : Setup} {w w' : State} {a : Action} {i c : Nat} {said : List Effect} {job : Job}
  {stage : Stage}

/-- What a turn without a report leaves alone. -/
structure Unreported (w : State) (a : Action) (w' : State) (said : List Effect) : Prop where
  phase : w'.phase.isLost = true → w.phase.isLost = true
  said : said.countP (·.isLoss) = 0
  restarts : w'.restarts = w.restarts
  jobs : w'.jobs = w.jobs ∨
    ∃ job, (a = .call job ∨ a = .activate ∧ job = .start) ∧ w'.jobs = w.jobs ++ [job]

lemma Advance.unreported (h : Advance s w i job a stage w' said)
    (hi : w.calls[i]? = some ⟨job, stage⟩) (hreports : w.reports? a = none) :
    Unreported w a w' said := by
  have hmoved (after : Stage) : (moveCall w.calls i after).map (·.job) = w.jobs :=
    jobs_moveCall w.calls i after
  cases h with
  | exchange _ hex =>
    refine ⟨id, ?_, rfl, .inl (hmoved _)⟩
    cases hex <;> rfl
  | lose hclosed => simp [reports?, hi, hclosed] at hreports
  | launch | stop | stopNobody | launchFailed | raise | conclude | relaunch | refuse =>
    exact ⟨nofun, rfl, rfl, .inl (hmoved _)⟩
  | _ => exact ⟨id, rfl, rfl, .inl (hmoved _)⟩

theorem Turn.unreported (h : Turn s w a w' said) (hreports : w.reports? a = none) :
    Unreported w a w' said := by
  cases h with
  | call job => exact ⟨id, rfl, rfl, .inr ⟨job, .inl rfl, by simp [State.jobs, begin]⟩⟩
  | activate => exact ⟨id, rfl, rfl, .inr ⟨.start, .inr ⟨rfl, rfl⟩, by simp [State.jobs, begin]⟩⟩
  | @drop i call =>
    have hmoved : (moveCall w.calls i .dropped).map (·.job) = w.jobs := jobs_moveCall ..
    unfold State.drop
    split <;> exact ⟨id, rfl, rfl, .inl hmoved⟩
  | advance hi hadv => exact hadv.unreported hi hreports
  | deed _ hdeed =>
    refine ⟨id, ?_, rfl, .inl rfl⟩
    cases hdeed with
    | @write _ written => cases written <;> rfl
    | _ => rfl
  | publish =>
    rw [emit_fst]
    exact ⟨id, rfl, rfl, .inl rfl⟩
  | report hc hreader => simp [reports?, hc, hreader] at hreports
  | _ => exact ⟨id, rfl, rfl, .inl rfl⟩

end State

end LanguageClient
