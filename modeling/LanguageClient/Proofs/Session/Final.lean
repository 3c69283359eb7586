import LanguageClient.Proofs.Session.Connections
import LanguageClient.Proofs.Session.Servers

/-!
# A stop is final

A stop that has found something to stop leaves the session stopped, its slot, its events and its
diagnostics empty, and so they stay until the host starts the session again: `Run.stop_is_final`.
Nobody uses the lock by then for more than a look at the phase, and the readers of all connections
have ended. A reader whose start or stop was given up half way has not: it was never told.
-/

namespace LanguageClient

/-- Call `i` with its job takes its first step with the lock. -/
def Moment.enters (m : Moment) (i : Nat) (job : Job) : Prop :=
  m.action = .proceed i ∧ m.before.line.head? = some i ∧
    m.before.calls[i]? = some ⟨job, .waiting⟩

namespace Connection

variable {conn conn' : Connection}

/-- A reader that has ended does not begin again. -/
lemma Deed.still_ended {c : Nat} {a : Action} {said : List Effect} (h : conn.Deed c a conn' said)
    (hended : conn.reader.hasEnded = true) : conn'.reader.hasEnded = true := by
  cases h with
  | write hstep =>
    rw [stepWriter_eq hstep]
    exact hended
  | drained | broken | respond => exact hended
  | reply hreader | forgo hreader | close hreader | clear hreader | request hreader | ended hreader
  | fault _ hreader =>
    rw [hreader] at hended
    cases hended

lemma Change.still_ended (h : conn.Change conn') (hended : conn.reader.hasEnded = true) :
    conn'.reader.hasEnded = true := by
  cases h with
  | deed hdeed => exact hdeed.still_ended hended
  | reap | abort | report => rfl
  | _ => exact hended

end Connection

namespace State

variable {s : Setup} {w w' : State} {a : Action} {i c : Nat} {said : List Effect} {job job' : Job}
  {stage : Stage} {conn conn' : Connection}

/-! ### Connections that are let go -/

/-- The reader of a connection that nobody holds has ended. -/
def Hushed (w : State) : Prop :=
  ∀ (c : Nat) (conn : Connection), w.connections[c]? = some conn → conn.held = false →
    conn.reader.hasEnded = true

/-- A connection is let go with its reader ended, unless a call that has it is given up. -/
lemma Touch.hasEnded (h : Touch s w a said c conn conn')
    (hkept : ∀ call, w.Interrupts a call → call.stage.owned? = none)
    (hheld : conn.held = true) (hlost : conn'.held = false) : conn'.reader.hasEnded = true := by
  cases h with
  | same => simp [hheld] at hlost
  | deed hdeed =>
    rw [hdeed.held, hheld] at hlost
    cases hlost
  | exchange _ _ hex =>
    rw [hex.held, hheld] at hlost
    cases hlost
  | notice =>
    have hlost : conn.held = false := hlost
    rw [hheld] at hlost
    cases hlost
  | reap | abort | report => rfl
  | letGo ha hi howned =>
    have hnone := hkept _ ⟨_, ha, hi, Stage.isInside_of_owned howned⟩
    rw [howned] at hnone
    cases hnone

lemma Hushed.turn (h : Hushed w) (hturn : Turn s w a w' said)
    (hkept : ∀ call, w.Interrupts a call → call.stage.owned? = none) : Hushed w' := by
  intro c conn' hc' hlost
  obtain ⟨conn, hc, hchange⟩ | ⟨-, room, rfl⟩ := hturn.came hc'
  · cases hheld : conn.held with
    | true => exact (hturn.touch hc hc').hasEnded hkept hheld hlost
    | false =>
      have hended := h c conn hc hheld
      rcases hchange with rfl | hchange
      · exact hended
      · exact hchange.still_ended hended
  · cases hlost

/-! ### A session that is over -/

/-- The session is stopped, and nobody is about to change that. -/
structure Over (w : State) : Prop where
  phase : w.phase = .stopped
  slot : w.slot = none
  outside : ∀ {i : Nat} {call : Call}, w.calls[i]? = some call → call.stage.isInside = false

namespace Over

lemma move (h : Over w) (hi : w.calls[i]? = some ⟨job, stage⟩) {after : Stage}
    (hafter : after.isInside = false) (hcalls : w'.calls = moveCall w.calls i after)
    (hphase : w'.phase = w.phase) (hslot : w'.slot = w.slot) : Over w' where
  phase := hphase.trans h.phase
  slot := hslot.trans h.slot
  outside {k call} hk := by
    rw [hcalls] at hk
    rcases eq_or_ne i k with rfl | hne
    · rw [getElem?_moveCall_self _ hi] at hk
      obtain rfl := Option.some.inj hk
      exact hafter
    · rw [getElem?_moveCall_ne _ _ hne] at hk
      exact h.outside hk

lemma begin (h : Over w) (job : Job) : Over (w.begin job) where
  phase := h.phase
  slot := h.slot
  outside hk := by
    rcases of_getElem?_append_call hk with hk | rfl
    · exact h.outside hk
    · rfl

lemma not_heeds (h : Over w) (c : Nat) : ¬w.Heeds c := by
  rintro ⟨-, hrunning⟩
  rw [h.phase] at hrunning
  cases hrunning

lemma not_mayLaunch (h : Over w) (hjob : job ≠ .start) : ¬w.MayLaunch job := by
  intro hmay
  cases job with
  | start => exact hjob rfl
  | restart lost =>
    have hfailed := hmay.2
    rw [h.phase] at hfailed
    cases hfailed
  | _ => exact hmay

/-- A call that is not a start of the host finds nothing to do. -/
lemma advance (h : Over w) (hi : w.calls[i]? = some ⟨job, stage⟩)
    (hadv : Advance s w i job a stage w' said)
    (hstart : a = .proceed i → w.line.head? = some i → stage = .waiting → job ≠ .start) :
    Over w' ∧ a.isLaunch = false ∧ w'.connections = w.connections ∧
      (w'.events = w.events ∧ (w'.store = w.store ∨ ∃ uri, w'.store = w.store.forget uri)) := by
  have hout : stage.isInside = false := h.outside hi
  have hnot {P : Prop} (hrunning : w.phase.isRunning = true) : P := by
    rw [h.phase] at hrunning
    cases hrunning
  cases hadv with
  | exchange _ hex =>
    rw [hex.inside.1] at hout
    cases hout
  | outOfScope | told | enlist | join | joinFirst | deactivate | joined | heard | superseded
  | stopIgnored | refused =>
    exact ⟨h.move hi rfl rfl rfl rfl, rfl, rfl, rfl, .inl rfl⟩
  | forget uri => exact ⟨h.move hi rfl rfl rfl rfl, rfl, rfl, rfl, .inr ⟨uri, rfl⟩⟩
  | ignored hhead => exact absurd rfl (hstart rfl hhead rfl)
  | vacate hhead hmay | launch hhead hmay =>
    exact absurd hmay (h.not_mayLaunch (hstart rfl hhead rfl))
  | notify _ hrunning | notifyNobody _ hrunning | notOpen _ hrunning | notifyClosed _ hrunning
  | closeNobody _ hrunning => exact hnot hrunning
  | stop _ _ _ hstopped | stopNobody _ _ _ hstopped => exact absurd h.phase hstopped
  | _ => cases hout

/-- What a turn does to the host's side of a session that is over. -/
lemma turn (h : Over w) (hturn : Turn s w a w' said)
    (hstart : ∀ i, a = .proceed i → w.line.head? = some i →
      w.calls[i]? ≠ some ⟨.start, .waiting⟩) : Over w' ∧ a.isLaunch = false := by
  cases hturn with
  | call job => exact ⟨h.begin job, rfl⟩
  | activate =>
    have hbegun := h.begin .start
    exact ⟨⟨hbegun.phase, hbegun.slot, hbegun.outside⟩, rfl⟩
  | poll | overlook => exact ⟨⟨h.phase, h.slot, h.outside⟩, rfl⟩
  | @drop i call hi =>
    have hnone : call.stage.owned? = none := Stage.owned?_eq_none (h.outside hi)
    rw [drop_of_not_owned hnone]
    exact ⟨h.move hi rfl rfl rfl rfl, rfl⟩
  | @advance _ i job stage _ _ hi hadv =>
    have hjob : a = .proceed i → w.line.head? = some i → stage = .waiting → job ≠ .start := by
      rintro ha hhead rfl rfl
      exact hstart i ha hhead hi
    obtain ⟨hover, hlaunch, -⟩ := h.advance hi hadv hjob
    exact ⟨hover, hlaunch⟩
  | deed _ hdeed =>
    have hquiet : a.isLaunch = false := by cases hdeed <;> rfl
    exact ⟨⟨h.phase, h.slot, h.outside⟩, hquiet⟩
  | publish =>
    rw [emit_fst]
    exact ⟨⟨h.phase, h.slot, h.outside⟩, rfl⟩
  | @report c =>
    have hended : ¬(w.modifyConnection c Connection.endReader).Heeds c := by
      rw [heeds_modifyConnection]
      exact h.not_heeds c
    rw [lose_of_not_heeds _ _ _ _ hended]
    exact ⟨⟨h.phase, h.slot, h.outside⟩, rfl⟩

end Over

/-- The host has nothing to take from the session, and no reader is left to change that. -/
structure Silent (w : State) : Prop where
  events : w.events = []
  store : w.store = .empty
  readers : ∀ {c : Nat} {conn : Connection}, w.connections[c]? = some conn →
    conn.reader.hasEnded = true

namespace Silent

lemma poll_eq (h : Silent w) (budget : Nat) : w.poll budget = (w, []) := by
  have hevents := h.events
  cases w
  simp_all [State.poll]

lemma turn (h : Silent w) (hover : Over w) (hturn : Turn s w a w' said)
    (hstart : ∀ i, a = .proceed i → w.line.head? = some i →
      w.calls[i]? ≠ some ⟨.start, .waiting⟩) : Silent w' := by
  have hreading {c : Nat} {conn : Connection} {P : Prop} (hc : w.connections[c]? = some conn)
      (hgoes : conn.reader.hasEnded = false) : P := by
    rw [h.readers hc] at hgoes
    cases hgoes
  have hreaders : ∀ {c : Nat} {conn : Connection}, w'.connections[c]? = some conn →
      w'.connections.length = w.connections.length → conn.reader.hasEnded = true := by
    intro c conn' hc' hlength
    obtain ⟨conn, hc, rfl | hchange⟩ | ⟨rfl, -⟩ := hturn.came hc'
    · exact h.readers hc
    · exact hchange.still_ended (h.readers hc)
    · have hlt := (List.getElem?_eq_some_iff.mp hc').1
      omega
  cases hturn with
  | call | activate | overlook => exact ⟨h.events, h.store, h.readers⟩
  | poll budget =>
    rw [h.poll_eq]
    exact h
  | @drop i call hi =>
    have hnone : call.stage.owned? = none := Stage.owned?_eq_none (hover.outside hi)
    rw [drop_of_not_owned hnone]
    exact ⟨h.events, h.store, h.readers⟩
  | @advance _ i job stage _ _ hi hadv =>
    have hjob : a = .proceed i → w.line.head? = some i → stage = .waiting → job ≠ .start := by
      rintro ha hhead rfl rfl
      exact hstart i ha hhead hi
    obtain ⟨-, -, hconns, hevents, hstore⟩ := hover.advance hi hadv hjob
    refine ⟨hevents.trans h.events, ?_, ?_⟩
    · rcases hstore with hstore | ⟨uri, hstore⟩
      · exact hstore.trans h.store
      · rw [hstore, h.store]
        rfl
    · intro c conn hc
      rw [hconns] at hc
      exact h.readers hc
  | deed => exact ⟨h.events, h.store, fun hc => hreaders hc (List.length_modify ..)⟩
  | publish hc hreader => exact hreading hc (by rw [hreader]; rfl)
  | report hc hreader => exact hreading hc (by rw [hreader]; rfl)

end Silent

/-! ### A stop on its way -/

/-- What becomes of a call in a turn: nothing, or it is given up, or it goes on. -/
lemma Turn.call_cases (h : Turn s w a w' said) {call : Call} (hi : w.calls[i]? = some call) :
    w'.calls[i]? = some call ∨ w'.calls[i]? = some { call with stage := .dropped } ∨
      Advance s w i call.job a call.stage w' said := by
  cases h with
  | call | activate => exact .inl (getElem?_append_call _ hi)
  | @drop k dropped hk =>
    have hcalls : (w.drop k dropped).1.calls = moveCall w.calls k .dropped := by
      unfold State.drop
      split <;> rfl
    rw [hcalls]
    rcases eq_or_ne k i with rfl | hne
    · exact .inr (.inl (getElem?_moveCall_self _ hi))
    · exact .inl ((getElem?_moveCall_ne _ _ hne).trans hi)
  | @advance _ k _ _ _ _ hk hadv =>
    rcases eq_or_ne k i with rfl | hne
    · obtain rfl := Option.some.inj (hk.symm.trans hi)
      exact .inr (.inr hadv)
    · exact .inl (hadv.other hi hne)
  | publish =>
    rw [emit_fst]
    exact .inl hi
  | report => exact .inl (getElem?_calls_lose hi)
  | _ => exact .inl hi

/-- A call that has ended goes no further. -/
lemma Advance.not_ended (h : Advance s w i job a stage w' said) : stage.hasEnded = false := by
  cases h with
  | exchange _ hex => cases hex <;> rfl
  | refused _ _ hstage => rcases hstage with rfl | ⟨rfl, -⟩ <;> rfl
  | _ => rfl

/-- A stop with the lock that finds something to stop has begun to use the lock. -/
lemma Advance.enters_stop (h : Advance s w i job a .waiting w' said)
    (hi : w.calls[i]? = some ⟨job, .waiting⟩) (hjob : job.isStop = true)
    (hcreated : w.phase ≠ .created) (hstopped : w.phase ≠ .stopped) :
    ∃ stage, w'.calls[i]? = some ⟨job, stage⟩ ∧ stage.isInside = true := by
  cases h with
  | exchange _ hex => cases hex
  | refused _ hdoc => cases job <;> simp [Job.isStop, Job.document?] at hjob hdoc
  | vacate _ hmay | launch _ hmay => cases job <;> first | exact hmay.elim | cases hjob
  | stopIgnored _ _ hphase => exact (hphase.elim hcreated hstopped).elim
  | stop | stopNobody => exact ⟨_, getElem?_moveCall_self _ hi, rfl⟩
  | _ => cases hjob

/-- A stop that uses the lock goes on using it until it ends. -/
lemma Advance.stays_inside (h : Advance s w i job a stage w' said)
    (hi : w.calls[i]? = some ⟨job, stage⟩) (hsuits : job.suits stage = true)
    (hjob : job.isStopping = true) (hin : stage.isInside = true) :
    ∃ after, w'.calls[i]? = some ⟨job, after⟩ ∧
      (after.isInside = true ∨ after.hasEnded = true) := by
  have hstart : job.isStart = false := by cases job <;> first | rfl | cases hjob
  have hnotice : job.document? = none := by cases job <;> first | rfl | cases hjob
  cases h with
  | exchange _ hex => exact ⟨_, getElem?_moveCall_self _ hi, .inl hex.inside.2⟩
  | reaped | conclude | aborted => exact ⟨_, getElem?_moveCall_self _ hi, .inl rfl⟩
  | purge | launchFailed | leave | refuse => exact ⟨_, getElem?_moveCall_self _ hi, .inr rfl⟩
  | launched | settle | raise | verify | relaunch =>
    exact ⟨_, getElem?_moveCall_self _ hi, .inl rfl⟩
  | lose => exact ⟨_, getElem?_moveCall_self _ (getElem?_calls_lose hi), .inl rfl⟩
  | sent | unsent =>
    have hsome : job.document?.isSome = true := hsuits
    rw [hnotice] at hsome
    cases hsome
  | refused _ hdoc =>
    rw [hnotice] at hdoc
    cases hdoc
  | _ => cases hin

/-- The last step of a stop that uses the lock. -/
lemma Sound.advance_purge (h : Sound False w) (hi : w.calls[i]? = some ⟨job, stage⟩)
    (hadv : Advance s w i job a stage w' said) (hin : stage.isInside = true)
    {result : Except StopError Unit} (hdone : w'.calls[i]? = some ⟨job', .done (.stop result)⟩) :
    stage = .purging result ∧
      w' = { w with events := [], store := .empty }.finish i (.stop result) := by
  cases hadv with
  | exchange _ hex =>
    have hinside := hex.inside.2
    rw [← stage_of_moveCall hi hdone] at hinside
    cases hinside
  | purge =>
    obtain ⟨⟩ := stage_of_moveCall hi hdone
    exact ⟨rfl, rfl⟩
  | leave outcome =>
    obtain ⟨live, -, rfl, -⟩ := h.fits_of_inside hi rfl
    cases stage_of_moveCall hi hdone
  | lose => cases stage_of_moveCall (getElem?_calls_lose hi) hdone
  | sent notice | unsent notice =>
    have hsettled := stage_of_moveCall hi hdone
    cases notice <;> cases hsettled
  | refused _ _ hstage =>
    rcases hstage with rfl | ⟨rfl, -⟩ <;> cases hin
  | launchFailed | launched | settle | raise | verify | reaped | conclude | relaunch | refuse
  | aborted => cases stage_of_moveCall hi hdone
  | _ => cases hin

/-- With that step the session is over. -/
lemma Sound.over_of_purge (h : Sound False w) {result : Except StopError Unit}
    (hi : w.calls[i]? = some ⟨job, .purging result⟩) :
    Over ({ w with events := [], store := .empty }.finish i (.stop result)) := by
  obtain ⟨live, -, hphase, hslot, -⟩ := h.fits_of_inside hi rfl
  refine ⟨hphase, hslot, ?_⟩
  intro k call hk
  rcases eq_or_ne i k with rfl | hne
  · obtain rfl := Option.some.inj ((getElem?_moveCall_self _ hi).symm.trans hk)
    rfl
  · have hold : w.calls[k]? = some call := (getElem?_moveCall_ne _ _ hne).symm.trans hk
    by_contra hin
    exact hne (h.eq_of_inside hi rfl hold (by simpa using hin))

/-- And with the readers ended of all connections that were let go, it is silent. -/
lemma Sound.silent_of_purge (h : Sound False w) (hhushed : Hushed w)
    {result : Except StopError Unit} (hi : w.calls[i]? = some ⟨job, .purging result⟩) :
    Silent ({ w with events := [], store := .empty }.finish i (.stop result)) := by
  obtain ⟨live, halive, -, -, rfl⟩ := h.fits_of_inside hi rfl
  refine ⟨rfl, rfl, ?_⟩
  intro c conn hc
  refine hhushed c conn hc ?_
  by_contra hheld
  have hlive := (halive.held_iff hc).mp (by simpa using hheld)
  cases hlive

end State

namespace Run

variable {s : Setup} {past earlier between later : List Moment} {enter leave : Moment} {w : State}
  {i : Nat} {job : Job}

/-- Readers end before their connections are let go, as long as no call that has a connection to
itself is given up. -/
theorem hushed (h : Run s past w)
    (hkept : ∀ m ∈ past, ∀ call, m.interrupts call → call.stage.owned? = none) : w.Hushed := by
  induction h with
  | initial =>
    intro c conn hc
    simp [State.initial] at hc
  | step a _ hstep ih =>
    have hlast := hkept _ (List.mem_append_right _ (List.mem_singleton_self _))
    exact (ih fun m hm => hkept m (List.mem_append_left _ hm)).turn (.of_step hstep) hlast

/-- A stop that has found something to stop uses the lock until it ends. -/
lemma stopping (h : Run s (earlier ++ enter :: between) w) (henter : enter.enters i job)
    (hjob : job.isStop = true) (hcreated : enter.before.phase ≠ .created)
    (hstopped : enter.before.phase ≠ .stopped) :
    job.isStopping = true ∧ ∃ stage, w.calls[i]? = some ⟨job, stage⟩ ∧
      (stage.isInside = true ∨ stage.hasEnded = true) := by
  induction between using List.reverseRecOn generalizing w with
  | nil =>
    obtain ⟨ha, -, hi⟩ := henter
    obtain ⟨hrun, hstep, rfl⟩ := h.of_concat
    have hsound : State.Sound False _ := hrun.sound nofun
    have hsuits : job.suits .waiting = true := hsound.suited hi
    have hcaller : enter.action.caller? = some i := by rw [ha]; rfl
    obtain ⟨job', stage', hi', hadv⟩ := (State.Turn.of_step hstep).of_caller hcaller
    obtain ⟨rfl, rfl⟩ := Call.mk.inj (Option.some.inj (hi.symm.trans hi'))
    obtain ⟨stage, hstage, hin⟩ := hadv.enters_stop hi hjob hcreated hstopped
    exact ⟨State.isStopping_of_isStop hsuits hjob, stage, hstage, .inl hin⟩
  | append_singleton rest last ih =>
    rw [← List.cons_append, ← List.append_assoc] at h
    obtain ⟨hrun, hstep, rfl⟩ := h.of_concat
    obtain ⟨hstopping, stage, hi, hstage⟩ := ih hrun
    have hsound : State.Sound False last.before := hrun.sound nofun
    refine ⟨hstopping, ?_⟩
    rcases (State.Turn.of_step hstep).call_cases hi with hsame | hdropped | hadv
    · exact ⟨stage, hsame, hstage⟩
    · exact ⟨.dropped, hdropped, .inr rfl⟩
    · rcases hstage with hin | hended
      · exact hadv.stays_inside hi (hsound.suited hi) hstopping hin
      · have hgoes : stage.hasEnded = false := hadv.not_ended
        rw [hended] at hgoes
        cases hgoes

/-- What is so when a session is over is kept by each turn until a start of the host gets the
lock. -/
lemma after_over {P : State → Prop} (h : Run s (past ++ leave :: later) w)
    (hstart : ∀ m ∈ later, ∀ k, ¬m.enters k .start) (hleave : P leave.after)
    (hturn : ∀ {w w' : State} {a : Action} {said : List Effect}, P w → State.Turn s w a w' said →
      (∀ k, a = .proceed k → w.line.head? = some k → w.calls[k]? ≠ some ⟨.start, .waiting⟩) →
      P w') : P w := by
  refine h.induction_from hleave ?_
  intro m hm _ _ hstep hbefore
  refine hturn hbefore (.of_step hstep) ?_
  intro k ha hhead hk
  exact hstart m hm k ⟨ha, hhead, hk⟩

/-- What is so when a session is over is so before each later moment. -/
lemma before_over (P : State → Prop) (h : Run s (past ++ leave :: later) w)
    (hstart : ∀ m ∈ later, ∀ k, ¬m.enters k .start) (hleave : P leave.after)
    (hturn : ∀ {w w' : State} {a : Action} {said : List Effect}, P w → State.Turn s w a w' said →
      (∀ k, a = .proceed k → w.line.head? = some k → w.calls[k]? ≠ some ⟨.start, .waiting⟩) →
      P w') {m : Moment} (hm : m ∈ later) :
    P m.before ∧ State.Turn s m.before m.action m.after (news m.said) ∧
      ∀ k, m.action = .proceed k → m.before.line.head? = some k →
        m.before.calls[k]? ≠ some ⟨.start, .waiting⟩ := by
  have hquiet := hstart m hm
  obtain ⟨first, last, rfl⟩ := List.mem_iff_append.mp hm
  rw [← List.cons_append, ← List.append_assoc] at h
  obtain ⟨hbefore, hstep⟩ := h.of_split
  have hfirst : ∀ m ∈ first, ∀ k, ¬m.enters k .start := fun m hm =>
    hstart m (List.mem_append_left _ hm)
  refine ⟨hbefore.after_over hfirst hleave hturn, .of_step hstep, ?_⟩
  intro k ha hhead hk
  exact hquiet k ⟨ha, hhead, hk⟩

/-- The last step of a stop that has found something to stop. -/
lemma purges (h : Run s (earlier ++ enter :: between ++ leave :: later) w)
    (henter : enter.enters i job) (hjob : job.isStop = true)
    (hcreated : enter.before.phase ≠ .created) (hstopped : enter.before.phase ≠ .stopped)
    (hcaller : leave.action.caller? = some i) {result : Except StopError Unit}
    (hdone : leave.after.calls[i]? = some ⟨job, .done (.stop result)⟩) :
    leave.before.calls[i]? = some ⟨job, .purging result⟩ ∧
      leave.after =
        { leave.before with events := [], store := .empty }.finish i (.stop result) := by
  obtain ⟨hrun, hstep⟩ := h.of_split
  obtain ⟨-, stage, hi, hstage⟩ := hrun.stopping henter hjob hcreated hstopped
  obtain ⟨job', stage', hi', hadv⟩ := (State.Turn.of_step hstep).of_caller hcaller
  obtain ⟨rfl, rfl⟩ := Call.mk.inj (Option.some.inj (hi.symm.trans hi'))
  have hgoes : stage.hasEnded = false := hadv.not_ended
  have hin : stage.isInside = true := hstage.resolve_right (by simp [hgoes])
  have hsound : State.Sound False leave.before := hrun.sound nofun
  obtain ⟨rfl, hafter⟩ := hsound.advance_purge hi hadv hin hdone
  exact ⟨hi, hafter⟩

/--
A stop, or a deactivation, gets the lock and finds something to stop. When it has its answer, the
session is stopped, its slot, its events and its diagnostics are empty, and the lock is given back.
As long as no start of the host gets the lock after that, no server is launched and the session
stays stopped, whatever restarts are under way and whatever comes from old servers. If no call that
had a connection to itself was given up before, there is also nothing to poll any more and no
diagnostics appear.
-/
theorem stop_is_final (h : Run s (earlier ++ enter :: between ++ leave :: later) w)
    (henter : enter.enters i job) (hjob : job.isStop = true)
    (hcreated : enter.before.phase ≠ .created) (hstopped : enter.before.phase ≠ .stopped)
    (hcaller : leave.action.caller? = some i) {result : Except StopError Unit}
    (hdone : leave.after.calls[i]? = some ⟨job, .done (.stop result)⟩) :
    (leave.after.phase = .stopped ∧ leave.after.slot = none ∧ leave.after.events = [] ∧
      leave.after.store = .empty ∧ i ∉ leave.after.line) ∧
    ((∀ m ∈ later, ∀ k, ¬m.enters k .start) →
      (∀ m ∈ later, m.launches = false ∧ m.after.phase = .stopped ∧ m.after.slot = none) ∧
      ((∀ m ∈ earlier ++ enter :: between, ∀ call, m.interrupts call →
          call.stage.owned? = none) →
        ∀ m ∈ later, m.after.events = [] ∧ m.after.store = .empty ∧
          ∀ budget, (m.before.poll budget).2 = [])) := by
  obtain ⟨hpurging, hafter⟩ := h.purges henter hjob hcreated hstopped hcaller hdone
  have hrun : Run s (earlier ++ enter :: between) leave.before := h.of_split.1
  have hsound : State.Sound False leave.before := hrun.sound nofun
  have hover : leave.after.Over := hafter ▸ hsound.over_of_purge hpurging
  refine ⟨⟨hover.phase, hover.slot, by rw [hafter]; rfl, by rw [hafter]; rfl, ?_⟩, ?_⟩
  · rw [hafter]
    exact hsound.ordered.nodup.not_mem_erase
  · intro hstart
    constructor
    · intro m hm
      obtain ⟨hstill, hturn, hquiet⟩ := h.before_over State.Over hstart hover
        (fun hw hturn hno => (hw.turn hturn hno).1) hm
      obtain ⟨hend, hlaunch⟩ := hstill.turn hturn hquiet
      exact ⟨hlaunch, hend.phase, hend.slot⟩
    · intro hkept m hm
      have hsilent : leave.after.Silent :=
        hafter ▸ hsound.silent_of_purge (hrun.hushed hkept) hpurging
      have hkeeps {w w' : State} {a : Action} {said : List Effect} (hw : w.Over ∧ w.Silent)
          (hturn : State.Turn s w a w' said)
          (hno : ∀ k, a = .proceed k → w.line.head? = some k →
            w.calls[k]? ≠ some ⟨.start, .waiting⟩) : w'.Over ∧ w'.Silent :=
        ⟨(hw.1.turn hturn hno).1, hw.2.turn hw.1 hturn hno⟩
      obtain ⟨hstill, hturn, hquiet⟩ := h.before_over (fun w => w.Over ∧ w.Silent) hstart
        ⟨hover, hsilent⟩ hkeeps hm
      obtain ⟨-, hend⟩ := hkeeps hstill hturn hquiet
      refine ⟨hend.events, hend.store, ?_⟩
      intro budget
      rw [hstill.2.poll_eq]

/-- The server is gone and the host has not been told yet, when the session is stopped. -/
theorem stop_is_final_lost :
    ∃ earlier enter between leave later w,
      Run .stock (earlier ++ enter :: between ++ leave :: later) w ∧
      enter.enters 1 .stop ∧ enter.before.phase = .failed (.runtime .processExited) ∧
      enter.before.events = [.connectionLost .processExited] ∧
      leave.after.phase = .stopped ∧ leave.after.slot = none ∧ leave.after.events = [] ∧
      leave.after.store = .empty ∧ later.length = 1 ∧
      ∀ m ∈ later, m.launches = false ∧ m.after.phase = .stopped ∧ m.after.events = [] := by
  obtain ⟨earlier, w₁, enter, w₂, between, w₃, leave, w₄, later, w, hearlier, henter, hbetween,
      hleave, hlater, henters, hphase, hevents, hcaller, hdone, hlength⟩ :
      ∃ earlier w₁ enter w₂ between w₃ leave w₄ later w,
        State.initial.play .stock (Action.firstStart ++
          [Action.received 0 .ended, .read 0, .read 0, .read 0, .call .stop, .proceed 1]) =
            some (earlier, w₁) ∧
        w₁.play .stock [.proceed 1] = some ([enter], w₂) ∧
        w₂.play .stock (List.replicate 4 (.proceed 1)) = some (between, w₃) ∧
        w₃.play .stock [.proceed 1] = some ([leave], w₄) ∧
        w₄.play .stock [.poll 10] = some (later, w) ∧
        enter.enters 1 .stop ∧ enter.before.phase = .failed (.runtime .processExited) ∧
        enter.before.events = [.connectionLost .processExited] ∧
        leave.action.caller? = some 1 ∧
        leave.after.calls[1]? = some ⟨.stop, .done (.stop (.ok ()))⟩ ∧ later.length = 1 :=
    ⟨_, _, _, _, _, _, _, _, _, _, rfl, rfl, rfl, rfl, rfl, ⟨rfl, rfl, rfl⟩, rfl, rfl, rfl, rfl,
      rfl⟩
  have hrun : Run .stock (earlier ++ enter :: between ++ leave :: later) w := by
    have hall := ((((of_play hearlier).append_play henter).append_play hbetween).append_play
      hleave).append_play hlater
    simpa using hall
  have hstart : ∀ m ∈ later, ∀ k, ¬m.enters k .start := by
    rintro m hm k ⟨ha, -⟩
    have hmem := List.mem_map_of_mem (f := Moment.action) hm
    rw [actions_of_play hlater, ha] at hmem
    simp at hmem
  have hkept : ∀ m ∈ earlier ++ enter :: between, ∀ call, m.interrupts call →
      call.stage.owned? = none := by
    rintro m hm call ⟨i, ha, -⟩
    have hmem := List.mem_map_of_mem (f := Moment.action) hm
    rw [List.map_append, List.map_cons, actions_of_play hearlier, actions_of_play hbetween,
      henters.1, ha] at hmem
    simp [Action.firstStart] at hmem
  obtain ⟨⟨hstopped, hslot, hnone, hstore, -⟩, hfinal⟩ :=
    hrun.stop_is_final henters rfl (by simp [hphase]) (by simp [hphase]) hcaller hdone
  obtain ⟨hquiet, hsilent⟩ := hfinal hstart
  refine ⟨earlier, enter, between, leave, later, w, hrun, henters, hphase, hevents, hstopped, hslot,
    hnone, hstore, hlength, ?_⟩
  intro m hm
  exact ⟨(hquiet m hm).1, (hquiet m hm).2.1, (hsilent hkept m hm).1⟩

/-- A start is given up while it waits for the answer to the handshake. Its connection has no owner
then, but its reader goes on, and what the old server publishes arises as an event after the
stop. -/
theorem stop_is_not_final_given_up :
    ∃ earlier enter between leave later w,
      Run .stock (earlier ++ enter :: between ++ leave :: later) w ∧
      enter.enters 1 .stop ∧ enter.before.phase = .starting ∧ leave.action.caller? = some 1 ∧
      leave.after.calls[1]? = some ⟨.stop, .done (.stop (.ok ()))⟩ ∧
      (∀ m ∈ later, ∀ k, ¬m.enters k .start) ∧ ∃ m ∈ later, m.after.events ≠ [] := by
  obtain ⟨earlier, w₁, enter, w₂, between, w₃, leave, w₄, m, w, hearlier, henter, hbetween,
      hleave, hlater, henters, hphase, hcaller, hdone, hevents⟩ :
      ∃ earlier w₁ enter w₂ between w₃ leave w₄ m w,
        State.initial.play .stock (Action.firstStart.take 9 ++
          [Action.drop 0, .call .stop, .proceed 1]) = some (earlier, w₁) ∧
        w₁.play .stock [.proceed 1] = some ([enter], w₂) ∧
        w₂.play .stock [.proceed 1] = some (between, w₃) ∧
        w₃.play .stock [.proceed 1] = some ([leave], w₄) ∧
        w₄.play .stock [.received 0 (.message (.obj [("jsonrpc", .str "2.0"),
          ("method", .str "textDocument/publishDiagnostics"),
          ("params", .obj [("diagnostics", .arr []), ("uri", .str "file:///a")])]))] =
            some ([m], w) ∧
        enter.enters 1 .stop ∧ enter.before.phase = .starting ∧ leave.action.caller? = some 1 ∧
        leave.after.calls[1]? = some ⟨.stop, .done (.stop (.ok ()))⟩ ∧
        m.after.events.length = 1 :=
    ⟨_, _, _, _, _, _, _, _, _, _, rfl, rfl, rfl, rfl, rfl, ⟨rfl, rfl, rfl⟩, rfl, rfl, rfl, rfl⟩
  have hrun : Run .stock (earlier ++ enter :: between ++ leave :: [m]) w := by
    have hall := ((((of_play hearlier).append_play henter).append_play hbetween).append_play
      hleave).append_play hlater
    simpa using hall
  refine ⟨earlier, enter, between, leave, [m], w, hrun, henters, hphase, hcaller, hdone, ?_, m,
    List.mem_singleton_self m, ?_⟩
  · rintro k hk j ⟨ha, -⟩
    have hmem := List.mem_map_of_mem (f := Moment.action) hk
    rw [actions_of_play hlater, ha] at hmem
    simp at hmem
  · intro hnone
    rw [hnone] at hevents
    cases hevents

end Run

end LanguageClient
