import LanguageClient.Proofs.Diagnostics.Published
import LanguageClient.Proofs.Diagnostics.Store
import LanguageClient.Proofs.Session.Dispatch
import LanguageClient.Proofs.Session.Losses

/-!
# The inbox of the host

Events come from servers that publish diagnostics and from the loss of a connection, wait for the
host as long as there is room, and leave in the order in which they came: `State.delivers_step`.
Diagnostics go to the store on the way out, and the closing of documents and stops take them from
there. Between two stops nothing gets lost or comes twice: `Run.events_delivered`.
-/

namespace LanguageClient

/-! ### What goes into the inbox and out of it -/

/-- What an event means to the store. -/
def Event.update? : Event → Option StoreChange
  | .diagnostics uri items => some (.update uri items)
  | .connectionLost _ => none

namespace Moment

/-- The event of the frame that comes in a moment. -/
def published? (m : Moment) : Option Event :=
  match m.action with
  | .received _ (.message frame) => frame.published?
  | _ => none

/-- The loss of the connection on which the session was running. -/
def loss? (m : Moment) : Option Event :=
  match m.before.phase, m.after.phase with
  | .running, .failed (.runtime failure) => some (.connectionLost failure)
  | _, _ => none

/-- The events that arise in a moment. -/
def emits (m : Moment) : List Event := m.published?.toList ++ m.loss?.toList

/-- Those of them for which there is room. -/
def keeps (m : Moment) : List Event := if m.before.events.length < 256 then m.emits else []

/-- The events that the host takes in a moment. -/
def polled (m : Moment) : List Event :=
  match m.action with
  | .poll budget => (m.before.poll budget).2
  | _ => []

/-- The document that a call has closed and whose diagnostics it drops in a moment. -/
def forgets? (m : Moment) : Option String :=
  match m.action with
  | .proceed i =>
    match m.before.calls[i]? with
    | some ⟨.close doc, .forgetting _ _⟩ => some doc.uri
    | _ => none
  | _ => none

/-- Whether a stop clears the inbox in a moment. -/
def clears (m : Moment) : Bool :=
  match m.action with
  | .proceed i =>
    match m.before.calls[i]? with
    | some ⟨_, .purging _⟩ => true
    | _ => false
  | _ => false

/-- What a moment does to the store. -/
def stores (m : Moment) : List StoreChange :=
  m.polled.filterMap Event.update? ++ (m.forgets?.map StoreChange.forget).toList ++
    if m.clears then [.clear] else []

/-- Each notification of diagnostics that can be read makes one event. -/
lemma published?_eq_some_iff {m : Moment} {event : Event} :
    m.published? = some event ↔ ∃ c frame params p, m.action = .received c (.message frame) ∧
      Incoming.classify frame =
        some (.notification "textDocument/publishDiagnostics" (some params)) ∧
      Published.decode params = .ok p ∧ event = .diagnostics p.uri p.items := by
  constructor
  · intro h
    unfold published? at h
    split at h
    case h_1 c frame haction =>
      obtain ⟨params, p, hframe, hp, rfl⟩ := Json.notification_of_published? h
      exact ⟨c, frame, params, p, haction, hframe, hp, rfl⟩
    case h_2 => cases h
  · rintro ⟨c, frame, params, p, haction, hframe, hp, rfl⟩
    simp [published?, haction, Json.published?_of_decode hframe hp]

lemma clears_iff {m : Moment} : m.clears = true ↔ ∃ i job result, m.action = .proceed i ∧
    m.before.calls[i]? = some ⟨job, .purging result⟩ := by
  constructor
  · intro h
    unfold clears at h
    split at h
    case h_1 i haction =>
      split at h
      case h_1 job result hi => exact ⟨i, job, result, haction, hi⟩
      case h_2 => cases h
    case h_2 => cases h
  · rintro ⟨i, job, result, haction, hi⟩
    simp [clears, haction, hi]

lemma forgets?_eq_some_iff {m : Moment} {uri : String} :
    m.forgets? = some uri ↔ ∃ i doc other outcome, m.action = .proceed i ∧
      m.before.calls[i]? = some ⟨.close doc, .forgetting other outcome⟩ ∧ doc.uri = uri := by
  constructor
  · intro h
    unfold forgets? at h
    split at h
    case h_1 i haction =>
      split at h
      case h_1 doc other outcome hi =>
        exact ⟨i, doc, other, outcome, haction, hi, Option.some.inj h⟩
      case h_2 => cases h
    case h_2 => cases h
  · rintro ⟨i, doc, other, outcome, haction, hi, rfl⟩
    simp [forgets?, haction, hi]

end Moment

lemma foldl_absorb (store : DiagnosticsStore) (events : List Event) :
    events.foldl State.absorb store =
      (events.filterMap Event.update?).foldl DiagnosticsStore.apply store := by
  induction events generalizing store with
  | nil => rfl
  | cons event rest ih =>
    cases event with
    | diagnostics uri items => exact ih (store.update uri items)
    | connectionLost failure => exact ih store

/-! ### Calls that close a document -/

/-- The document of which a call tells the server that it is closed, or just has. -/
def Stage.closes? : Stage → Option String
  | .sending _ (.closed uri) | .forgetting uri _ => some uri
  | _ => none

lemma Notice.closes?_settled (notice : Notice) (result : Except NotifyError Forwarded) (c : Nat) :
    (notice.settled result).closes? = (Stage.sending c notice).closes? := by
  cases notice <;> rfl

lemma Notice.closes?_sync (documents : Table OpenDocument) (doc : Document) (text : String)
    (c : Nat) : (Stage.sending c (.sync documents doc text)).closes? = none := by
  unfold Notice.sync
  split <;> rfl

namespace State

variable {s : Setup} {w w' : State} {a : Action} {i c : Nat} {said : List Effect} {job : Job}
  {stage : Stage}

lemma Exchange.closes?_after {before after : Stage} {f : Connection → Connection}
    (h : Exchange s w c before f after said) : after.closes? = none := by
  cases h with
  | closedBefore ask | closedSince ask | unasked ask | rejected ask | forsaken ask
  | timedOut ask => cases ask <;> rfl
  | _ => rfl

/-- A call closes its own document. -/
lemma Advance.closes (h : Advance s w i job a stage w' said)
    (hi : w.calls[i]? = some ⟨job, stage⟩) {call : Call} (hk : w'.calls[i]? = some call)
    {uri : String} (hcloses : call.stage.closes? = some uri) :
    stage.closes? = some uri ∨ ∃ doc, job = .close doc ∧ doc.uri = uri := by
  cases h with
  | exchange _ hex =>
    obtain rfl := eq_of_moveCall hi hk
    rw [hex.closes?_after] at hcloses
    cases hcloses
  | notify =>
    obtain rfl := eq_of_moveCall hi hk
    rw [Notice.closes?_sync] at hcloses
    cases hcloses
  | notifyNobody =>
    obtain rfl := eq_of_moveCall hi hk
    rw [Notice.closes?_settled _ _ 0, Notice.closes?_sync] at hcloses
    cases hcloses
  | notifyClosed | closeNobody =>
    obtain rfl := eq_of_moveCall hi hk
    exact .inr ⟨_, rfl, Option.some.inj hcloses⟩
  | @sent _ c notice | @unsent _ c notice =>
    obtain rfl := eq_of_moveCall hi hk
    rw [Notice.closes?_settled notice _ c] at hcloses
    exact .inl hcloses
  | lose =>
    obtain rfl := eq_of_moveCall (getElem?_calls_lose hi) hk
    cases hcloses
  | _ =>
    obtain rfl := eq_of_moveCall hi hk
    cases hcloses

end State

/-- A call that drops diagnostics has closed their document. -/
lemma Run.closes {s : Setup} {past : List Moment} {w : State} (h : Run s past w) {i : Nat}
    {call : Call} (hi : w.calls[i]? = some call) {uri : String}
    (hcloses : call.stage.closes? = some uri) : ∃ doc, call.job = .close doc ∧ doc.uri = uri := by
  induction h generalizing call with
  | initial => simp [State.initial] at hi
  | step a hrun hstep ih =>
    rcases (State.Turn.of_step hstep).of_call hi with hold | hstage | hstage | ⟨stage, hold, hadv⟩
    · exact ih hold hcloses
    · rw [hstage] at hcloses
      cases hcloses
    · rw [hstage] at hcloses
      cases hcloses
    · rcases hadv.closes hold hi hcloses with hbefore | hdoc
      · have hdoc := ih hold hbefore
        exact hdoc
      · exact hdoc

/-! ### Turns -/

namespace State

variable {s : Setup} {w w' : State} {a : Action} {i c : Nat} {said : List Effect} {job : Job}
  {stage : Stage}

/-- The inbox and the store stay as they are, and no connection is lost. -/
structure Calm (w w' : State) : Prop where
  events : w'.events = w.events
  store : w'.store = w.store
  phase : w'.phase.isLost = true → w.phase.isLost = true

/-- The connection is lost on which the session was running. -/
structure Lost (w w' : State) (failure : RuntimeFailure) : Prop where
  running : w.phase = .running
  phase : w'.phase = .failed (.runtime failure)
  events : w'.events =
    w.events ++ if w.events.length < 256 then [.connectionLost failure] else []
  store : w'.store = w.store

/-- An event goes to the end of the inbox if there is room. -/
lemma events_emit (w : State) (event : Event) :
    (w.emit event).1.events = w.events ++ if w.events.length < 256 then [event] else [] := by
  unfold emit eventsSize
  split <;> simp

lemma calm_or_lost_lose (s : Setup) (w : State) (c : Nat) (failure : RuntimeFailure) :
    Calm w (w.lose s c failure).1 ∨ ∃ failure', Lost w (w.lose s c failure).1 failure' := by
  by_cases hheeds : w.Heeds c
  · right
    refine ⟨failure, hheeds.2, phase_lose_of_heeds s w c failure hheeds, ?_, ?_⟩
    · rw [(lose_of_heeds s w c failure hheeds).1, ← events_emit]
      dsimp only
      split <;> rfl
    · rw [lose_fst]
  · rw [lose_of_not_heeds s w c failure hheeds]
    exact .inl ⟨rfl, rfl, id⟩

/-- What neither polls nor clears, reads no frame and drops no diagnostics. -/
lemma Turn.calm_or_lost (h : Turn s w a w' said) (hpoll : ∀ budget, a ≠ .poll budget)
    (hframe : ∀ c frame, a ≠ .received c (.message frame))
    (hpurge : ∀ i job result, a = .proceed i → w.calls[i]? ≠ some ⟨job, .purging result⟩)
    (hforget : ∀ i job uri outcome, a = .proceed i →
      w.calls[i]? ≠ some ⟨job, .forgetting uri outcome⟩) :
    Calm w w' ∨ ∃ failure, Lost w w' failure := by
  cases h with
  | call | activate => exact .inl ⟨rfl, rfl, id⟩
  | poll budget => exact absurd rfl (hpoll budget)
  | drop =>
    left
    unfold State.drop
    split <;> exact ⟨rfl, rfl, id⟩
  | advance hi hadv =>
    cases hadv with
    | lose =>
      rcases calm_or_lost_lose s w _ .processExited with hcalm | ⟨failure, hlost⟩
      · exact .inl ⟨hcalm.events, hcalm.store, hcalm.phase⟩
      · exact .inr ⟨failure, hlost.running, hlost.phase, hlost.events, hlost.store⟩
    | purge => exact absurd hi (hpurge _ _ _ rfl)
    | forget => exact absurd hi (hforget _ _ _ _ rfl)
    | launch | stop | stopNobody | launchFailed | raise | conclude | relaunch | refuse =>
      exact .inl ⟨rfl, rfl, nofun⟩
    | _ => exact .inl ⟨rfl, rfl, id⟩
  | deed => exact .inl ⟨rfl, rfl, id⟩
  | publish | overlook => exact absurd rfl (hframe _ _)
  | @report c _ failure =>
    rcases calm_or_lost_lose s (w.modifyConnection c Connection.endReader) c failure with
      hcalm | ⟨failure, hlost⟩
    · exact .inl ⟨hcalm.events, hcalm.store, hcalm.phase⟩
    · exact .inr ⟨failure, hlost.running, hlost.phase, hlost.events, hlost.store⟩

/-- What a moment does to the inbox and to the store. -/
structure Delivers (m : Moment) : Prop where
  single : m.published? = none ∨ m.loss? = none
  events : m.clears = false → m.before.events ++ m.keeps = m.polled ++ m.after.events
  cleared : m.clears = true → m.after.events = []
  store : m.after.store = m.stores.foldl DiagnosticsStore.apply m.before.store

lemma loss?_of_isLost {m : Moment}
    (h : m.after.phase.isLost = true → m.before.phase.isLost = true) : m.loss? = none := by
  unfold Moment.loss?
  split
  case h_1 failure hbefore hafter =>
    rw [hbefore, hafter] at h
    cases h rfl
  case h_2 => rfl

/-- A moment in which the host and the closing calls do nothing. -/
lemma Delivers.of_calm_or_lost {m : Moment} (hpublished : m.published? = none)
    (hpolled : m.polled = []) (hforgets : m.forgets? = none) (hclears : m.clears = false)
    (h : Calm m.before m.after ∨ ∃ failure, Lost m.before m.after failure) : Delivers m where
  single := .inl hpublished
  events _ := by
    rcases h with hcalm | ⟨failure, hlost⟩
    · simp [Moment.keeps, Moment.emits, hpublished, hpolled, loss?_of_isLost hcalm.phase,
        hcalm.events]
    · have hloss : m.loss? = some (.connectionLost failure) := by
        simp [Moment.loss?, hlost.running, hlost.phase]
      rw [hpolled, hlost.events]
      simp [Moment.keeps, Moment.emits, hpublished, hloss]
  cleared hcleared := by
    rw [hclears] at hcleared
    cases hcleared
  store := by
    have hstores : m.stores = [] := by simp [Moment.stores, hpolled, hforgets, hclears]
    rw [hstores]
    rcases h with hcalm | ⟨failure, hlost⟩
    · exact hcalm.store
    · exact hlost.store

/-- A frame that comes adds its event. -/
lemma Dispatched.delivers {conn : Connection} {frame : Json} {all : List Effect}
    (h : w.Dispatched c conn frame w') :
    Delivers ⟨w, .received c (.message frame), w', all⟩ := by
  have hcalm (hnone : frame.published? = none) (hcalm : Calm w w') :
      Delivers ⟨w, .received c (.message frame), w', all⟩ :=
    .of_calm_or_lost hnone rfl rfl rfl (.inl hcalm)
  cases h with
  | malformed hframe => exact hcalm (Json.published?_of_malformed hframe) ⟨rfl, rfl, id⟩
  | answered hframe | unknown hframe =>
    exact hcalm (Json.published?_of_response hframe) ⟨rfl, rfl, id⟩
  | asked hframe => exact hcalm (Json.published?_of_request hframe) ⟨rfl, rfl, id⟩
  | noted _ hnone => exact hcalm hnone ⟨rfl, rfl, id⟩
  | @published event hevent =>
    have hloss : Moment.loss? ⟨w, .received c (.message frame), (w.emit event).1, all⟩ = none := by
      apply loss?_of_isLost
      rw [emit_fst]
      exact id
    constructor
    · exact .inr hloss
    · intro _
      have hpublished : Moment.published? ⟨w, .received c (.message frame), (w.emit event).1, all⟩ =
          some event := hevent
      simp [events_emit, Moment.keeps, Moment.emits, hpublished, hloss, Moment.polled]
    · nofun
    · rw [emit_fst]
      rfl

/-- The host takes the oldest events. -/
lemma delivers_poll (w : State) (budget : Nat) (all : List Effect) :
    Delivers ⟨w, .poll budget, (w.poll budget).1, all⟩ where
  single := .inl rfl
  events _ := by
    have hloss : Moment.loss? ⟨w, .poll budget, (w.poll budget).1, all⟩ = none :=
      loss?_of_isLost id
    have hkeeps : Moment.keeps ⟨w, .poll budget, (w.poll budget).1, all⟩ = [] := by
      rw [Moment.keeps, Moment.emits, hloss]
      simp [Moment.published?]
    rw [hkeeps]
    simp [Moment.polled, poll]
  cleared := nofun
  store := by
    simp [Moment.stores, Moment.polled, Moment.forgets?, Moment.clears, poll, foldl_absorb]

lemma Advance.of_purging {result : Except StopError Unit}
    (h : Advance s w i job a (.purging result) w' said) : w'.events = [] ∧ w'.store = .empty := by
  cases h with
  | exchange _ hex => cases hex
  | refused _ _ hstage => rcases hstage with hstage | ⟨hstage, -⟩ <;> cases hstage
  | purge => exact ⟨rfl, rfl⟩

lemma Advance.of_forgetting {uri : String} {outcome : Outcome}
    (h : Advance s w i job a (.forgetting uri outcome) w' said) :
    w'.events = w.events ∧ w'.store = w.store.forget uri ∧ w'.phase = w.phase := by
  cases h with
  | exchange _ hex => cases hex
  | refused _ _ hstage => rcases hstage with hstage | ⟨hstage, -⟩ <;> cases hstage
  | forget => exact ⟨rfl, rfl, rfl⟩

/-- A stop clears the inbox and the store. -/
lemma Advance.delivers_purging {result : Except StopError Unit} {all : List Effect}
    (h : Advance s w i job (.proceed i) (.purging result) w' said)
    (hi : w.calls[i]? = some ⟨job, .purging result⟩) : Delivers ⟨w, .proceed i, w', all⟩ := by
  obtain ⟨hevents, hstore⟩ := h.of_purging
  have hclears : Moment.clears ⟨w, .proceed i, w', all⟩ = true :=
    Moment.clears_iff.mpr ⟨i, job, result, rfl, hi⟩
  have hforgets : Moment.forgets? ⟨w, .proceed i, w', all⟩ = none := by
    simp [Moment.forgets?, hi]
  constructor
  · exact .inl rfl
  · intro hnot
    rw [hclears] at hnot
    cases hnot
  · exact fun _ => hevents
  · simp [Moment.stores, Moment.polled, hforgets, hclears, hstore, DiagnosticsStore.apply]

/-- A call drops the diagnostics of the document that it has closed. -/
lemma Advance.delivers_forgetting {doc : Document} {outcome : Outcome} {all : List Effect}
    (h : Advance s w i (.close doc) (.proceed i) (.forgetting doc.uri outcome) w' said)
    (hi : w.calls[i]? = some ⟨.close doc, .forgetting doc.uri outcome⟩) :
    Delivers ⟨w, .proceed i, w', all⟩ := by
  obtain ⟨hevents, hstore, hphase⟩ := h.of_forgetting
  have hclears : Moment.clears ⟨w, .proceed i, w', all⟩ = false := by simp [Moment.clears, hi]
  have hforgets : Moment.forgets? ⟨w, .proceed i, w', all⟩ = some doc.uri :=
    Moment.forgets?_eq_some_iff.mpr ⟨i, doc, doc.uri, outcome, rfl, hi, rfl⟩
  have hloss : Moment.loss? ⟨w, .proceed i, w', all⟩ = none := by
    apply loss?_of_isLost
    rw [hphase]
    exact id
  constructor
  · exact .inl rfl
  · intro _
    simp [Moment.keeps, Moment.emits, Moment.published?, hloss, Moment.polled, hevents]
  · rw [hclears]
    nofun
  · simp [Moment.stores, Moment.polled, hforgets, hclears, hstore, DiagnosticsStore.apply]

/-- A step in which neither a frame comes nor the host polls. -/
lemma Turn.delivers_aside (h : Turn s w a w' said) {all : List Effect}
    (hcloses : ∀ {i : Nat} {job : Job} {uri : String} {outcome : Outcome},
      w.calls[i]? = some ⟨job, .forgetting uri outcome⟩ → ∃ doc, job = .close doc ∧ doc.uri = uri)
    (hpoll : ∀ budget, a ≠ .poll budget) (hframe : ∀ c frame, a ≠ .received c (.message frame)) :
    Delivers ⟨w, a, w', all⟩ := by
  by_cases hclears : Moment.clears ⟨w, a, w', all⟩ = true
  · obtain ⟨i, job, result, rfl, hi⟩ := Moment.clears_iff.mp hclears
    obtain ⟨job', stage, hi', hadv⟩ := h.of_caller rfl
    cases Option.some.inj (hi.symm.trans hi')
    exact hadv.delivers_purging hi
  · rw [Bool.not_eq_true] at hclears
    cases hforgets : Moment.forgets? ⟨w, a, w', all⟩ with
    | some uri =>
      obtain ⟨i, doc, other, outcome, rfl, hi, rfl⟩ := Moment.forgets?_eq_some_iff.mp hforgets
      obtain ⟨job', stage, hi', hadv⟩ := h.of_caller rfl
      cases Option.some.inj (hi.symm.trans hi')
      obtain ⟨doc', ⟨rfl⟩, rfl⟩ := hcloses hi
      exact hadv.delivers_forgetting hi
    | none =>
      have hpublished : Moment.published? ⟨w, a, w', all⟩ = none := by
        unfold Moment.published?
        split
        case h_1 haction => exact absurd haction (hframe _ _)
        case h_2 => rfl
      have hpolled : Moment.polled ⟨w, a, w', all⟩ = [] := by
        unfold Moment.polled
        split
        case h_1 haction => exact absurd haction (hpoll _)
        case h_2 => rfl
      refine .of_calm_or_lost hpublished hpolled hforgets hclears
        (h.calm_or_lost hpoll hframe ?_ ?_)
      · rintro i job result rfl hi
        rw [Moment.clears_iff.mpr ⟨i, job, result, rfl, hi⟩] at hclears
        cases hclears
      · rintro i job uri outcome rfl hi
        obtain ⟨doc, rfl, hdoc⟩ := hcloses hi
        rw [Moment.forgets?_eq_some_iff.mpr ⟨i, doc, uri, outcome, rfl, hi, rfl⟩] at hforgets
        cases hforgets

/-- Each step delivers what has arisen. -/
theorem delivers_step (hstep : w.step s a = some (w', said))
    (hcloses : ∀ {i : Nat} {job : Job} {uri : String} {outcome : Outcome},
      w.calls[i]? = some ⟨job, .forgetting uri outcome⟩ →
        ∃ doc, job = .close doc ∧ doc.uri = uri) :
    Delivers ⟨w, a, w', said⟩ := by
  have haside (hpoll : ∀ budget, a ≠ .poll budget)
      (hframe : ∀ c frame, a ≠ .received c (.message frame)) : Delivers ⟨w, a, w', said⟩ :=
    (Turn.of_step hstep).delivers_aside hcloses hpoll hframe
  cases a with
  | poll budget =>
    obtain ⟨rfl, -⟩ := Prod.mk.inj (Option.some.inj hstep)
    exact delivers_poll w budget said
  | received c read =>
    cases read with
    | message frame =>
      obtain ⟨conn, -, -, hdispatched⟩ := Dispatched.of_step hstep
      exact hdispatched.delivers
    | _ => exact haside nofun nofun
  | _ => exact haside nofun nofun

end State

/-! ### Runs -/

namespace Run

variable {s : Setup} {past : List Moment} {w : State}

lemma delivers {m : Moment} (h : Run s past m.before)
    (hstep : m.before.step s m.action = some (m.after, m.said)) : State.Delivers m :=
  State.delivers_step hstep fun hi => h.closes hi rfl

/-- As long as no stop clears the inbox, what waited and what was kept has been taken or waits. -/
lemma delivered {earlier later : List Moment} (h : Run s (earlier ++ later) w)
    (hclears : ∀ m ∈ later, m.clears = false) :
    ∃ v, Run s earlier v ∧
      v.events ++ later.flatMap Moment.keeps = later.flatMap Moment.polled ++ w.events := by
  induction later using List.reverseRecOn generalizing w with
  | nil => exact ⟨w, by simpa using h, by simp⟩
  | append_singleton later m ih =>
    rw [← List.append_assoc] at h
    obtain ⟨hrun, hstep, rfl⟩ := h.of_concat
    obtain ⟨v, hv, hbefore⟩ := ih hrun fun m hm => hclears m (List.mem_append_left _ hm)
    have hlast := (hrun.delivers hstep).events
      (hclears m (List.mem_append_right _ (List.mem_singleton_self m)))
    refine ⟨v, hv, ?_⟩
    calc
      v.events ++ (later ++ [m]).flatMap Moment.keeps
        = later.flatMap Moment.polled ++ (m.before.events ++ m.keeps) := by
          rw [List.flatMap_append, List.flatMap_singleton, ← List.append_assoc, hbefore,
            List.append_assoc]
      _ = (later ++ [m]).flatMap Moment.polled ++ m.after.events := by
          rw [hlast, List.flatMap_append, List.flatMap_singleton, List.append_assoc]

/-- After a stop has cleared the inbox, as in the beginning, nothing waits. -/
lemma events_eq_nil {earlier : List Moment} (h : Run s earlier w)
    (hearlier : earlier = [] ∨ ∃ front m, earlier = front ++ [m] ∧ m.clears = true) :
    w.events = [] := by
  rcases hearlier with rfl | ⟨front, m, rfl, hclears⟩
  · generalize hpast : ([] : List Moment) = past at h
    cases h with
    | initial => rfl
    | step => simp at hpast
  · obtain ⟨hrun, hstep, rfl⟩ := h.of_concat
    exact (hrun.delivers hstep).cleared hclears

/-- The store is what has been done to it. -/
theorem stored (h : Run s past w) :
    w.store = DiagnosticsStore.after (past.flatMap Moment.stores) := by
  induction h with
  | initial => rfl
  | @step past w w' said a hrun hstep ih =>
    have hstore := (hrun.delivers (m := ⟨w, a, w', said⟩) hstep).store
    rw [List.flatMap_append, List.flatMap_singleton, DiagnosticsStore.after_append, ← ih]
    exact hstore

/-- There is room for so many events. -/
theorem events_length_le (h : Run s past w) : w.events.length ≤ 256 := by
  induction h with
  | initial => exact Nat.zero_le _
  | @step past w w' said a hrun hstep ih =>
    have hdelivers := hrun.delivers (m := ⟨w, a, w', said⟩) hstep
    cases hclears : Moment.clears ⟨w, a, w', said⟩ with
    | true =>
      have hnone : w'.events = [] := hdelivers.cleared hclears
      simp [hnone]
    | false =>
      have hlength := congrArg List.length (hdelivers.events hclears)
      have hemits : (Moment.emits ⟨w, a, w', said⟩).length ≤ 1 := by
        rcases hdelivers.single with hnone | hnone <;>
          simp only [Moment.emits, hnone, Option.toList_none, List.nil_append, List.append_nil]
        · cases Moment.loss? ⟨w, a, w', said⟩ <;> simp
        · cases Moment.published? ⟨w, a, w', said⟩ <;> simp
      simp only [List.length_append, Moment.keeps] at hlength
      split at hlength
      · omega
      · simp only [List.length_nil] at hlength
        omega

lemma poll_of_step {m : Moment} (hstep : m.before.step s m.action = some (m.after, m.said))
    {budget : Nat} (haction : m.action = .poll budget) :
    m.after = (m.before.poll budget).1 ∧ m.polled = (m.before.poll budget).2 := by
  constructor
  · rw [haction] at hstep
    exact (Prod.mk.inj (Option.some.inj hstep)).1.symm
  · simp [Moment.polled, haction]

/-- What leaves inbox and store alone does not come between two polls. -/
lemma polled_twice {m m' : Moment} {between later : List Moment} {a b : Nat}
    (h : Run s (past ++ m :: (between ++ m' :: later)) w) (hm : m.action = .poll a)
    (hm' : m'.action = .poll b)
    (hbetween : ∀ k ∈ between, k.emits = [] ∧ k.polled = [] ∧ k.stores = []) :
    m.polled ++ m'.polled = (m.before.poll (a + b)).2 ∧
      m'.after.events = (m.before.poll (a + b)).1.events ∧
      m'.after.store = (m.before.poll (a + b)).1.store := by
  obtain ⟨-, hfirst⟩ := h.of_split
  rw [← List.cons_append, ← List.append_assoc] at h
  obtain ⟨hrun, hlast⟩ := h.of_split
  obtain ⟨hafter, hpolled⟩ := poll_of_step hfirst hm
  obtain ⟨hafter', hpolled'⟩ := poll_of_step hlast hm'
  have hkept : m'.before.events = m.after.events ∧ m'.before.store = m.after.store := by
    refine hrun.induction_from
      (P := fun v => v.events = m.after.events ∧ v.store = m.after.store) ⟨rfl, rfl⟩ ?_
    rintro k hk earlier hearlier hstep ⟨hevents, hstore⟩
    obtain ⟨hemits, hnone, hstores⟩ := hbetween k hk
    have hdelivers := hearlier.delivers hstep
    have hclears : k.clears = false := by
      by_contra hclears
      simp [Moment.stores, hclears] at hstores
    have hsame := hdelivers.events hclears
    rw [Moment.keeps, hemits, ite_self, hnone, List.append_nil, List.nil_append] at hsame
    have hstore' := hdelivers.store
    rw [hstores] at hstore'
    exact ⟨hsame.symm.trans hevents, hstore'.trans hstore⟩
  rw [hpolled, hpolled', hafter']
  simp only [State.poll, hkept.1, hkept.2, hafter]
  refine ⟨?_, ?_, ?_⟩
  · rw [List.take_add]
  · rw [List.drop_drop]
  · rw [List.take_add, List.foldl_append]

/--
Between two stops the host gets the events that arose, each once and in the order in which they
arose, but for those that arose while 256 were waiting; what it has not got yet still waits. An
event arises from each notification of diagnostics that can be read, with its items in their order,
and from each loss of the connection on which the session was running. A poll takes the oldest
events, as many as it may, and two polls with nothing in between take what one would have taken. The
store always is what the polled diagnostics, the documents that were closed and the stops have made
of it, one after another.
-/
theorem events_delivered (h : Run s past w) :
    (∀ earlier later : List Moment, past = earlier ++ later →
      (earlier = [] ∨ ∃ (front : List Moment) (m : Moment),
        earlier = front ++ [m] ∧ m.clears = true) →
      (∀ m ∈ later, m.clears = false) →
      later.flatMap Moment.polled ++ w.events = later.flatMap Moment.keeps) ∧
    w.events.length ≤ 256 ∧
    (∀ m ∈ past, ∀ event : Event, m.published? = some event ↔
      ∃ (c : Nat) (frame params : Json) (p : Published),
        m.action = .received c (.message frame) ∧
        Incoming.classify frame =
          some (.notification "textDocument/publishDiagnostics" (some params)) ∧
        Published.decode params = .ok p ∧ event = .diagnostics p.uri p.items) ∧
    (∀ (params : Json) (p : Published), Published.decode params = .ok p →
      ∃ listed, Published.listed? params = some listed ∧
        List.Forall₂ (fun j d => Published.item j = .ok d) listed p.items) ∧
    (∀ m ∈ past, ∀ budget : Nat, m.action = .poll budget →
      m.polled = m.before.events.take budget ∧ m.after.events = m.before.events.drop budget ∧
        m.polled.length = min budget m.before.events.length) ∧
    (∀ (earlier : List Moment) (m : Moment) (between : List Moment) (m' : Moment)
      (later : List Moment) (a b : Nat), past = earlier ++ m :: (between ++ m' :: later) →
      m.action = .poll a → m'.action = .poll b →
      (∀ k ∈ between, k.emits = [] ∧ k.polled = [] ∧ k.stores = []) →
      m.polled ++ m'.polled = (m.before.poll (a + b)).2 ∧
        m'.after.events = (m.before.poll (a + b)).1.events ∧
        m'.after.store = (m.before.poll (a + b)).1.store) ∧
    w.store = DiagnosticsStore.after (past.flatMap Moment.stores) := by
  refine ⟨?_, h.events_length_le, ?_, ?_, ?_, ?_, h.stored⟩
  · rintro earlier later rfl hearlier hclears
    obtain ⟨v, hv, hdelivered⟩ := h.delivered hclears
    rw [hv.events_eq_nil hearlier, List.nil_append] at hdelivered
    exact hdelivered.symm
  · intro m _ event
    exact Moment.published?_eq_some_iff
  · intro params p hp
    exact Published.items_of_decode hp
  · intro m hm budget haction
    obtain ⟨-, -, -, -, hstep⟩ := h.step_of_mem hm
    obtain ⟨hafter, hpolled⟩ := poll_of_step hstep haction
    rw [hafter, hpolled]
    refine ⟨rfl, rfl, ?_⟩
    exact List.length_take
  · rintro earlier m between m' later a b rfl hm hm' hbetween
    exact h.polled_twice hm hm' hbetween

/-- A server that publishes the diagnostics of a document and takes them back, and a host that polls
twice. -/
theorem events_delivered_published :
    ∃ past w, Run .stock past w ∧ (past.flatMap Moment.polled).length = 2 ∧
      (past.flatMap Moment.stores).length = 2 ∧
      past.flatMap Moment.polled ++ w.events = past.flatMap Moment.keeps ∧
      w.store = DiagnosticsStore.after (past.flatMap Moment.stores) := by
  let publish (items : List Json) : Action := .received 0 (.message (.obj
    [("method", .str "textDocument/publishDiagnostics"),
      ("params", .obj [("diagnostics", .arr items), ("uri", .str "file:///task.yaml")])]))
  let item : Json := .obj [("message", .str "unknown task"),
    ("range", .obj [("start", .obj [("character", .int 2), ("line", .int 1)])])]
  obtain ⟨past, w, hplay, hlength, hstores, hclears⟩ :
      ∃ past w, State.initial.play .stock (Action.firstStart ++
          [publish [item], .poll 1, publish [], .poll 8]) = some (past, w) ∧
        (past.flatMap Moment.polled).length = 2 ∧ (past.flatMap Moment.stores).length = 2 ∧
        past.all (fun m => !m.clears) = true :=
    ⟨_, _, rfl, rfl, rfl, rfl⟩
  have hrun := of_play hplay
  obtain ⟨hdelivered, -, -, -, -, -, hstore⟩ := hrun.events_delivered
  refine ⟨past, w, hrun, hlength, hstores, hdelivered [] past rfl (.inl rfl) ?_, hstore⟩
  intro m hm
  simpa using List.all_eq_true.mp hclears m hm

end Run

end LanguageClient
