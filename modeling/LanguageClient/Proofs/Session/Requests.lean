import LanguageClient.Proofs.Session.Dispatch
import LanguageClient.Proofs.Session.Final
import LanguageClient.Proofs.Session.Order

/-!
# Requests and their answers

Each request has a number of its own on its connection, and the first response with that number that
comes once the request is registered is its answer, whatever else comes and whenever: `Run.tracked`.
When a request is over, however it ended, its number is no longer registered, so that a late
response does nothing: `Run.requests_routed`.
-/

namespace LanguageClient

/-! ### Numbers of a connection -/

namespace Connection

variable {conn conn' : Connection} {n id : Nat} {body : Json}

lemma lookup_cons (m : Nat) (body : Json) (rest : List (Nat × Json)) :
    ((m, body) :: rest).lookup n = if n = m then some body else rest.lookup n := by
  by_cases hn : n = m
  · simp [hn]
  · rw [List.lookup_cons, beq_eq_false_iff_ne.mpr hn, if_neg hn]

/-- The answer to a request once a response has come. -/
lemma lookup_concat (answers : List (Nat × Json)) :
    (answers ++ [(id, body)]).lookup n =
      (answers.lookup n).or (if n = id then some body else none) := by
  rw [List.lookup_append, lookup_cons, List.lookup_nil]

lemma answer?_take : (conn.take id).answer? n = if n = id then none else conn.answer? n := by
  simp only [take, answer?]
  induction conn.answers with
  | nil => simp
  | cons a rest ih =>
    obtain ⟨m, body⟩ := a
    by_cases hm : m = id
    · subst hm
      by_cases hn : n = m
      · simpa [hn] using ih
      · simpa [hn, lookup_cons] using ih
    · by_cases hn : n = m
      · subst hn
        simp [hm]
      · simpa [hm, hn, lookup_cons] using ih

/-- Requests that wait and requests that have an answer are told apart, and have been numbered. -/
structure Registry (conn : Connection) : Prop where
  nodup : conn.pending.Nodup
  given : ∀ n ∈ conn.pending, n < conn.nextId
  answered : ∀ n, (conn.answer? n).isSome → n < conn.nextId ∧ n ∉ conn.pending

namespace Registry

lemma fresh (room : Nat) : (Connection.fresh room).Registry where
  nodup := List.nodup_nil
  given := by simp [Connection.fresh]
  answered := by simp [Connection.fresh, answer?]

/-- Fewer requests wait. -/
lemma of_sublist (h : conn.Registry) (hpending : conn'.pending.Sublist conn.pending)
    (hanswers : conn'.answers = conn.answers) (hnext : conn'.nextId = conn.nextId) :
    conn'.Registry where
  nodup := h.nodup.sublist hpending
  given n hn := by
    rw [hnext]
    exact h.given n (hpending.subset hn)
  answered n hn := by
    rw [answer?, hanswers] at hn
    obtain ⟨hlt, hnot⟩ := h.answered n hn
    exact ⟨hnext ▸ hlt, fun hmem => hnot (hpending.subset hmem)⟩

lemma register (h : conn.Registry) : conn.register.Registry where
  nodup := by
    apply List.nodup_cons.mpr
    constructor
    · intro hmem
      exact Nat.lt_irrefl _ (h.given _ hmem)
    · exact h.nodup
  given n hn := by
    rcases List.mem_cons.mp hn with rfl | hn
    · exact Nat.lt_succ_self _
    · exact Nat.lt_succ_of_lt (h.given n hn)
  answered n hn := by
    obtain ⟨hlt, hnot⟩ := h.answered n hn
    constructor
    · exact Nat.lt_succ_of_lt hlt
    · intro hmem
      rcases List.mem_cons.mp hmem with rfl | hmem
      · exact Nat.lt_irrefl _ hlt
      · exact hnot hmem

lemma take (h : conn.Registry) (id : Nat) : (conn.take id).Registry where
  nodup := h.nodup
  given := h.given
  answered n hn := by
    apply h.answered
    rw [answer?_take] at hn
    split at hn
    · cases hn
    · exact hn

lemma respond (h : conn.Registry) (hid : id ∈ conn.pending) :
    Registry { conn with
      pending := conn.pending.erase id, answers := conn.answers ++ [(id, body)] } where
  nodup := h.nodup.erase id
  given n hn := h.given n (List.mem_of_mem_erase hn)
  answered n hn := by
    rw [answer?, lookup_concat] at hn
    by_cases hn' : n = id
    · subst hn'
      exact ⟨h.given n hid, h.nodup.not_mem_erase⟩
    · have hold : (conn.answer? n).isSome := by simpa [hn', answer?] using hn
      obtain ⟨hlt, hnot⟩ := h.answered n hold
      exact ⟨hlt, fun hmem => hnot (List.mem_of_mem_erase hmem)⟩

lemma change (h : conn.Registry) (hchange : conn.Change conn') : conn'.Registry := by
  cases hchange with
  | register => exact h.register
  | release id => exact h.of_sublist List.erase_sublist rfl rfl
  | take id => exact h.take id
  | deed hdeed =>
    cases hdeed with
    | write hstep =>
      rw [stepWriter_eq hstep]
      exact h.of_sublist (List.Sublist.refl _) rfl rfl
    | clear => exact h.of_sublist (List.nil_sublist _) rfl rfl
    | respond _ _ hid => exact h.respond hid
    | _ => exact h.of_sublist (List.Sublist.refl _) rfl rfl
  | _ => exact h.of_sublist (List.Sublist.refl _) rfl rfl

end Registry

lemma Change.nextId_le (h : conn.Change conn') : conn.nextId ≤ conn'.nextId := by
  cases h with
  | register => exact Nat.le_succ _
  | deed hdeed =>
    cases hdeed with
    | write hstep => exact Nat.le_of_eq (congrArg nextId (stepWriter_eq hstep)).symm
    | _ => exact Nat.le_refl _
  | _ => exact Nat.le_refl _

/-- Request `n` was made on a connection and is over. -/
structure Finished (conn : Connection) (n : Nat) : Prop where
  given : n < conn.nextId
  notMem : n ∉ conn.pending

lemma Finished.change (h : conn.Finished n) (hchange : conn.Change conn') : conn'.Finished n where
  given := Nat.lt_of_lt_of_le h.given hchange.nextId_le
  notMem := by
    cases hchange with
    | register =>
      intro hmem
      rcases List.mem_cons.mp hmem with rfl | hmem
      · exact Nat.lt_irrefl _ h.given
      · exact h.notMem hmem
    | release => exact fun hmem => h.notMem (List.mem_of_mem_erase hmem)
    | deed hdeed =>
      cases hdeed with
      | write hstep =>
        rw [stepWriter_eq hstep]
        exact h.notMem
      | clear => exact List.not_mem_nil
      | respond => exact fun hmem => h.notMem (List.mem_of_mem_erase hmem)
      | _ => exact h.notMem
    | _ => exact h.notMem

end Connection

/-! ### What a connection holds of a request -/

/-- Whether a reader has let go of the requests that waited. -/
def Reader.isCleared : Reader → Bool
  | .reporting _ | .ended => true
  | _ => false

namespace Connection

variable {conn conn' : Connection} {n : Nat} {frames : List Json}

/-- What a connection holds of request `n` when these frames have come since its registration: the
first response among them, or it still waits for one, unless all requests have been let go. -/
structure Holds (conn : Connection) (n : Nat) (frames : List Json) : Prop where
  given : n < conn.nextId
  answer : conn.answer? n = frames.findSome? (Json.response? n)
  waits : conn.answer? n = none → n ∈ conn.pending ∨ conn.reader.isCleared = true

namespace Holds

lemma register (h : conn.Registry) : conn.register.Holds conn.nextId [] where
  given := Nat.lt_succ_self _
  answer := by
    have hnone : conn.answer? conn.nextId = none := by
      rw [← Option.not_isSome_iff_eq_none]
      intro hsome
      exact Nat.lt_irrefl _ (h.answered _ hsome).1
    exact hnone
  waits _ := .inl (List.mem_cons_self ..)

/-- Whatever leaves the request alone. -/
lemma of_eq (h : conn.Holds n frames) (hnext : conn'.nextId = conn.nextId)
    (hanswers : conn'.answers = conn.answers) (hpending : conn'.pending = conn.pending)
    (hreader : conn.reader.isCleared = true → conn'.reader.isCleared = true) :
    conn'.Holds n frames where
  given := hnext ▸ h.given
  answer := by
    rw [answer?, hanswers]
    exact h.answer
  waits hnone := by
    rw [answer?, hanswers] at hnone
    rw [hpending]
    exact (h.waits hnone).imp_right hreader

/-- Its tasks do nothing to the request, except when a frame comes. -/
lemma deed {c : Nat} {a : Action} {said : List Effect} (h : conn.Holds n frames)
    (hdeed : conn.Deed c a conn' said) (hframe : a.frame? c = none) : conn'.Holds n frames := by
  cases hdeed with
  | write hstep =>
    rw [stepWriter_eq hstep]
    exact h.of_eq rfl rfl rfl id
  | reply hreader | forgo hreader | close hreader | ended hreader | fault _ hreader =>
    refine h.of_eq rfl rfl rfl fun hcleared => ?_
    rw [hreader] at hcleared
    cases hcleared
  | clear => exact ⟨h.given, h.answer, fun _ => .inr rfl⟩
  | respond | request =>
    rw [Action.frame?_received] at hframe
    cases hframe
  | drained | broken => exact h.of_eq rfl rfl rfl id

/-- A frame that is no response to the request. -/
lemma pass {frame : Json} (h : conn.Holds n frames) (hnone : frame.response? n = none) :
    conn.Holds n (frames ++ [frame]) where
  given := h.given
  answer := by
    rw [List.findSome?_append, List.findSome?_singleton, hnone, Option.or_none]
    exact h.answer
  waits := h.waits

/-- A response that comes late. -/
lemma late {frame : Json} (h : conn.Holds n frames) (hreading : conn.reader = .reading)
    (hnot : n ∉ conn.pending) : conn.Holds n (frames ++ [frame]) where
  given := h.given
  answer := by
    have hsome : conn.answer? n ≠ none := by
      intro hnone
      rcases h.waits hnone with hmem | hcleared
      · exact hnot hmem
      · rw [hreading] at hcleared
        cases hcleared
    obtain ⟨body, hbody⟩ := Option.ne_none_iff_exists'.mp hsome
    rw [List.findSome?_append, ← h.answer, hbody, Option.some_or]
  waits := h.waits

/-- A response to some request that waits. -/
lemma respond {frame : Json} {id : Nat} {body : Json} (h : conn.Holds n frames)
    (hframe : Incoming.classify frame = some (.response id body)) (hid : id ∈ conn.pending) :
    Holds { conn with pending := conn.pending.erase id, answers := conn.answers ++ [(id, body)] } n
      (frames ++ [frame]) where
  given := h.given
  answer := by
    have hresponse : frame.response? n = if n = id then some body else none := by
      simp [Json.response?, hframe, eq_comm]
    rw [answer?, lookup_concat, List.findSome?_append, List.findSome?_singleton, ← h.answer,
      hresponse]
    rfl
  waits hnone := by
    rw [answer?, lookup_concat, Option.or_eq_none_iff] at hnone
    have hne : n ≠ id := by
      rintro rfl
      simp at hnone
    exact (h.waits hnone.1).imp_left (List.mem_erase_of_ne hne).mpr

/-- Whatever frame comes, it counts as the answer if it is the first response to the request. -/
lemma dispatched {w w' : State} {c : Nat} {frame : Json} (h : conn.Holds n frames)
    (hc : w.connections[c]? = some conn) (hreading : conn.reader = .reading)
    (hd : w.Dispatched c conn frame w') (hc' : w'.connections[c]? = some conn') :
    conn'.Holds n (frames ++ [frame]) := by
  have hsame (hconns : w'.connections = w.connections) : conn' = conn := by
    rw [hconns, hc] at hc'
    exact (Option.some.inj hc').symm
  cases hd with
  | malformed hframe =>
    rw [hsame rfl]
    exact h.pass (by simp [Json.response?, hframe])
  | noted hframe =>
    rw [hsame rfl]
    exact h.pass (by simp [Json.response?, hframe])
  | published hevent =>
    obtain ⟨params, p, hframe, -⟩ := Json.notification_of_published? hevent
    rw [hsame (by rw [State.emit_fst])]
    exact h.pass (by simp [Json.response?, hframe])
  | @unknown id body hframe hid =>
    rw [hsame rfl]
    by_cases hn : id = n
    · subst hn
      exact h.late hreading hid
    · exact h.pass (by simp [Json.response?, hframe, hn])
  | answered hframe hid =>
    rw [State.getElem?_modifyConnection _ hc] at hc'
    obtain rfl := Option.some.inj hc'
    exact h.respond hframe hid
  | asked hframe =>
    rw [State.getElem?_modifyConnection _ hc] at hc'
    obtain rfl := Option.some.inj hc'
    refine (h.pass (by simp [Json.response?, hframe])).of_eq rfl rfl rfl fun hcleared => ?_
    rw [hreading] at hcleared
    cases hcleared

end Holds

end Connection

/-! ### Requests of calls -/

/-- The request that a call has registered and is not done with: its connection and its number. -/
def Stage.request? : Stage → Option (Nat × Nat)
  | .retesting c _ n | .asking c _ n | .awaiting c _ n => some (c, n)
  | _ => none

lemma Stage.owned_of_request {stage : Stage} {c n : Nat} (h : stage.request? = some (c, n)) :
    stage.owned? = some c := by
  cases stage with
  | retesting | asking | awaiting =>
    obtain ⟨rfl, -⟩ := Prod.mk.inj (Option.some.inj h)
    rfl
  | _ => cases h

lemma Ask.request?_failed (ask : Ask) (c : Nat) (reason : String) :
    (ask.failed c reason).request? = none := by
  cases ask <;> rfl

/-- Call `i` registers request `n` on connection `c`. -/
def Moment.registers (m : Moment) (i c n : Nat) : Prop :=
  m.action = .proceed i ∧ ∃ job ask conn,
    m.before.calls[i]? = some ⟨job, .registering c ask⟩ ∧
      m.before.connections[c]? = some conn ∧ n = conn.nextId

/-- Call `i` takes `body` for the answer to its request `n` on connection `c`. -/
def Moment.obtains (m : Moment) (i c n : Nat) (body : Json) : Prop :=
  m.action = .proceed i ∧ ∃ job ask conn,
    m.before.calls[i]? = some ⟨job, .awaiting c ask n⟩ ∧
      m.before.connections[c]? = some conn ∧ conn.answer? n = some body

/-- Call `i` is done with its request `n` on connection `c`, whether it has an answer or not, and
goes on. -/
def Moment.returns (m : Moment) (i c n : Nat) : Prop :=
  (∃ call, m.before.calls[i]? = some call ∧ call.stage.request? = some (c, n)) ∧
    ∃ call, m.after.calls[i]? = some call ∧ call.stage.request? = none ∧ call.stage ≠ .dropped

/-- The frames that have come on connection `c` since request `n` of call `i` was registered there
decide what the connection holds of it. -/
def Tracked (past : List Moment) (w : State) (i c n : Nat) : Prop :=
  ∃ before r since conn, past = before ++ r :: since ∧ r.registers i c n ∧
    w.connections[c]? = some conn ∧ conn.Holds n (dispatched c since)

namespace State

variable {s : Setup} {w w' : State} {a : Action} {i c n : Nat} {said : List Effect} {job : Job}
  {conn conn' : Connection}

/-- A call goes on by itself, unless its time is up, it has documents to open again, or the launcher
or the process has done with it. -/
lemma eq_proceed {stage : Stage} (hstep : w.step s a = some (w', said))
    (hi : w.calls[i]? = some ⟨job, stage⟩) (hcaller : a.caller? = some i)
    (hlaunching : stage ≠ .launching) (hreaping : ∀ c problems, stage ≠ .reaping c problems)
    (hreopening : ∀ c documents, stage ≠ .reopening c documents) (hexpire : a ≠ .expire i) :
    a = .proceed i := by
  cases a with
  | proceed k =>
    obtain rfl := Option.some.inj hcaller
    rfl
  | reopen k place =>
    obtain rfl := Option.some.inj hcaller
    simp only [step, hi, Option.bind_eq_bind, Option.bind_some] at hstep
    cases hstep
  | expire k =>
    obtain rfl := Option.some.inj hcaller
    exact absurd rfl hexpire
  | launched k result =>
    obtain rfl := Option.some.inj hcaller
    simp only [step, hi, Option.bind_eq_bind, Option.bind_some] at hstep
    cases hstep
  | exited k problem =>
    obtain rfl := Option.some.inj hcaller
    simp only [step, hi, Option.bind_eq_bind, Option.bind_some] at hstep
    cases hstep
  | _ => cases hcaller

/-- Only a call that goes on by itself registers a request. -/
lemma proceed_of_registering {ask : Ask} (hstep : w.step s a = some (w', said))
    (hi : w.calls[i]? = some ⟨job, .registering c ask⟩) (hcaller : a.caller? = some i) :
    a = .proceed i := by
  apply eq_proceed hstep hi hcaller nofun nofun nofun
  rintro rfl
  simp [step, hi, expire] at hstep

lemma Advance.register {ask : Ask} (h : Advance s w i job a (.registering c ask) w' said) :
    ∃ conn, w.connections[c]? = some conn ∧
      w' = (w.modifyConnection c Connection.register).setStage i
        (.retesting c ask conn.nextId) := by
  cases h with
  | exchange _ hex =>
    cases hex with
    | registered _ hc => exact ⟨_, hc, rfl⟩
  | refused _ _ hstage => rcases hstage with hstage | ⟨hstage, -⟩ <;> cases hstage

/-- A call on its way to an answer leaves the request to the connection. -/
lemma Exchange.holds {before after : Stage} {f : Connection → Connection} {frames : List Json}
    (h : Exchange s w c before f after said) (hbefore : before.request? = some (c, n))
    (hafter : after.request?.isSome) (hholds : conn.Holds n frames) :
    (f conn).Holds n frames := by
  cases h with
  | retested => exact hholds
  | asked => exact hholds.of_eq rfl rfl rfl id
  | closedSince | unasked | rejected | forsaken | timedOut =>
    rw [Ask.request?_failed] at hafter
    cases hafter
  | welcomed | dismissed => cases hafter
  | _ => cases hbefore

/-- A request that ends is no longer registered. -/
lemma Exchange.finished {before after : Stage} {f : Connection → Connection}
    (h : Exchange s w c before f after said) (hbefore : before.request? = some (c, n))
    (hafter : after.request? = none) (hc : w.connections[c]? = some conn)
    (hregistry : conn.Registry) (hgiven : n < conn.nextId) : (f conn).Finished n := by
  have hreleased : (conn.release n).Finished n := ⟨hgiven, hregistry.nodup.not_mem_erase⟩
  have htaken {old : Connection} {body : Json} (hold : w.connections[c]? = some old)
      (hanswer : old.answer? n = some body) : (conn.take n).Finished n := by
    obtain rfl := Option.some.inj (hc.symm.trans hold)
    exact ⟨hgiven, (hregistry.answered n (by simp [hanswer])).2⟩
  cases h with
  | closedSince | unasked | timedOut =>
    obtain ⟨-, rfl⟩ := Prod.mk.inj (Option.some.inj hbefore)
    exact hreleased
  | rejected _ _ _ hold hanswer | welcomed _ hold hanswer | dismissed _ hold hanswer =>
    obtain ⟨-, rfl⟩ := Prod.mk.inj (Option.some.inj hbefore)
    exact htaken hold hanswer
  | forsaken _ _ _ hold _ hnot =>
    obtain ⟨-, rfl⟩ := Prod.mk.inj (Option.some.inj hbefore)
    obtain rfl := Option.some.inj (hc.symm.trans hold)
    exact ⟨hgiven, hnot⟩
  | retested | asked => cases hafter
  | _ => cases hbefore

/-- A call that has registered a request goes on with its connection. -/
lemma Advance.exchange_of_request {stage : Stage} (h : Advance s w i job a stage w' said)
    (hrequest : stage.request? = some (c, n)) :
    ∃ f after, Exchange s w c stage f after said ∧
      w' = (w.modifyConnection c f).setStage i after := by
  have howned := Stage.owned_of_request hrequest
  cases h with
  | exchange _ hex =>
    obtain rfl := Option.some.inj (hex.owned.symm.trans howned)
    exact ⟨_, _, hex, rfl⟩
  | refused _ _ hstage => rcases hstage with rfl | ⟨rfl, -⟩ <;> cases hrequest
  | _ => cases hrequest

/-- A call has registered the request just now, or had done so before. -/
lemma Exchange.of_request {before after : Stage} {f : Connection → Connection}
    (h : Exchange s w c before f after said) (hafter : after.request? = some (c, n)) :
    (∃ ask, before = .registering c ask) ∨ before.request? = some (c, n) := by
  cases h with
  | registered ask => exact .inl ⟨ask, rfl⟩
  | retested | asked => exact .inr hafter
  | closedBefore | closedSince | unasked | rejected | forsaken | timedOut =>
    rw [Ask.request?_failed] at hafter
    cases hafter
  | _ => cases hafter

/-- What others do to a connection leaves a request alone. -/
lemma Touch.holds {frames : List Json} (h : Touch s w a said c conn conn')
    (hframe : a.frame? c = none) (hholds : conn.Holds n frames)
    (hexchange : ∀ {k : Nat} {job : Job} {before after : Stage} {f : Connection → Connection},
      a.caller? = some k → w.calls[k]? = some ⟨job, before⟩ →
      Exchange s w c before f after said → False) : conn'.Holds n frames := by
  cases h with
  | same => exact hholds
  | deed hdeed => exact hholds.deed hdeed hframe
  | exchange hcaller hk hex => exact (hexchange hcaller hk hex).elim
  | notice | letGo => exact hholds.of_eq rfl rfl rfl id
  | reap | abort | report => exact hholds.of_eq rfl rfl rfl fun _ => rfl

/-- Only a call that goes on by itself takes an answer. -/
lemma proceed_of_answer {ask : Ask} {body : Json} (hstep : w.step s a = some (w', said))
    (hi : w.calls[i]? = some ⟨job, .awaiting c ask n⟩) (hc : w.connections[c]? = some conn)
    (hanswer : conn.answer? n = some body) (hcaller : a.caller? = some i) : a = .proceed i := by
  apply eq_proceed hstep hi hcaller nofun nofun nofun
  rintro rfl
  simp [step, hi, stepCall, await, hc, hanswer] at hstep

/-- A call goes on as its answer says. -/
lemma answered_of_step {ask : Ask} {body : Json}
    (hstep : w.step s (.proceed i) = some (w', said))
    (hi : w.calls[i]? = some ⟨job, .awaiting c ask n⟩) (hc : w.connections[c]? = some conn)
    (hanswer : conn.answer? n = some body) :
    (w.modifyConnection c (·.take n)).answered i c ask body = (w', said) := by
  simpa [step, hi, stepCall, await, hc, hanswer] using hstep

/-- A request that ends has an answer, or has failed. -/
lemma Exchange.answered_or_failed {before after : Stage} {f : Connection → Connection}
    (h : Exchange s w c before f after said) (hbefore : before.request? = some (c, n))
    (hafter : after.request? = none) :
    (∃ ask conn body, before = .awaiting c ask n ∧ w.connections[c]? = some conn ∧
      conn.answer? n = some body) ∨ ∃ ask reason, after = Ask.failed c reason ask := by
  cases h with
  | closedSince ask _ reason | unasked ask _ reason | timedOut ask _ reason =>
    exact .inr ⟨ask, reason, rfl⟩
  | rejected ask _ reason | forsaken ask _ reason => exact .inr ⟨ask, reason, rfl⟩
  | welcomed _ hc hanswer | dismissed _ hc hanswer =>
    obtain ⟨-, rfl⟩ := Prod.mk.inj (Option.some.inj hbefore)
    exact .inl ⟨_, _, _, rfl, hc, hanswer⟩
  | retested | asked => cases hafter
  | _ => cases hbefore

/-- A frame does something to a request only if it is the response that the request waits for. -/
lemma Dispatched.spares {k : Nat} {old : Connection} {frame : Json}
    (h : w.Dispatched k old frame w') (hk : w.connections[k]? = some old)
    (hc : w.connections[c]? = some conn) :
    ∃ conn', w'.connections[c]? = some conn' ∧
      ((c = k → ∀ n ∈ conn.pending, frame.response? n = none) →
        conn'.pending = conn.pending ∧ conn'.answers = conn.answers) ∧
      ∀ n, (c = k → frame.response? n = none ∨ n ∉ conn.pending) →
        (n ∈ conn'.pending ↔ n ∈ conn.pending) ∧ conn'.answer? n = conn.answer? n := by
  rcases eq_or_ne k c with rfl | hne
  · obtain rfl := Option.some.inj (hc.symm.trans hk)
    cases h with
    | @answered id body hframe hid =>
      have hresponse (n : Nat) : frame.response? n = if id = n then some body else none := by
        simp [Json.response?, hframe]
      refine ⟨_, getElem?_modifyConnection _ hc, ?_, ?_⟩
      · intro hnone
        have hself := hnone rfl id hid
        simp [hresponse] at hself
      · intro n hother
        have hne : n ≠ id := by
          rintro rfl
          rcases hother rfl with hnone | hnot
          · simp [hresponse] at hnone
          · exact hnot hid
        constructor
        · exact List.mem_erase_of_ne hne
        · rw [Connection.answer?, Connection.lookup_concat, if_neg hne, Option.or_none]
          rfl
    | asked =>
      exact ⟨_, getElem?_modifyConnection _ hc, fun _ => ⟨rfl, rfl⟩, fun _ _ => ⟨.rfl, rfl⟩⟩
    | published =>
      rw [emit_fst]
      exact ⟨conn, hc, fun _ => ⟨rfl, rfl⟩, fun _ _ => ⟨.rfl, rfl⟩⟩
    | _ => exact ⟨conn, hc, fun _ => ⟨rfl, rfl⟩, fun _ _ => ⟨.rfl, rfl⟩⟩
  · rw [h.connection_of_ne hne]
    exact ⟨conn, hc, fun _ => ⟨rfl, rfl⟩, fun _ _ => ⟨.rfl, rfl⟩⟩

/-- A response to a request that is over does nothing. -/
lemma Dispatched.eq_of_finished {frame : Json} (h : w.Dispatched c conn frame w')
    (hfinished : conn.Finished n) (hresponse : (frame.response? n).isSome) : w' = w := by
  cases h with
  | @answered id body hframe hid =>
    have hne : id ≠ n := by
      rintro rfl
      exact hfinished.notMem hid
    simp [Json.response?, hframe, hne] at hresponse
  | published hevent =>
    obtain ⟨params, p, hframe, -⟩ := Json.notification_of_published? hevent
    simp [Json.response?, hframe] at hresponse
  | asked hframe => simp [Json.response?, hframe] at hresponse
  | _ => rfl

end State

namespace Run

variable {s : Setup} {past : List Moment} {w : State} {i c n : Nat} {conn : Connection}

lemma registry (h : Run s past w) (hc : w.connections[c]? = some conn) : conn.Registry :=
  h.every Connection.Registry.fresh (fun _ _ hold hchange => hold.change hchange) hc

/-- Whatever others do, the frames since its registration tell what the connection holds of a
request. -/
lemma tracked_aside {a : Action} {w' : State} {said : List Effect} (h : Tracked past w i c n)
    (hstep : w.step s a = some (w', said))
    (hexchange : ∀ {k : Nat} {job : Job} {before after : Stage} {f : Connection → Connection},
      a.caller? = some k → w.calls[k]? = some ⟨job, before⟩ →
      State.Exchange s w c before f after (news said) → False) :
    Tracked (past ++ [⟨w, a, w', said⟩]) w' i c n := by
  have hturn := State.Turn.of_step hstep
  obtain ⟨before, r, since, conn, rfl, hr, hc, hholds⟩ := h
  obtain ⟨conn', hc', -⟩ := hturn.persists hc
  refine ⟨before, r, since ++ [⟨w, a, w', said⟩], conn', by simp, hr, hc', ?_⟩
  rw [dispatched_append, dispatched_singleton]
  cases hframe : a.frame? c with
  | some frame =>
    obtain rfl := Action.eq_received hframe
    obtain ⟨old, hold, hreading, hdispatched⟩ := State.Dispatched.of_step hstep
    obtain rfl := Option.some.inj (hc.symm.trans hold)
    exact hholds.dispatched hc hreading hdispatched hc'
  | none =>
    rw [Option.toList_none, List.append_nil]
    exact (hturn.touch hc hc').holds hframe hholds hexchange

/-- And so they do when the call itself goes on with its request. -/
lemma tracked_exchange {a : Action} {w' : State} {said told : List Effect} {before after : Stage}
    {f : Connection → Connection} (h : Tracked past w i c n) (hcaller : a.caller? = some i)
    (hex : State.Exchange s w c before f after told) (hbefore : before.request? = some (c, n))
    (hafter : after.request?.isSome)
    (hw' : w' = (w.modifyConnection c f).setStage i after) :
    Tracked (past ++ [⟨w, a, w', said⟩]) w' i c n := by
  obtain ⟨earlier, r, since, conn, rfl, hr, hc, hholds⟩ := h
  have hc' : w'.connections[c]? = some (f conn) := by
    rw [hw']
    exact State.getElem?_modifyConnection f hc
  have hframe : a.frame? c = none := by cases a <;> first | rfl | cases hcaller
  refine ⟨earlier, r, since ++ [⟨w, a, w', said⟩], f conn, by simp, hr, hc', ?_⟩
  rw [dispatched_append, dispatched_singleton, hframe, Option.toList_none, List.append_nil]
  exact hex.holds hbefore hafter hholds

/-- As long as a call is at a request, the frames since its registration tell what the connection
holds of it. -/
theorem tracked (h : Run s past w) {call : Call} (hi : w.calls[i]? = some call)
    (hrequest : call.stage.request? = some (c, n)) : Tracked past w i c n := by
  induction h generalizing call with
  | initial => simp [State.initial] at hi
  | @step past w w' said a hrun hstep ih =>
    have hturn := State.Turn.of_step hstep
    have hsound : State.Sound False w := hrun.sound False.elim
    have howned := Stage.owned_of_request hrequest
    -- Somebody else goes on: whoever has the connection to itself holds the lock.
    have haside (hother : a.caller? ≠ some i) (hi : w.calls[i]? = some call) :
        Tracked (past ++ [⟨w, a, w', said⟩]) w' i c n := by
      apply tracked_aside (ih hi hrequest) hstep
      intro k job before after f hcaller hk hex
      have hin := Stage.isInside_of_owned hex.owned
      obtain rfl := hsound.eq_of_inside hk hin hi (Stage.isInside_of_owned howned)
      exact hother hcaller
    cases hcaller : a.caller? with
    | none => exact haside (by simp [hcaller]) (hturn.of_owned hcaller hi howned)
    | some k =>
      obtain ⟨job, stage, hk, hadv⟩ := hturn.of_caller hcaller
      rcases eq_or_ne k i with rfl | hne
      · obtain ⟨job', after⟩ := call
        obtain ⟨f, hex⟩ | ⟨-, -, rfl, -⟩ | ⟨-, -, -, rfl | rfl⟩ := hadv.of_owned hk hi howned
        · rcases hex.of_request hrequest with ⟨ask, rfl⟩ | hbefore
          · -- The request is new.
            obtain rfl := State.proceed_of_registering hstep hk hcaller
            obtain ⟨conn, hc, rfl⟩ := hadv.register
            obtain ⟨-, rfl⟩ := Call.mk.inj (eq_of_moveCall hk hi)
            obtain ⟨-, rfl⟩ := Prod.mk.inj (Option.some.inj hrequest)
            exact ⟨past, _, [], _, rfl, ⟨rfl, job, ask, conn, hk, hc, rfl⟩,
              State.getElem?_modifyConnection _ hc, .register (hrun.registry hc)⟩
          · obtain ⟨f, next, hex, hafter⟩ := hadv.exchange_of_request hbefore
            have hmoved := hi
            rw [hafter] at hmoved
            obtain ⟨-, rfl⟩ := Call.mk.inj (eq_of_moveCall hk hmoved)
            exact tracked_exchange (ih hk hbefore) hcaller hex hbefore (by simp [hrequest]) hafter
        · cases hrequest
        · cases hrequest
        · cases hrequest
      · rcases hadv.of_other hi hne with hi | hstage
        · refine haside ?_ hi
          rw [hcaller]
          intro heq
          exact hne (Option.some.inj heq)
        · rw [hstage] at hrequest
          cases hrequest

/-- A call that is done with its request leaves it over. -/
lemma finished_of_returns {m : Moment} (h : Run s past m.before)
    (hstep : m.before.step s m.action = some (m.after, m.said)) (hm : m.returns i c n) :
    ((∃ body, m.obtains i c n body) ∨
      ∃ call ask reason, m.after.calls[i]? = some call ∧ call.stage = Ask.failed c reason ask) ∧
    ∃ conn, m.after.connections[c]? = some conn ∧ conn.Finished n := by
  obtain ⟨⟨⟨job, stage⟩, hi, hrequest⟩, after, hi', hnone, hdropped⟩ := hm
  rcases (State.Turn.of_step hstep).call_cases hi with hsame | hdrop | hadv
  · obtain rfl := Option.some.inj (hsame.symm.trans hi')
    rw [hrequest] at hnone
    cases hnone
  · obtain rfl := Option.some.inj (hdrop.symm.trans hi')
    exact absurd rfl hdropped
  · obtain ⟨f, next, hex, hafter⟩ := hadv.exchange_of_request hrequest
    obtain ⟨_, _, since, conn, -, -, hc, hholds⟩ := h.tracked hi hrequest
    have hmoved := hi'
    rw [hafter] at hmoved
    obtain rfl := eq_of_moveCall hi hmoved
    constructor
    · rcases hex.answered_or_failed hrequest hnone with
        ⟨ask, old, body, rfl, hold, hanswer⟩ | ⟨ask, reason, hfailed⟩
      · have hproceed := State.proceed_of_answer hstep hi hold hanswer hadv.caller
        exact .inl ⟨body, hproceed, job, ask, old, hi, hold, hanswer⟩
      · exact .inr ⟨_, ask, reason, hi', hfailed⟩
    · refine ⟨f conn, ?_, hex.finished hrequest hnone hc (h.registry hc) hholds.given⟩
      rw [hafter]
      exact State.getElem?_modifyConnection f hc

/-- What is over stays over. -/
lemma finished_after {m : Moment} {later : List Moment} (h : Run s (past ++ m :: later) w)
    (hafter : ∃ conn, m.after.connections[c]? = some conn ∧ conn.Finished n) :
    ∃ conn, w.connections[c]? = some conn ∧ conn.Finished n := by
  refine h.induction_from
    (P := fun w => ∃ conn, w.connections[c]? = some conn ∧ conn.Finished n) hafter ?_
  rintro m' - _ - hstep ⟨conn, hc, hfinished⟩
  obtain ⟨conn', hc', rfl | hchange⟩ := (State.Turn.of_step hstep).persists hc
  · exact ⟨conn', hc', hfinished⟩
  · exact ⟨conn', hc', hfinished.change hchange⟩

/-- Numbers are given in increasing order. -/
lemma lt_of_registers {m m' : Moment} {between : List Moment} {i' n' : Nat}
    (h : Run s (past ++ m :: between) m'.before)
    (hm : m.registers i c n) (hm' : m'.registers i' c n') : n < n' := by
  obtain ⟨haction, job, ask, conn, hi, hc, rfl⟩ := hm
  obtain ⟨-, -, -, conn', -, hc', rfl⟩ := hm'
  obtain ⟨-, hstep⟩ := h.of_split
  have hafter : ∃ conn', m.after.connections[c]? = some conn' ∧ conn.nextId < conn'.nextId := by
    obtain ⟨job', stage, hi', hadv⟩ :=
      (State.Turn.of_step hstep).of_caller (haction ▸ rfl : m.action.caller? = some i)
    cases Option.some.inj (hi.symm.trans hi')
    obtain ⟨old, hold, hregistered⟩ := hadv.register
    obtain rfl := Option.some.inj (hc.symm.trans hold)
    refine ⟨conn.register, ?_, Nat.lt_succ_self _⟩
    rw [hregistered]
    exact State.getElem?_modifyConnection _ hc
  obtain ⟨last, hlast, hlt⟩ := h.induction_from
    (P := fun w => ∃ conn', w.connections[c]? = some conn' ∧ conn.nextId < conn'.nextId) hafter (by
      rintro k - _ - hstep ⟨old, hold, hlt⟩
      obtain ⟨new, hnew, rfl | hchange⟩ := (State.Turn.of_step hstep).persists hold
      · exact ⟨new, hnew, hlt⟩
      · exact ⟨new, hnew, Nat.lt_of_lt_of_le hlt hchange.nextId_le⟩)
  obtain rfl := Option.some.inj (hc'.symm.trans hlast)
  exact hlt

/--
Whatever frames come, and whenever they come, a call goes on with the first response with the number
of its request that came on that connection since the request was registered. A frame
changes nothing for the calls, and nothing for a request unless it is the response that the request
waits for; if it is a response that no request waits for, or none at all, the registered requests
stay as they are. Numbers of requests are never given twice on a connection. And however a call is
done with a request, with an answer or a failure, the request is no longer registered and never will
be again, so that a late response to it does nothing.
-/
theorem requests_routed (h : Run s past w) :
    (∀ (earlier : List Moment) (m : Moment) (later : List Moment) (i c n : Nat) (body : Json),
      past = earlier ++ m :: later → m.obtains i c n body →
      (∃ ask, (m.before.modifyConnection c (·.take n)).answered i c ask body =
        (m.after, m.said)) ∧
      ∃ before r since, earlier = before ++ r :: since ∧ r.registers i c n ∧
        (dispatched c since).findSome? (Json.response? n) = some body) ∧
    (∀ m ∈ past, ∀ (k : Nat) (frame : Json), m.action = .received k (.message frame) →
      m.after.calls = m.before.calls ∧
      ∀ (c : Nat) (conn : Connection), m.before.connections[c]? = some conn →
        ∃ conn', m.after.connections[c]? = some conn' ∧
          ((c = k → ∀ n ∈ conn.pending, frame.response? n = none) →
            conn'.pending = conn.pending ∧ conn'.answers = conn.answers) ∧
          ∀ n, (c = k → frame.response? n = none ∨ n ∉ conn.pending) →
            (n ∈ conn'.pending ↔ n ∈ conn.pending) ∧ conn'.answer? n = conn.answer? n) ∧
    (∀ (earlier : List Moment) (m : Moment) (between : List Moment) (m' : Moment)
      (later : List Moment) (i i' c n n' : Nat),
      past = earlier ++ m :: (between ++ m' :: later) →
      m.registers i c n → m'.registers i' c n' → n < n') ∧
    ∀ (earlier : List Moment) (m : Moment) (later : List Moment) (i c n : Nat),
      past = earlier ++ m :: later → m.returns i c n →
      ((∃ body, m.obtains i c n body) ∨
        ∃ call ask reason, m.after.calls[i]? = some call ∧ call.stage = Ask.failed c reason ask) ∧
      (∃ conn, m.after.connections[c]? = some conn ∧ n ∉ conn.pending) ∧
      (∃ conn, w.connections[c]? = some conn ∧ n ∉ conn.pending) ∧
      ∀ m' ∈ later, ∀ frame : Json, m'.action = .received c (.message frame) →
        (frame.response? n).isSome → m'.after = m'.before := by
  refine ⟨?_, ?_, ?_, ?_⟩
  · rintro earlier m later i c n body rfl ⟨haction, job, ask, conn, hi, hc, hanswer⟩
    obtain ⟨hrun, hstep⟩ := h.of_split
    rw [haction] at hstep
    refine ⟨⟨ask, State.answered_of_step hstep hi hc hanswer⟩, ?_⟩
    obtain ⟨before, r, since, old, hsplit, hr, hold, hholds⟩ := hrun.tracked hi rfl
    obtain rfl := Option.some.inj (hc.symm.trans hold)
    exact ⟨before, r, since, hsplit, hr, hholds.answer.symm.trans hanswer⟩
  · intro m hm k frame haction
    obtain ⟨-, -, -, -, hstep⟩ := h.step_of_mem hm
    rw [haction] at hstep
    obtain ⟨old, hk, -, hdispatched⟩ := State.Dispatched.of_step hstep
    exact ⟨hdispatched.calls_eq, fun c conn hc => hdispatched.spares hk hc⟩
  · rintro earlier m between m' later i i' c n n' rfl hm hm'
    rw [← List.cons_append, ← List.append_assoc] at h
    exact h.of_split.1.lt_of_registers hm hm'
  · rintro earlier m later i c n rfl hm
    obtain ⟨hrun, hstep⟩ := h.of_split
    obtain ⟨houtcome, conn, hc, hfinished⟩ := hrun.finished_of_returns hstep hm
    obtain ⟨last, hlast, hover⟩ := h.finished_after ⟨conn, hc, hfinished⟩
    refine ⟨houtcome, ⟨conn, hc, hfinished.notMem⟩, ⟨last, hlast, hover.notMem⟩, ?_⟩
    intro m' hm' frame haction hresponse
    obtain ⟨between, rest, rfl⟩ := List.append_of_mem hm'
    rw [← List.cons_append, ← List.append_assoc] at h
    obtain ⟨hrun', hstep'⟩ := h.of_split
    rw [haction] at hstep'
    obtain ⟨old, hold, -, hdispatched⟩ := State.Dispatched.of_step hstep'
    obtain ⟨conn', hc', hfinished'⟩ := hrun'.finished_after ⟨conn, hc, hfinished⟩
    obtain rfl := Option.some.inj (hold.symm.trans hc')
    exact hdispatched.eq_of_finished hfinished' hresponse

/-- Before it answers the handshake, a server sends a response that nobody waits for and a request
with the very number of the handshake; afterwards it answers once more. -/
theorem requests_routed_strays :
    ∃ earlier m later w body, Run .stock (earlier ++ m :: later) w ∧ m.obtains 0 0 1 body ∧
      m.returns 0 0 1 ∧ (dispatched 0 earlier).length = 3 ∧
      (∃ before r since, earlier = before ++ r :: since ∧ r.registers 0 0 1 ∧
        (dispatched 0 since).findSome? (Json.response? 1) = some body) ∧
      ∀ m' ∈ later, ∀ frame, m'.action = .received 0 (.message frame) →
        (frame.response? 1).isSome → m'.after = m'.before := by
  obtain ⟨earlier, v, m, later, w, body, hfirst, hlast, hm, hreturns, hlength⟩ :
      ∃ earlier v m later w body,
        State.initial.play .stock
          ([Action.call .start, .proceed 0, .proceed 0, .launched 0 (.ok 4096)] ++
          List.replicate 5 (Action.proceed 0) ++
          [Action.received 0 (.message (.obj [("id", .int 7), ("result", .null)])),
            .received 0 (.message (.obj [("id", .int 1), ("method", .str "window/other")])),
            .read 0, .received 0 (.message (.obj [("id", .int 1), ("result", .null)]))]) =
          some (earlier, v) ∧
        v.play .stock [.proceed 0,
            .received 0 (.message (.obj [("error", .null), ("id", .int 1)]))] =
          some (m :: later, w) ∧
        m.obtains 0 0 1 body ∧ m.returns 0 0 1 ∧ (dispatched 0 earlier).length = 3 :=
    ⟨_, _, _, _, _, _, rfl, rfl, ⟨rfl, _, _, _, rfl, rfl, rfl⟩,
      ⟨⟨_, rfl, rfl⟩, _, rfl, rfl, nofun⟩, rfl⟩
  have hrun : Run .stock (earlier ++ m :: later) w := (of_play hfirst).append_play hlast
  obtain ⟨hanswer, -, -, hover⟩ := hrun.requests_routed
  obtain ⟨-, hsince⟩ := hanswer earlier m later 0 0 1 body rfl hm
  obtain ⟨-, -, -, hlate⟩ := hover earlier m later 0 0 1 rfl hreturns
  exact ⟨earlier, m, later, w, body, hrun, hm, hreturns, hlength, hsince, hlate⟩

end Run

end LanguageClient
