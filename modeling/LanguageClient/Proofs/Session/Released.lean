import LanguageClient.Proofs.Session.Calls
import LanguageClient.Proofs.Session.Progress
import LanguageClient.Proofs.Session.Requests

/-!
# Requests on a closed connection

A reader whose stream has ended marks the connection as closed first and lets go of the registered
requests then. A request is registered first and looks at the mark again then. Hence one of the two
sees the other: a request that is past that look was so when the reader let go of it, and one that
is not finds the mark and takes itself back. Nobody is left to wait for an answer that nobody will
give: `Run.requests_released`.
-/

namespace LanguageClient

/-- The request of a call that has looked at the mark for the second time: its connection and its
number. -/
def Stage.pledged? : Stage → Option (Nat × Nat)
  | .asking c _ n | .awaiting c _ n => some (c, n)
  | _ => none

lemma Stage.request?_of_pledged {stage : Stage} {c n : Nat} (h : stage.pledged? = some (c, n)) :
    stage.request? = some (c, n) := by
  cases stage with
  | asking | awaiting => exact h
  | _ => cases h

/-- The reader of connection `c` lets go of the registered requests. -/
def Moment.forsakes (m : Moment) (c : Nat) : Prop :=
  m.action = .read c ∧ ∃ conn failure,
    m.before.connections[c]? = some conn ∧ conn.reader = .clearing failure

/-! ### The mark -/

namespace Connection

variable {conn conn' : Connection}

/-- The mark of a closed connection is never taken away. -/
lemma Change.closed (h : conn.Change conn') (hclosed : conn.closed = true) :
    conn'.closed = true := by
  cases h with
  | deed hdeed =>
    cases hdeed with
    | write hstep =>
      rw [stepWriter_eq hstep]
      exact hclosed
    | close => rfl
    | _ => exact hclosed
  | _ => exact hclosed

/-- A reader has set the mark before it lets go of the requests. -/
def MarksFirst (conn : Connection) : Prop :=
  ∀ failure, conn.reader = .clearing failure → conn.closed = true

lemma MarksFirst.change (h : conn.MarksFirst) (hchange : conn.Change conn') :
    conn'.MarksFirst := by
  cases hchange with
  | deed hdeed =>
    cases hdeed with
    | write hstep =>
      rw [stepWriter_eq hstep]
      exact h
    | close => exact fun _ _ => rfl
    | respond | drained | broken => exact h
    | _ => nofun
  | reap | abort | report => nofun
  | _ => exact h

end Connection

lemma Run.marksFirst {s : Setup} {past : List Moment} {w : State} (h : Run s past w) {c : Nat}
    {conn : Connection} (hc : w.connections[c]? = some conn) : conn.MarksFirst :=
  h.every (fun _ => nofun) (fun _ _ hold hchange => hold.change hchange) hc

/-! ### What a request finds after the clearing -/

namespace State

variable {s : Setup} {old w w' : State} {a : Action} {i c n : Nat} {said : List Effect} {job : Job}
  {ask : Ask} {stage : Stage} {conn : Connection}

/-- Connection `c` is closed, and whoever is past its second look at that was so in an earlier state
and is registered no more. -/
structure Released (old w : State) (c : Nat) (conn : Connection) : Prop where
  found : w.connections[c]? = some conn
  closed : conn.closed = true
  finished : ∀ {i n : Nat} {job : Job} {stage : Stage}, w.calls[i]? = some ⟨job, stage⟩ →
    stage.pledged? = some (c, n) → conn.Finished n ∧
      ∃ earlier, old.calls[i]? = some ⟨job, earlier⟩ ∧ earlier.pledged? = some (c, n)

/-- Only an open connection lets a request past its second look. -/
lemma Exchange.of_pledged {before after : Stage} {f : Connection → Connection}
    (h : Exchange s w c before f after said) (hafter : after.pledged? = some (c, n))
    (hclosed : w.isClosed c = true) : before.pledged? = some (c, n) := by
  have hrequest := Stage.request?_of_pledged hafter
  cases h with
  | retested _ _ hopen => cases hclosed.symm.trans hopen
  | asked => exact hafter
  | closedBefore | closedSince | unasked | rejected | forsaken | timedOut =>
    rw [Ask.request?_failed] at hrequest
    cases hrequest
  | _ => cases hafter

lemma Advance.of_pledged (h : Advance s w i job a stage w' said) {after : Stage}
    (hi : w.calls[i]? = some ⟨job, stage⟩) (hi' : w'.calls[i]? = some ⟨job, after⟩)
    (hafter : after.pledged? = some (c, n)) (hclosed : w.isClosed c = true) :
    stage.pledged? = some (c, n) := by
  have howned := Stage.owned_of_request (Stage.request?_of_pledged hafter)
  obtain ⟨f, hex⟩ | ⟨-, -, rfl, -⟩ | ⟨-, -, -, rfl | rfl⟩ := h.of_owned hi hi' howned
  · exact hex.of_pledged hafter hclosed
  · cases hafter
  · cases hafter
  · cases hafter

namespace Released

lemma isClosed (h : Released old w c conn) : w.isClosed c = true := by
  simp [State.isClosed, h.found, h.closed]

lemma turn (h : Released old w c conn) (hturn : Turn s w a w' said) :
    ∃ conn', Released old w' c conn' := by
  obtain ⟨conn', hc', hsame⟩ := hturn.persists h.found
  have hkept {n : Nat} (hn : conn.Finished n) : conn'.Finished n := by
    rcases hsame with rfl | hchange
    · exact hn
    · exact hn.change hchange
  have hclosed : conn'.closed = true := by
    rcases hsame with rfl | hchange
    · exact h.closed
    · exact hchange.closed h.closed
  refine ⟨conn', hc', hclosed, fun {i n job stage} hi' hpledged => ?_⟩
  cases hturn.origin hi' with
  | same hi => exact (h.finished hi hpledged).imp_left hkept
  | begun _ hstage | dropped _ _ _ hstage =>
    obtain rfl : stage = _ := hstage
    cases hpledged
  | advanced hi hadv =>
    exact (h.finished hi (hadv.of_pledged hi hi' hpledged h.isClosed)).imp_left hkept

/-- Whoever waits for an answer goes on at once. -/
lemma step_awaiting (h : Released old w c conn)
    (hi : w.calls[i]? = some ⟨job, .awaiting c ask n⟩) :
    w.step s (.expire i) = none ∧
      (∀ body, conn.answer? n = some body → w.step s (.proceed i) =
        some ((w.modifyConnection c (·.take n)).answered i c ask body)) ∧
      (conn.answer? n = none → w.step s (.proceed i) =
        some (w.failAsk i c ("server closed the connection during " ++ ask.method) ask)) := by
  have hnot : n ∉ conn.pending := (h.finished hi rfl).1.notMem
  have hanswered (body : Json) (hanswer : conn.answer? n = some body) :
      w.stepCall s i ⟨job, .awaiting c ask n⟩ =
        some ((w.modifyConnection c (·.take n)).answered i c ask body) := by
    simp [stepCall, await, h.found, hanswer]
  have hfailed (hnone : conn.answer? n = none) : w.stepCall s i ⟨job, .awaiting c ask n⟩ =
      some (w.failAsk i c ("server closed the connection during " ++ ask.method) ask) := by
    simp [stepCall, await, h.found, hnone, hnot]
  have hgoes : (w.stepCall s i ⟨job, .awaiting c ask n⟩).isSome = true := by
    cases hanswer : conn.answer? n with
    | some body => rw [hanswered body hanswer, Option.isSome_some]
    | none => rw [hfailed hanswer, Option.isSome_some]
  refine ⟨by simp [step, hi, hgoes], fun body hanswer => ?_, fun hnone => ?_⟩
  · rw [step_proceed hi, hanswered body hanswer]
  · rw [step_proceed hi, hfailed hnone]

/-- Whoever is about to queue its request waits for room in the outbox only. -/
lemma step_asking (h : Released old w c conn) (hi : w.calls[i]? = some ⟨job, .asking c ask n⟩) :
    w.step s (.proceed i) = none ↔ conn.Chokes := by
  have hwaits : w.stepCall s i ⟨job, .asking c ask n⟩ = none ↔
      ∃ conn, w.connections[c]? = some conn ∧ conn.Chokes := stepCall_eq_none_iff rfl nofun
  rw [step_proceed hi, hwaits]
  constructor
  · rintro ⟨conn', hc', hchokes⟩
    obtain rfl := Option.some.inj (h.found.symm.trans hc')
    exact hchokes
  · exact fun hchokes => ⟨conn, h.found, hchokes⟩

/-- Whoever is about to look again takes back its request. -/
lemma step_retesting (h : Released old w c conn)
    (hi : w.calls[i]? = some ⟨job, .retesting c ask n⟩) :
    w.step s (.proceed i) = some ((w.modifyConnection c (·.release n)).failAsk i c
      ("connection closed before " ++ ask.method) ask) := by
  rw [step_proceed hi]
  simp [stepCall, h.isClosed]

end Released

end State

namespace Run

variable {s : Setup} {earlier later : List Moment} {clear : Moment} {w : State} {c : Nat}

/-- Once a reader has let go of the requests, nobody comes past its second look any more. -/
lemma released (h : Run s (earlier ++ clear :: later) w) (hclear : clear.forsakes c) :
    ∃ conn, State.Released clear.before w c conn := by
  obtain ⟨hrun, hstep⟩ := h.of_split
  refine h.induction_from (P := fun w => ∃ conn, State.Released clear.before w c conn) ?_ ?_
  · obtain ⟨haction, conn, failure, hc, hreader⟩ := hclear
    have hmark : conn.closed = true := hrun.marksFirst hc failure hreader
    rw [haction] at hstep
    simp only [State.step, hc, Option.bind_eq_bind, Option.bind_some, State.stepReader, hreader,
      Option.some.injEq] at hstep
    obtain ⟨hafter, -⟩ := Prod.mk.inj hstep
    rw [← hafter]
    refine ⟨_, State.getElem?_modifyConnection _ hc, hmark, ?_⟩
    intro i n job stage hi hpledged
    obtain ⟨_, _, _, old, -, -, hold, hholds⟩ :=
      hrun.tracked hi (Stage.request?_of_pledged hpledged)
    obtain rfl := Option.some.inj (hc.symm.trans hold)
    exact ⟨⟨hholds.given, List.not_mem_nil⟩, stage, hi, hpledged⟩
  · rintro m - _ - hstep ⟨conn, hreleased⟩
    exact hreleased.turn (.of_step hstep)

/--
However the steps of a request and of the reader that closes its connection follow each other: once
the reader has let go of the requests, a request that is past its second look at the mark was past
it before and is registered no more. A call that waits for the answer goes on at once, with the
answer if there is one and else with the news that the server closed the connection. A call that is
still to queue its request waits for room in the outbox at most, and is in the same place then. A
request that is not past its second look does not get there: it is taken back. And never again does
a call on that connection wait for an answer until its time is up.
-/
theorem requests_released (h : Run s (earlier ++ clear :: later) w) (hclear : clear.forsakes c) :
    ∃ conn, w.connections[c]? = some conn ∧
      (∀ (i n : Nat) (job : Job) (stage : Stage), w.calls[i]? = some ⟨job, stage⟩ →
        stage.pledged? = some (c, n) → n ∉ conn.pending ∧ ∃ old,
          clear.before.calls[i]? = some ⟨job, old⟩ ∧ old.pledged? = some (c, n)) ∧
      (∀ (i n : Nat) (job : Job) (ask : Ask), w.calls[i]? = some ⟨job, .awaiting c ask n⟩ →
        w.step s (.expire i) = none ∧
          (∀ body, conn.answer? n = some body → w.step s (.proceed i) =
            some ((w.modifyConnection c (·.take n)).answered i c ask body)) ∧
          (conn.answer? n = none → w.step s (.proceed i) =
            some (w.failAsk i c ("server closed the connection during " ++ ask.method) ask))) ∧
      (∀ (i n : Nat) (job : Job) (ask : Ask), w.calls[i]? = some ⟨job, .asking c ask n⟩ →
        (w.step s (.proceed i) = none ↔ conn.Chokes)) ∧
      (∀ (i n : Nat) (job : Job) (ask : Ask), w.calls[i]? = some ⟨job, .retesting c ask n⟩ →
        w.step s (.proceed i) = some ((w.modifyConnection c (·.release n)).failAsk i c
          ("connection closed before " ++ ask.method) ask)) ∧
      ∀ m ∈ later, ∀ (i n : Nat) (job : Job) (ask : Ask), m.action = .expire i →
        m.before.calls[i]? ≠ some ⟨job, .awaiting c ask n⟩ := by
  obtain ⟨conn, hreleased⟩ := h.released hclear
  refine ⟨conn, hreleased.found, ?_, fun _ _ _ _ => hreleased.step_awaiting,
    fun _ _ _ _ => hreleased.step_asking, fun _ _ _ _ => hreleased.step_retesting, ?_⟩
  · intro i n job stage hi hpledged
    exact (hreleased.finished hi hpledged).imp_left (·.notMem)
  · intro m hm i n job ask haction hi
    obtain ⟨between, rest, rfl⟩ := List.append_of_mem hm
    rw [← List.cons_append, ← List.append_assoc] at h
    obtain ⟨hrun, hstep⟩ := h.of_split
    obtain ⟨conn', hreleased'⟩ := hrun.released hclear
    rw [haction, (hreleased'.step_awaiting hi).1] at hstep
    cases hstep

/-- The stream ends while the server is to answer the handshake. -/
theorem requests_released_handshake :
    ∃ (earlier : List Moment) (clear : Moment) (w next : State) (said : List Effect),
      Run .stock (earlier ++ [clear]) w ∧ clear.forsakes 0 ∧
      w.calls[0]? = some ⟨.start, .awaiting 0 .handshake 1⟩ ∧
      w.step .stock (.expire 0) = none ∧ w.step .stock (.proceed 0) = some (next, said) ∧
      next.calls[0]? = some ⟨.start, .discarding 0
        (.refuse "server closed the connection during initialize")⟩ := by
  obtain ⟨earlier, v, clear, w, conn, hearlier, hlast, hclear, hi, hc, hnone⟩ :
      ∃ earlier v clear w conn,
        State.initial.play .stock
          ([Action.call .start, .proceed 0, .proceed 0, .launched 0 (.ok 4096)] ++
            List.replicate 5 (Action.proceed 0) ++ [Action.received 0 .ended, .read 0]) =
              some (earlier, v) ∧
        v.play .stock [.read 0] = some ([clear], w) ∧ clear.forsakes 0 ∧
        w.calls[0]? = some ⟨.start, .awaiting 0 .handshake 1⟩ ∧
        w.connections[0]? = some conn ∧ conn.answer? 1 = none :=
    ⟨_, _, _, _, _, rfl, rfl, ⟨rfl, _, _, rfl, rfl⟩, rfl, rfl, rfl⟩
  have hrun : Run .stock (earlier ++ [clear]) w := (of_play hearlier).append_play hlast
  obtain ⟨conn', hc', -, hawaiting, -⟩ := hrun.requests_released hclear
  obtain rfl := Option.some.inj (hc.symm.trans hc')
  obtain ⟨hexpire, -, hforsaken⟩ := hawaiting 0 1 .start .handshake hi
  exact ⟨earlier, clear, w, _, _, hrun, hclear, hi, hexpire, hforsaken hnone,
    getElem?_moveCall_self _ hi⟩

end Run

end LanguageClient
