import LanguageClient.Proofs.Session.Losses
import LanguageClient.Proofs.Session.Supervision

/-!
# The cause of a loss

What a reader takes for the failure of its connection is how its stream has ended, and a connection
is marked as closed only after that: `Run.attested`. A stream ends once: `Run.unique_end`. So the
loss that fails a session has one cause. A reader that reports the loss names it, and so does the
event; a start that finds its connection closed calls it an exit of the server whatever the cause
was: `Run.loss_cause`.
-/

namespace LanguageClient

/-! ### The ends of streams -/

/-- What a read of the end of a stream says of the failure of the connection. -/
def Frame.Read.failure? : Frame.Read → Option RuntimeFailure
  | .message _ => none
  | .ended => some .processExited
  | .fault f => some (.streamError f.message)

lemma Frame.Read.isEnd_of_failure? {read : Frame.Read} {failure : RuntimeFailure}
    (h : read.failure? = some failure) : read.isEnd = true := by
  cases read <;> first | rfl | cases h

/-- What a reader takes for the failure of its connection and has not reported yet. -/
def Reader.failure? : Reader → Option RuntimeFailure
  | .closing failure | .clearing failure | .reporting failure => some failure
  | _ => none

/-- The stream of connection `c` has ended with a failure. -/
def StreamEnds (c : Nat) (failure : RuntimeFailure) (past : List Moment) : Prop :=
  ∃ m ∈ past, ∃ read, m.action = .received c read ∧ read.failure? = some failure

lemma StreamEnds.append {c : Nat} {failure : RuntimeFailure} {past : List Moment}
    (h : StreamEnds c failure past) (later : List Moment) :
    StreamEnds c failure (past ++ later) := by
  obtain ⟨m, hm, hread⟩ := h
  exact ⟨m, List.mem_append_left _ hm, hread⟩

/-- What a connection says of the end of its stream is so. -/
structure Connection.Attested (past : List Moment) (c : Nat) (conn : Connection) : Prop where
  reader : ∀ failure, conn.reader.failure? = some failure → StreamEnds c failure past
  closed : conn.closed = true → ∃ failure, StreamEnds c failure past

namespace Connection

variable {past : List Moment} {c : Nat} {conn conn' : Connection}

lemma Attested.fresh (room : Nat) : (Connection.fresh room).Attested past c where
  reader := nofun
  closed := nofun

/-- A mark that was there before is right still. -/
lemma Attested.marked (h : conn.Attested past c) (m : Moment)
    (hclosed : conn'.closed = conn.closed) (hmark : conn'.closed = true) :
    ∃ failure, StreamEnds c failure (past ++ [m]) := by
  obtain ⟨failure, hend⟩ := h.closed (hclosed.symm.trans hmark)
  exact ⟨failure, hend.append _⟩

/-- What says no more than before is right still. -/
lemma Attested.still (h : conn.Attested past c) (m : Moment)
    (hreader : conn'.reader.failure? = none ∨ conn'.reader.failure? = conn.reader.failure?)
    (hclosed : conn'.closed = conn.closed) : conn'.Attested (past ++ [m]) c where
  reader failure hfailure := by
    rcases hreader with hnone | hsame
    · cases hnone.symm.trans hfailure
    · exact (h.reader failure (hsame.symm.trans hfailure)).append _
  closed := h.marked m hclosed

/-- What says how the stream ends in a moment is right. -/
lemma Attested.ends (h : conn.Attested past c) {m : Moment} {read : Frame.Read}
    (haction : m.action = .received c read) (hreader : conn'.reader.failure? = read.failure?)
    (hclosed : conn'.closed = conn.closed) : conn'.Attested (past ++ [m]) c where
  reader _ hfailure :=
    ⟨m, List.mem_append_right _ (List.mem_singleton_self m), read, haction,
      hreader.symm.trans hfailure⟩
  closed := h.marked m hclosed

end Connection

namespace State

variable {s : Setup} {w w' : State} {a : Action} {i c : Nat} {said : List Effect}
  {past : List Moment} {conn conn' : Connection} {failure g : RuntimeFailure}

lemma Exchange.closed {before after : Stage} {f : Connection → Connection}
    (h : Exchange s w c before f after said) (conn : Connection) :
    (f conn).closed = conn.closed := by
  cases h <;> rfl

lemma Touch.attested (h : Touch s w a said c conn conn') (hconn : conn.Attested past c)
    {m : Moment} (haction : m.action = a) : conn'.Attested (past ++ [m]) c := by
  cases h with
  | same | notice | letGo => exact hconn.still m (.inr rfl) rfl
  | exchange _ _ hex => exact hconn.still m (.inr (by rw [hex.reader])) (hex.closed conn)
  | reap | abort | report => exact hconn.still m (.inl rfl) rfl
  | deed hdeed =>
    cases hdeed with
    | write hstep =>
      rw [Connection.stepWriter_eq hstep]
      exact hconn.still m (.inr rfl) rfl
    | reply | forgo | request => exact hconn.still m (.inl rfl) rfl
    | respond | drained | broken => exact hconn.still m (.inr rfl) rfl
    | ended | fault => exact hconn.ends haction rfl rfl
    | @close failure hreader =>
      have hend : StreamEnds c failure (past ++ [m]) :=
        (hconn.reader failure (by rw [hreader]; rfl)).append [m]
      constructor
      · rintro _ ⟨⟩
        exact hend
      · exact fun _ => ⟨failure, hend⟩
    | clear hreader => exact hconn.still m (.inr (by rw [hreader]; rfl)) rfl

/-- A session that a loss fails has failed with what was said of the loss, and tells the host so. -/
lemma failed_of_lose (hrunning : w.phase = .running)
    (hfailed : (w.lose s c failure).1.phase = .failed (.runtime g)) :
    w.Heeds c ∧ g = failure ∧
      ∃ kept, news (w.lose s c failure).2 = [.emitted (.connectionLost g) kept] := by
  by_cases hheeds : w.Heeds c
  · obtain rfl : failure = g := by
      have hphase := (phase_lose_of_heeds s w c failure hheeds).symm.trans hfailed
      injection hphase with hcause
      injection hcause
    exact ⟨hheeds, rfl, _, (lose_of_heeds s w c failure hheeds).2⟩
  · rw [lose_of_not_heeds s w c failure hheeds, hrunning] at hfailed
    cases hfailed

/-- A running session fails by the report of a loss, of a reader or of a start. -/
lemma Turn.loses (h : Turn s w a w' said) (hrunning : w.phase = .running)
    (hfailed : w'.phase = .failed (.runtime g)) :
    ∃ c, w.Heeds c ∧ (∃ kept, said = [.emitted (.connectionLost g) kept]) ∧
      (a = .read c ∧ (∃ conn, w.connections[c]? = some conn ∧ conn.reader = .reporting g) ∨
        (∃ i job, a = .proceed i ∧ w.calls[i]? = some ⟨job, .verifying c⟩) ∧
          w.isClosed c = true ∧ g = .processExited) := by
  cases hreports : w.reports? a with
  | none =>
    have hlost := (h.unreported hreports).phase (by rw [hfailed]; rfl)
    rw [hrunning] at hlost
    cases hlost
  | some c =>
    rcases of_reports hreports with ⟨rfl, conn, failure, hc, hreader⟩ | ⟨i, job, rfl, hi, hclosed⟩
    · cases h with
      | advance _ hadv => cases hadv.caller
      | deed hc' hdeed =>
        rw [modifyConnection] at hfailed
        cases hrunning.symm.trans hfailed
      | report hc' hother =>
        obtain rfl := Option.some.inj (hc.symm.trans hc')
        obtain rfl := Reader.reporting.inj (hreader.symm.trans hother)
        obtain ⟨hheeds, rfl, hsaid⟩ := failed_of_lose (by exact hrunning) hfailed
        rw [heeds_modifyConnection] at hheeds
        exact ⟨c, hheeds, hsaid, .inl ⟨rfl, conn, hc, hreader⟩⟩
    · obtain ⟨job', stage, hi', hadv⟩ := h.of_caller rfl
      cases Option.some.inj (hi.symm.trans hi')
      cases hadv with
      | exchange _ hex => cases hex
      | refused _ _ hstage => rcases hstage with hstage | ⟨hstage, -⟩ <;> cases hstage
      | lose =>
        obtain ⟨hheeds, rfl, hsaid⟩ := failed_of_lose hrunning hfailed
        exact ⟨c, hheeds, hsaid, .inr ⟨⟨i, job, rfl, hi⟩, hclosed, rfl⟩⟩
      | verify => cases hrunning.symm.trans hfailed

/-- A reader takes from the stream only while it reads. -/
lemma Turn.reading {read : Frame.Read} (h : Turn s w (.received c read) w' said) :
    ∃ conn, w.connections[c]? = some conn ∧ conn.reader = .reading := by
  cases h with
  | advance _ hadv => cases hadv.caller
  | publish hc hreader | overlook hc hreader => exact ⟨_, hc, hreader⟩
  | deed hc hdeed =>
    cases hdeed with
    | respond hreader | request hreader | ended hreader | fault _ hreader => exact ⟨_, hc, hreader⟩

end State

/-! ### Runs -/

namespace Run

variable {s : Setup} {past later : List Moment} {w : State} {c : Nat} {conn : Connection}
  {f g : RuntimeFailure}

theorem attested (h : Run s past w) (hc : w.connections[c]? = some conn) :
    conn.Attested past c := by
  induction h generalizing conn with
  | initial => simp [State.initial] at hc
  | @step past w w' said a hrun hstep ih =>
    have hturn := State.Turn.of_step hstep
    obtain ⟨old, hold, -⟩ | ⟨-, room, rfl⟩ := hturn.came hc
    · exact (hturn.touch hold hc).attested (ih hold) rfl
    · exact .fresh room

/-- A stream that has ended does not end again. -/
lemma not_ends_again (h : Run s past w) (hf : StreamEnds c f past) {w' : State} {read : Frame.Read}
    {said : List Effect} (hturn : State.Turn s w (.received c read) w' said) : False := by
  obtain ⟨m, hm, before, haction, hfailure⟩ := hf
  obtain ⟨conn, hc, hover⟩ :=
    h.isOver_of_mem hm haction (Frame.Read.isEnd_of_failure? hfailure)
  obtain ⟨conn', hc', hreading⟩ := hturn.reading
  obtain rfl := Option.some.inj (hc.symm.trans hc')
  rw [hreading] at hover
  cases hover

/-- A stream ends but once. -/
theorem unique_end (h : Run s past w) (hf : StreamEnds c f past) (hg : StreamEnds c g past) :
    f = g := by
  induction h with
  | initial =>
    obtain ⟨m, hm, -⟩ := hf
    cases hm
  | @step past w w' said a hrun hstep ih =>
    have hturn := State.Turn.of_step hstep
    have hsplit {e : RuntimeFailure} (he : StreamEnds c e (past ++ [⟨w, a, w', said⟩])) :
        StreamEnds c e past ∨ ∃ read, a = .received c read ∧ read.failure? = some e := by
      obtain ⟨m, hm, hread⟩ := he
      rcases List.mem_append.mp hm with hm | hm
      · exact .inl ⟨m, hm, hread⟩
      · obtain rfl := List.mem_singleton.mp hm
        exact .inr hread
    rcases hsplit hf with hbefore | ⟨read, haction, hnow⟩
    · rcases hsplit hg with hbefore' | ⟨read, rfl, -⟩
      · exact ih hbefore hbefore'
      · exact (hrun.not_ends_again hbefore hturn).elim
    · rcases hsplit hg with hbefore | ⟨read', haction', hnow'⟩
      · rw [haction] at hturn
        exact (hrun.not_ends_again hbefore hturn).elim
      · obtain ⟨-, rfl⟩ := Action.received.inj (haction.symm.trans haction')
        exact Option.some.inj (hnow.symm.trans hnow')

/--
When a loss fails a running session, the stream of its connection has ended before, in one way only.
The state names a failure, and the event that tells the host of the loss names the same. That is how
the stream has ended, if the reader reports the loss. If a start does, which finds its connection
closed, it is an exit of the server however the stream has ended.
-/
theorem loss_cause {loss : Moment} (h : Run s (past ++ loss :: later) w)
    (hrunning : loss.before.phase = .running)
    (hfailed : loss.after.phase = .failed (.runtime g)) :
    ∃ c f, loss.before.isNewest c = true ∧ (∀ e, StreamEnds c e past ↔ e = f) ∧
      loss.after.phase.failure? = some (.runtime g) ∧
      (∃ kept, news loss.said = [.emitted (.connectionLost g) kept]) ∧
      (loss.action = .read c ∧ g = f ∨
        (∃ i job, loss.action = .proceed i ∧ loss.before.calls[i]? = some ⟨job, .verifying c⟩) ∧
          g = .processExited) := by
  obtain ⟨hrun, hstep⟩ := h.of_split
  obtain ⟨c, hheeds, hsaid, hcause⟩ := (State.Turn.of_step hstep).loses hrunning hfailed
  have hlast : loss.after.phase.failure? = some (.runtime g) := by rw [hfailed]; rfl
  have honly {f : RuntimeFailure} (hf : StreamEnds c f past) (e : RuntimeFailure) :
      StreamEnds c e past ↔ e = f :=
    ⟨fun he => hrun.unique_end he hf, fun he => he ▸ hf⟩
  rcases hcause with ⟨haction, conn, hc, hreader⟩ | ⟨hstart, hclosed, rfl⟩
  · have hend := (hrun.attested hc).reader g (by rw [hreader]; rfl)
    exact ⟨c, g, hheeds.1, honly hend, hlast, hsaid, .inl ⟨haction, rfl⟩⟩
  · obtain ⟨conn, hc, hmark⟩ : ∃ conn, loss.before.connections[c]? = some conn ∧ conn.closed := by
      simpa [State.isClosed, Option.any_eq_true] using hclosed
    obtain ⟨f, hend⟩ := (hrun.attested hc).closed hmark
    exact ⟨c, f, hheeds.1, honly hend, hlast, hsaid, .inr ⟨hstart, rfl⟩⟩

/-- The server of a running session writes garbage, and the reader reports it. -/
theorem loss_cause_garbage :
    ∃ past loss w f, Run .stock (past ++ [loss]) w ∧ loss.before.phase = .running ∧
      loss.after.phase = .failed (.runtime f) ∧ StreamEnds 0 f past ∧ loss.action = .read 0 ∧
      f = .streamError "malformed header line: \"garbage\"" := by
  obtain ⟨past, w₁, loss, w, hpast, hloss, hrunning, hfailed, haction⟩ :
      ∃ past w₁ loss w,
        State.initial.play .stock (Action.firstStart ++
          [Action.received 0 (.fault (.malformedLine "garbage".toList)), .read 0, .read 0]) =
            some (past, w₁) ∧
        w₁.play .stock [.read 0] = some ([loss], w) ∧ loss.before.phase = .running ∧
        loss.after.phase =
          .failed (.runtime (.streamError (Frame.Fault.malformedLine "garbage".toList).message)) ∧
        loss.action = .read 0 :=
    ⟨_, _, _, _, rfl, rfl, rfl, rfl, rfl⟩
  have hrun : Run .stock (past ++ [loss]) w := (of_play hpast).append_play hloss
  obtain ⟨c, f, -, honly, -, -, ⟨hread, rfl⟩ | ⟨⟨i, job, hproceed, -⟩, -⟩⟩ :=
    hrun.loss_cause hrunning hfailed
  · obtain rfl := Action.read.inj (haction.symm.trans hread)
    exact ⟨past, loss, w, _, hrun, hrunning, hfailed, (honly _).mpr rfl, haction, by rfl⟩
  · cases haction.symm.trans hproceed

/-- The server writes garbage behind its answer to the handshake, and the reader is done before the
session is running. The start says that the server has exited. -/
theorem loss_cause_mistaken :
    ∃ past loss w f g, ∃ conn : Connection, Run .stock (past ++ [loss]) w ∧
      StreamEnds 0 f past ∧ loss.before.connections[0]? = some conn ∧ conn.reader.hasEnded = true ∧
      loss.before.phase = .running ∧ loss.after.phase = .failed (.runtime g) ∧ g ≠ f := by
  obtain ⟨past, w₁, loss, w, conn, hpast, hloss, hc, hended, hrunning, hfailed, hread⟩ :
      ∃ past w₁ loss w, ∃ conn : Connection,
        State.initial.play .stock (Action.firstStart.take 11 ++
          [Action.received 0 (.fault (.malformedLine "garbage".toList)), .read 0, .read 0,
            .read 0] ++
          (Action.firstStart.drop 11).take 4) = some (past, w₁) ∧
        w₁.play .stock [.proceed 0] = some ([loss], w) ∧
        loss.before.connections[0]? = some conn ∧ conn.reader.hasEnded = true ∧
        loss.before.phase = .running ∧ loss.after.phase = .failed (.runtime .processExited) ∧
        (past[11]?).map (·.action) =
          some (.received 0 (.fault (.malformedLine "garbage".toList))) :=
    ⟨_, _, _, _, _, rfl, rfl, rfl, rfl, rfl, rfl, rfl⟩
  obtain ⟨m, hm, haction⟩ := Option.map_eq_some_iff.mp hread
  have hend : StreamEnds 0 (.streamError (Frame.Fault.malformedLine "garbage".toList).message)
      past := ⟨m, List.mem_of_getElem? hm, _, haction, rfl⟩
  exact ⟨past, loss, w, _, _, conn, (of_play hpast).append_play hloss, hend, hc, hended, hrunning,
    hfailed, nofun⟩

end Run

end LanguageClient
