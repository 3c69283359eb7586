import LanguageClient.Proofs.Session.Progress
import LanguageClient.Proofs.Session.Supervision
import LanguageClient.Proofs.Session.Wire

/-!
# Writers that have ended

A writer ends when it fails to write, when it comes to the command to close the pipe, which only a
call gives that is about to let the connection go, or when the connection has been let go. So the
writer of the connection in the slot has ended exactly when it has failed to write:
`Run.hasEnded_iff_of_slot`. When a running session has nothing more to do, its reader cannot be
over, since the end of a reader fails the session. Its writer can: `Run.rest_running`.
-/

namespace LanguageClient

/-! ### The end of a writer -/

/-- The connection that a call is about to let go, having told the writer to close the pipe. -/
def Stage.leaves? : Stage → Option Nat
  | .draining c _ | .reaping c _ | .aborting c _ => some c
  | _ => none

lemma Stage.owned?_of_leaves? {stage : Stage} {c : Nat}
    (h : stage.leaves? = some c) : stage.owned? = some c := by
  cases stage <;> first | exact h | cases h

namespace Connection

variable {c : Nat} {conn conn' : Connection} {a : Action} {said : List Effect}

/-- The writer has ended, or will once it comes to the command to close the pipe. -/
def Shuts (conn : Connection) : Prop := conn.writer.hasEnded = true ∨ Command.close ∈ conn.outbox

lemma not_shuts_fresh (room : Nat) : ¬(Connection.fresh room).Shuts := by
  simp [Shuts, fresh, Writer.hasEnded]

/-- A frame in the outbox does not shut a connection. -/
lemma Shuts.of_push {frame : Json} (h : (conn.push (.send frame)).Shuts) : conn.Shuts := by
  simpa [Shuts, push] using h

/-- A writer that ends has failed to write, or had been told to end, as long as somebody has the
connection. -/
lemma Shuts.of_stepWriter {written : Written} (h : conn'.Shuts)
    (hstep : conn.stepWriter = some (conn', written)) (hheld : conn.held = true) :
    conn.Shuts ∨ ∃ part reason, written = .failed part reason := by
  cases Writes.of_stepWriter hstep with
  | goOn _ _ halive _ hout =>
    rcases h with hended | hclose
    · cases halive.symm.trans hended
    · exact .inl (.inr (hout ▸ hclose))
  | take frame _ hout halive =>
    rcases h with hended | hclose
    · cases halive.symm.trans hended
    · exact .inl (.inr (hout ▸ List.mem_cons_of_mem _ hclose))
  | fail part reason => exact .inr ⟨part, reason, rfl⟩
  | close rest _ hout => exact .inl (.inr (hout ▸ List.mem_cons_self ..))
  | leave hidle hout => simp [stepWriter, hidle, hout, hheld] at hstep

/-- Of its own tasks only the writer shuts a connection, by failing to write. -/
lemma Deed.shuts (h : conn.Deed c a conn' said) (hshuts : conn'.Shuts) (hheld : conn.held = true) :
    conn.Shuts ∨
      a = .write c ∧ ∃ part reason, conn.stepWriter = some (conn', .failed part reason) := by
  cases h with
  | write hstep =>
    rcases hshuts.of_stepWriter hstep hheld with hbefore | ⟨part, reason, rfl⟩
    · exact .inl hbefore
    · exact .inr ⟨rfl, part, reason, hstep⟩
  | reply => exact .inl (Shuts.of_push hshuts)
  | _ => exact .inl hshuts

end Connection

namespace State

variable {s : Setup} {w w' : State} {a : Action} {i c : Nat} {said : List Effect} {job : Job}
  {stage : Stage} {conn' : Connection}

/-- A call is about to let connection `c` go. -/
def Leaves (w : State) (c : Nat) : Prop :=
  ∃ (i : Nat) (call : Call), w.calls[i]? = some call ∧ call.stage.leaves? = some c

/-- Somebody has connection `c`, and it is shut or going to be. -/
def Shuts (w : State) (c : Nat) : Prop :=
  ∃ conn, w.connections[c]? = some conn ∧ conn.held = true ∧ conn.Shuts

/-- A change that shuts no connection and takes none back. -/
lemma Shuts.of_modify {k : Nat} {f : Connection → Connection}
    (h : (w.modifyConnection k f).Shuts c)
    (hf : ∀ conn, (f conn).held = true → conn.held = true ∧ ((f conn).Shuts → conn.Shuts)) :
    w.Shuts c := by
  obtain ⟨conn', hc', hheld, hshuts⟩ := h
  obtain ⟨conn, hc, rfl | ⟨-, rfl⟩⟩ := of_getElem?_modify hc'
  · exact ⟨conn', hc, hheld, hshuts⟩
  · obtain ⟨hheld', himp⟩ := hf conn hheld
    exact ⟨conn, hc, hheld', himp hshuts⟩

/-- Only a call that is about to let a connection go has its writer end. -/
lemma Exchange.shuts {before after : Stage} {f : Connection → Connection}
    (h : Exchange s w c before f after said) :
    after.leaves? = some c ∨
      ∀ conn : Connection, (f conn).held = conn.held ∧ ((f conn).Shuts → conn.Shuts) := by
  cases h with
  | closing | discarding | undrained | unclosed | drained | undiscarded => exact .inl rfl
  | asked | announced | reopened | dismissing => exact .inr fun _ => ⟨rfl, Connection.Shuts.of_push⟩
  | _ => exact .inr fun _ => ⟨rfl, id⟩

lemma Advance.shuts (h : Advance s w i job a stage w' said) (hi : w.calls[i]? = some ⟨job, stage⟩)
    (hshuts : w'.Shuts c) : w.Shuts c ∨ w'.Leaves c := by
  cases h with
  | @exchange _ _ k _ after f _ _ hex =>
    rcases hex.shuts with hleaves | hsame
    · rcases eq_or_ne k c with rfl | hne
      · exact .inr ⟨i, ⟨job, after⟩, getElem?_moveCall_self _ hi, hleaves⟩
      · obtain ⟨conn, hc, hconn⟩ := hshuts
        exact .inl ⟨conn, (List.getElem?_modify_ne _ _ hne).symm.trans hc, hconn⟩
    · exact .inl (hshuts.of_modify fun conn hheld => ⟨(hsame conn).1 ▸ hheld, (hsame conn).2⟩)
  | launched room =>
    obtain ⟨conn, hc, hheld, hshut⟩ := hshuts
    have hc : (w.connections ++ [Connection.fresh room])[c]? = some conn := hc
    rw [List.getElem?_append] at hc
    split at hc
    case isTrue => exact .inl ⟨conn, hc, hheld, hshut⟩
    case isFalse =>
      obtain rfl := List.mem_singleton.mp (List.mem_of_getElem? hc)
      exact (Connection.not_shuts_fresh room hshut).elim
  | lose =>
    rw [Shuts, setStage, connections_lose] at hshuts
    exact .inl hshuts
  | reaped | relaunch | refuse | aborted =>
    exact .inl (hshuts.of_modify fun _ hheld => absurd hheld Bool.false_ne_true)
  | sent notice => exact .inl (hshuts.of_modify fun _ hheld => ⟨hheld, Connection.Shuts.of_push⟩)
  | _ => exact .inl hshuts

/-- A connection that somebody has is shut by a call that is about to let it go, or because its
writer fails to write. -/
lemma Turn.shuts (h : Turn s w a w' said) (hshuts : w'.Shuts c) (heard : List Effect) :
    w.Shuts c ∨ w'.Leaves c ∨ Moment.failsToWrite ⟨w, a, w', heard⟩ c := by
  cases h with
  | drop =>
    unfold State.drop at hshuts
    split at hshuts
    · exact .inl (hshuts.of_modify nofun)
    · exact .inl hshuts
  | advance hi hadv =>
    rcases hadv.shuts hi hshuts with hbefore | hleaves
    · exact .inl hbefore
    · exact .inr (.inl hleaves)
  | @deed _ k conn conn' _ hk hdeed =>
    obtain ⟨shut, hc, hheld, hshut⟩ := hshuts
    obtain ⟨old, hold, rfl | ⟨rfl, rfl⟩⟩ := of_getElem?_modify hc
    · exact .inl ⟨shut, hold, hheld, hshut⟩
    · obtain rfl := Option.some.inj (hk.symm.trans hold)
      have hheld : conn.held = true := hdeed.held ▸ hheld
      rcases hdeed.shuts hshut hheld with hbefore | ⟨rfl, part, reason, hstep⟩
      · exact .inl ⟨conn, hk, hheld, hbefore⟩
      · exact .inr (.inr ⟨rfl, conn, _, part, reason, hk, hstep⟩)
  | publish =>
    rw [emit_fst] at hshuts
    exact .inl hshuts
  | report =>
    rw [Shuts, connections_lose] at hshuts
    exact .inl (Shuts.of_modify hshuts fun _ hheld => ⟨hheld, id⟩)
  | _ => exact .inl hshuts

/-- A connection that has been let go is not held. -/
lemma not_held_modify {f : Connection → Connection} (hf : ∀ conn, (f conn).held = false)
    {conn : Connection} (hc : (w.connections.modify c f)[c]? = some conn) : conn.held = false := by
  rw [List.getElem?_modify_eq] at hc
  obtain ⟨old, -, rfl⟩ := Option.map_eq_some_iff.mp hc
  exact hf old

/-- A call that is about to let a connection go stays so until it does. -/
lemma Advance.leaves (h : Advance s w i job a stage w' said) (hi : w.calls[i]? = some ⟨job, stage⟩)
    (hleaves : stage.leaves? = some c) {conn : Connection} (hc : w'.connections[c]? = some conn)
    (hheld : conn.held = true) : w'.Leaves c := by
  have hgone {f : Connection → Connection} (hf : ∀ conn, (f conn).held = false)
      (hc : (w.connections.modify c f)[c]? = some conn) : w'.Leaves c := by
    rw [not_held_modify hf hc] at hheld
    cases hheld
  cases h with
  | exchange _ hex =>
    cases hex with
    | drained | undrained =>
      obtain rfl := Option.some.inj hleaves
      exact ⟨i, _, getElem?_moveCall_self _ hi, rfl⟩
    | _ => cases hleaves
  | refused _ _ hstage => rcases hstage with rfl | ⟨rfl, -⟩ <;> cases hleaves
  | reaped | relaunch | refuse | aborted =>
    obtain rfl := Option.some.inj hleaves
    exact hgone (fun _ => rfl) hc
  | _ => cases hleaves

lemma Turn.leaves (h : Turn s w a w' said) (hleaves : w.Leaves c) {conn : Connection}
    (hc : w'.connections[c]? = some conn) (hheld : conn.held = true) : w'.Leaves c := by
  obtain ⟨i, call, hi, hleaves⟩ := hleaves
  cases h with
  | @drop k dropped hk =>
    rcases eq_or_ne k i with rfl | hne
    · obtain rfl := Option.some.inj (hk.symm.trans hi)
      rw [drop_of_owned (Stage.owned?_of_leaves? hleaves)] at hc
      rw [not_held_modify (fun _ => rfl) hc] at hheld
      cases hheld
    · refine ⟨i, call, ?_, hleaves⟩
      unfold State.drop
      split <;> exact (getElem?_moveCall_ne _ _ hne).trans hi
  | @advance _ k job stage _ _ hk hadv =>
    rcases eq_or_ne k i with rfl | hne
    · obtain rfl := Option.some.inj (hk.symm.trans hi)
      exact hadv.leaves hi hleaves hc hheld
    · exact ⟨i, call, hadv.other hi hne, hleaves⟩
  | call | activate => exact ⟨i, call, getElem?_append_call _ hi, hleaves⟩
  | publish =>
    rw [emit_fst]
    exact ⟨i, call, hi, hleaves⟩
  | report => exact ⟨i, call, getElem?_calls_lose hi, hleaves⟩
  | _ => exact ⟨i, call, hi, hleaves⟩

/-- A reader that is over and has not reported the loss goes on. -/
lemma step_read_of_isOver {conn : Connection} (hc : w.connections[c]? = some conn)
    (hover : conn.reader.isOver = true) (hended : conn.reader.hasEnded = false) :
    (w.step s (.read c)).isSome = true := by
  cases hreader : conn.reader with
  | closing | clearing | reporting => simp [step, hc, stepReader, hreader]
  | reading | replying => simp [hreader, Reader.isOver] at hover
  | ended => simp [hreader, Reader.hasEnded] at hended

/-- The client is at rest when its only call is done and its only connection has nothing to do. -/
lemma rest_of_single {outcome : Outcome} {conn : Connection}
    (hcalls : w.calls = [⟨job, .done outcome⟩]) (hconnections : w.connections = [conn])
    (hwriter : conn.stepWriter = none) (hreader : conn.reader = .reading)
    (hclient : a.isClient = true) : w.step s a = none := by
  refine step_eq_none_of_stuck ?_ ?_ hclient
  · intro i call hi
    have hmem := List.mem_of_getElem? hi
    rw [hcalls, List.mem_singleton] at hmem
    subst hmem
    exact ⟨rfl, rfl, nofun, nofun⟩
  · intro c other hc
    have hmem := List.mem_of_getElem? hc
    rw [hconnections, List.mem_singleton] at hmem
    subst hmem
    exact ⟨hwriter, by simp [stepReader, hreader]⟩

end State

/-! ### Runs -/

namespace Run

variable {s : Setup} {past : List Moment} {w : State} {c : Nat} {conn : Connection}

theorem shuts (h : Run s past w) (hshuts : w.Shuts c) :
    w.Leaves c ∨ ∃ m ∈ past, m.failsToWrite c := by
  induction h with
  | initial =>
    obtain ⟨conn, hc, -⟩ := hshuts
    simp [State.initial] at hc
  | @step past w w' said a hrun hstep ih =>
    have hturn := State.Turn.of_step hstep
    obtain ⟨conn, hc, hheld, hshut⟩ := hshuts
    rcases hturn.shuts ⟨conn, hc, hheld, hshut⟩ said with hbefore | hleaves | hfails
    · rcases ih hbefore with hleaves | ⟨m, hm, hfails⟩
      · exact .inl (hturn.leaves hleaves hc hheld)
      · exact .inr ⟨m, List.mem_append_left _ hm, hfails⟩
    · exact .inl hleaves
    · exact .inr ⟨_, List.mem_append_right _ (List.mem_singleton_self _), hfails⟩

/-- The writer of the connection in the slot ends by failing to write, and not otherwise. -/
lemma hasEnded_iff_of_slot (h : Run s past w) (hslot : w.slot = some c)
    (hc : w.connections[c]? = some conn) :
    conn.writer.hasEnded = true ↔ ∃ m ∈ past, m.failsToWrite c := by
  have hsound : State.Sound False w := h.sound nofun
  have hheld : conn.held = true := ((hsound.alive_of_slot hslot).held_iff hc).mpr rfl
  constructor
  · intro hended
    refine (h.shuts ⟨conn, hc, hheld, .inl hended⟩).resolve_left ?_
    rintro ⟨i, call, hi, hleaves⟩
    have hnone := (hsound.of_owned hi (Stage.owned?_of_leaves? hleaves)).2
    cases hslot.symm.trans hnone
  · rintro ⟨m, hm, hfails⟩
    obtain ⟨earlier, later, rfl, -, hstep⟩ := h.step_of_mem hm
    obtain ⟨old, hold, hended⟩ := hasEnded_of_end hstep (.inr hfails)
    obtain ⟨-, conn', hc', hended'⟩ := h.bytesOn_eq_nil_after hold hended
    obtain rfl := Option.some.inj (hc.symm.trans hc')
    exact hended'

/--
When the client has nothing more to do by itself and the session is running, no end of the stream
has been read on its connection: each takes the session out of that phase. A failure to write does
not. It is the only thing by which the writer can have ended, and if there was one, it has.
-/
theorem rest_running (h : Run s past w) (hrunning : w.phase = .running)
    (hrest : ∀ a, a.isClient = true → w.step s a = none) :
    ∃ c conn, w.slot = some c ∧ w.connections[c]? = some conn ∧
      (∀ m ∈ past, ∀ read, m.action = .received c read → read.isEnd = false) ∧
      (conn.writer.hasEnded = true ↔ ∃ m ∈ past, m.failsToWrite c) := by
  have hsound : State.Sound False w := h.sound nofun
  obtain ⟨c, hslot⟩ := hsound.exists_slot hrunning
  obtain ⟨conn, hc⟩ := (hsound.alive_of_slot hslot).getElem?
  refine ⟨c, conn, hslot, hc, fun m hm read haction => ?_, h.hasEnded_iff_of_slot hslot hc⟩
  by_contra hend
  obtain ⟨conn', hc', hover⟩ := h.isOver_of_mem hm haction (by simpa using hend)
  cases hended : conn'.reader.hasEnded with
  | false =>
    have hread := State.step_read_of_isOver (s := s) hc' hover hended
    rw [hrest _ rfl] at hread
    cases hread
  | true =>
    obtain ⟨i, job, hi⟩ := h.supervised c ⟨hslot, hrunning, conn', hc', hended⟩
    have hproceed := State.step_proceed (s := s) hi
    rw [hrest _ rfl] at hproceed
    cases hproceed

/-- A server that has answered the handshake takes nothing from its pipe. The client is at rest with
the writer in the middle of a frame. -/
theorem rest_running_held_up :
    ∃ past w, ∃ conn : Connection, Run .stock past w ∧ w.phase = .running ∧
      (∀ a, a.isClient = true → w.step .stock a = none) ∧ w.connections[0]? = some conn ∧
      conn.writer.hasEnded = false ∧ ∀ m ∈ past, ¬m.failsToWrite 0 := by
  obtain ⟨past, w, conn, outcome, header, body, hplay, hrunning, hcalls, hconnections, hslot,
      hwriter, hroom, hfault, hreader⟩ :
      ∃ past w conn outcome header body,
        State.initial.play .stock
          (Action.firstStart.set 3 (.launched 0 (.ok 0)) ++ [Action.write 0]) =
          some (past, w) ∧
        w.phase = .running ∧ w.calls = [⟨.start, .done outcome⟩] ∧ w.connections = [conn] ∧
        w.slot = some 0 ∧ conn.writer = .writing header body ∧ conn.room = 0 ∧
        conn.fault = none ∧ conn.reader = .reading :=
    ⟨_, _, _, _, _, _, rfl, rfl, rfl, rfl, rfl, rfl, rfl, rfl, rfl⟩
  have hheld_up : conn.stepWriter = none := by
    simp [Connection.stepWriter, hwriter, Connection.write, hfault, hroom]
  have hrest (a : Action) (hclient : a.isClient = true) : w.step .stock a = none :=
    State.rest_of_single hcalls hconnections hheld_up hreader hclient
  have halive : conn.writer.hasEnded = false := by rw [hwriter]; rfl
  have hc : w.connections[0]? = some conn := by rw [hconnections]; rfl
  obtain ⟨c, conn', hslot', hc', -, hwriter'⟩ := (of_play hplay).rest_running hrunning hrest
  obtain rfl := Option.some.inj (hslot.symm.trans hslot')
  obtain rfl := Option.some.inj (hc.symm.trans hc')
  refine ⟨past, w, conn, of_play hplay, hrunning, hrest, hc, halive, fun m hm hfails => ?_⟩
  cases halive.symm.trans (hwriter'.mpr ⟨m, hm, hfails⟩)

/-- The pipe to the server of a running session breaks, and the writer fails to write. The client is
at rest then, and the session is still running. -/
theorem rest_running_broken :
    ∃ past w, ∃ conn : Connection, Run .stock past w ∧ w.phase = .running ∧
      (∀ a, a.isClient = true → w.step .stock a = none) ∧ w.slot = some 0 ∧
      w.connections[0]? = some conn ∧ conn.writer.hasEnded = true := by
  obtain ⟨past, w, conn, outcome, hplay, hrunning, hcalls, hconnections, hslot, hwriter, hreader⟩ :
      ∃ past w conn outcome,
        State.initial.play .stock
          (Action.firstStart ++ [Action.broken 0 "broken pipe", .write 0, .write 0]) =
            some (past, w) ∧
        w.phase = .running ∧ w.calls = [⟨.start, .done outcome⟩] ∧ w.connections = [conn] ∧
        w.slot = some 0 ∧ conn.writer = .ended ∧ conn.reader = .reading :=
    ⟨_, _, _, _, rfl, rfl, rfl, rfl, rfl, rfl, rfl⟩
  have hended : conn.stepWriter = none := by simp [Connection.stepWriter, hwriter]
  refine ⟨past, w, conn, of_play hplay, hrunning, fun a hclient => ?_, hslot, ?_, ?_⟩
  · exact State.rest_of_single hcalls hconnections hended hreader hclient
  · rw [hconnections]
    rfl
  · rw [hwriter]
    rfl

end Run

end LanguageClient
