import LanguageClient.Proofs.Session.Connections
import LanguageClient.Proofs.Session.Sound

/-!
# No connection is lost unnoticed

The reader marks a connection as closed before it tells the session of the loss, and a start looks
at the mark after it has made the session running. So one of the two takes notice, whichever comes
first: `Run.no_lost_supervision`.
-/

namespace LanguageClient

/-! ### The mark -/

/-- Whether a reader has marked its connection as closed. -/
def Reader.hasMarked : Reader → Bool
  | .clearing _ | .reporting _ | .ended => true
  | _ => false

/-- Whether a reader has seen the stream end. -/
def Reader.isOver : Reader → Bool
  | .closing _ | .clearing _ | .reporting _ | .ended => true
  | _ => false

/-- A read that ends the stream. -/
def Frame.Read.isEnd : Frame.Read → Bool
  | .message _ => false
  | .ended | .fault _ => true

namespace Connection

variable {conn conn' : Connection}

/-- A held connection is marked as closed from when its reader has done so. -/
def Marked (conn : Connection) : Prop :=
  conn.held = true → conn.reader.hasMarked = true → conn.closed = true

lemma Marked.fresh (room : Nat) : (Connection.fresh room).Marked := nofun

lemma Marked.change (h : conn.Marked) (hchange : conn.Change conn') : conn'.Marked := by
  cases hchange with
  | deed hdeed =>
    cases hdeed with
    | write hstep =>
      rw [stepWriter_eq hstep]
      exact h
    | reply | forgo | request | ended | fault => nofun
    | close => exact fun _ _ => rfl
    | clear hreader => exact fun hheld _ => h hheld (by simp [hreader, Reader.hasMarked])
    | respond | drained | broken => exact h
  | report hreader => exact fun hheld _ => h hheld (by simp [hreader, Reader.hasMarked])
  | reap | abort | letGo => nofun
  | _ => exact h

/-- Only the report of a loss is the end of a reader. -/
lemma Deed.hasEnded {c : Nat} {a : Action} {said : List Effect} (h : conn.Deed c a conn' said)
    (hended : conn'.reader.hasEnded = true) : conn.reader.hasEnded = true := by
  cases h with
  | write hstep => rwa [stepWriter_eq hstep] at hended
  | respond | drained | broken => exact hended
  | _ => cases hended

/-- A stream that has ended does not begin again. -/
lemma Change.isOver (h : conn.Change conn') (hover : conn.reader.isOver = true) :
    conn'.reader.isOver = true := by
  cases h with
  | deed hdeed =>
    cases hdeed with
    | write hstep =>
      rw [stepWriter_eq hstep]
      exact hover
    | reply hreader | forgo hreader => simp [hreader, Reader.isOver] at hover
    | close | clear | ended | fault => rfl
    | request hreader => simp [hreader, Reader.isOver] at hover
    | respond | drained | broken => exact hover
  | reap | abort | report => rfl
  | _ => exact hover

end Connection

/-! ### The look at the mark -/

namespace State

variable {s : Setup} {w w' : State} {a : Action} {i c : Nat} {said : List Effect}

/-- The reader of the connection in the slot is done, and yet the session is running. -/
def Unheeded (w : State) (c : Nat) : Prop :=
  w.slot = some c ∧ w.phase = .running ∧
    ∃ conn, w.connections[c]? = some conn ∧ conn.reader.hasEnded = true

/-- A loss that is not heeded will be: a start is about to look. -/
def Supervised (w : State) : Prop :=
  ∀ c, w.Unheeded c → ∃ (i : Nat) (job : Job), w.calls[i]? = some ⟨job, .verifying c⟩

lemma Unheeded.of_modify {k : Nat} {f : Connection → Connection}
    (h : (w.modifyConnection k f).Unheeded c)
    (hf : ∀ conn, w.connections[k]? = some conn → (f conn).reader.hasEnded = true →
      conn.reader.hasEnded = true) : w.Unheeded c := by
  obtain ⟨hslot, hphase, conn', hc, hended⟩ := h
  obtain ⟨conn, hold, rfl | ⟨rfl, rfl⟩⟩ := of_getElem?_modify hc
  · exact ⟨hslot, hphase, conn', hold, hended⟩
  · exact ⟨hslot, hphase, conn, hold, hf conn hold hended⟩

namespace Sound

/-- Only a start that makes the session running can leave a loss unheeded. -/
lemma unheeded_of_advance (h : Sound False w) {job : Job} {stage : Stage}
    (hi : w.calls[i]? = some ⟨job, stage⟩) (hadv : Advance s w i job a stage w' said)
    (hraising : ∀ k, stage ≠ .raising k) (hverifying : ∀ k, stage ≠ .verifying k)
    (hnew : w'.Unheeded c) : w.Unheeded c := by
  cases hadv with
  | exchange _ hex =>
    refine Unheeded.of_modify hnew fun conn _ hended => ?_
    rwa [← hex.reader conn]
  | launched room =>
    obtain ⟨live, -, hphase, -⟩ := h.fits_of_inside hi rfl
    cases hphase.symm.trans hnew.2.1
  | settle k =>
    obtain ⟨live, -, hphase, -⟩ := h.fits_of_inside hi rfl
    cases hphase.symm.trans hnew.2.1
  | reaped | aborted =>
    obtain ⟨live, -, hphase, -⟩ := h.fits_of_inside hi rfl
    cases hphase.symm.trans hnew.2.1
  | raise k => exact absurd rfl (hraising k)
  | lose => exact absurd rfl (hverifying _)
  | verify => exact absurd rfl (hverifying _)
  | sent notice => exact Unheeded.of_modify hnew fun _ _ hended => hended
  | vacate | stop | stopNobody => cases hnew.1
  | launch | launchFailed | conclude | relaunch | refuse => cases hnew.2.1
  | _ => exact hnew

lemma exists_slot {kept : Prop} (h : Sound kept w) (hrunning : w.phase = .running) :
    ∃ c, w.slot = some c := by
  obtain ⟨live, -, hfits⟩ := h.fits
  rw [hrunning] at hfits
  exact Option.isSome_iff_exists.mp hfits.isSome_slot

/-- The connection in the slot is the newest. -/
lemma isNewest_of_slot (h : Sound False w) (hslot : w.slot = some c) : w.isNewest c = true :=
  isNewest_iff.mpr ((h.alive_of_slot hslot).newest rfl)

/-- The newest connection of a running session is the one in the slot. -/
lemma slot_of_heeds (h : Sound False w) (hheeds : w.Heeds c) : w.slot = some c := by
  obtain ⟨k, hslot⟩ := h.exists_slot hheeds.2
  obtain rfl : k = c := eq_of_isNewest (h.isNewest_of_slot hslot) hheeds.1
  exact hslot

/-- A session that has taken notice of a loss is not running. -/
lemma not_unheeded_lose (h : Sound False w) (failure : RuntimeFailure) :
    ¬(w.lose s c failure).1.Unheeded c := by
  rintro ⟨hslot, hrunning, -⟩
  rw [slot_lose] at hslot
  have hheeds : w.Heeds c := by
    refine ⟨h.isNewest_of_slot hslot, ?_⟩
    by_contra hother
    rw [lose_of_not_heeds s w c failure fun hheeds => hother hheeds.2] at hrunning
    exact hother hrunning
  cases (phase_lose_of_heeds s w c failure hheeds).symm.trans hrunning

/-- A connection in the slot whose reader has ended is marked. -/
lemma isClosed_of_unheeded (h : Sound False w)
    (hmarked : ∀ conn, w.connections[c]? = some conn → conn.Marked) (hnew : w.Unheeded c) :
    w.isClosed c = true := by
  obtain ⟨hslot, -, conn, hc, hended⟩ := hnew
  have hheld : conn.held = true := ((h.alive_of_slot hslot).held_iff hc).mpr rfl
  have hmark : conn.reader.hasMarked = true := by
    cases hreader : conn.reader <;> simp_all [Reader.hasEnded, Reader.hasMarked]
  simp [isClosed, hc, hmarked conn hc hheld hmark]

lemma supervised_advance (h : Sound False w)
    (hmarked : ∀ {c : Nat} {conn : Connection}, w.connections[c]? = some conn → conn.Marked)
    (hsup : w.Supervised)
    {job : Job} {stage : Stage} (hi : w.calls[i]? = some ⟨job, stage⟩)
    (hadv : Advance s w i job a stage w' said) : w'.Supervised := by
  intro c hnew
  by_cases hstage : (∃ k, stage = .raising k) ∨ ∃ k, stage = .verifying k
  · rcases hstage with ⟨k, rfl⟩ | ⟨k, rfl⟩
    · -- The session is running now, and the look at the mark is next.
      obtain ⟨live, -, -, hslot, -⟩ := h.fits_of_inside hi rfl
      cases hadv with
      | exchange _ hex => cases hex
      | refused _ _ hrefused => rcases hrefused with h | ⟨h, -⟩ <;> cases h
      | raise =>
        obtain rfl : k = c := Option.some.inj (hslot.symm.trans hnew.1)
        exact ⟨i, job, getElem?_moveCall_self _ hi⟩
    · obtain ⟨live, -, -, hslot, -⟩ := h.fits_of_inside hi rfl
      cases hadv with
      | exchange _ hex => cases hex
      | refused _ _ hrefused => rcases hrefused with h | ⟨h, -⟩ <;> cases h
      | lose =>
        have hkeeps : (w.lose s k .processExited).1.slot = some k := by rwa [slot_lose]
        obtain rfl : k = c := Option.some.inj (hkeeps.symm.trans hnew.1)
        exact absurd hnew (h.not_unheeded_lose .processExited)
      | verify hopen =>
        obtain rfl : k = c := Option.some.inj (hslot.symm.trans hnew.1)
        have hclosed := h.isClosed_of_unheeded (fun _ => hmarked) hnew
        cases hopen.symm.trans hclosed
  · have hraising : ∀ k, stage ≠ .raising k := fun k hk => hstage (.inl ⟨k, hk⟩)
    have hverifying : ∀ k, stage ≠ .verifying k := fun k hk => hstage (.inr ⟨k, hk⟩)
    obtain ⟨j, job', hj⟩ := hsup c (h.unheeded_of_advance hi hadv hraising hverifying hnew)
    refine ⟨j, job', hadv.other hj ?_⟩
    rintro rfl
    exact hverifying c (congrArg Call.stage (Option.some.inj (hi.symm.trans hj)))

lemma supervised_turn (h : Sound False w)
    (hmarked : ∀ {c : Nat} {conn : Connection}, w.connections[c]? = some conn → conn.Marked)
    (hsup : w.Supervised) (hturn : Turn s w a w' said) : w'.Supervised := by
  cases hturn with
  | call | activate =>
    intro c hnew
    obtain ⟨j, job, hj⟩ := hsup c hnew
    exact ⟨j, job, getElem?_append_call _ hj⟩
  | poll | overlook => exact hsup
  | @drop i call hi hdrop =>
    intro c hnew
    have hsame : w.Unheeded c := by
      unfold State.drop at hnew
      split at hnew
      · exact Unheeded.of_modify hnew fun _ _ hended => hended
      · exact hnew
    obtain ⟨j, job, hj⟩ := hsup c hsame
    have hne : i ≠ j := by
      rintro rfl
      obtain rfl := Option.some.inj (hi.symm.trans hj)
      cases canWait_of_canDrop hdrop
    refine ⟨j, job, ?_⟩
    unfold State.drop
    split <;> exact (getElem?_moveCall_ne _ _ hne).trans hj
  | advance hi hadv => exact h.supervised_advance hmarked hsup hi hadv
  | deed hc hdeed =>
    intro c hnew
    refine hsup c (Unheeded.of_modify hnew fun conn hc' hended => ?_)
    obtain rfl := Option.some.inj (hc.symm.trans hc')
    exact hdeed.hasEnded hended
  | publish =>
    rw [emit_fst]
    exact hsup
  | @report k conn failure hk hreader =>
    intro c hnew
    have hended : Sound False (w.modifyConnection k Connection.endReader) :=
      h.modifyConnection fun _ _ => rfl
    rcases eq_or_ne k c with rfl | hne
    · exact absurd hnew (hended.not_unheeded_lose failure)
    · by_cases hheeds : (w.modifyConnection k Connection.endReader).Heeds k
      · cases (phase_lose_of_heeds s _ k failure hheeds).symm.trans hnew.2.1
      · rw [lose_of_not_heeds s _ k failure hheeds] at hnew ⊢
        obtain ⟨hslot, hphase, conn', hc, hconn⟩ := hnew
        exact hsup c ⟨hslot, hphase, conn', (List.getElem?_modify_ne _ _ hne).symm.trans hc, hconn⟩

end Sound

end State

/-! ### The last steps of a reader -/

namespace State

variable {s : Setup} {w : State} {c : Nat} {conn : Connection} {failure : RuntimeFailure}

/-- A reader is over once it has read the end of the stream. -/
lemma Turn.isOver {w' : State} {read : Frame.Read} {said : List Effect}
    (h : Turn s w (.received c read) w' said) (hend : read.isEnd = true) :
    ∃ conn, w'.connections[c]? = some conn ∧ conn.reader.isOver = true := by
  cases h with
  | advance _ hadv => cases hadv.caller
  | publish | overlook => cases hend
  | deed hc hdeed =>
    cases hdeed with
    | respond | request => cases hend
    | ended | fault => exact ⟨_, getElem?_modifyConnection _ hc, rfl⟩

lemma Heeds.modifyConnection (h : w.Heeds c) (f : Connection → Connection) :
    (w.modifyConnection c f).Heeds c := (heeds_modifyConnection c c f).mpr h

lemma fails_of_reporting (hheeds : w.Heeds c) (hc : w.connections[c]? = some conn)
    (hreader : conn.reader = .reporting failure) :
    ∃ later w', w.play s [.read c] = some (later, w') ∧ w'.phase = .failed (.runtime failure) := by
  have hstep : w.step s (.read c) =
      some ((w.modifyConnection c Connection.endReader).lose s c failure) := by
    simp [step, hc, stepReader, hreader]
  exact ⟨_, _, play_cons hstep rfl, phase_lose_of_heeds s _ c failure (hheeds.modifyConnection _)⟩

lemma fails_of_clearing (hheeds : w.Heeds c) (hc : w.connections[c]? = some conn)
    (hreader : conn.reader = .clearing failure) :
    ∃ later w', w.play s [.read c, .read c] = some (later, w') ∧
      w'.phase = .failed (.runtime failure) := by
  let clear (conn : Connection) := { conn with pending := [], reader := .reporting failure }
  have hstep : w.step s (.read c) = some (w.modifyConnection c clear, []) := by
    simp [step, hc, stepReader, hreader, clear]
  have hcleared : (w.modifyConnection c clear).Heeds c := hheeds.modifyConnection clear
  have hc' := getElem?_modifyConnection clear hc
  obtain ⟨later, w', hplay, hphase⟩ := fails_of_reporting (s := s) hcleared hc' rfl
  exact ⟨_, w', play_cons hstep hplay, hphase⟩

lemma fails_of_closing (hheeds : w.Heeds c) (hc : w.connections[c]? = some conn)
    (hreader : conn.reader = .closing failure) :
    ∃ later w', w.play s [.read c, .read c, .read c] = some (later, w') ∧
      w'.phase = .failed (.runtime failure) := by
  let close (conn : Connection) := { conn with closed := true, reader := .clearing failure }
  have hstep : w.step s (.read c) = some (w.modifyConnection c close, []) := by
    simp [step, hc, stepReader, hreader, close]
  have hclosed : (w.modifyConnection c close).Heeds c := hheeds.modifyConnection close
  have hc' := getElem?_modifyConnection close hc
  obtain ⟨later, w', hplay, hphase⟩ := fails_of_clearing (s := s) hclosed hc' rfl
  exact ⟨_, w', play_cons hstep hplay, hphase⟩

/-- So does the look at the mark, which knows nothing of the failure. -/
lemma fails_of_verifying {i : Nat} {job : Job} (hheeds : w.Heeds c) (hclosed : w.isClosed c = true)
    (hi : w.calls[i]? = some ⟨job, .verifying c⟩) :
    ∃ later w', w.play s [.proceed i] = some (later, w') ∧
      w'.phase = .failed (.runtime .processExited) := by
  have hstep : w.step s (.proceed i) =
      some ((w.lose s c .processExited).1.setStage i (.leaving (.start (.ok ()))),
        (w.lose s c .processExited).2) := by
    simp [step, hi, stepCall, hclosed]
  exact ⟨_, _, play_cons hstep rfl, phase_lose_of_heeds s w c .processExited hheeds⟩

end State

/-! ### Runs -/

namespace Run

variable {s : Setup} {past : List Moment} {w : State} {c : Nat} {conn : Connection}

theorem marked (h : Run s past w) (hc : w.connections[c]? = some conn) : conn.Marked :=
  h.every Connection.Marked.fresh (fun _ _ hmarked hchange => hmarked.change hchange) hc

theorem supervised (h : Run s past w) : w.Supervised := by
  induction h with
  | initial =>
    intro c hnew
    cases hnew.1
  | step a hrun hstep ih =>
    exact (hrun.sound nofun).supervised_turn hrun.marked ih (.of_step hstep)

/-- A start that is about to look at the mark has the lock, so without it every loss is heeded. -/
lemma not_unheeded_of_free (h : Run s past w) (hfree : w.isFree = true) : ¬w.Unheeded c := by
  intro hnew
  obtain ⟨i, job, hi⟩ := h.supervised c hnew
  have hsound : State.Sound False w := h.sound nofun
  have hhead : w.line.head? = some i := hsound.head_of_inside hi rfl
  have hline : w.line = [] := by simpa [State.isFree] using hfree
  simp [hline] at hhead

/-- A stream that has ended at some moment of a run is over from then on. -/
lemma isOver_of_mem (h : Run s past w) {m : Moment} (hm : m ∈ past) {read : Frame.Read}
    (haction : m.action = .received c read) (hend : read.isEnd = true) :
    ∃ conn, w.connections[c]? = some conn ∧ conn.reader.isOver = true := by
  induction h with
  | initial => simp at hm
  | @step past w w' said a _ hstep ih =>
    rcases List.mem_append.mp hm with hm | hm
    · obtain ⟨conn, hc, hover⟩ := ih hm
      obtain ⟨conn', hc', rfl | hchange⟩ := (State.Turn.of_step hstep).persists hc
      · exact ⟨_, hc', hover⟩
      · exact ⟨conn', hc', hchange.isOver hover⟩
    · obtain rfl := List.mem_singleton.mp hm
      obtain rfl : a = .received c read := haction
      exact (State.Turn.of_step hstep).isOver hend

/--
While nobody has the lock, a session whose reader has reported the end of its stream has failed with
a runtime failure. And if the stream of the connection in its slot has ended at any moment, however
long ago, it has failed so or will have once the reader has taken its last steps, which nothing
keeps it from taking.
-/
theorem no_lost_supervision (h : Run s past w) (hfree : w.isFree = true)
    (hslot : w.slot = some c) (hc : w.connections[c]? = some conn) :
    (conn.reader.hasEnded = true → ∃ failure, w.phase = .failed (.runtime failure)) ∧
    ∀ m ∈ past, ∀ read, m.action = .received c read → read.isEnd = true →
      ∃ n ≤ 3, ∃ later w', w.play s (List.replicate n (.read c)) = some (later, w') ∧
        ∃ failure, w'.phase = .failed (.runtime failure) := by
  have hsound : State.Sound False w := h.sound nofun
  have hup : w.phase = .running ∨ ∃ failure, w.phase = .failed (.runtime failure) := by
    obtain ⟨live, -, hidle⟩ := hsound.idle_of_free hfree
    exact Phase.eq_of_isUp (hidle.isUp (by simp [hslot]))
  refine ⟨fun hended => hup.resolve_left fun hrunning => ?_, fun m hm read haction hend => ?_⟩
  · exact h.not_unheeded_of_free hfree ⟨hslot, hrunning, conn, hc, hended⟩
  · rcases hup with hrunning | hfailed
    · have hheeds : w.Heeds c := ⟨hsound.isNewest_of_slot hslot, hrunning⟩
      obtain ⟨conn', hc', hover⟩ := h.isOver_of_mem hm haction hend
      cases hreader : conn'.reader with
      | closing failure =>
        obtain ⟨later, w', hplay, hphase⟩ := State.fails_of_closing (s := s) hheeds hc' hreader
        exact ⟨3, by simp, later, w', hplay, failure, hphase⟩
      | clearing failure =>
        obtain ⟨later, w', hplay, hphase⟩ := State.fails_of_clearing (s := s) hheeds hc' hreader
        exact ⟨2, by simp, later, w', hplay, failure, hphase⟩
      | reporting failure =>
        obtain ⟨later, w', hplay, hphase⟩ := State.fails_of_reporting (s := s) hheeds hc' hreader
        exact ⟨1, by simp, later, w', hplay, failure, hphase⟩
      | ended =>
        have hended : conn'.reader.hasEnded = true := by simp [hreader, Reader.hasEnded]
        exact absurd ⟨hslot, hrunning, conn', hc', hended⟩ (h.not_unheeded_of_free hfree)
      | reading | replying => simp [hreader, Reader.isOver] at hover
    · exact ⟨0, by simp, [], w, rfl, hfailed⟩

/-- The stream ends after the server has answered the handshake, and the reader is done before the
session is running. -/
theorem no_lost_supervision_early_end :
    ∃ past w, ∃ conn : Connection, Run .stock past w ∧ w.isFree = true ∧ w.slot = some 0 ∧
      w.connections[0]? = some conn ∧ conn.reader.hasEnded = true ∧
      ∃ failure, w.phase = .failed (.runtime failure) := by
  obtain ⟨past, w, conn, hplay, hfree, hslot, hc, hended⟩ :
      ∃ past w, ∃ conn : Connection,
        State.initial.play .stock (Action.firstStart.take 11 ++
          [Action.received 0 .ended, .read 0, .read 0, .read 0] ++ Action.firstStart.drop 11) =
            some (past, w) ∧
        w.isFree = true ∧ w.slot = some 0 ∧ w.connections[0]? = some conn ∧
        conn.reader.hasEnded = true :=
    ⟨_, _, _, rfl, rfl, rfl, rfl, rfl⟩
  exact ⟨past, w, conn, of_play hplay, hfree, hslot, hc, hended,
    ((of_play hplay).no_lost_supervision hfree hslot hc).1 hended⟩

end Run

end LanguageClient
