import LanguageClient.Proofs.Frame.Prefix
import LanguageClient.Proofs.Session.Causes

/-!
# Connections that break off in a message

No part of a message is taken for a message, and only its empty part for the end of the stream. So
the reader of a connection that breaks off in a message reports a fault of the stream and not that
the server has exited. The start that finds its connection closed does say so, all the same:
`Run.broken_off`.
-/

namespace LanguageClient

/-! ### Reads of a run -/

/-- What is read of the stream of connection `c` in an action. -/
def Action.read? (c : Nat) : Action → Option Frame.Read
  | .received k r => if k = c then some r else none
  | _ => none

/-- What has been read of the stream of connection `c`, the oldest first. -/
def readsOn (c : Nat) (past : List Moment) : List Frame.Read :=
  past.filterMap fun m => m.action.read? c

lemma mem_readsOn {c : Nat} {past : List Moment} {read : Frame.Read} :
    read ∈ readsOn c past ↔ ∃ m ∈ past, m.action = .received c read := by
  have hread (a : Action) : a.read? c = some read ↔ a = .received c read := by
    cases a with
    | received k r =>
      simp only [Action.read?, Action.received.injEq]
      grind
    | _ => simp [Action.read?]
  simp only [readsOn, List.mem_filterMap, hread]

/-! ### The last steps of a reader -/

/-- A reader that has seen its stream end is done or holds the failure. -/
lemma Reader.hasEnded_or_failure {reader : Reader} (h : reader.isOver = true) :
    reader.hasEnded = true ∨ ∃ failure, reader.failure? = some failure := by
  cases reader with
  | closing failure | clearing failure | reporting failure => exact .inr ⟨failure, rfl⟩
  | ended => exact .inl rfl
  | reading | replying => cases h

/-- A session that relies on a connection fails as the reader holds, within three steps of it. -/
lemma State.fails_of_failure {s : Setup} {w : State} {c : Nat} {conn : Connection}
    {failure : RuntimeFailure} (hheeds : w.Heeds c) (hc : w.connections[c]? = some conn)
    (hfailure : conn.reader.failure? = some failure) :
    ∃ n ≤ 3, ∃ later w', w.play s (List.replicate n (.read c)) = some (later, w') ∧
      w'.phase = .failed (.runtime failure) := by
  cases hreader : conn.reader with
  | closing g =>
    obtain rfl : g = failure := by simpa [hreader, Reader.failure?] using hfailure
    exact ⟨3, by decide, fails_of_closing hheeds hc hreader⟩
  | clearing g =>
    obtain rfl : g = failure := by simpa [hreader, Reader.failure?] using hfailure
    exact ⟨2, by decide, fails_of_clearing hheeds hc hreader⟩
  | reporting g =>
    obtain rfl : g = failure := by simpa [hreader, Reader.failure?] using hfailure
    exact ⟨1, by decide, fails_of_reporting hheeds hc hreader⟩
  | reading | replying | ended =>
    rw [hreader] at hfailure
    cases hfailure

/-! ### Streams of whole messages and of a part of one -/

namespace Run

variable {s : Setup} {past : List Moment} {w : State} {c : Nat} {r : Frame.Read}
  {messages : List (List UInt8)} {sent : List Json} {message part : List UInt8} {v : Json}

/-- A run tells of connection `c` that its stream fails as `r` says, but for a start that finds the
connection closed: it takes any end of the stream for an exit of the server. -/
structure Tells (s : Setup) (c : Nat) (r : Frame.Read) (past : List Moment) (w : State) :
    Prop where
  /-- The reader knows of no other failure. -/
  held : ∀ conn failure, w.connections[c]? = some conn → conn.reader.failure? = some failure →
    r.failure? = some failure
  /-- Whatever fails a session by the loss of the connection, the event names the failure that the
  state has. A reader that reports the loss fails the session as the stream has failed. -/
  told : ∀ loss ∈ past, loss.before.isNewest c = true → loss.before.phase = .running →
    ∀ failure, loss.after.phase = .failed (.runtime failure) →
      (∃ kept, news loss.said = [.emitted (.connectionLost failure) kept]) ∧
        (loss.action = .read c ∧ r.failure? = some failure ∨
          (∃ i job, loss.action = .proceed i ∧
            loss.before.calls[i]? = some ⟨job, .verifying c⟩) ∧ failure = .processExited)
  /-- When the stream has ended so, a session that relies on the connection fails so as soon as the
  reader has taken its last steps. If it has taken them, a start fails the session next. -/
  due : r ∈ readsOn c past → w.Heeds c →
    (∃ n ≤ 3, ∃ later w' failure, w.play s (List.replicate n (.read c)) = some (later, w') ∧
      r.failure? = some failure ∧ w'.phase = .failed (.runtime failure)) ∨
    ∃ i job later w', w.calls[i]? = some ⟨job, .verifying c⟩ ∧
      w.play s [.proceed i] = some (later, w') ∧ w'.phase = .failed (.runtime .processExited)

/-- Of reads that end with the only one that is no message, only that one is of a failure. -/
lemma failure_of_reads {failure : RuntimeFailure}
    (hreads : readsOn c past <+: sent.map .message ++ [r]) (hend : StreamEnds c failure past) :
    r.failure? = some failure := by
  obtain ⟨m, hm, read, haction, hfailure⟩ := hend
  have hmem : read ∈ sent.map .message ++ [r] :=
    hreads.subset (mem_readsOn.mpr ⟨m, hm, haction⟩)
  rcases List.mem_append.mp hmem with hmessage | hlast
  · obtain ⟨v, -, rfl⟩ := List.mem_map.mp hmessage
    cases hfailure
  · rw [← List.mem_singleton.mp hlast]
    exact hfailure

/-- A run tells of a stream what was read of it. -/
theorem tells (h : Run s past w) (hr : r.isEnd = true)
    (hreads : readsOn c past <+: sent.map .message ++ [r]) : Tells s c r past w := by
  constructor
  case held =>
    intro conn failure hc hfailure
    exact failure_of_reads hreads ((h.attested hc).reader failure hfailure)
  case told =>
    intro loss hloss hnewest hrunning failure hfailed
    obtain ⟨earlier, later, rfl, hrun, hstep⟩ := h.step_of_mem hloss
    obtain ⟨k, hheeds, hsaid, hcause⟩ := (State.Turn.of_step hstep).loses hrunning hfailed
    obtain rfl : k = c := State.eq_of_isNewest hheeds.1 hnewest
    refine ⟨hsaid, ?_⟩
    rcases hcause with ⟨hread, conn, hc, hreader⟩ | ⟨hstart, -, hexited⟩
    · have hend := (hrun.attested hc).reader failure (by rw [hreader]; rfl)
      exact .inl ⟨hread, failure_of_reads hreads (hend.append _)⟩
    · exact .inr ⟨hstart, hexited⟩
  case due =>
    intro hmem hheeds
    obtain ⟨m, hm, haction⟩ := mem_readsOn.mp hmem
    obtain ⟨conn, hc, hover⟩ := h.isOver_of_mem hm haction hr
    rcases Reader.hasEnded_or_failure hover with hended | ⟨failure, hfailure⟩
    · have hsound : State.Sound False w := h.sound nofun
      have hnew : w.Unheeded c := ⟨hsound.slot_of_heeds hheeds, hheeds.2, conn, hc, hended⟩
      obtain ⟨i, job, hi⟩ := h.supervised c hnew
      have hclosed := hsound.isClosed_of_unheeded (fun _ => h.marked) hnew
      obtain ⟨later, w', hplay, hphase⟩ := State.fails_of_verifying (s := s) hheeds hclosed hi
      exact .inr ⟨i, job, later, w', hi, hplay, hphase⟩
    · obtain ⟨n, hn, later, w', hplay, hphase⟩ := State.fails_of_failure (s := s) hheeds hc hfailure
      have hheld := failure_of_reads hreads ((h.attested hc).reader failure hfailure)
      exact .inl ⟨n, hn, later, w', failure, hplay, hheld, hphase⟩

/--
A message is cut short. What is there of it is read to its end, and gives the end of the stream if
it is empty and a fault if not; so no message begins with another. Behind whole messages, and in
whatever chunks, it gives the same. So when the stream of a connection breaks off in a message, the
reader reports that fault, however much of the stream a run has read so far. It fails the session
unless a start comes first that finds the connection closed.
-/
theorem broken_off (hmessages : List.Forall₂ Frame.Whole messages sent)
    (hwhole : Frame.Whole message v) (hpart : part <+: message) (hproper : part ≠ message) :
    (∀ other u, Frame.Whole other u → other <+: message → other = message) ∧
    ∃ r, Frame.read part = (r, []) ∧
      (part = [] → r = .ended) ∧ (part ≠ [] → ∃ f, r = .fault f) ∧
      ∀ chunks : List (List UInt8), chunks.flatten = messages.flatten ++ part →
        ∀ fuel, sent.length < fuel →
          (⟨.start, chunks⟩ : Frame.Chunked).readAll fuel = sent.map .message ++ [r] ∧
          ∀ s past w c, Run s past w →
            readsOn c past <+: (⟨.start, chunks⟩ : Frame.Chunked).readAll fuel →
            Tells s c r past w := by
  refine ⟨fun other u => hwhole.eq_of_prefix, ?_⟩
  obtain ⟨r, hread, hempty, hsome⟩ := hwhole.read_part hpart hproper
  have hr : r.message? = none ∧ r.isEnd = true := by
    by_cases hpart : part = []
    · rw [hempty hpart]
      exact ⟨rfl, rfl⟩
    · obtain ⟨f, rfl⟩ := hsome hpart
      exact ⟨rfl, rfl⟩
  refine ⟨r, hread, hempty, hsome, fun chunks hchunks fuel hfuel => ?_⟩
  have hfirst : (Frame.read part).1 = r := congrArg Prod.fst hread
  have hreads := Frame.Chunked.readAll_broken hmessages hchunks hfirst hr.1 hfuel
  refine ⟨hreads, fun s past w c hrun hprefix => ?_⟩
  rw [hreads] at hprefix
  exact hrun.tells hr.2 hprefix

/-- The server answers the handshake, and breaks off in the middle of the blank line of a message
whose header has a line of its own and the name of the length in small letters. The session fails by
that fault. -/
theorem broken_off_blank :
    let answer := Json.utf8 "Content-Length: 22\r\n\r\n\x7b\"id\":1,\"result\":null\x7d"
    let message := Json.utf8 "Trace: é\r\ncontent-length: 2\r\n\r\n[]"
    let part := Json.utf8 "Trace: é\r\ncontent-length: 2\r\n\r"
    Frame.Whole message (.arr []) ∧ part <+: message ∧ part ≠ message ∧
      ∃ f chunks past w, chunks.flatten = answer ++ part ∧ Run .stock past w ∧
        readsOn 0 past = (⟨.start, chunks⟩ : Frame.Chunked).readAll 2 ∧
        Tells .stock 0 (.fault f) past w ∧ f.message = "reading message body: early eof" ∧
        w.phase = .failed (.runtime (.streamError f.message)) := by
  intro answer message part
  have hanswer : Frame.Whole answer (.obj [("id", .int 1), ("result", .null)]) := rfl
  have hwhole : Frame.Whole message (.arr []) := rfl
  have hpart : part <+: message := by decide
  have hproper : part ≠ message := by decide
  obtain ⟨past, w, hplay, hreads, hfailed⟩ : ∃ past w,
      State.initial.play .stock (Action.firstStart ++
        Action.received 0 (.fault .endInBody) ::
          List.replicate 3 (Action.read 0)) = some (past, w) ∧
      readsOn 0 past =
        [.message (.obj [("id", .int 1), ("result", .null)]), .fault .endInBody] ∧
      w.phase = .failed (.runtime (.streamError Frame.Fault.endInBody.message)) :=
    ⟨_, _, rfl, rfl, rfl⟩
  obtain ⟨-, r, hr, -, -, hstream⟩ :=
    broken_off (.cons hanswer .nil) hwhole hpart hproper
  obtain rfl : Frame.Read.fault .endInBody = r := congrArg Prod.fst hr
  obtain ⟨hall, htells⟩ := hstream [answer, part] (by simp) 2 (by simp)
  have hsame : readsOn 0 past = _ := hreads.trans hall.symm
  refine ⟨hwhole, hpart, hproper, .endInBody, _, past, w, by simp, of_play hplay, hsame, ?_, rfl,
    hfailed⟩
  exact htells .stock past w 0 (of_play hplay) (hsame ▸ List.prefix_refl _)

/-- The server breaks off in a message right behind its answer to the handshake, and the reader is
done before the session is running. The start says that the server has exited. -/
theorem broken_off_mistaken :
    let answer := Json.utf8 "Content-Length: 22\r\n\r\n\x7b\"id\":1,\"result\":null\x7d"
    let message := Json.utf8 "Content-Length: 2\r\n\r\n[]"
    let part := Json.utf8 "Content-Le"
    Frame.Whole message (.arr []) ∧ part <+: message ∧ part ≠ message ∧ part ≠ [] ∧
      ∃ chunks past w, chunks.flatten = answer ++ part ∧ Run .stock past w ∧
        readsOn 0 past = (⟨.start, chunks⟩ : Frame.Chunked).readAll 2 ∧
        w.phase = .failed (.runtime .processExited) := by
  intro answer message part
  obtain ⟨past, w, hplay, hreads, hfailed⟩ : ∃ past w,
      State.initial.play .stock (Action.firstStart.take 11 ++
        Action.received 0 (.fault (.malformedLine "Content-Le".toList)) ::
        List.replicate 3 (Action.read 0) ++ Action.firstStart.drop 11) = some (past, w) ∧
      readsOn 0 past = [.message (.obj [("id", .int 1), ("result", .null)]),
        .fault (.malformedLine "Content-Le".toList)] ∧
      w.phase = .failed (.runtime .processExited) :=
    ⟨_, _, rfl, rfl, rfl⟩
  refine ⟨rfl, by decide, by decide, by decide, [answer, part], past, w, by simp, of_play hplay,
    hreads.trans ?_, hfailed⟩
  rfl

end Run

end LanguageClient
