import LanguageClient.Proofs.Frame.Prefix
import LanguageClient.Proofs.Session.Readable

/-!
# What goes over the wire

Calls and the reader queue commands on a connection, and its writer takes them one by one. Whatever
the order in which all of them go on, and however little the pipe takes at a time, the bytes written
are at all times the beginning of the frames that were queued, one after another.
-/

namespace LanguageClient

/-! ### What is seen of a connection -/

namespace Effect

/-- The connection that an effect is about. -/
def connection? : Effect → Option Nat
  | .queued c _ | .wrote c _ => some c
  | _ => none

def commandOn? (c : Nat) : Effect → Option Command
  | .queued k command => if k = c then some command else none
  | _ => none

def bytesOn (c : Nat) : Effect → List UInt8
  | .wrote k bytes => if k = c then bytes else []
  | _ => []

end Effect

def Command.frame? : Command → Option Json
  | .send frame => some frame
  | .close => none

/-- The commands that the outbox of connection `c` took, the oldest first. -/
def commandsOn (c : Nat) (said : List Effect) : List Command := said.filterMap (·.commandOn? c)

/-- The bytes written on connection `c`. -/
def bytesOn (c : Nat) (said : List Effect) : List UInt8 := said.flatMap (·.bytesOn c)

/-- Nothing is seen of connection `c`. -/
def Untold (c : Nat) (said : List Effect) : Prop := ∀ e ∈ said, e.connection? ≠ some c

section Seen

variable {c k : Nat} {said : List Effect}

lemma commandsOn_append (c : Nat) (said later : List Effect) :
    commandsOn c (said ++ later) = commandsOn c said ++ commandsOn c later :=
  List.filterMap_append

lemma bytesOn_append (c : Nat) (said later : List Effect) :
    bytesOn c (said ++ later) = bytesOn c said ++ bytesOn c later := List.flatMap_append

lemma commandsOn_news (c : Nat) (said : List Effect) :
    commandsOn c (news said) = commandsOn c said := by
  induction said with
  | nil => rfl
  | cons e said ih =>
    cases e with
    | log level text => exact ih
    | _ =>
      simp only [news_queued, news_wrote, news_emitted, commandsOn, List.filterMap_cons] at ih ⊢
      rw [ih]

lemma bytesOn_news (c : Nat) (said : List Effect) : bytesOn c (news said) = bytesOn c said := by
  induction said with
  | nil => rfl
  | cons e said ih =>
    cases e with
    | log level text => exact ih
    | _ =>
      simp only [news_queued, news_wrote, news_emitted, bytesOn, List.flatMap_cons] at ih ⊢
      rw [ih]

lemma commandsOn_queued (c : Nat) (command : Command) :
    commandsOn c [.queued c command] = [command] := by
  simp [commandsOn, Effect.commandOn?]

lemma bytesOn_queued (c k : Nat) (command : Command) : bytesOn c [.queued k command] = [] := rfl

lemma commandsOn_written (c k : Nat) (written : Connection.Written) :
    commandsOn c (State.noteWritten k written) = [] := by
  cases written <;> rfl

/-- The frames that were queued are those of the commands. -/
lemma framesOn_eq (c : Nat) (said : List Effect) :
    framesOn c said = (commandsOn c said).filterMap Command.frame? := by
  rw [framesOn, commandsOn, List.filterMap_filterMap]
  congr
  funext e
  cases e with
  | queued k command =>
    cases command <;> simp only [Effect.frameOn?, Effect.commandOn?] <;> split <;> rfl
  | _ => rfl

namespace Untold

lemma commandsOn (h : Untold c said) : commandsOn c said = [] := by
  rw [LanguageClient.commandsOn, List.filterMap_eq_nil_iff]
  intro e he
  have hother := h e he
  cases e with
  | queued k command =>
    rw [Effect.commandOn?, if_neg]
    rintro rfl
    exact hother rfl
  | _ => rfl

lemma bytesOn (h : Untold c said) : bytesOn c said = [] := by
  rw [LanguageClient.bytesOn, List.flatMap_eq_nil_iff]
  intro e he
  have hother := h e he
  cases e with
  | wrote k bytes =>
    rw [Effect.bytesOn, if_neg]
    rintro rfl
    exact hother rfl
  | _ => rfl

lemma nil (c : Nat) : Untold c [] := nofun

lemma queued (h : k ≠ c) (command : Command) : Untold c [.queued k command] := by
  intro e he
  obtain rfl := List.mem_singleton.mp he
  intro heq
  exact h (Option.some.inj heq)

lemma written (h : k ≠ c) (written : Connection.Written) :
    Untold c (news (State.noteWritten k written)) := by
  cases written with
  | bytes bs =>
    intro e he
    obtain rfl := List.mem_singleton.mp he
    intro heq
    exact h (Option.some.inj heq)
  | _ => exact nil c

lemma lose (s : Setup) (w : State) (k : Nat) (failure : RuntimeFailure) (c : Nat) :
    Untold c (news (w.lose s k failure).2) := by
  by_cases hheeds : w.Heeds k
  · rw [(State.lose_of_heeds s w k failure hheeds).2]
    intro e he
    obtain rfl := List.mem_singleton.mp he
    nofun
  · rw [State.lose_of_not_heeds s w k failure hheeds]
    exact nil c

end Untold

end Seen

/-! ### What the writer does -/

/-- What is still to be written of a frame that the writer has begun. -/
def Writer.left : Writer → List UInt8
  | .writing header body => header ++ body
  | _ => []

lemma Writer.left_idle : Writer.idle.left = [] := rfl

namespace Connection

variable {c : Nat} {conn conn' : Connection} {said : List Effect} {written : Written}

/-- A step of the writer: it goes on with its frame, takes the next or ends. -/
inductive Writes (conn conn' : Connection) : Written → Prop
  | goOn (bytes : List UInt8) : conn.writer.hasEnded = false → conn'.writer.hasEnded = false →
      conn.writer.left = bytes ++ conn'.writer.left → conn'.outbox = conn.outbox →
      Writes conn conn' (.bytes bytes)
  | take (frame : Json) : conn.writer = .idle → conn.outbox = .send frame :: conn'.outbox →
      conn'.writer.hasEnded = false → conn'.writer.left = Frame.encode frame →
      Writes conn conn' .nothing
  | fail (part reason : String) : conn'.writer.hasEnded = true →
      Writes conn conn' (.failed part reason)
  | close (rest : List Command) : conn.writer = .idle → conn.outbox = .close :: rest →
      conn'.writer.hasEnded = true → Writes conn conn' .nothing
  | leave : conn.writer = .idle → conn.outbox = [] → conn'.writer.hasEnded = true →
      Writes conn conn' .nothing

lemma Writes.of_write {header body : List UInt8} (hwriter : conn.writer = .writing header body)
    (h : conn.write header body = some (conn', written)) : Writes conn conn' written := by
  have halive : conn.writer.hasEnded = false := by
    rw [hwriter]
    rfl
  rcases Option.eq_none_or_eq_some conn.fault with hfault | ⟨reason, hfault⟩
  · by_cases hroom : conn.room = 0
    · simp [write, hfault, hroom] at h
    · cases header with
      | nil =>
        simp only [write, hfault, hroom, List.isEmpty_nil, if_true, if_false,
          Option.some.injEq] at h
        obtain ⟨rfl, rfl⟩ := Prod.mk.inj h
        refine .goOn _ halive ?_ ?_ rfl
        · cases body.drop conn.room <;> rfl
        · rw [hwriter]
          have hleft : body = body.take conn.room ++ body.drop conn.room :=
            (List.take_append_drop ..).symm
          cases hrest : body.drop conn.room with
          | nil =>
            rw [hrest] at hleft
            exact hleft
          | cons b rest =>
            rw [hrest] at hleft
            exact hleft
      | cons b header =>
        simp only [write, hfault, hroom, List.isEmpty_cons, if_false, Bool.false_eq_true,
          Option.some.injEq] at h
        obtain ⟨rfl, rfl⟩ := Prod.mk.inj h
        refine .goOn _ halive rfl ?_ rfl
        rw [hwriter, Writer.left, Writer.left, ← List.append_assoc, List.take_append_drop]
  · simp only [write, hfault, Option.some.injEq] at h
    obtain ⟨rfl, rfl⟩ := Prod.mk.inj h
    exact .fail _ _ rfl

theorem Writes.of_stepWriter (h : conn.stepWriter = some (conn', written)) :
    Writes conn conn' written := by
  unfold stepWriter at h
  split at h
  case h_1 => cases h
  case h_2 header body hwriter => exact .of_write hwriter h
  case h_3 hidle =>
    split at h
    case h_1 frame rest hout =>
      obtain ⟨rfl, rfl⟩ := Prod.mk.inj (Option.some.inj h)
      exact .take frame hidle hout rfl rfl
    case h_2 rest hout =>
      obtain ⟨rfl, rfl⟩ := Prod.mk.inj (Option.some.inj h)
      exact .close rest hidle hout rfl
    case h_3 hout =>
      split at h
      case isTrue => cases h
      case isFalse =>
        obtain ⟨rfl, rfl⟩ := Prod.mk.inj (Option.some.inj h)
        exact .leave hidle hout rfl

/-- What a turn does to connection `c` on its way from the outbox to the pipe. -/
inductive Wire (c : Nat) (conn conn' : Connection) (said : List Effect) : Prop
  | still : Untold c said → conn'.outbox = conn.outbox → conn'.writer = conn.writer →
      Wire c conn conn' said
  | push (command : Command) : conn.Takes → said = [.queued c command] →
      conn'.outbox = conn.outbox ++ [command] → conn'.writer = conn.writer →
      Wire c conn conn' said
  | write (written : Written) : conn.stepWriter = some (conn', written) →
      said = news (State.noteWritten c written) → Wire c conn conn' said
  | cut : Untold c said → conn'.writer.hasEnded = true → Wire c conn conn' said

lemma Deed.untold {k : Nat} {a : Action} (h : conn.Deed k a conn' said) (hne : k ≠ c) :
    Untold c said := by
  cases h with
  | write => exact .written hne _
  | reply => exact .queued hne _
  | _ => exact .nil c

lemma Deed.wire {a : Action} (h : conn.Deed c a conn' said) : conn.Wire c conn' said := by
  cases h with
  | write hstep => exact .write _ hstep rfl
  | reply _ ht => exact .push _ ht rfl rfl rfl
  | _ => exact .still (.nil c) rfl rfl

/-- A writer that has ended writes nothing more. -/
lemma Wire.hasEnded (h : conn.Wire c conn' said) (hended : conn.writer.hasEnded = true) :
    conn'.writer.hasEnded = true ∧ bytesOn c said = [] := by
  cases h with
  | still huntold _ hwriter =>
    rw [hwriter]
    exact ⟨hended, huntold.bytesOn⟩
  | push _ ht =>
    rw [ht.1] at hended
    cases hended
  | write written hstep =>
    cases hwriter : conn.writer with
    | ended =>
      rw [stepWriter, hwriter] at hstep
      cases hstep
    | _ =>
      rw [hwriter] at hended
      cases hended
  | cut huntold hended' => exact ⟨hended', huntold.bytesOn⟩

/-- What has become of the commands that a connection took: as long as there is a writer, those
that it has taken are written but for the frame it is at, and the others wait. -/
inductive Wired (conn : Connection) (commands : List Command) (bytes : List UInt8) : Prop
  | alive (taken : List Json) : conn.writer.hasEnded = false →
      commands = taken.map .send ++ conn.outbox →
      bytes ++ conn.writer.left = taken.flatMap Frame.encode → Wired conn commands bytes
  | ended : conn.writer.hasEnded = true →
      bytes <+: (commands.filterMap Command.frame?).flatMap Frame.encode →
      Wired conn commands bytes

namespace Wired

variable {commands : List Command} {bytes : List UInt8}

lemma fresh (room : Nat) : (Connection.fresh room).Wired [] [] := .alive [] rfl rfl rfl

/-- The bytes are the beginning of the frames. -/
theorem isPrefix (h : conn.Wired commands bytes) :
    bytes <+: (commands.filterMap Command.frame?).flatMap Frame.encode := by
  cases h with
  | ended _ hbytes => exact hbytes
  | alive taken _ hcommands hbytes =>
    have htaken : (taken.map Command.send).filterMap Command.frame? = taken := by
      rw [List.filterMap_map]
      exact List.filterMap_some
    rw [hcommands, List.filterMap_append, htaken, List.flatMap_append, ← hbytes,
      List.append_assoc]
    exact List.prefix_append ..

lemma still (h : conn.Wired commands bytes) (hout : conn'.outbox = conn.outbox)
    (hwriter : conn'.writer = conn.writer) : conn'.Wired commands bytes := by
  cases h with
  | alive taken halive hcommands hbytes =>
    refine .alive taken ?_ ?_ ?_
    · rw [hwriter]
      exact halive
    · rw [hout]
      exact hcommands
    · rw [hwriter]
      exact hbytes
  | ended hended hbytes =>
    refine .ended ?_ hbytes
    rw [hwriter]
    exact hended

lemma push (h : conn.Wired commands bytes) (ht : conn.Takes) {command : Command}
    (hout : conn'.outbox = conn.outbox ++ [command]) (hwriter : conn'.writer = conn.writer) :
    conn'.Wired (commands ++ [command]) bytes := by
  cases h with
  | alive taken halive hcommands hbytes =>
    refine .alive taken ?_ ?_ ?_
    · rw [hwriter]
      exact halive
    · rw [hout, hcommands, List.append_assoc]
    · rw [hwriter]
      exact hbytes
  | ended hended =>
    rw [ht.1] at hended
    cases hended

/-- What a step of the writer puts into the pipe. -/
lemma write (h : conn.Wired commands bytes) {written : Written}
    (hwrites : conn.Writes conn' written) :
    conn'.Wired commands (bytes ++ bytesOn c (State.noteWritten c written)) := by
  have hover (hended : conn'.writer.hasEnded = true) : conn'.Wired commands (bytes ++ []) := by
    rw [List.append_nil]
    exact .ended hended h.isPrefix
  cases hwrites with
  | goOn more halive halive' hleft hout =>
    cases h with
    | alive taken _ hcommands hbytes =>
      refine .alive taken halive' ?_ ?_
      · rw [hout]
        exact hcommands
      · rw [hleft] at hbytes
        simpa [bytesOn, State.noteWritten, Effect.bytesOn] using hbytes
    | ended hended =>
      rw [halive] at hended
      cases hended
  | take frame hidle hout halive' hleft =>
    cases h with
    | alive taken _ hcommands hbytes =>
      refine .alive (taken ++ [frame]) halive' ?_ ?_
      · rw [hcommands, hout]
        simp
      · rw [hidle, Writer.left_idle, List.append_nil] at hbytes
        rw [hbytes, hleft]
        simp [bytesOn, State.noteWritten]
    | ended hended =>
      rw [hidle] at hended
      cases hended
  | fail _ _ hended => exact hover hended
  | close _ _ _ hended => exact hover hended
  | leave _ _ hended => exact hover hended

/-- Whatever a turn does, the bytes remain the beginning of the frames. -/
theorem turn (h : conn.Wired commands bytes) (hwire : conn.Wire c conn' said) :
    conn'.Wired (commands ++ commandsOn c said) (bytes ++ bytesOn c said) := by
  cases hwire with
  | still huntold hout hwriter =>
    rw [huntold.commandsOn, huntold.bytesOn, List.append_nil, List.append_nil]
    exact h.still hout hwriter
  | push command ht hsaid hout hwriter =>
    subst hsaid
    rw [commandsOn_queued, bytesOn_queued, List.append_nil]
    exact h.push ht hout hwriter
  | write written hstep hsaid =>
    subst hsaid
    rw [commandsOn_news, commandsOn_written, bytesOn_news, List.append_nil]
    exact h.write (.of_stepWriter hstep)
  | cut huntold hended =>
    rw [huntold.commandsOn, huntold.bytesOn, List.append_nil, List.append_nil]
    exact .ended hended h.isPrefix

end Wired

end Connection

/-! ### Turns -/

namespace State

variable {s : Setup} {w w' : State} {a : Action} {i c k : Nat} {said : List Effect}
  {conn conn' : Connection}

/-- A turn that deals with connection `k`, and what it does if that is connection `c`. -/
lemma wire_of_modify {f : Connection → Connection} (hc : w.connections[c]? = some conn)
    (hc' : (w.connections.modify k f)[c]? = some conn') (hother : k ≠ c → Untold c said)
    (hself : k = c → conn.Wire c (f conn) said) : conn.Wire c conn' said := by
  rcases eq_or_ne k c with rfl | hne
  · rw [List.getElem?_modify_eq, hc] at hc'
    obtain rfl := Option.some.inj hc'
    exact hself rfl
  · rw [List.getElem?_modify_ne _ _ hne, hc] at hc'
    obtain rfl := Option.some.inj hc'
    exact .still (hother hne) rfl rfl

lemma wire_of_eq (hc : w.connections[c]? = some conn) (hc' : w.connections[c]? = some conn')
    (huntold : Untold c said) : conn.Wire c conn' said := by
  obtain rfl := Option.some.inj (hc.symm.trans hc')
  exact .still huntold rfl rfl

lemma Takes.of_eq (ht : w.Takes c) (hc : w.connections[c]? = some conn) : conn.Takes := by
  obtain ⟨old, hold, ht⟩ := ht
  obtain rfl := Option.some.inj (hold.symm.trans hc)
  exact ht

lemma Exchange.untold {before after : Stage} {f : Connection → Connection}
    (h : Exchange s w k before f after said) (hne : k ≠ c) : Untold c said := by
  cases h with
  | asked | announced | reopened | dismissing | closing | discarding => exact .queued hne _
  | _ => exact .nil c

lemma Exchange.wire {before after : Stage} {f : Connection → Connection}
    (h : Exchange s w c before f after said) (hc : w.connections[c]? = some conn) :
    conn.Wire c (f conn) said := by
  cases h with
  | asked _ _ ht | announced ht | reopened _ _ ht | dismissing ht | closing _ ht
  | discarding _ ht => exact .push _ (ht.of_eq hc) rfl rfl rfl
  | undrained => exact .cut (.nil c) rfl
  | _ => exact .still (.nil c) rfl rfl

lemma Advance.wire {job : Job} {stage : Stage} (h : Advance s w i job a stage w' said)
    (hc : w.connections[c]? = some conn) (hc' : w'.connections[c]? = some conn') :
    conn.Wire c conn' said := by
  cases h with
  | exchange _ hex =>
    refine wire_of_modify hc hc' hex.untold ?_
    rintro rfl
    exact hex.wire hc
  | launched room =>
    have hlt : c < w.connections.length := (List.getElem?_eq_some_iff.mp hc).1
    have hold : (w.connections ++ [Connection.fresh room])[c]? = some conn' := hc'
    rw [List.getElem?_append_left hlt] at hold
    exact wire_of_eq hc hold (.nil c)
  | @lose job k =>
    rw [setStage, connections_lose] at hc'
    exact wire_of_eq hc hc' (.lose s w k .processExited c)
  | reaped => exact wire_of_modify hc hc' (fun _ => .nil c) fun _ => .still (.nil c) rfl rfl
  | relaunch | refuse | aborted =>
    exact wire_of_modify hc hc' (fun _ => .nil c) fun _ => .cut (.nil c) rfl
  | sent notice ht =>
    refine wire_of_modify hc hc' (fun hne => .queued hne _) ?_
    rintro rfl
    exact .push _ (ht.of_eq hc) rfl rfl rfl
  | _ => exact wire_of_eq hc hc' (.nil c)

/-- Whatever turn it is, this is what becomes of connection `c`. -/
theorem Turn.wire (h : Turn s w a w' said) (hc : w.connections[c]? = some conn)
    (hc' : w'.connections[c]? = some conn') : conn.Wire c conn' said := by
  cases h with
  | drop hi =>
    unfold State.drop at hc'
    split at hc'
    case h_1 =>
      exact wire_of_modify hc hc' (fun _ => .nil c) fun _ => .still (.nil c) rfl rfl
    case h_2 => exact wire_of_eq hc hc' (.nil c)
  | advance hi hadv => exact hadv.wire hc hc'
  | deed hk hdeed =>
    refine wire_of_modify hc hc' hdeed.untold ?_
    rintro rfl
    obtain rfl := Option.some.inj (hk.symm.trans hc)
    exact hdeed.wire
  | publish =>
    rw [emit_fst] at hc'
    refine wire_of_eq hc hc' fun e he => ?_
    obtain rfl := List.mem_singleton.mp he
    nofun
  | @report k _ failure hk =>
    rw [connections_lose] at hc'
    have huntold := Untold.lose s (w.modifyConnection k Connection.endReader) k failure c
    exact wire_of_modify hc hc' (fun _ => huntold) fun _ => .still huntold rfl rfl
  | _ => exact wire_of_eq hc hc' (.nil c)

/-- Nothing is seen of a connection that there is not. -/
theorem Turn.untold (h : Turn s w a w' said) (hc : w.connections.length ≤ c) : Untold c said := by
  have hne {k : Nat} {conn : Connection} (hk : w.connections[k]? = some conn) : k ≠ c := by
    have hlt := (List.getElem?_eq_some_iff.mp hk).1
    omega
  cases h with
  | advance hi hadv =>
    cases hadv with
    | exchange _ hex =>
      cases hex with
      | asked _ _ ht | announced ht | reopened _ _ ht | dismissing ht | closing _ ht
      | discarding _ ht =>
        obtain ⟨conn, hk, -⟩ := ht
        exact .queued (hne hk) _
      | _ => exact .nil c
    | lose => exact .lose s w _ .processExited c
    | sent _ ht =>
      obtain ⟨conn, hk, -⟩ := ht
      exact .queued (hne hk) _
    | _ => exact .nil c
  | deed hk hdeed => exact hdeed.untold (hne hk)
  | publish =>
    intro e he
    obtain rfl := List.mem_singleton.mp he
    nofun
  | report => exact .lose s _ _ _ c
  | _ => exact .nil c

end State

namespace Run

variable {s : Setup} {past : List Moment} {w : State} {c : Nat} {conn : Connection}

lemma untold (h : Run s past w) (hc : w.connections.length ≤ c) :
    commandsOn c (seen past) = [] ∧ bytesOn c (seen past) = [] := by
  induction h with
  | initial => exact ⟨rfl, rfl⟩
  | @step past w w' said a _ hstep ih =>
    have hturn := State.Turn.of_step hstep
    have hold : w.connections.length ≤ c := Nat.le_trans hturn.length_le hc
    obtain ⟨hcommands, hbytes⟩ := ih hold
    have huntold := hturn.untold hold
    rw [seen_append, seen_singleton, commandsOn_append, bytesOn_append, hcommands, hbytes,
      ← commandsOn_news, ← bytesOn_news, huntold.commandsOn, huntold.bytesOn]
    exact ⟨rfl, rfl⟩

/-- At all times each connection has written the beginning of the frames that it was given. -/
theorem wired (h : Run s past w) (hc : w.connections[c]? = some conn) :
    conn.Wired (commandsOn c (seen past)) (bytesOn c (seen past)) := by
  induction h generalizing conn with
  | initial => simp [State.initial] at hc
  | @step past w w' said a hrun hstep ih =>
    have hturn := State.Turn.of_step hstep
    rw [seen_append, seen_singleton, commandsOn_append, bytesOn_append, ← commandsOn_news c said,
      ← bytesOn_news c said]
    obtain ⟨old, hold, -⟩ | ⟨hnew, room, rfl⟩ := hturn.came hc
    · exact (ih hold).turn (hturn.wire hold hc)
    · obtain ⟨hcommands, hbytes⟩ := hrun.untold (Nat.le_of_eq hnew.symm)
      have huntold := hturn.untold (Nat.le_of_eq hnew.symm)
      rw [hcommands, hbytes, huntold.commandsOn, huntold.bytesOn]
      exact .fresh room

theorem bytesOn_prefix (h : Run s past w) (c : Nat) :
    bytesOn c (seen past) <+: (framesOn c (seen past)).flatMap Frame.encode := by
  rw [framesOn_eq]
  cases hc : w.connections[c]? with
  | some conn => exact (h.wired hc).isPrefix
  | none =>
    rw [(h.untold (List.getElem?_eq_none_iff.mp hc)).2]
    exact List.nil_prefix

/-- Once the writer of a connection has ended, nothing is written there. -/
lemma bytesOn_eq_nil_after {earlier later : List Moment} {m : Moment}
    (h : Run s (earlier ++ m :: later) w) (hc : m.after.connections[c]? = some conn)
    (hended : conn.writer.hasEnded = true) :
    bytesOn c (seen later) = [] ∧
      ∃ conn', w.connections[c]? = some conn' ∧ conn'.writer.hasEnded = true := by
  induction later using List.reverseRecOn generalizing w with
  | nil =>
    obtain ⟨-, -, rfl⟩ := h.of_concat
    exact ⟨rfl, conn, hc, hended⟩
  | append_singleton later k ih =>
    rw [← List.cons_append, ← List.append_assoc] at h
    obtain ⟨hbefore, hstep, rfl⟩ := h.of_concat
    obtain ⟨hnothing, old, hold, hended⟩ := ih hbefore
    have hturn := State.Turn.of_step hstep
    obtain ⟨conn', hc', -⟩ := hturn.persists hold
    obtain ⟨hended', hsaid⟩ := (hturn.wire hold hc').hasEnded hended
    refine ⟨?_, conn', hc', hended'⟩
    rw [seen_append, seen_singleton, bytesOn_append, hnothing, ← bytesOn_news, hsaid,
      List.append_nil]

end Run

/-! ### The end of a writer -/

/-- The writer of connection `c` comes to the command to close the pipe. -/
def Moment.closesPipe (m : Moment) (c : Nat) : Prop :=
  m.action = .write c ∧ ∃ conn rest, m.before.connections[c]? = some conn ∧
    conn.writer = .idle ∧ conn.outbox = .close :: rest

/-- The writer of connection `c` fails to write. -/
def Moment.failsToWrite (m : Moment) (c : Nat) : Prop :=
  m.action = .write c ∧ ∃ conn conn' part reason, m.before.connections[c]? = some conn ∧
    conn.stepWriter = some (conn', .failed part reason)

namespace Run

variable {s : Setup} {past : List Moment} {w : State} {c : Nat} {conn : Connection}

/-- Either is the end of the writer. -/
lemma hasEnded_of_end {m : Moment} (hstep : m.before.step s m.action = some (m.after, m.said))
    (hm : m.closesPipe c ∨ m.failsToWrite c) :
    ∃ conn, m.after.connections[c]? = some conn ∧ conn.writer.hasEnded = true := by
  have hwritten {conn conn' : Connection} {written : Connection.Written}
      (haction : m.action = .write c) (hc : m.before.connections[c]? = some conn)
      (hwrite : conn.stepWriter = some (conn', written)) :
      m.after.connections[c]? = some conn' := by
    rw [haction] at hstep
    simp only [State.step, State.stepWriter, hc, Option.bind_eq_bind, Option.bind_some, hwrite,
      Option.pure_def, Option.some.injEq] at hstep
    obtain ⟨hafter, -⟩ := Prod.mk.inj hstep
    rw [← hafter, State.modifyConnection, List.getElem?_modify_eq, hc]
    rfl
  rcases hm with ⟨haction, conn, rest, hc, hidle, hout⟩ |
    ⟨haction, conn, conn', part, reason, hc, hwrite⟩
  · have hwrite : conn.stepWriter = some (conn.endWriter, .nothing) := by
      simp only [Connection.stepWriter, hidle, hout]
    exact ⟨_, hwritten haction hc hwrite, rfl⟩
  · refine ⟨_, hwritten haction hc hwrite, ?_⟩
    cases Connection.Writes.of_stepWriter hwrite with
    | fail _ _ hended => exact hended

/--
Whatever calls, tasks and servers do, and however little a pipe takes at a time, the bytes written
on a connection are the frames that its outbox took, one after another in that order, as far as they
have come. Once its writer has come to the command to close the pipe, or has failed to write,
nothing more is written. So a reader of these bytes, in whatever chunks they come, gives what the
texts of the first of the frames say: the frames themselves, if the server has given its own
requests numbers that can be read back.
-/
theorem wire_integrity (h : Run s past w) (c : Nat) :
    bytesOn c (seen past) <+: (framesOn c (seen past)).flatMap Frame.encode ∧
    (∀ earlier m later, past = earlier ++ m :: later → m.closesPipe c ∨ m.failsToWrite c →
      bytesOn c (seen later) = []) ∧
    ∀ chunks fuel, chunks.flatten = bytesOn c (seen past) →
      ∃ sent, sent <+: framesOn c (seen past) ∧
        List.Forall₂ (fun frame said => Json.parse frame.encode = .ok said) sent
          (((⟨.start, chunks⟩ : Frame.Chunked).readAll fuel).filterMap Frame.Read.message?) ∧
        (s.processId < 2 ^ 64 →
          (∀ id method params, Heard c past (.request id method params) → id.Plain 126) →
          ((⟨.start, chunks⟩ : Frame.Chunked).readAll fuel).filterMap Frame.Read.message? =
            sent) := by
  refine ⟨h.bytesOn_prefix c, ?_, ?_⟩
  · rintro earlier m later rfl hm
    obtain ⟨conn, hc, hended⟩ := hasEnded_of_end h.of_split.2 hm
    exact (h.bytesOn_eq_nil_after hc hended).1
  · intro chunks fuel hchunks
    have hwritten := h.bytesOn_prefix c
    rw [← hchunks] at hwritten
    obtain ⟨sent, hsent, hsays⟩ := Frame.Chunked.readAll_prefix hwritten fuel
    refine ⟨sent, hsent, hsays, ?_⟩
    intro hprocess hids
    have hplain := h.plain_frames hprocess hids
    exact Frame.eq_of_says (fun frame hframe => hplain frame (hsent.subset hframe)) hsays

/-- A pipe that takes ten bytes of the handshake and then breaks. -/
theorem wire_integrity_broken :
    ∃ earlier m later w, Run .stock (earlier ++ m :: later) w ∧ m.failsToWrite 0 ∧
      bytesOn 0 (seen later) = [] ∧ (bytesOn 0 (seen (earlier ++ m :: later))).length = 10 ∧
      bytesOn 0 (seen (earlier ++ m :: later)) <+:
        (framesOn 0 (seen (earlier ++ m :: later))).flatMap Frame.encode := by
  obtain ⟨earlier, v, m, later, w, hfirst, hlast, hfails, hlength⟩ :
      ∃ earlier v m later w,
        State.initial.play .stock
          ([Action.call .start, .proceed 0, .proceed 0, .launched 0 (.ok 10)] ++
          List.replicate 5 (Action.proceed 0) ++ [Action.write 0, .write 0, .broken 0 "gone"]) =
            some (earlier, v) ∧
        v.play .stock [.write 0, .drained 0 8] = some (m :: later, w) ∧ m.failsToWrite 0 ∧
        (bytesOn 0 (seen (earlier ++ m :: later))).length = 10 :=
    ⟨_, _, _, _, _, rfl, rfl, ⟨rfl, _, _, _, _, rfl, rfl⟩, rfl⟩
  have hrun : Run .stock (earlier ++ m :: later) w := (of_play hfirst).append_play hlast
  obtain ⟨hwritten, hover, -⟩ := hrun.wire_integrity 0
  have hnothing := hover earlier m later rfl (.inr hfails)
  exact ⟨earlier, m, later, w, hrun, hfails, hnothing, hlength, hwritten⟩

end Run

end LanguageClient
