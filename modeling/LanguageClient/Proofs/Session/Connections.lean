import LanguageClient.Proofs.Session.Inversion

/-!
# What becomes of a connection

A turn changes a connection in one of the ways of `Connection.Change`, leaves it alone or makes a
fresh one. A property of connections that each change keeps is one of every connection there ever
is: `Run.every`.
-/

namespace LanguageClient

/-- One change of a connection. -/
inductive Connection.Change (conn : Connection) : Connection → Prop
  | register : Change conn conn.register
  | release (id : Nat) : Change conn (conn.release id)
  | take (id : Nat) : Change conn (conn.take id)
  | push (command : Command) : conn.Takes → Change conn (conn.push command)
  | deed {c : Nat} {a : Action} {conn' : Connection} {said : List Effect} :
    conn.Deed c a conn' said → Change conn conn'
  -- A shutdown waits no longer, and ends.
  | endWriter : Change conn conn.endWriter
  | reap : Change conn { conn.endReader with held := false }
  | abort : Change conn conn.abort
  /-- The reader has told the session of the loss. -/
  | report {failure : RuntimeFailure} : conn.reader = .reporting failure →
    Change conn conn.endReader
  /-- The call that had the connection is given up. -/
  | letGo : Change conn { conn with held := false }

namespace State

variable {s : Setup} {w w' : State} {a : Action} {i c : Nat} {said : List Effect}
  {conn conn' : Connection}

/-- A connection after one of them may have changed. -/
lemma of_getElem?_modify {connections : List Connection} {k : Nat} {f : Connection → Connection}
    (h : (connections.modify k f)[c]? = some conn') :
    ∃ conn, connections[c]? = some conn ∧ (conn' = conn ∨ k = c ∧ conn' = f conn) := by
  rcases eq_or_ne k c with rfl | hne
  · rw [List.getElem?_modify_eq] at h
    obtain ⟨conn, hc, rfl⟩ := Option.map_eq_some_iff.mp h
    exact ⟨conn, hc, .inr ⟨rfl, rfl⟩⟩
  · rw [List.getElem?_modify_ne _ _ hne] at h
    exact ⟨conn', h, .inl rfl⟩

lemma isNewest_iff : w.isNewest c = true ↔ c + 1 = w.connections.length := by simp [isNewest]

lemma eq_of_isNewest {k : Nat} (hk : w.isNewest k = true) (hc : w.isNewest c = true) : k = c := by
  rw [isNewest_iff] at hk hc
  omega

/-- A change of a connection makes no loss matter that did not. -/
lemma heeds_modifyConnection (c k : Nat) (f : Connection → Connection) :
    (w.modifyConnection k f).Heeds c ↔ w.Heeds c := by
  simp [Heeds, isNewest, modifyConnection]

lemma Exchange.change {before after : Stage} {f : Connection → Connection}
    (h : Exchange s w c before f after said) (hc : w.connections[c]? = some conn) :
    f conn = conn ∨ conn.Change (f conn) := by
  have htakes (ht : w.Takes c) : conn.Takes := by
    obtain ⟨conn', hc', ht⟩ := ht
    obtain rfl := Option.some.inj (hc.symm.trans hc')
    exact ht
  cases h with
  | registered => exact .inr .register
  | closedSince | unasked | timedOut => exact .inr (.release _)
  | rejected | welcomed | dismissed => exact .inr (.take _)
  | asked _ _ ht | announced ht | reopened _ _ ht | dismissing ht | closing _ ht
  | discarding _ ht => exact .inr (.push _ (htakes ht))
  | undrained => exact .inr .endWriter
  | _ => exact .inl rfl

lemma Exchange.reader {before after : Stage} {f : Connection → Connection}
    (h : Exchange s w c before f after said) (conn : Connection) :
    (f conn).reader = conn.reader := by
  cases h <;> rfl

/-- What a connection was before a turn. -/
def Came (w : State) (c : Nat) (conn' : Connection) : Prop :=
  (∃ conn, w.connections[c]? = some conn ∧ (conn' = conn ∨ conn.Change conn')) ∨
    c = w.connections.length ∧ ∃ room, conn' = .fresh room

lemma Came.same (hc : w.connections[c]? = some conn) : w.Came c conn :=
  .inl ⟨conn, hc, .inl rfl⟩

lemma Came.modify {k : Nat} {f : Connection → Connection}
    (hc : (w.connections.modify k f)[c]? = some conn')
    (hf : ∀ conn, w.connections[k]? = some conn → f conn = conn ∨ conn.Change (f conn)) :
    w.Came c conn' := by
  obtain ⟨conn, hold, rfl | ⟨rfl, rfl⟩⟩ := of_getElem?_modify hc
  · exact .same hold
  · exact .inl ⟨conn, hold, hf conn hold⟩

lemma Advance.came {job : Job} {stage : Stage} (h : Advance s w i job a stage w' said)
    (hc : w'.connections[c]? = some conn') : w.Came c conn' := by
  cases h with
  | exchange _ hex => exact .modify hc fun _ => hex.change
  | launched room =>
    have hc : (w.connections ++ [Connection.fresh room])[c]? = some conn' := hc
    rw [List.getElem?_append] at hc
    split at hc
    case isTrue => exact .same hc
    case isFalse hge =>
      rw [List.getElem?_singleton] at hc
      split at hc
      case isTrue hlast => exact .inr ⟨by omega, room, (Option.some.inj hc).symm⟩
      case isFalse => cases hc
  | lose =>
    rw [setStage, connections_lose] at hc
    exact .same hc
  | reaped => exact .modify hc fun _ _ => .inr .reap
  | relaunch | refuse | aborted => exact .modify hc fun _ _ => .inr .abort
  | sent notice ht =>
    obtain ⟨conn, hold, ht⟩ := ht
    refine .modify hc fun conn' hold' => .inr (.push _ ?_)
    obtain rfl := Option.some.inj (hold.symm.trans hold')
    exact ht
  | _ => exact .same hc

/-- Each connection has come from an earlier one, or is fresh. -/
theorem Turn.came (h : Turn s w a w' said) (hc : w'.connections[c]? = some conn') :
    w.Came c conn' := by
  cases h with
  | @drop i call =>
    unfold State.drop at hc
    split at hc
    · exact .modify hc fun _ _ => .inr .letGo
    · exact .same hc
  | advance _ hadv => exact hadv.came hc
  | deed hk hdeed =>
    refine .modify hc fun conn hconn => ?_
    obtain rfl := Option.some.inj (hk.symm.trans hconn)
    exact .inr (.deed hdeed)
  | publish =>
    rw [emit_fst] at hc
    exact .same hc
  | report hk hreader =>
    rw [connections_lose] at hc
    refine .modify hc fun conn hconn => ?_
    obtain rfl := Option.some.inj (hk.symm.trans hconn)
    exact .inr (.report hreader)
  | _ => exact .same hc

lemma length_le_modify (connections : List Connection) (k : Nat) (f : Connection → Connection) :
    connections.length ≤ (connections.modify k f).length := by
  simp

lemma Advance.length_le {job : Job} {stage : Stage} (h : Advance s w i job a stage w' said) :
    w.connections.length ≤ w'.connections.length := by
  cases h with
  | exchange | reaped | relaunch | refuse | aborted | sent => exact length_le_modify _ _ _
  | launched => simp [setStage]
  | lose => exact Nat.le_of_eq (congrArg List.length (connections_lose ..)).symm
  | _ => exact Nat.le_refl _

lemma Turn.length_le (h : Turn s w a w' said) :
    w.connections.length ≤ w'.connections.length := by
  cases h with
  | drop =>
    unfold State.drop
    split
    · exact length_le_modify _ _ _
    · exact Nat.le_refl _
  | advance _ hadv => exact hadv.length_le
  | deed => exact length_le_modify _ _ _
  | publish =>
    unfold emit
    split <;> exact Nat.le_refl _
  | report =>
    rw [connections_lose]
    exact length_le_modify _ _ _
  | _ => exact Nat.le_refl _

/-- A connection stays where it is, and changes at most. -/
theorem Turn.persists (h : Turn s w a w' said) (hc : w.connections[c]? = some conn) :
    ∃ conn', w'.connections[c]? = some conn' ∧ (conn' = conn ∨ conn.Change conn') := by
  have hlt : c < w.connections.length := (List.getElem?_eq_some_iff.mp hc).1
  have hc' := List.getElem?_eq_getElem (Nat.lt_of_lt_of_le hlt h.length_le)
  obtain ⟨old, hold, hchange⟩ | ⟨rfl, -⟩ := h.came hc'
  · obtain rfl := Option.some.inj (hc.symm.trans hold)
    exact ⟨_, hc', hchange⟩
  · exact absurd hlt (Nat.lt_irrefl _)

/-! ### Who has changed a connection -/

/-- What a turn does to connection `c`: a task of its own does a deed, a call that has it to itself
goes on with it, or it gets a notice or is let go. -/
inductive Touch (s : Setup) (w : State) (a : Action) (said : List Effect) (c : Nat)
    (conn : Connection) : Connection → Prop
  | same : Touch s w a said c conn conn
  | deed {conn' : Connection} : conn.Deed c a conn' said → Touch s w a said c conn conn'
  | exchange {i : Nat} {job : Job} {before after : Stage} {f : Connection → Connection} :
      a.caller? = some i → w.calls[i]? = some ⟨job, before⟩ →
      Exchange s w c before f after said → Touch s w a said c conn (f conn)
  | notice (notice : Notice) : conn.Takes →
      Touch s w a said c conn (conn.push (.send notice.frame))
  | reap : Touch s w a said c conn { conn.endReader with held := false }
  | abort : Touch s w a said c conn conn.abort
  | report {failure : RuntimeFailure} : conn.reader = .reporting failure →
      Touch s w a said c conn conn.endReader
  | letGo {i : Nat} {call : Call} : a = .drop i → w.calls[i]? = some call →
      call.stage.owned? = some c → Touch s w a said c conn { conn with held := false }

lemma Touch.of_modify {k : Nat} {f : Connection → Connection} (hc : w.connections[c]? = some conn)
    (hc' : (w.connections.modify k f)[c]? = some conn')
    (hf : k = c → Touch s w a said c conn (f conn)) : Touch s w a said c conn conn' := by
  obtain ⟨old, hold, hchange⟩ := of_getElem?_modify hc'
  obtain rfl := Option.some.inj (hc.symm.trans hold)
  rcases hchange with rfl | ⟨rfl, rfl⟩
  · exact .same
  · exact hf rfl

lemma Touch.of_eq (hc : w.connections[c]? = some conn) (hc' : w.connections[c]? = some conn') :
    Touch s w a said c conn conn' := by
  obtain rfl := Option.some.inj (hc.symm.trans hc')
  exact .same

lemma Advance.touch {job : Job} {stage : Stage} (h : Advance s w i job a stage w' said)
    (hi : w.calls[i]? = some ⟨job, stage⟩) (hc : w.connections[c]? = some conn)
    (hc' : w'.connections[c]? = some conn') : Touch s w a said c conn conn' := by
  have hcaller : a.caller? = some i := h.caller
  cases h with
  | exchange _ hex =>
    refine .of_modify hc hc' ?_
    rintro rfl
    exact .exchange hcaller hi hex
  | launched room =>
    have hlt : c < w.connections.length := (List.getElem?_eq_some_iff.mp hc).1
    have hold : (w.connections ++ [Connection.fresh room])[c]? = some conn' := hc'
    rw [List.getElem?_append_left hlt] at hold
    exact .of_eq hc hold
  | lose =>
    rw [setStage, connections_lose] at hc'
    exact .of_eq hc hc'
  | reaped => exact .of_modify hc hc' fun _ => .reap
  | relaunch | refuse | aborted => exact .of_modify hc hc' fun _ => .abort
  | sent notice ht =>
    refine .of_modify hc hc' ?_
    rintro rfl
    obtain ⟨old, hold, ht⟩ := ht
    obtain rfl := Option.some.inj (hc.symm.trans hold)
    exact .notice notice ht
  | _ => exact .of_eq hc hc'

/-- Whatever has changed a connection, it is one of these. -/
theorem Turn.touch (h : Turn s w a w' said) (hc : w.connections[c]? = some conn)
    (hc' : w'.connections[c]? = some conn') : Touch s w a said c conn conn' := by
  cases h with
  | drop hi =>
    unfold State.drop at hc'
    split at hc'
    case h_1 howned =>
      refine .of_modify hc hc' ?_
      rintro rfl
      exact .letGo rfl hi howned
    case h_2 => exact .of_eq hc hc'
  | advance hi hadv => exact hadv.touch hi hc hc'
  | deed hk hdeed =>
    refine .of_modify hc hc' ?_
    rintro rfl
    obtain rfl := Option.some.inj (hk.symm.trans hc)
    exact .deed hdeed
  | publish =>
    rw [emit_fst] at hc'
    exact .of_eq hc hc'
  | report hk hreader =>
    rw [connections_lose] at hc'
    refine .of_modify hc hc' ?_
    rintro rfl
    obtain rfl := Option.some.inj (hk.symm.trans hc)
    exact .report hreader
  | _ => exact .of_eq hc hc'

end State

/-- What is so of a fresh connection and stays so is so of every connection. -/
theorem Run.every {s : Setup} {past : List Moment} {w : State} {P : Connection → Prop}
    (hfresh : ∀ room, P (.fresh room))
    (hchange : ∀ conn conn', P conn → conn.Change conn' → P conn')
    (h : Run s past w) {c : Nat} {conn : Connection} (hc : w.connections[c]? = some conn) :
    P conn := by
  induction h generalizing c conn with
  | initial => simp [State.initial] at hc
  | step a _ hstep ih =>
    obtain ⟨old, hold, rfl | hch⟩ | ⟨-, room, rfl⟩ := (State.Turn.of_step hstep).came hc
    · exact ih hold
    · exact hchange _ _ (ih hold) hch
    · exact hfresh room

end LanguageClient
