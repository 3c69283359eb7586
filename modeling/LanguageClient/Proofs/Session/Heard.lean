import LanguageClient.Proofs.Session.Connections

/-!
# What a connection has heard

The answers that wait on a connection, and the reply that its reader is about to give, come from
frames that were received on that very connection: `Run.informed`.
-/

namespace LanguageClient

/-- A frame of a kind has been received on connection `c`. -/
def Heard (c : Nat) (past : List Moment) (incoming : Incoming) : Prop :=
  ∃ m ∈ past, ∃ frame, m.action = .received c (.message frame) ∧
    Incoming.classify frame = some incoming

lemma Heard.append {c : Nat} {past : List Moment} {incoming : Incoming}
    (h : Heard c past incoming) (later : List Moment) : Heard c (past ++ later) incoming := by
  obtain ⟨m, hm, hframe⟩ := h
  exact ⟨m, List.mem_append_left _ hm, hframe⟩

lemma Heard.last {c : Nat} {m : Moment} {frame : Json} {incoming : Incoming} (past : List Moment)
    (ha : m.action = .received c (.message frame))
    (hframe : Incoming.classify frame = some incoming) : Heard c (past ++ [m]) incoming :=
  ⟨m, List.mem_append_right _ (List.mem_singleton_self m), frame, ha, hframe⟩

namespace Connection

variable {conn conn' : Connection}

/-- All that a connection has to go on was heard before. -/
structure Informed (conn : Connection) (c : Nat) (past : List Moment) : Prop where
  answers : ∀ n body, (n, body) ∈ conn.answers → Heard c past (.response n body)
  reply : ∀ frame, conn.reader = .replying frame →
    ∃ id method params, Heard c past (.request id method params) ∧
      frame = Message.reply id method params

lemma Informed.fresh (room c : Nat) (past : List Moment) :
    (Connection.fresh room).Informed c past where
  answers := by
    intro n body h
    cases h
  reply := nofun

/-- An answer that waits was received. -/
lemma Informed.heard {c : Nat} {past : List Moment} (h : conn.Informed c past) {n : Nat}
    {body : Json} (hanswer : conn.answer? n = some body) : Heard c past (.response n body) := by
  have hmem : (n, body) ∈ conn.answers := by
    obtain ⟨before, after, hsplit, -⟩ := List.lookup_eq_some_iff.mp hanswer
    simp [hsplit]
  exact h.answers n body hmem

lemma Informed.append {c : Nat} {past : List Moment} (h : conn.Informed c past)
    (later : List Moment) : conn.Informed c (past ++ later) where
  answers n body hmem := (h.answers n body hmem).append later
  reply frame hframe := by
    obtain ⟨id, method, params, hheard, heq⟩ := h.reply frame hframe
    exact ⟨id, method, params, hheard.append later, heq⟩

/-- A connection that has nothing new to go on is still informed. -/
lemma Informed.of_subset {c : Nat} {past : List Moment} (h : conn.Informed c past)
    (hanswers : conn'.answers ⊆ conn.answers)
    (hreader : ∀ frame, conn'.reader = .replying frame → conn.reader = .replying frame) :
    conn'.Informed c past where
  answers n body hmem := h.answers n body (hanswers hmem)
  reply frame hframe := h.reply frame (hreader frame hframe)

lemma Informed.deed {c : Nat} {past : List Moment} {m : Moment} {said : List Effect}
    (h : conn.Informed c past) (hdeed : conn.Deed c m.action conn' said) :
    conn'.Informed c (past ++ [m]) := by
  have hstill := h.append [m]
  generalize ha : m.action = a at hdeed
  cases hdeed with
  | write hstep =>
    rw [stepWriter_eq hstep]
    exact hstill.of_subset (List.Subset.refl _) fun _ hframe => hframe
  | reply | forgo | close | clear | ended | fault =>
    refine hstill.of_subset (List.Subset.refl _) ?_
    intro frame hframe
    cases hframe
  | drained | broken => exact hstill.of_subset (List.Subset.refl _) fun _ hframe => hframe
  | @respond frame id body _ hframe =>
    refine ⟨?_, hstill.reply⟩
    intro n answer hmem
    rcases List.mem_append.mp hmem with hmem | hmem
    · exact hstill.answers n answer hmem
    · obtain ⟨rfl, rfl⟩ := Prod.mk.inj (List.mem_singleton.mp hmem)
      exact .last past ha hframe
  | @request frame id method params _ hframe =>
    refine ⟨hstill.answers, ?_⟩
    rintro reply ⟨⟩
    exact ⟨id, method, params, .last past ha hframe, rfl⟩

end Connection

namespace State

variable {s : Setup} {w : State} {a : Action} {said : List Effect} {c : Nat}
  {conn conn' : Connection}

lemma Exchange.answers_subset {before after : Stage} {f : Connection → Connection}
    (h : Exchange s w c before f after said) (conn : Connection) :
    (f conn).answers ⊆ conn.answers := by
  cases h with
  | rejected | welcomed | dismissed => exact List.filter_subset_self _
  | _ => exact List.Subset.refl _

lemma Touch.informed {past : List Moment} {w' : State} {all : List Effect}
    (h : Touch s w a said c conn conn') (hinformed : conn.Informed c past) :
    conn'.Informed c (past ++ [⟨w, a, w', all⟩]) := by
  have hstill := hinformed.append [⟨w, a, w', all⟩]
  cases h with
  | same => exact hstill
  | deed hdeed => exact hinformed.deed (m := ⟨w, a, w', all⟩) hdeed
  | exchange _ _ hex =>
    refine hstill.of_subset (hex.answers_subset conn) ?_
    intro frame hframe
    rwa [hex.reader] at hframe
  | notice | letGo => exact hstill.of_subset (List.Subset.refl _) fun _ hframe => hframe
  | reap | abort | report => exact hstill.of_subset (List.Subset.refl _) nofun

end State

namespace Run

variable {s : Setup} {past : List Moment} {w : State} {c : Nat} {conn : Connection}

theorem informed (h : Run s past w) (hc : w.connections[c]? = some conn) :
    conn.Informed c past := by
  induction h generalizing c conn with
  | initial => simp [State.initial] at hc
  | @step past w w' said a _ hstep ih =>
    have hturn := State.Turn.of_step hstep
    obtain ⟨old, hold, -⟩ | ⟨-, room, rfl⟩ := hturn.came hc
    · exact (hturn.touch hold hc).informed (ih hold)
    · exact .fresh room c _

/-- A reply that is about to be given is one to a request that was received. -/
theorem heard_reply (h : Run s past w) (hc : w.connections[c]? = some conn) {frame : Json}
    (hreader : conn.reader = .replying frame) :
    ∃ id method params, Heard c past (.request id method params) ∧
      frame = Message.reply id method params :=
  (h.informed hc).reply frame hreader

end Run

end LanguageClient
