import LanguageClient.Proofs.Message.Kinds
import LanguageClient.Proofs.Session.Connections

/-!
# What a frame does

A frame that has come on a connection does at most one thing, and its kind decides which: a response
answers the request that waits for it, a request will get a reply, published diagnostics become an
event. Everything else is passed over: `State.Dispatched.of_step`.
-/

namespace LanguageClient

/-! ### Kinds of frames -/

namespace Json

variable {frame : Json}

/-- The event that a frame makes, if it publishes diagnostics. -/
def published? (frame : Json) : Option Event :=
  match Incoming.classify frame with
  | some (.notification method (some params)) =>
    if method = "textDocument/publishDiagnostics" then
      match Published.decode params with
      | .ok p => some (.diagnostics p.uri p.items)
      | .error _ => none
    else none
  | _ => none

/-- The body of a frame, if it is a response to request `n`. -/
def response? (n : Nat) (frame : Json) : Option Json :=
  match Incoming.classify frame with
  | some (.response id body) => if id = n then some body else none
  | _ => none

/-- Whether a frame is a request: it has an id of any kind, and a method that is text. -/
def asks (frame : Json) : Bool :=
  (frame.get? "id").isSome && ((frame.get? "method").bind str?).isSome

lemma published?_of_decode {params : Json} {p : Published}
    (hframe : Incoming.classify frame =
      some (.notification "textDocument/publishDiagnostics" (some params)))
    (hp : Published.decode params = .ok p) :
    frame.published? = some (.diagnostics p.uri p.items) := by
  simp [published?, hframe, hp]

/-- Only a notification makes an event. -/
lemma notification_of_published? {event : Event} (h : frame.published? = some event) :
    ∃ params p, Incoming.classify frame =
        some (.notification "textDocument/publishDiagnostics" (some params)) ∧
      Published.decode params = .ok p ∧ event = .diagnostics p.uri p.items := by
  unfold published? at h
  split at h
  case h_1 method params hframe =>
    split at h
    case isTrue hmethod =>
      subst hmethod
      split at h
      case h_1 p hp => exact ⟨params, p, hframe, hp, (Option.some.inj h).symm⟩
      case h_2 => cases h
    case isFalse => cases h
  case h_2 => cases h

lemma published?_of_response {id : Nat} {body : Json}
    (hframe : Incoming.classify frame = some (.response id body)) : frame.published? = none := by
  simp [published?, hframe]

lemma published?_of_request {id : Json} {method : String} {params : Option Json}
    (hframe : Incoming.classify frame = some (.request id method params)) :
    frame.published? = none := by
  simp [published?, hframe]

lemma published?_of_malformed (hframe : Incoming.classify frame = none) :
    frame.published? = none := by
  simp [published?, hframe]

/-- What is classified as a request is one. -/
lemma asks_iff : frame.asks = true ↔
    ∃ id method params, Incoming.classify frame = some (.request id method params) := by
  unfold asks Incoming.classify
  cases frame.get? "id" with
  | none => cases (frame.get? "method").bind str? <;> simp
  | some id =>
    cases (frame.get? "method").bind str? with
    | none => simp
    | some method => simp

/-- A request as its frame has it. -/
lemma fields_of_request {id : Json} {method : String} {params : Option Json}
    (hframe : Incoming.classify frame = some (.request id method params)) :
    frame.get? "id" = some id ∧ frame.get? "method" = some (.str method) ∧
      frame.get? "params" = params := by
  cases Incoming.classify_eq_some_iff.mp hframe with
  | request hid hmethod => exact ⟨hid, hmethod, rfl⟩

end Json

/-- The frame that comes on connection `c` in an action. -/
def Action.frame? (c : Nat) : Action → Option Json
  | .received k (.message frame) => if k = c then some frame else none
  | _ => none

lemma Action.frame?_received (c : Nat) (frame : Json) :
    (Action.received c (.message frame)).frame? c = some frame := by
  simp [frame?]

lemma Action.eq_received {c : Nat} {a : Action} {frame : Json} (h : a.frame? c = some frame) :
    a = .received c (.message frame) := by
  unfold frame? at h
  split at h
  case h_1 k other =>
    split at h
    case isTrue hk =>
      obtain rfl := Option.some.inj h
      rw [hk]
    case isFalse => cases h
  case h_2 => cases h

/-- The frames that have come on connection `c`, the oldest first. -/
def dispatched (c : Nat) (past : List Moment) : List Json :=
  past.filterMap fun m => m.action.frame? c

lemma dispatched_append (c : Nat) (past later : List Moment) :
    dispatched c (past ++ later) = dispatched c past ++ dispatched c later :=
  List.filterMap_append

lemma dispatched_singleton (c : Nat) (m : Moment) :
    dispatched c [m] = (m.action.frame? c).toList := by
  cases hframe : m.action.frame? c <;> simp [dispatched, hframe]

/-! ### Steps that read a frame -/

namespace State

variable {s : Setup} {w w' : State} {c : Nat} {conn : Connection} {frame : Json}
  {said : List Effect}

/-- What a frame on connection `c` leads to, by its kind. -/
inductive Dispatched (w : State) (c : Nat) (conn : Connection) (frame : Json) : State → Prop
  | malformed : Incoming.classify frame = none → Dispatched w c conn frame w
  | answered {id : Nat} {body : Json} : Incoming.classify frame = some (.response id body) →
      id ∈ conn.pending →
      Dispatched w c conn frame (w.modifyConnection c fun _ =>
        { conn with pending := conn.pending.erase id, answers := conn.answers ++ [(id, body)] })
  /-- Nobody waits for the response. -/
  | unknown {id : Nat} {body : Json} : Incoming.classify frame = some (.response id body) →
      id ∉ conn.pending → Dispatched w c conn frame w
  | asked {id : Json} {method : String} {params : Option Json} :
      Incoming.classify frame = some (.request id method params) →
      Dispatched w c conn frame (w.modifyConnection c fun _ =>
        { conn with reader := .replying (Message.reply id method params) })
  | published {event : Event} : frame.published? = some event →
      Dispatched w c conn frame (w.emit event).1
  /-- A notification is logged at most. -/
  | noted {method : String} {params : Option Json} :
      Incoming.classify frame = some (.notification method params) →
      frame.published? = none → Dispatched w c conn frame w

namespace Dispatched

lemma of_receiveNotification {method : String} {params : Option Json}
    (hframe : Incoming.classify frame = some (.notification method params))
    (h : w.receiveNotification s method params = (w', said)) : w.Dispatched c conn frame w' := by
  cases params with
  | none =>
    obtain ⟨rfl, -⟩ := Prod.mk.inj h
    exact .noted hframe (by simp [Json.published?, hframe])
  | some params =>
    simp only [receiveNotification] at h
    split at h
    case isTrue hmethod =>
      subst hmethod
      simp only [receiveDiagnostics] at h
      split at h
      case h_1 e he =>
        obtain ⟨rfl, -⟩ := Prod.mk.inj h
        exact .noted hframe (by simp [Json.published?, hframe, he])
      case h_2 p hp =>
        obtain ⟨rfl, -⟩ := Prod.mk.inj h
        exact .published (Json.published?_of_decode hframe hp)
    case isFalse hmethod =>
      have hsame : w' = w := by
        split at h
        · split at h <;> exact (Prod.mk.inj h).1.symm
        · exact (Prod.mk.inj h).1.symm
      subst hsame
      exact .noted hframe (by simp [Json.published?, hframe, hmethod])

lemma of_dispatch (hc : w.connections[c]? = some conn)
    (h : w.dispatch s c conn frame = (w', said)) : w.Dispatched c conn frame w' := by
  unfold dispatch at h
  split at h
  case h_1 hframe =>
    obtain ⟨rfl, -⟩ := Prod.mk.inj h
    exact .malformed hframe
  case h_2 id body hframe =>
    simp only [receiveResponse, Connection.respond] at h
    by_cases hid : id ∈ conn.pending
    · simp only [hid, if_true] at h
      obtain ⟨rfl, -⟩ := Prod.mk.inj h
      exact .answered hframe hid
    · simp only [hid, if_false] at h
      obtain ⟨rfl, -⟩ := Prod.mk.inj h
      exact .unknown hframe hid
  case h_3 id method params hframe =>
    obtain ⟨rfl, -⟩ := Prod.mk.inj h
    have hsame := modifyConnection_congr hc
      (f := fun conn => { conn with reader := .replying (Message.reply id method params) })
      (g := fun _ => { conn with reader := .replying (Message.reply id method params) }) rfl
    rw [hsame]
    exact .asked hframe
  case h_4 method params hframe => exact of_receiveNotification hframe h

/-- A frame is read while the reader reads, and its kind decides what it does. -/
theorem of_step (h : w.step s (.received c (.message frame)) = some (w', said)) :
    ∃ conn, w.connections[c]? = some conn ∧ conn.reader = .reading ∧
      w.Dispatched c conn frame w' := by
  simp only [step, Option.bind_eq_bind, Option.bind_eq_some_iff] at h
  obtain ⟨conn, hc, h⟩ := h
  split at h
  case isTrue hreading =>
    have hreader : conn.reader = .reading := by
      cases hr : conn.reader <;> simp [hr, Reader.isReading] at hreading ⊢
    exact ⟨conn, hc, hreader, of_dispatch hc (Option.some.inj h)⟩
  case isFalse => cases h

/-- Calls go on by themselves. -/
lemma calls_eq (h : w.Dispatched c conn frame w') : w'.calls = w.calls := by
  cases h with
  | published => rw [emit_fst]
  | _ => rfl

/-- A connection on which another frame comes stays as it is. -/
lemma connection_of_ne (h : w.Dispatched c conn frame w') {k : Nat} (hne : c ≠ k) :
    w'.connections[k]? = w.connections[k]? := by
  cases h with
  | answered | asked => exact List.getElem?_modify_ne _ _ hne
  | published => rw [emit_fst]
  | _ => rfl

end Dispatched

end State

end LanguageClient
