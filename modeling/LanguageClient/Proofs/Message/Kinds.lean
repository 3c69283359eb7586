import LanguageClient.Proofs.Message.Fields

/-!
# Kinds of frames

Which message a frame carries is a matter of its id, its method, its parameters, and of whether it
has a result or an error. The messages that a client writes carry what they were made from:
`Incoming.classify_frames`.
-/

namespace LanguageClient

namespace Json

/--
The message that an object carries. With a text for its method it is a request if it has an id, of
whatever kind, and a notification if it has none. Otherwise it is a response, if its id is a whole
number of a 64-bit word and it has a result or an error.
-/
inductive Carries : Json → Incoming → Prop
  | request {fields : Table Json} {id : Json} {method : String} :
    fields.find? "id" = some id → fields.find? "method" = some (.str method) →
    Carries (.obj fields) (.request id method (fields.find? "params"))
  | notification {fields : Table Json} {method : String} :
    fields.find? "id" = none → fields.find? "method" = some (.str method) →
    Carries (.obj fields) (.notification method (fields.find? "params"))
  | response {fields : Table Json} {id : Nat} :
    fields.find? "id" = some (.int id) → id < UInt64.size →
    (∀ method, fields.find? "method" ≠ some (.str method)) →
    fields.find? "result" ≠ none ∨ fields.find? "error" ≠ none →
    Carries (.obj fields) (.response id (.obj fields))

lemma str?_eq_some_iff {v : Json} {s : String} : v.str? = some s ↔ v = .str s := by
  cases v <;> simp [str?]

lemma nat?_eq_some_iff {v : Json} {n : Nat} : v.nat? = some n ↔ v = .int n ∧ n < UInt64.size := by
  cases v with
  | int m =>
    simp only [nat?, Bool.and_eq_true, decide_eq_true_eq, Option.ite_none_right_eq_some,
      Option.some.injEq, int.injEq, UInt64.size]
    omega
  | _ => simp [nat?]

end Json

namespace Incoming

open Message

variable {frame other : Json} {message : Incoming}

lemma bind_str?_eq_some_iff {value : Option Json} {method : String} :
    value.bind Json.str? = some method ↔ value = some (.str method) := by
  simp [Option.bind_eq_some_iff, Json.str?_eq_some_iff]

lemma bind_str?_eq_none_iff {value : Option Json} :
    value.bind Json.str? = none ↔ ∀ method, value ≠ some (.str method) := by
  simp [Option.eq_none_iff_forall_ne_some, bind_str?_eq_some_iff]

/-- A frame is taken for the message that it carries, and for nothing if it carries none. -/
lemma classify_eq_some_iff : classify frame = some message ↔ frame.Carries message := by
  constructor
  · intro h
    cases frame with
    | obj fields =>
      simp only [classify, Json.get?] at h
      split at h
      case h_1 id hid hmethod =>
        obtain ⟨hbody, hresponse⟩ := Option.ite_none_right_eq_some.mp h
        obtain ⟨n, hn, rfl⟩ := Option.map_eq_some_iff.mp hresponse
        obtain ⟨rfl, hword⟩ := Json.nat?_eq_some_iff.mp hn
        refine .response hid hword (bind_str?_eq_none_iff.mp hmethod) ?_
        simpa [Option.isSome_iff_ne_none] using hbody
      case h_2 id method hid hmethod =>
        cases h
        exact .request hid (bind_str?_eq_some_iff.mp hmethod)
      case h_3 method hid hmethod =>
        cases h
        exact .notification hid (bind_str?_eq_some_iff.mp hmethod)
      case h_4 => cases h
    | _ => cases h
  · rintro (⟨hid, hmethod⟩ | ⟨hid, hmethod⟩ | ⟨hid, hword, hmethod, hbody⟩)
    · simp [classify, Json.get?, hid, hmethod, Json.str?]
    · simp [classify, Json.get?, hid, hmethod, Json.str?]
    · have hnone := bind_str?_eq_none_iff.mpr hmethod
      have hnat := Json.nat?_eq_some_iff.mpr ⟨rfl, hword⟩
      have hsome := hbody.imp Option.isSome_iff_ne_none.mpr Option.isSome_iff_ne_none.mpr
      simp [classify, Json.get?, hid, hnone, hnat, hsome]

/-- The members that a frame is judged by. -/
def members : List String := ["id", "method", "params", "result", "error"]

/-- The same message with another frame for the body of a response. -/
def inFrame (frame : Json) : Incoming → Incoming
  | response id _ => .response id frame
  | message => message

/-- Other members than these do not count. -/
lemma classify_of_agree (h : ∀ name ∈ members, other.get? name = frame.get? name) :
    classify other = (classify frame).map (inFrame other) := by
  simp only [members, List.forall_mem_cons, List.not_mem_nil, false_imp_iff, implies_true,
    and_true] at h
  obtain ⟨hid, hmethod, hparams, hresult, herror⟩ := h
  rw [classify, classify, hid, hmethod, hparams, hresult, herror]
  cases frame.get? "id" with
  | none => cases (frame.get? "method").bind Json.str? <;> rfl
  | some id =>
    cases (frame.get? "method").bind Json.str? with
    | some method => rfl
    | none =>
      dsimp only
      split_ifs
      · cases id.nat? <;> rfl
      · rfl

/-! ### Messages of a client -/

section Messages

variable {n : Nat} {method text : String} {params : Option Json} {result : Json} {code : Int}

lemma classify_request :
    classify (Message.request n method params) = some (.request (.ofNat n) method params) := by
  simp [classify, get?_request, Json.str?]

lemma classify_notification :
    classify (Message.notification method params) = some (.notification method params) := by
  simp [classify, get?_notification, Json.str?]

lemma classify_response (hn : n < UInt64.size) :
    classify (Message.response (.ofNat n) result) =
      some (.response n (Message.response (.ofNat n) result)) := by
  have hnat : (Json.ofNat n).nat? = some n := Json.nat?_eq_some_iff.mpr ⟨rfl, hn⟩
  simp [classify, get?_response, hnat]

lemma classify_errorResponse (hn : n < UInt64.size) :
    classify (errorResponse (.ofNat n) code text) =
      some (.response n (errorResponse (.ofNat n) code text)) := by
  have hnat : (Json.ofNat n).nat? = some n := Json.nat?_eq_some_iff.mpr ⟨rfl, hn⟩
  simp [classify, get?_errorResponse, hnat]

end Messages

/--
A frame is taken for the message that it carries: all other frames are taken for none, and members
that the message does not rest on do not count. So requests and notifications, also those with
null or no parameters, results and errors are taken for what they were written as.
-/
theorem classify_frames :
    (∀ frame message, classify frame = some message ↔ frame.Carries message) ∧
    (∀ frame other : Json, (∀ name ∈ members, other.get? name = frame.get? name) →
      classify other = (classify frame).map (inFrame other)) ∧
    (∀ (id : UInt64) method params, classify (Message.request id.toNat method params) =
      some (.request (.ofNat id.toNat) method params)) ∧
    (∀ method params, classify (Message.notification method params) =
      some (.notification method params)) ∧
    (∀ (id : UInt64) result, ∃ body,
      body = Message.response (.ofNat id.toNat) result ∧
        classify body = some (.response id.toNat body) ∧
        body.get? "result" = some result ∧ body.get? "error" = none) ∧
    ∀ (id : UInt64) code text, ∃ body error,
      body = errorResponse (.ofNat id.toNat) code text ∧
        classify body = some (.response id.toNat body) ∧
        body.get? "result" = none ∧ body.get? "error" = some error ∧
        error.get? "code" = some (.int code) ∧ error.get? "message" = some (.str text) := by
  refine ⟨fun _ _ => classify_eq_some_iff, fun _ _ => classify_of_agree,
    fun _ _ _ => classify_request, fun _ _ => classify_notification, ?_, ?_⟩
  · intro id result
    refine ⟨_, rfl, classify_response id.toNat_lt_size, ?_, ?_⟩ <;> simp [get?_response]
  · intro id code text
    refine ⟨_, _, rfl, classify_errorResponse id.toNat_lt_size, ?_, get?_errorResponse "error", ?_, ?_⟩
    · simp [get?_errorResponse]
    · exact Json.get?_ofFields (by simp) "code"
    · exact Json.get?_ofFields (by simp) "message"

end Incoming

end LanguageClient
