import LanguageClient.Proofs.Session.Order
import LanguageClient.Proofs.Json.RoundTrip

/-!
# Frames that can be read back

All that a session queues is text and small numbers, so that a reader gets back what was queued:
`Run.plain_frames`. Only the numbers of the server's own requests, which replies repeat, are not the
session's to choose.
-/

namespace LanguageClient

/-! ### Messages -/

namespace Json

variable {depth : Nat} {fields : List (String × Json)}

lemma Plain.ofFields (h : ∀ e ∈ fields, e.2.Plain depth) :
    (Json.ofFields fields).Plain (depth + 1) := by
  have hfold (t : Table Json) (hsorted : t.Sorted) (ht : ∀ e ∈ t, e.2.Plain depth) :
      (Json.obj (fields.foldl (fun t e => Table.insert e.1 e.2 t) t)).Plain (depth + 1) := by
    induction fields generalizing t with
    | nil => exact .obj hsorted ht
    | cons e fields ih =>
      obtain ⟨he, hfields⟩ := List.forall_mem_cons.mp h
      refine ih hfields (t.insert e.1 e.2) (Table.sorted_insert hsorted _ _) ?_
      intro e' he'
      rcases Table.of_mem_insert he' with rfl | he'
      · exact he
      · exact ht e' he'
  exact hfold [] Table.sorted_nil (List.forall_mem_nil _)

lemma Plain.ofNat {n : Nat} (h : n < 2 ^ 64) : (Json.ofNat n).Plain depth :=
  .int (by omega) (by omega)

end Json

namespace Message

variable {depth : Nat} {id : Json} {method : String} {params : Option Json}

lemma plain_field? {name : String} (h : ∀ v, params = some v → v.Plain depth) :
    ∀ e ∈ field? name params, e.2.Plain depth := by
  cases params with
  | none => nofun
  | some v => simpa [field?] using h v rfl

lemma plain_request {n : Nat} (hn : n < 2 ^ 64) (h : ∀ v, params = some v → v.Plain depth) :
    (request n method params).Plain (depth + 1) := by
  refine .ofFields ?_
  simp only [List.cons_append, List.nil_append, List.forall_mem_cons]
  exact ⟨.str _, .ofNat hn, .str _, plain_field? h⟩

lemma plain_notification (h : ∀ v, params = some v → v.Plain depth) :
    (notification method params).Plain (depth + 1) := by
  refine .ofFields ?_
  simp only [List.cons_append, List.nil_append, List.forall_mem_cons]
  exact ⟨.str _, .str _, plain_field? h⟩

lemma plain_response {result : Json} (hid : id.Plain depth) (hresult : result.Plain depth) :
    (response id result).Plain (depth + 1) := by
  refine .ofFields ?_
  simp only [List.forall_mem_cons]
  exact ⟨.str _, hid, hresult, nofun⟩

lemma plain_errorResponse {code : Int} {message : String}
    (hlow : -0x8000000000000000 ≤ code) (hhigh : code < 0x10000000000000000)
    (hid : id.Plain (depth + 1)) : (errorResponse id code message).Plain (depth + 2) := by
  refine .ofFields ?_
  simp only [List.forall_mem_cons]
  refine ⟨.str _, hid, .ofFields ?_, nofun⟩
  simp only [List.forall_mem_cons]
  exact ⟨.int hlow hhigh, .str _, nofun⟩

/-- A reply is nested no deeper than the number of the request. -/
lemma plain_reply (hid : id.Plain (depth + 1)) :
    (reply id method params).Plain (depth + 2) := by
  unfold reply
  split
  · refine plain_response hid (.arr ?_)
    intro v hv
    rw [List.eq_of_mem_replicate hv]
    exact .null
  · split
    · exact plain_response hid .null
    · exact plain_errorResponse (by decide) (by decide) hid

lemma plain_initializeParams {processId : Nat} (h : processId < 2 ^ 64)
    (rootUri clientName workspaceName : String) :
    (initializeParams processId rootUri clientName workspaceName).Plain (depth + 4) := by
  refine .ofFields ?_
  simp only [List.forall_mem_cons]
  refine ⟨.ofNat h, .ofFields ?_, .str _, .ofFields ?_, .str _, .arr ?_, nofun⟩
  all_goals simp only [List.forall_mem_cons]
  · exact ⟨.str _, .str _, nofun⟩
  · refine ⟨.ofFields ?_, .ofFields ?_, .ofFields ?_, nofun⟩
    all_goals simp only [List.forall_mem_cons]
    · exact ⟨.bool _, .bool _, nofun⟩
    · refine ⟨.ofFields ?_, .ofFields ?_, nofun⟩
      all_goals simp only [List.forall_mem_cons]
      · exact ⟨.bool _, .bool _, .bool _, .bool _, nofun⟩
      · exact ⟨.bool _, .bool _, nofun⟩
    · exact ⟨.bool _, nofun⟩
  · refine ⟨.ofFields ?_, nofun⟩
    simp only [List.forall_mem_cons]
    exact ⟨.str _, .str _, nofun⟩

end Message

lemma State.plain_requestFrame {s : Setup} (h : s.processId < 2 ^ 64) {n : Nat} (hn : n < 2 ^ 64)
    (ask : Ask) : (requestFrame s n ask).Plain 127 := by
  cases ask with
  | handshake =>
    refine Message.plain_request hn ?_
    rintro v ⟨⟩
    exact Message.plain_initializeParams h _ _ _
  | shutdown => exact Message.plain_request hn nofun

/-! ### Versions of documents -/

/-- Versions count from one. -/
def OpenDocument.Numbered (doc : OpenDocument) : Prop :=
  1 ≤ doc.version ∧ doc.version ≤ OpenDocument.maxVersion

namespace Notice

def Numbered : Notice → Prop
  | .opened _ doc | .changed _ doc => doc.Numbered
  | .closed _ => True

lemma plain_frame {notice : Notice} (h : notice.Numbered) : notice.frame.Plain 127 := by
  have hversion {depth : Nat} {doc : OpenDocument} (hdoc : doc.Numbered) :
      (Json.int doc.version).Plain depth := by
    obtain ⟨hlow, hhigh⟩ := hdoc
    rw [OpenDocument.maxVersion] at hhigh
    exact .int (by omega) (by omega)
  refine Message.plain_notification ?_
  rintro v ⟨⟩
  cases notice with
  | opened uri doc =>
    refine .ofFields ?_
    simp only [List.forall_mem_cons]
    refine ⟨.ofFields ?_, List.forall_mem_nil _⟩
    simp only [List.forall_mem_cons]
    exact ⟨.str _, .str _, hversion h, .str _, List.forall_mem_nil _⟩
  | changed uri doc =>
    refine .ofFields ?_
    simp only [List.forall_mem_cons]
    refine ⟨.ofFields ?_, .arr ?_, List.forall_mem_nil _⟩
    all_goals simp only [List.forall_mem_cons]
    · exact ⟨.str _, hversion h, List.forall_mem_nil _⟩
    · refine ⟨.ofFields ?_, List.forall_mem_nil _⟩
      simp only [List.forall_mem_cons]
      exact ⟨.str _, List.forall_mem_nil _⟩
  | closed uri =>
    refine .ofFields ?_
    simp only [List.forall_mem_cons]
    refine ⟨.ofFields ?_, List.forall_mem_nil _⟩
    simp only [List.forall_mem_cons]
    exact ⟨.str _, List.forall_mem_nil _⟩

variable {documents : Table OpenDocument}

lemma numbered_sync (h : ∀ e ∈ documents, e.2.Numbered) (doc : Document) (text : String) :
    (sync documents doc text).Numbered := by
  unfold sync
  split
  case h_1 before hfind =>
    obtain ⟨hlow, hhigh⟩ : before.Numbered := h _ (Table.mem_of_find? hfind)
    rw [OpenDocument.maxVersion] at hhigh
    refine ⟨?_, Int.min_le_right ..⟩
    simp only [OpenDocument.nextVersion, OpenDocument.maxVersion]
    omega
  case h_2 => exact ⟨Int.le_refl 1, by simp [OpenDocument.maxVersion]⟩

lemma Numbered.apply {notice : Notice} (h : notice.Numbered)
    (hdocuments : ∀ e ∈ documents, e.2.Numbered) : ∀ e ∈ notice.apply documents, e.2.Numbered := by
  intro e he
  cases notice with
  | opened uri doc | changed uri doc =>
    rcases Table.of_mem_insert he with rfl | he
    · exact h
    · exact hdocuments e he
  | closed uri => exact hdocuments e (List.mem_filter.mp he).1

end Notice

/-- What a call is about to say of documents at a stage is numbered. -/
def Stage.Numbered : Stage → Prop
  | .sending _ notice => notice.Numbered
  | .reopening _ rest => ∀ e ∈ rest, e.2.Numbered
  | _ => True

namespace State

variable {s : Setup} {w w' : State} {a : Action} {i c : Nat} {said : List Effect} {job : Job}
  {stage : Stage}

/-- All documents that are open or about to be are numbered. -/
structure Numbered (w : State) : Prop where
  documents : ∀ e ∈ w.documents, e.2.Numbered
  calls : ∀ {i : Nat} {call : Call}, w.calls[i]? = some call → call.stage.Numbered

namespace Numbered

lemma exchange (h : Numbered w) {before after : Stage} {f : Connection → Connection}
    (hex : Exchange s w c before f after said) (hbefore : before.Numbered) : after.Numbered := by
  cases hex with
  | announced => exact h.documents
  | reopened | unopened => exact fun e he => hbefore e (List.mem_of_mem_eraseIdx he)
  | closedBefore ask | closedSince ask | unasked ask | rejected ask | forsaken ask
  | timedOut ask => cases ask <;> trivial
  | _ => trivial

lemma advance (h : Numbered w) (hi : w.calls[i]? = some ⟨job, stage⟩)
    (hadv : Advance s w i job a stage w' said) :
    (∀ e ∈ w'.documents, e.2.Numbered) ∧
      ∀ call, w'.calls[i]? = some call → call.stage.Numbered := by
  have hmoved {calls : List Call} {after : Stage} (hi : calls[i]? = some ⟨job, stage⟩)
      (hafter : after.Numbered) (call : Call) (hk : (moveCall calls i after)[i]? = some call) :
      call.stage.Numbered := by
    obtain rfl := eq_of_moveCall hi hk
    exact hafter
  have herased (uri : String) : ∀ e ∈ w.documents.erase uri, e.2.Numbered :=
    fun e he => h.documents e (List.mem_filter.mp he).1
  cases hadv with
  | exchange _ hex => exact ⟨h.documents, hmoved hi (h.exchange hex (h.calls hi))⟩
  | notify => exact ⟨h.documents, hmoved hi (Notice.numbered_sync h.documents _ _)⟩
  | notifyNobody =>
    refine ⟨h.documents, hmoved hi ?_⟩
    unfold Notice.sync
    split <;> trivial
  | notifyClosed | closeNobody => exact ⟨herased _, hmoved hi trivial⟩
  | lose =>
    refine ⟨?_, hmoved (getElem?_calls_lose hi) trivial⟩
    have hdocuments := h.documents
    rwa [← documents_lose s w _ .processExited] at hdocuments
  | sent notice =>
    refine ⟨Notice.Numbered.apply (h.calls hi) h.documents, hmoved hi ?_⟩
    cases notice <;> trivial
  | unsent notice =>
    refine ⟨h.documents, hmoved hi ?_⟩
    cases notice <;> trivial
  | _ => exact ⟨h.documents, hmoved hi trivial⟩

lemma turn (h : Numbered w) (hturn : Turn s w a w' said) : Numbered w' where
  documents := by
    cases hturn with
    | drop =>
      unfold State.drop
      split <;> exact h.documents
    | advance hi hadv => exact (h.advance hi hadv).1
    | publish =>
      rw [emit_fst]
      exact h.documents
    | report =>
      rw [documents_lose]
      exact h.documents
    | _ => exact h.documents
  calls {k call} hk := by
    rcases hturn.of_call hk with hold | hstage | hstage | ⟨stage, hold, hadv⟩
    · exact h.calls hold
    · rw [hstage]
      trivial
    · rw [hstage]
      trivial
    · exact (h.advance hold hadv).2 call hk

end Numbered

end State

namespace Run

variable {s : Setup} {past : List Moment} {w : State} {c : Nat} {frame : Json}

lemma numbered (h : Run s past w) : State.Numbered w := by
  induction h with
  | initial => exact ⟨nofun, by simp [State.initial]⟩
  | step a _ hstep ih => exact ih.turn (.of_step hstep)

/-- What a call says can be read back. -/
lemma plain_speech (h : Run s past w) (hprocess : s.processId < 2 ^ 64) {i : Nat} {job : Job}
    {stage : Stage} (hi : w.calls[i]? = some ⟨job, stage⟩) (htakes : w.Takes c)
    (hspeech : Speech s c stage frame) : frame.Plain 127 := by
  have hnumbered := h.numbered.calls hi
  cases hspeech with
  | ask ask n =>
    obtain ⟨documents, conn, hsays⟩ := h.says_of_takes hi rfl htakes
    cases ask with
    | handshake =>
      obtain ⟨-, rfl, -⟩ := hsays
      exact State.plain_requestFrame hprocess (by decide) _
    | shutdown =>
      obtain ⟨-, rfl⟩ := hsays
      exact State.plain_requestFrame hprocess (by decide) _
  | announce =>
    refine Message.plain_notification ?_
    rintro v ⟨⟩
    exact .obj Table.sorted_nil nofun
  | reopen he => exact Notice.plain_frame (hnumbered _ he)
  | dismiss => exact Message.plain_notification nofun
  | notice notice => exact Notice.plain_frame hnumbered

/-- All that is queued can be read back, if the numbers of the server's requests can. -/
theorem plain_frames (h : Run s past w) (hprocess : s.processId < 2 ^ 64)
    (hids : ∀ id method params, Heard c past (.request id method params) → id.Plain 126) :
    ∀ frame ∈ framesOn c (seen past), frame.Plain 127 := by
  intro frame hframe
  rw [framesOn, seen, List.filterMap_flatMap] at hframe
  obtain ⟨m, hm, hmem⟩ := List.mem_flatMap.mp hframe
  obtain ⟨earlier, later, rfl⟩ := List.mem_iff_append.mp hm
  cases hcaller : m.action.caller? with
  | none =>
    obtain ⟨id, method, params, hheard, rfl⟩ := h.reply_of_none hcaller hmem
    exact Message.plain_reply (hids id method params (hheard.append _))
  | some i =>
    have hspoken : frame ∈ m.spoken c := by
      rw [m.spoken_of_caller hcaller, framesOn_news]
      exact hmem
    obtain ⟨i, job, stage, hi, htakes, hspeech⟩ := h.speech_of_spoken hspoken
    exact h.of_split.1.plain_speech hprocess hi htakes hspeech

end Run

end LanguageClient
