import LanguageClient.Proofs.Diagnostics.Store
import LanguageClient.Proofs.Session.Losses
import LanguageClient.Proofs.Session.Order

/-!
# Documents that stay closed

A running session forgets a document when the host closes it, and comes to know of it again only
when it sends the text of it: `Run.find?_of_closedLast`. A start opens on its connection what the
session knows of, and nobody sends a text meanwhile. So a document that the host has closed is not
opened for it on the next connection: `Run.closed_not_reopened`. A session that is not running turns
the call away and forgets nothing: `Run.closed_reopened`.
-/

namespace LanguageClient

/-! ### What a frame tells of a document -/

/-- What a frame tells a server of a document. -/
def told? (frame : Json) : Option Told := do Told.read (← textMethod? frame) (← frame.get? "params")

lemma told?_notice (notice : Notice) : told? notice.frame = some notice.told := by
  have hparams : notice.frame.get? "params" = some notice.params :=
    get?_params_notification notice.method notice.params
  simp [told?, textMethod?_notice, hparams, read_notice]

lemma told?_eq_none {frame : Json} (h : textMethod? frame = none) : told? frame = none := by
  simp [told?, h]

/-- A frame that tells something has a method. -/
lemma get?_method_of_told? {frame : Json} {told : Told} (h : told? frame = some told) :
    ∃ method, frame.get? "method" = some method := by
  refine Option.ne_none_iff_exists'.mp fun hnone => ?_
  have htext : textMethod? frame = none := by
    rw [textMethod?, hnone]
    rfl
  rw [told?_eq_none htext] at h
  cases h

/-- Of what calls say only the notices of documents tell of any. -/
lemma Speech.opens {s : Setup} {c : Nat} {stage : Stage} {frame : Json} (h : Speech s c stage frame)
    {uri : String} {copy : Copy} (htold : told? frame = some (.opened uri copy)) :
    (∃ doc documents, stage = .reopening c documents ∧ (uri, doc) ∈ documents) ∨
      ∃ doc, stage = .sending c (.opened uri doc) := by
  cases h with
  | ask ask n => cases (told?_eq_none (textMethod?_requestFrame s n ask)).symm.trans htold
  | announce => cases (told?_eq_none textMethod?_initialized).symm.trans htold
  | dismiss => cases (told?_eq_none textMethod?_exit).symm.trans htold
  | reopen he =>
    left
    rw [openingFrame, told?_notice, Option.some.injEq] at htold
    obtain ⟨rfl, -⟩ := Told.opened.inj htold
    exact ⟨_, _, rfl, he⟩
  | notice notice =>
    right
    rw [told?_notice, Option.some.injEq] at htold
    cases notice with
    | opened uri' doc =>
      obtain ⟨rfl, -⟩ := Told.opened.inj htold
      exact ⟨doc, rfl⟩
    | changed | closed => cases htold

/-! ### Answers about a document -/

/-- Whether an answer says that a call was for the session to heed: its document is in scope, and
the session was running. -/
def Answer.isHeeded : Answer → Bool
  | .ok .outOfScope | .error (.notRunning _) => false
  | _ => true

/-- A call has sent the text of a document. -/
def SendsText (uri : String) (e : Job × Answer) : Prop :=
  ∃ opening doc text, doc.uri = uri ∧ e = (.sync opening doc text, .ok .sent)

/-- The last call to change what the session knows of a document was to close it, with or without a
server to tell. -/
def ClosedLast (uri : String) (history : List (Job × Answer)) : Prop :=
  ∃ earlier doc answer later, history = earlier ++ (.close doc, answer) :: later ∧ doc.uri = uri ∧
    answer.isHeeded = true ∧ ∀ e ∈ later, ¬SendsText uri e

lemma not_closedLast_nil (uri : String) : ¬ClosedLast uri [] := by
  rintro ⟨earlier, doc, answer, later, hsplit, -⟩
  simp at hsplit

lemma ClosedLast.of_concat {uri : String} {history : List (Job × Answer)} {e : Job × Answer}
    (h : ClosedLast uri (history ++ [e])) :
    (∃ doc answer, e = (.close doc, answer) ∧ doc.uri = uri ∧ answer.isHeeded = true) ∨
      ClosedLast uri history ∧ ¬SendsText uri e := by
  obtain ⟨earlier, doc, answer, later, hsplit, hdoc, hheeded, hlater⟩ := h
  rcases List.eq_nil_or_concat later with rfl | ⟨rest, last, rfl⟩
  · obtain ⟨-, hlast⟩ := List.append_inj' hsplit rfl
    obtain rfl := List.head_eq_of_cons_eq hlast
    exact .inl ⟨doc, answer, rfl, hdoc, hheeded⟩
  · rw [List.concat_eq_append] at hsplit hlater
    rw [← List.cons_append, ← List.append_assoc] at hsplit
    obtain ⟨rfl, hlast⟩ := List.append_inj' hsplit rfl
    obtain rfl := List.head_eq_of_cons_eq hlast
    right
    refine ⟨⟨earlier, doc, answer, rest, rfl, hdoc, hheeded, fun e he => ?_⟩, ?_⟩
    · exact hlater e (List.mem_append_left _ he)
    · exact hlater _ (List.mem_append_right _ (List.mem_singleton_self _))

/-- What a call comes to have as its answer, it had not before. -/
lemma Moment.of_answer? {m : Moment} {job : Job} {answer : Answer}
    (h : m.answer? = some (job, answer)) :
    ∃ i before after, m.action.caller? = some i ∧ m.before.calls[i]? = some before ∧
      m.after.calls[i]? = some ⟨job, after⟩ ∧ before.stage.answer? = none ∧
      after.answer? = some answer := by
  simp only [answer?, Option.bind_eq_bind, Option.bind_eq_some_iff] at h
  obtain ⟨i, hcaller, before, hi, ⟨job', after⟩, hi', h⟩ := h
  split at h
  case isTrue => cases h
  case isFalse hbefore =>
    obtain ⟨result, hafter, hsame⟩ := Option.map_eq_some_iff.mp h
    obtain ⟨rfl, rfl⟩ := Prod.mk.inj hsame
    refine ⟨i, before, after, hcaller, hi, hi', ?_, hafter⟩
    simpa [Call.answer?] using hbefore

/-- The document whose text a notice gives to the server. -/
def Notice.texts? : Notice → Option String
  | .opened uri _ | .changed uri _ => some uri
  | .closed _ => none

/-- Only its text makes a document known. -/
lemma Notice.find?_apply {documents : Table OpenDocument} {uri : String}
    (hnone : documents.find? uri = none) (notice : Notice) :
    (notice.apply documents).find? uri = none ∨ notice.texts? = some uri := by
  cases notice with
  | opened other copy | changed other copy =>
    rcases eq_or_ne other uri with rfl | hne
    · exact .inr rfl
    · exact .inl ((Table.find?_insert ..).trans (by simp [hne, hnone]))
  | closed other => exact .inl ((Table.find?_erase ..).trans (by simp [hnone]))

/-- A call sends the text of its own document. -/
lemma Job.Sends.text {job : Job} {notice : Notice} {uri : String} (h : job.Sends notice)
    (hnotice : notice.texts? = some uri) : SendsText uri (job, .ok .sent) := by
  cases job with
  | sync opening doc text =>
    obtain ⟨documents, rfl⟩ := h
    refine ⟨opening, doc, text, Option.some.inj (Eq.trans ?_ hnotice), rfl⟩
    unfold Notice.sync
    split <;> rfl
  | close doc =>
    obtain rfl : notice = .closed doc.uri := h
    cases hnotice
  | _ => exact h.elim

/-! ### What the session knows of a document -/

namespace State

variable {s : Setup} {w w' : State} {a : Action} {i c : Nat} {said : List Effect} {job : Job}
  {stage : Stage} {uri : String}

/-- A call that is about to send its notice has its answer next. -/
lemma Advance.of_sending {notice : Notice} (h : Advance s w i job a (.sending c notice) w' said)
    (hi : w.calls[i]? = some ⟨job, .sending c notice⟩) (heard : List Effect) :
    ∃ result, Moment.answer? ⟨w, a, w', heard⟩ = some (job, result) ∧
      (result = .ok .sent ∧ w'.documents = notice.apply w.documents ∨
        result = .error (.connectionClosed notice.method) ∧ w'.documents = w.documents ∧
          said = []) := by
  have hanswer {result : Answer} (hcaller : a.caller? = some i)
      (hi' : w'.calls[i]? = some ⟨job, notice.settled result⟩) :
      Moment.answer? ⟨w, a, w', heard⟩ = some (job, result) := by
    rw [Moment.answer?_of_caller hcaller hi hi', Call.answer?, Call.answer?,
      Notice.answer?_settled]
    rfl
  cases h with
  | exchange _ hex => cases hex.not_isSending.1
  | refused _ _ hstage => rcases hstage with hstage | ⟨hstage, -⟩ <;> cases hstage
  | sent => exact ⟨_, hanswer rfl (getElem?_moveCall_self _ hi), .inl ⟨rfl, rfl⟩⟩
  | unsent => exact ⟨_, hanswer rfl (getElem?_moveCall_self _ hi), .inr ⟨rfl, rfl, rfl⟩⟩

/-- Other calls send no text. -/
lemma Advance.find?_documents (h : Advance s w i job a stage w' said)
    (hstage : stage.isSending = false) (hnone : w.documents.find? uri = none) :
    w'.documents.find? uri = none := by
  cases h with
  | notifyClosed | closeNobody => exact (Table.find?_erase ..).trans (by simp [hnone])
  | sent => cases hstage
  | lose =>
    rw [setStage, documents_lose]
    exact hnone
  | _ => exact hnone

/-- A session comes to know of a document when a call sends the text of it. -/
lemma Turn.find?_documents (h : Turn s w a w' said) (hnone : w.documents.find? uri = none)
    (heard : List Effect) :
    w'.documents.find? uri = none ∨
      ∃ (i c : Nat) (job : Job) (notice : Notice), w.calls[i]? = some ⟨job, .sending c notice⟩ ∧
        notice.texts? = some uri ∧
        Moment.answer? ⟨w, a, w', heard⟩ = some (job, .ok .sent) := by
  cases h with
  | drop =>
    left
    unfold State.drop
    split <;> exact hnone
  | @advance _ i job stage _ _ hi hadv =>
    cases stage with
    | sending c notice =>
      obtain ⟨result, hanswer, ⟨rfl, hsent⟩ | ⟨-, hsame, -⟩⟩ := hadv.of_sending hi heard
      · rw [hsent]
        rcases notice.find?_apply hnone with hnone | htext
        · exact .inl hnone
        · exact .inr ⟨i, c, job, notice, hi, htext, hanswer⟩
      · rw [hsame]
        exact .inl hnone
    | _ => exact .inl (hadv.find?_documents rfl hnone)
  | publish =>
    rw [emit_fst]
    exact .inl hnone
  | report =>
    rw [documents_lose]
    exact .inl hnone
  | _ => exact .inl hnone

/-- A session forgets a document that the host closes, if it heeds the call. -/
lemma Advance.find?_closed {doc : Document} {answer : Answer} {after : Stage}
    (h : Advance s w i (.close doc) a stage w' said) (hsound : Sound False w)
    (hi : w.calls[i]? = some ⟨.close doc, stage⟩)
    (hsends : ∀ {c : Nat} {notice : Notice}, stage = .sending c notice →
      notice = .closed doc.uri ∧ w.documents.find? doc.uri = none)
    (hi' : w'.calls[i]? = some ⟨.close doc, after⟩) (hbefore : stage.answer? = none)
    (hafter : after.answer? = some answer) (hheeded : answer.isHeeded = true) :
    w'.documents.find? doc.uri = none := by
  cases h with
  | exchange _ hex =>
    obtain ⟨-, -, hanswer⟩ := hex.not_isSending
    obtain ⟨-, rfl⟩ := Call.mk.inj (eq_of_moveCall hi hi')
    cases hanswer.symm.trans hafter
  | outOfScope | refused | closeNobody =>
    cases eq_of_moveCall hi hi'
    cases hafter
    cases hheeded
  | notOpen _ _ hnone => exact hnone
  | sent | unsent =>
    obtain ⟨rfl, hnone⟩ := hsends rfl
    first | exact hnone | exact (Table.find?_erase ..).trans (if_pos rfl)
  | leave => cases hsound.suited hi
  | forget uri outcome =>
    cases eq_of_moveCall hi hi'
    cases outcome with
    | document => cases hbefore
    | _ => cases hafter
  | lose =>
    cases eq_of_moveCall (getElem?_calls_lose hi) hi'
    cases hafter
  | _ =>
    cases eq_of_moveCall hi hi'
    cases hafter

/-- A call that is about to tell the server of a close has made the session forget the document. -/
lemma Advance.find?_sending {doc : Document} {notice : Notice}
    (h : Advance s w i (.close doc) a stage w' said) (hi : w.calls[i]? = some ⟨.close doc, stage⟩)
    (hi' : w'.calls[i]? = some ⟨.close doc, .sending c notice⟩) :
    w'.documents.find? doc.uri = none := by
  cases h with
  | notifyClosed => exact (Table.find?_erase ..).trans (if_pos rfl)
  | exchange _ hex =>
    obtain ⟨-, hsending, -⟩ := hex.not_isSending
    obtain ⟨-, rfl⟩ := Call.mk.inj (eq_of_moveCall hi hi')
    cases hsending
  | sent notice | unsent notice =>
    cases notice <;> cases eq_of_moveCall hi hi'
  | lose => cases eq_of_moveCall (getElem?_calls_lose hi) hi'
  | _ => cases eq_of_moveCall hi hi'

/-! ### Connections that are not told of a document -/

/-- A start that brings up connection `c` has no document of `uri` to open on it. -/
structure Withholds (w : State) (uri : String) (c : Nat) : Prop where
  made : c < w.connections.length
  unknown : w.Raises c → w.documents.find? uri = none
  unopened : ∀ {i : Nat} {job : Job} {rest : Table OpenDocument},
    w.calls[i]? = some ⟨job, .reopening c rest⟩ → ∀ doc, (uri, doc) ∉ rest

/-- A start opens on its connection no document that the session does not know of. -/
lemma Turn.withholds {room : Nat} (h : Turn s w (.launched i (.ok room)) w' said)
    (hsound : Sound False w') (hnone : w.documents.find? uri = none) :
    w'.Withholds uri w.connections.length := by
  obtain ⟨job, stage, hi, hadv⟩ := h.of_caller rfl
  cases hadv with
  | exchange ha => rcases ha with ha | ha | ⟨_, _, ha, -⟩ <;> cases ha
  | reaped _ ha => rcases ha with ha | ⟨_, ha⟩ <;> cases ha
  | launched =>
    have hgreeting := getElem?_moveCall_self (.greeting w.connections.length) hi
    refine ⟨by simp [setStage], fun _ => hnone, fun hk => ?_⟩
    obtain rfl := hsound.eq_of_inside hgreeting rfl hk rfl
    cases hgreeting.symm.trans hk

theorem Withholds.turn (h : w.Withholds uri c) (hsound : Sound False w)
    (hsorted : w.documents.Sorted) (hturn : Turn s w a w' said) : w'.Withholds uri c := by
  refine ⟨Nat.lt_of_lt_of_le h.made hturn.length_le, ?_, ?_⟩
  · intro hraises
    rcases hturn.raises hraises with hwas | rfl
    · rcases hturn.find?_documents (h.unknown hwas) said with hnone | ⟨k, _, _, _, hk, -⟩
      · exact hnone
      · -- No call sends anything while the start has the lock.
        obtain ⟨i, ⟨job, stage⟩, hi, hstage⟩ := hwas
        obtain rfl := hsound.eq_of_inside hk rfl hi (Stage.isInside_of_raises hstage)
        cases hk.symm.trans hi
        cases hstage
    · exact absurd h.made (Nat.lt_irrefl _)
  · intro i job rest hi doc hmem
    rcases hturn.of_call hi with hold | hstage | hstage | ⟨stage, hold, hadv⟩
    · exact h.unopened hold doc hmem
    · cases hstage
    · cases hstage
    · rcases hadv.of_owned hold hi rfl with
        ⟨f, hex⟩ | ⟨-, -, hafter, -⟩ | ⟨-, -, -, hafter | hafter⟩
      · rcases hex.of_reopening with ⟨rfl, rfl⟩ | ⟨place, documents, rfl, rfl⟩
        · have hnone := h.unknown ⟨i, _, hold, rfl⟩
          rw [Table.mem_iff_find? hsorted, hnone] at hmem
          cases hmem
        · exact h.unopened hold doc (List.mem_of_mem_eraseIdx hmem)
      · cases hafter
      · cases hafter
      · cases hafter

end State

/-! ### Documents that were closed -/

namespace Run

variable {s : Setup} {past earlier later : List Moment} {w : State} {uri : String} {i c : Nat}

/-- A document of which a call is about to tell the server that it is closed has been forgotten. -/
lemma find?_sending {doc : Document} {notice : Notice} (h : Run s past w)
    (hi : w.calls[i]? = some ⟨.close doc, .sending c notice⟩) :
    w.documents.find? doc.uri = none := by
  induction h with
  | initial => simp [State.initial] at hi
  | @step past w w' said a hrun hstep ih =>
    have hturn := State.Turn.of_step hstep
    have hsound : State.Sound False w := hrun.sound False.elim
    rcases hturn.of_call hi with hold | hstage | hstage | ⟨stage, hold, hadv⟩
    · rcases hturn.find?_documents (ih hold) said with hnone | ⟨k, _, _, _, hk, htext, -⟩
      · exact hnone
      · obtain rfl := hsound.eq_of_inside hk rfl hold rfl
        cases hk.symm.trans hold
        cases hrun.sends hold
        cases htext
    · cases hstage
    · cases hstage
    · exact hadv.find?_sending hold hi

/-- A session forgets a document when it answers a call that closes it, if it heeds the call. -/
lemma find?_closed {m : Moment} {doc : Document} {answer : Answer} (h : Run s past m.before)
    (hturn : State.Turn s m.before m.action m.after (news m.said))
    (hanswer : m.answer? = some (.close doc, answer)) (hheeded : answer.isHeeded = true) :
    m.after.documents.find? doc.uri = none := by
  obtain ⟨i, _, after, hcaller, hi, hi', hbefore, hafter⟩ := Moment.of_answer? hanswer
  obtain ⟨job, stage, hi₀, hadv⟩ := hturn.of_caller hcaller
  obtain rfl := Option.some.inj (hi₀.symm.trans hi)
  obtain rfl := hadv.job_eq hi hi'
  refine hadv.find?_closed (h.sound nofun) hi ?_ hi' hbefore hafter hheeded
  rintro c notice rfl
  exact ⟨h.sends hi, h.find?_sending hi⟩

/-- A session does not know of a document that the host has closed and not sent again since. -/
theorem find?_of_closedLast (h : Run s past w) (hlast : ClosedLast uri (answers past)) :
    w.documents.find? uri = none := by
  induction h with
  | initial => exact absurd hlast (not_closedLast_nil uri)
  | @step past w w' said a hrun hstep ih =>
    have hturn := State.Turn.of_step hstep
    rw [answers_concat] at hlast
    have hkept (hbefore : ClosedLast uri (answers past))
        (hother : ∀ e, Moment.answer? ⟨w, a, w', said⟩ = some e → ¬SendsText uri e) :
        w'.documents.find? uri = none := by
      rcases hturn.find?_documents (ih hbefore) said with hnone | ⟨k, _, _, _, hk, htext, hsent⟩
      · exact hnone
      · exact absurd ((hrun.sends hk).text htext) (hother _ hsent)
    cases hanswer : Moment.answer? ⟨w, a, w', said⟩ with
    | none =>
      rw [hanswer, Option.toList_none, List.append_nil] at hlast
      exact hkept hlast (by simp [hanswer])
    | some e =>
      rw [hanswer, Option.toList_some] at hlast
      rcases hlast.of_concat with ⟨doc, answer, rfl, rfl, hheeded⟩ | ⟨hbefore, hother⟩
      · exact hrun.find?_closed hturn hanswer hheeded
      · refine hkept hbefore fun e' he' => ?_
        obtain rfl := Option.some.inj (hanswer.symm.trans he')
        exact hother

/--
A document that the host has closed last, in a call that the session heeded, is not opened for it on
the next connection: whatever opens it there is the work of a call that sends its text.
-/
theorem closed_not_reopened {launch : Moment} {room : Nat}
    (h : Run s (earlier ++ launch :: later) w) (hlaunch : launch.action = .launched i (.ok room))
    (hlast : ClosedLast uri (answers earlier)) :
    ∀ m ∈ later, ∀ frame ∈ framesOn launch.before.connections.length m.said,
      ∀ copy, told? frame = some (.opened uri copy) →
        ∃ e, m.answer? = some e ∧ SendsText uri e := by
  intro m hm frame hframe copy htold
  obtain ⟨front, rest, rfl⟩ := List.append_of_mem hm
  rw [← List.cons_append, ← List.append_assoc] at h
  obtain ⟨method, hmethod⟩ := get?_method_of_told? htold
  have hspoken := h.mem_spoken_of_method hframe hmethod
  obtain ⟨hrun, hstep⟩ := h.of_split
  obtain ⟨hlaunched, hfirst⟩ := hrun.of_split
  have hwithholds : m.before.Withholds uri launch.before.connections.length := by
    have hafter : State.Sound False launch.after := (hlaunched.step _ hfirst).sound nofun
    have hturn := State.Turn.of_step hfirst
    rw [hlaunch] at hturn
    refine hrun.induction_from (P := (·.Withholds uri _))
      (hturn.withholds hafter (hlaunched.find?_of_closedLast hlast)) ?_
    intro k _ past hbefore hkstep hkept
    exact hkept.turn (hbefore.sound nofun) hbefore.sorted_documents (State.Turn.of_step hkstep)
  cases hcaller : m.action.caller? with
  | none =>
    rw [Moment.spoken_of_none hcaller] at hspoken
    cases hspoken
  | some k =>
    obtain ⟨job, stage, hk, hadv⟩ := (State.Turn.of_step hstep).of_caller hcaller
    rw [Moment.spoken_of_caller hcaller] at hspoken
    obtain ⟨-, hspeech⟩ := hadv.speech hspoken
    rcases hspeech.opens htold with ⟨doc, remaining, rfl, hmem⟩ | ⟨doc, rfl⟩
    · -- A start has no such document to open.
      exact absurd hmem (hwithholds.unopened hk doc)
    · -- A call of the host sends the text, and has that for its answer.
      obtain ⟨result, hanswer, ⟨rfl, -⟩ | ⟨-, -, hsaid⟩⟩ := hadv.of_sending hk m.said
      · exact ⟨_, hanswer, (hrun.sends hk).text rfl⟩
      · rw [hsaid] at hspoken
        cases hspoken

/-- The host closes one of two documents before the connection is lost; the other one is opened on
the next connection. -/
theorem closed_not_reopened_other :
    ∃ earlier launch later w i room, Run .stock (earlier ++ launch :: later) w ∧
      launch.action = .launched i (.ok room) ∧ ClosedLast "file:///a" (answers earlier) ∧
      (∃ m ∈ later, ∃ frame ∈ framesOn launch.before.connections.length m.said, ∃ copy,
        told? frame = some (.opened "file:///b" copy)) ∧
      ∀ m ∈ later, ∀ frame ∈ framesOn launch.before.connections.length m.said,
        ∀ copy, told? frame = some (.opened "file:///a" copy) →
          ∃ e, m.answer? = some e ∧ SendsText "file:///a" e := by
  obtain ⟨earlier, w₁, launch, w₂, front, w₃, opens, w, hearlier, hlaunch, hfront, hopens, haction,
      hanswers, hframes⟩ :
      ∃ earlier w₁ launch w₂ front w₃ opens w,
        State.initial.play .stock (Action.firstStart ++ Action.opening 1 "file:///a" ++
          Action.opening 2 "file:///b" ++ Action.call (.close ⟨"file:///a", "file", "yaml"⟩) ::
          List.replicate 4 (Action.proceed 3) ++ Action.lose 0 ++ Action.relaunching 4) =
            some (earlier, w₁) ∧
        w₁.play .stock [.launched 4 (.ok 4096)] = some ([launch], w₂) ∧
        w₂.play .stock (Action.greeting 4 1) = some (front, w₃) ∧
        w₃.play .stock [.reopen 4 0] = some ([opens], w) ∧
        launch.action = .launched 4 (.ok 4096) ∧
        answers earlier = [(.sync true ⟨"file:///a", "file", "yaml"⟩ "", .ok .sent),
          (.sync true ⟨"file:///b", "file", "yaml"⟩ "", .ok .sent),
          (.close ⟨"file:///a", "file", "yaml"⟩, .ok .sent)] ∧
        framesOn launch.before.connections.length opens.said =
          [(Notice.opened "file:///b" ⟨"yaml", 1, ""⟩).frame] :=
    ⟨_, _, _, _, _, _, _, _, rfl, rfl, rfl, rfl, rfl, rfl, rfl⟩
  have hrun : Run .stock (earlier ++ launch :: (front ++ [opens])) w := by
    simpa using (((of_play hearlier).append_play hlaunch).append_play hfront).append_play hopens
  have hlast : ClosedLast "file:///a" (answers earlier) := by
    rw [hanswers]
    exact ⟨[_, _], _, _, [], rfl, rfl, rfl, by simp⟩
  have hopened : (Notice.opened "file:///b" ⟨"yaml", 1, ""⟩).frame ∈
      framesOn launch.before.connections.length opens.said := by
    rw [hframes]
    exact List.mem_singleton_self _
  exact ⟨earlier, launch, _, w, 4, 4096, hrun, haction, hlast,
    ⟨opens, by simp, _, hopened, _, told?_notice _⟩, hrun.closed_not_reopened haction hlast⟩

/-- The host closes a document after the connection was lost, and it is opened on the next one. -/
theorem closed_reopened :
    ∃ earlier launch later w i room, ∃ doc : Document, ∃ answer,
      Run .stock (earlier ++ launch :: later) w ∧ launch.action = .launched i (.ok room) ∧
      Setup.stock.selector.admits doc = true ∧
      (answers earlier).getLast? = some (.close doc, answer) ∧
      ∃ m ∈ later, m.answer? = none ∧ ∃ frame ∈ framesOn launch.before.connections.length m.said,
        ∃ copy, told? frame = some (.opened doc.uri copy) := by
  obtain ⟨earlier, w₁, launch, w₂, front, w₃, opens, w, hearlier, hlaunch, hfront, hopens, haction,
      hanswers, hquiet, hframes⟩ :
      ∃ earlier w₁ launch w₂ front w₃ opens w,
        State.initial.play .stock (Action.firstStart ++ Action.opening 1 "file:///a" ++
          Action.lose 0 ++ Action.call (.close ⟨"file:///a", "file", "yaml"⟩) :: .proceed 2 ::
          Action.relaunching 3) = some (earlier, w₁) ∧
        w₁.play .stock [.launched 3 (.ok 4096)] = some ([launch], w₂) ∧
        w₂.play .stock (Action.greeting 3 1) = some (front, w₃) ∧
        w₃.play .stock [.reopen 3 0] = some ([opens], w) ∧
        launch.action = .launched 3 (.ok 4096) ∧
        answers earlier = [(.sync true ⟨"file:///a", "file", "yaml"⟩ "", .ok .sent),
          (.close ⟨"file:///a", "file", "yaml"⟩, .error (.notRunning "failed"))] ∧
        opens.answer? = none ∧ framesOn launch.before.connections.length opens.said =
          [(Notice.opened "file:///a" ⟨"yaml", 1, ""⟩).frame] :=
    ⟨_, _, _, _, _, _, _, _, rfl, rfl, rfl, rfl, rfl, rfl, rfl, rfl⟩
  have hrun : Run .stock (earlier ++ launch :: (front ++ [opens])) w := by
    simpa using (((of_play hearlier).append_play hlaunch).append_play hfront).append_play hopens
  have hopened : (Notice.opened "file:///a" ⟨"yaml", 1, ""⟩).frame ∈
      framesOn launch.before.connections.length opens.said := by
    rw [hframes]
    exact List.mem_singleton_self _
  have hlast : (answers earlier).getLast? =
      some (.close ⟨"file:///a", "file", "yaml"⟩, .error (.notRunning "failed")) := by
    rw [hanswers]
    rfl
  exact ⟨earlier, launch, _, w, 3, 4096, _, _, hrun, haction, rfl, hlast,
    opens, by simp, hquiet, _, hopened, _, told?_notice _⟩

end Run

end LanguageClient
