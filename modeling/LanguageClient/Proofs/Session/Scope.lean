import LanguageClient.Proofs.Session.Omission
import LanguageClient.Proofs.Session.Order

/-!
# Documents out of scope

Whatever the session is doing, a call about a document that the selector does not admit ends with
its first step, and neither the server nor the host's other calls can tell that it was made:
`Run.foreign_unheard`. The session tracks, sends and opens again only what some call has passed that
the selector admits.
-/

namespace LanguageClient

/-- Whether a job is about a document that is out of scope. -/
def Setup.isForeign (s : Setup) (job : Job) : Bool :=
  job.document?.any fun doc => !s.selector.admits doc

namespace Notice

def uri : Notice → String
  | .opened uri _ | .changed uri _ | .closed uri => uri

lemma uri_sync (documents : Table OpenDocument) (doc : Document) (text : String) :
    (Notice.sync documents doc text).uri = doc.uri := by
  unfold Notice.sync
  split <;> rfl

lemma of_mem_apply {notice : Notice} {tracked : Table OpenDocument} {e : String × OpenDocument}
    (h : e ∈ notice.apply tracked) : e ∈ tracked ∨ e.1 = notice.uri := by
  cases notice with
  | opened uri doc | changed uri doc =>
    rcases Table.of_mem_insert h with rfl | hold
    · exact .inr rfl
    · exact .inl hold
  | closed uri => exact .inl (List.mem_of_mem_filter h)

end Notice

/-- What a call has to tell is about its document. -/
lemma Job.Sends.uri {job : Job} {notice : Notice} (h : job.Sends notice) :
    ∃ doc, job.document? = some doc ∧ doc.uri = notice.uri := by
  cases job with
  | sync opening doc text =>
    obtain ⟨documents, rfl⟩ := h
    exact ⟨doc, rfl, (Notice.uri_sync documents doc text).symm⟩
  | close doc =>
    obtain rfl : notice = .closed doc.uri := h
    exact ⟨doc, rfl, rfl⟩
  | _ => exact h.elim

/-- The document that a frame names. -/
def textUri? (frame : Json) : Option String :=
  ((frame.get? "params").bind (Json.get? "textDocument")).bind Told.uri?

lemma textUri?_notice (notice : Notice) : textUri? notice.frame = some notice.uri := by
  have hparams : notice.frame.get? "params" = some notice.params :=
    get?_params_notification notice.method notice.params
  rw [textUri?, hparams]
  cases notice <;>
    simp [Notice.params, Notice.uri, Told.uri?, Message.didOpenParams, Message.didChangeParams,
      Message.didCloseParams, Json.ofFields, Json.get?, Json.str?, Table.find?_insert]

/-- Of what calls say about documents, each is a notice. -/
lemma Speech.of_text {s : Setup} {c : Nat} {stage : Stage} {frame : Json}
    (h : Speech s c stage frame) (htext : (textMethod? frame).isSome) :
    (∃ documents, ∃ e ∈ documents, stage = .reopening c documents ∧ textUri? frame = some e.1) ∨
      ∃ notice, stage = .sending c notice ∧ textUri? frame = some notice.uri := by
  cases h with
  | ask ask n => simp [textMethod?_requestFrame] at htext
  | announce => simp [initializedFrame, textMethod?_initialized] at htext
  | dismiss => simp [exitFrame, textMethod?_exit] at htext
  | reopen he => exact .inl ⟨_, _, he, rfl, textUri?_notice _⟩
  | notice notice => exact .inr ⟨notice, rfl, textUri?_notice notice⟩

namespace State

variable {s : Setup} {w w' : State} {a : Action} {i : Nat} {job : Job} {stage : Stage}
  {said : List Effect}

/-! ### Calls about foreign documents -/

/-- Whether call `i` is about a document that is out of scope. -/
def foreign (s : Setup) (w : State) (i : Nat) : Bool :=
  w.calls[i]?.any fun call => s.isForeign call.job

/-- The first step of a call about a foreign document is its last, in whatever state. -/
lemma step_foreign (hi : w.calls[i]? = some ⟨job, .arriving⟩) (hforeign : s.isForeign job = true) :
    ∃ said, w.step s (.proceed i) = some (w.finish i (.document (.ok .outOfScope)), said) ∧
      news said = [] := by
  have hstep : w.step s (.proceed i) = some (w.arrive s i job) := by
    simp [step, hi, stepCall]
  cases job with
  | sync opening doc text =>
    have hout : s.selector.admits doc = false := by
      simpa [Setup.isForeign, Job.document?] using hforeign
    exact ⟨_, by rw [hstep, arrive, arriveDocument, hout]; rfl, rfl⟩
  | close doc =>
    have hout : s.selector.admits doc = false := by
      simpa [Setup.isForeign, Job.document?] using hforeign
    exact ⟨_, by rw [hstep, arrive, arriveDocument, hout]; rfl, rfl⟩
  | _ => cases hforeign

/-- How far a call about a foreign document can have got. -/
def TurnedAway (stage : Stage) : Prop :=
  stage = .arriving ∨ stage = .done (.document (.ok .outOfScope)) ∨ stage = .dropped

/-- A call that arrives goes on by itself. -/
lemma Advance.action_of_arriving (h : Advance s w i job a .arriving w' said) : a = .proceed i := by
  cases h with
  | exchange _ hex => cases hex
  | _ => rfl

/-! ### Documents that are vouched for -/

/-- Some call has passed the document with the selector's consent. -/
def Vouched (s : Setup) (w : State) (uri : String) : Prop :=
  ∃ (i : Nat) (job : Job) (stage : Stage) (doc : Document), w.calls[i]? = some ⟨job, stage⟩ ∧
    job.document? = some doc ∧ s.selector.admits doc = true ∧ doc.uri = uri

lemma Vouched.turn {uri : String} (h : Vouched s w uri) (hturn : Turn s w a w' said) :
    Vouched s w' uri := by
  obtain ⟨i, job, stage, doc, hi, hdoc⟩ := h
  obtain ⟨stage, hi'⟩ := hturn.keeps_job hi
  exact ⟨i, job, stage, doc, hi', hdoc⟩

/-- What the session tracks, and what a start is still to open again, is vouched for. -/
structure Vouches (s : Setup) (w : State) : Prop where
  documents : ∀ e ∈ w.documents, Vouched s w e.1
  reopening : ∀ {i c : Nat} {job : Job} {rest : Table OpenDocument},
    w.calls[i]? = some ⟨job, .reopening c rest⟩ → ∀ e ∈ rest, Vouched s w e.1

/-- A call that is about to open documents again has them from before. -/
lemma Advance.of_reopening {c : Nat} {rest : Table OpenDocument}
    (h : Advance s w i job a stage w' said) (hi : w.calls[i]? = some ⟨job, stage⟩)
    (hi' : w'.calls[i]? = some ⟨job, .reopening c rest⟩) :
    rest = w.documents ∨
      ∃ place documents, stage = .reopening c documents ∧ rest = documents.eraseIdx place := by
  cases h with
  | exchange _ hex =>
    obtain rfl := stage_of_moveCall hi hi'
    obtain rfl := Option.some.inj hex.owned_after
    exact hex.of_reopening.imp_left And.right
  | notifyNobody =>
    have hnext := stage_of_moveCall hi hi'
    unfold Notice.sync at hnext
    split at hnext <;> cases hnext
  | sent notice | unsent notice =>
    have hnext := stage_of_moveCall hi hi'
    cases notice <;> cases hnext
  | lose => cases stage_of_moveCall (getElem?_calls_lose hi) hi'
  | _ => cases stage_of_moveCall hi hi'

/-- The session comes to track a document when a call sends a notice of it. -/
lemma Turn.of_mem_documents (h : Turn s w a w' said) {e : String × OpenDocument}
    (he : e ∈ w'.documents) :
    e ∈ w.documents ∨ ∃ (i c : Nat) (job : Job) (notice : Notice),
      w.calls[i]? = some ⟨job, .sending c notice⟩ ∧ e.1 = notice.uri := by
  cases h with
  | drop =>
    left
    unfold State.drop at he
    split at he <;> exact he
  | @advance _ i job stage _ _ hi hadv =>
    cases hadv with
    | notifyClosed | closeNobody => exact .inl (List.mem_of_mem_filter he)
    | @sent _ c notice =>
      rcases Notice.of_mem_apply he with hold | huri
      · exact .inl hold
      · exact .inr ⟨i, c, job, notice, hi, huri⟩
    | lose =>
      rw [setStage, documents_lose] at he
      exact .inl he
    | _ => exact .inl he
  | publish =>
    rw [emit_fst] at he
    exact .inl he
  | report =>
    rw [documents_lose] at he
    exact .inl he
  | _ => exact .inl he

theorem Vouches.turn (h : Vouches s w) (hturn : Turn s w a w' said)
    (hsending : ∀ {i c : Nat} {job : Job} {notice : Notice},
      w.calls[i]? = some ⟨job, .sending c notice⟩ → Vouched s w notice.uri) : Vouches s w' where
  documents e he := by
    rcases hturn.of_mem_documents he with hold | ⟨i, c, job, notice, hi, huri⟩
    · exact (h.documents e hold).turn hturn
    · rw [huri]
      exact (hsending hi).turn hturn
  reopening {i c job rest} hi' e he := by
    cases hturn.origin hi' with
    | same hi => exact (h.reopening hi e he).turn hturn
    | begun _ hstage => cases hstage
    | dropped _ _ _ hstage => cases hstage
    | advanced hi hadv =>
      obtain rfl | ⟨place, documents, rfl, rfl⟩ := hadv.of_reopening hi hi'
      · exact (h.documents e he).turn hturn
      · exact (h.reopening hi e (List.mem_of_mem_eraseIdx he)).turn hturn

end State

namespace Run

variable {s : Setup} {past earlier later : List Moment} {m : Moment} {w : State} {i c : Nat}
  {job : Job} {stage : Stage} {frame : Json}

/-- A call about a foreign document is turned away, whatever the session is doing. -/
lemma turnedAway (h : Run s past w) (hi : w.calls[i]? = some ⟨job, stage⟩)
    (hforeign : s.isForeign job = true) : State.TurnedAway stage := by
  induction h generalizing stage with
  | initial => simp [State.initial] at hi
  | @step past w w' said a _ hstep ih =>
    cases (State.Turn.of_step hstep).origin hi with
    | same hi => exact ih hi
    | begun _ hstage => exact .inl hstage
    | dropped _ _ _ hstage => exact .inr (.inr hstage)
    | advanced hold hadv =>
      rcases ih hold with rfl | rfl | rfl
      · obtain rfl := hadv.action_of_arriving
        obtain ⟨said', hstep', -⟩ := State.step_foreign hold hforeign
        obtain ⟨rfl, -⟩ := Prod.mk.inj (Option.some.inj (hstep'.symm.trans hstep))
        exact .inr (.inl (stage_of_moveCall hold hi))
      · cases hadv.not_ended
      · cases hadv.not_ended

/-- A moment of a call about a foreign document changes nothing else. -/
lemma idles_foreign (h : Run s past w) (hm : m ∈ past) (hmover : m.action.mover? = some i)
    (hforeign : w.foreign s i = true) : m.Idles i ∧ m.launches = false := by
  obtain ⟨earlier, later, rfl⟩ := List.mem_iff_append.mp hm
  obtain ⟨hrun, hstep⟩ := h.of_split
  obtain ⟨w₀, a, w₁, said⟩ := m
  dsimp only at hmover hrun hstep
  have hjob {job : Job} {stage : Stage} (hi : w₀.calls[i]? = some ⟨job, stage⟩) :
      s.isForeign job = true := by
    obtain ⟨stage', hi'⟩ := h.keeps_job hi
    simpa [State.foreign, hi'] using hforeign
  obtain rfl | hcaller := Action.of_mover hmover
  · simp only [State.step, Option.bind_eq_bind, Option.bind_eq_some_iff] at hstep
    obtain ⟨⟨job, stage⟩, hi, hstep⟩ := hstep
    split at hstep
    case isTrue =>
      have haway := hrun.turnedAway hi (hjob hi)
      have howned : stage.owned? = none := by rcases haway with rfl | rfl | rfl <;> rfl
      rw [State.drop, howned] at hstep
      obtain ⟨rfl, rfl⟩ := Prod.mk.inj (Option.some.inj hstep)
      exact ⟨⟨State.inert_leave _ _ _, rfl⟩, rfl⟩
    case isFalse => cases hstep
  · obtain ⟨job, stage, hi, hadv⟩ := (State.Turn.of_step hstep).of_caller hcaller
    have hgoes : stage.hasEnded = false := hadv.not_ended
    rcases hrun.turnedAway hi (hjob hi) with rfl | rfl | rfl
    · obtain rfl := hadv.action_of_arriving
      obtain ⟨said', hstep', hquiet⟩ := State.step_foreign hi (hjob hi)
      obtain ⟨rfl, rfl⟩ := Prod.mk.inj (Option.some.inj (hstep'.symm.trans hstep))
      exact ⟨⟨State.inert_leave _ _ _, hquiet⟩, rfl⟩
    · cases hgoes
    · cases hgoes

lemma launches_of_foreign (h : Run s past w) (hm : m ∈ past)
    (homitted : m.isOmitted (w.foreign s) = true) : m.launches = false := by
  cases hmover : m.action.mover? with
  | some i =>
    rw [Moment.isOmitted, Moment.subject?_of_mover hmover] at homitted
    exact (h.idles_foreign hm hmover homitted).2
  | none =>
    obtain ⟨w, a, w', said⟩ := m
    cases a <;> first | rfl | cases hmover

/-- Each notice that a call is to send is about a document that some call has passed. -/
lemma vouched_sending (h : Run s past w) {notice : Notice}
    (hi : w.calls[i]? = some ⟨job, .sending c notice⟩) : State.Vouched s w notice.uri := by
  obtain ⟨doc, hdoc, huri⟩ := (h.sends hi).uri
  refine ⟨i, job, _, doc, hi, hdoc, ?_, huri⟩
  by_contra hout
  have hforeign : s.isForeign job = true := by simpa [Setup.isForeign, hdoc] using hout
  rcases h.turnedAway hi hforeign with hstage | hstage | hstage <;> cases hstage

theorem vouches (h : Run s past w) : State.Vouches s w := by
  induction h with
  | initial => exact ⟨by simp [State.initial], by simp [State.initial]⟩
  | step a hrun hstep ih => exact ih.turn (.of_step hstep) hrun.vouched_sending

/-- Each frame about a document names one that some call has passed before, and that the selector
admits. -/
lemma vouched_text (h : Run s (earlier ++ m :: later) w) (hmem : frame ∈ framesOn c m.said)
    (htext : (textMethod? frame).isSome) :
    ∃ m' ∈ earlier, ∃ job doc, m'.action = .call job ∧ job.document? = some doc ∧
      s.selector.admits doc = true ∧ textUri? frame = some doc.uri := by
  obtain ⟨hrun, -⟩ := h.of_split
  obtain ⟨uri, huri, hvouched⟩ : ∃ uri, textUri? frame = some uri ∧
      State.Vouched s m.before uri := by
    obtain ⟨method, hmethod⟩ : ∃ method, frame.get? "method" = some method := by
      refine Option.ne_none_iff_exists'.mp fun hnone => ?_
      rw [textMethod?, hnone] at htext
      cases htext
    obtain ⟨i, job, stage, hi, -, hspeech⟩ :=
      h.speech_of_spoken (h.mem_spoken_of_method hmem hmethod)
    obtain ⟨documents, e, he, rfl, huri⟩ | ⟨notice, rfl, huri⟩ := hspeech.of_text htext
    · exact ⟨e.1, huri, hrun.vouches.reopening hi e he⟩
    · exact ⟨notice.uri, huri, hrun.vouched_sending hi⟩
  obtain ⟨i, job, stage, doc, hi, hdoc, hadmits, rfl⟩ := hvouched
  obtain ⟨m', hm', ha⟩ | ⟨rfl, -⟩ | ⟨lost, rfl⟩ := hrun.begun hi
  · exact ⟨m', hm', job, doc, ha, hdoc, hadmits, huri⟩
  · cases hdoc
  · cases hdoc

/--
A call about a document that the selector does not admit is out of scope at its first step, in
whatever state the session is. The run without all such calls is a run: their own moments launch
nothing and change nothing else, all others are there with the same effects and, but for those
calls, the same states before and after, and so each other call is where it was. Hence each frame
about a document that is ever queued, on whatever connection and for whatever reason, names a
document that an earlier call of the host has passed in scope.
-/
theorem foreign_unheard (h : Run s past w) :
    (∀ (i : Nat) (job : Job) (stage : Stage), w.calls[i]? = some ⟨job, stage⟩ →
      s.isForeign job = true →
      (stage = .arriving ∧ ∃ said,
          w.step s (.proceed i) = some (w.finish i (.document (.ok .outOfScope)), said)) ∨
        stage = .done (.document (.ok .outOfScope)) ∨ stage = .dropped) ∧
    (Run s (remainingMoments (w.foreign s) past) (w.without (w.foreign s)) ∧
      (∀ call ∈ (w.without (w.foreign s)).calls, s.isForeign call.job = false) ∧
      news (seen (remainingMoments (w.foreign s) past)) = news (seen past) ∧
      (∀ m ∈ past, m.isOmitted (w.foreign s) = true → m.launches = false ∧ news m.said = [] ∧
        m.after.without (w.foreign s) = m.before.without (w.foreign s)) ∧
      ∀ (i : Nat) (call : Call), w.calls[i]? = some call → s.isForeign call.job = false →
        (w.without (w.foreign s)).calls[renumber (w.foreign s) i]? =
          some (call.renumber (w.foreign s))) ∧
    ∀ (earlier : List Moment) (m : Moment) (later : List Moment) (c : Nat) (frame : Json),
      past = earlier ++ m :: later → frame ∈ framesOn c m.said → (textMethod? frame).isSome →
      ∃ m' ∈ earlier, ∃ job doc, m'.action = .call job ∧ job.document? = some doc ∧
        s.selector.admits doc = true ∧ textUri? frame = some doc.uri := by
  have hforeign {i : Nat} {call : Call} (hi : w.calls[i]? = some call) :
      w.foreign s i = s.isForeign call.job := by simp [State.foreign, hi]
  have hdoc : ∀ (i : Nat) (call : Call), w.calls[i]? = some call → w.foreign s i = true →
      call.job.document?.isSome := by
    intro i call hi hout
    rw [hforeign hi, Setup.isForeign] at hout
    cases hjob : call.job.document? <;> simp [hjob] at hout ⊢
  have hidle : ∀ m ∈ past, ∀ i, m.action.mover? = some i → w.foreign s i = true → m.Idles i :=
    fun m hm i hmover hout => (h.idles_foreign hm hmover hout).1
  obtain ⟨hrun, hnews, hsame⟩ := h.without hdoc hidle
  refine ⟨?_, ⟨hrun, ?_, hnews, ?_, ?_⟩, ?_⟩
  · intro i job stage hi hout
    rcases h.turnedAway hi hout with rfl | hstage | hstage
    · obtain ⟨said, hstep, -⟩ := State.step_foreign hi hout
      exact .inl ⟨rfl, said, hstep⟩
    · exact .inr (.inl hstage)
    · exact .inr (.inr hstage)
  · intro call hmem
    obtain ⟨i, old, hi, hin, rfl⟩ := of_mem_remaining hmem
    exact (hforeign hi).symm.trans hin
  · intro m hm homitted
    exact ⟨h.launches_of_foreign hm homitted, hsame m hm homitted⟩
  · intro i call hi hin
    exact State.getElem?_without ((hforeign hi).trans hin) hi
  · rintro earlier m later c frame rfl hmem htext
    exact h.vouched_text hmem htext

/-- A document that is not for the server is opened before one that is. -/
theorem foreign_unheard_json :
    ∃ past w, Run .stock past w ∧
      w.calls[1]?.map (·.stage) = some (.done (.document (.ok .outOfScope))) ∧
      Run .stock (remainingMoments (w.foreign .stock) past) (w.without (w.foreign .stock)) ∧
      news (seen (remainingMoments (w.foreign .stock) past)) = news (seen past) ∧
      (w.without (w.foreign .stock)).calls[1]?.map (·.stage) =
        some (.done (.document (.ok .sent))) ∧
      (∃ m ∈ past, ∃ frame ∈ framesOn 0 m.said, (textMethod? frame).isSome) ∧
      ∀ m ∈ past, ∀ frame ∈ framesOn 0 m.said, (textMethod? frame).isSome →
        textUri? frame = some "file:///a.yaml" := by
  obtain ⟨past, w, call, m, hplay, hstart, hjson, hanswer, hi, hyaml, hstage, hm, hsent⟩ :
      ∃ past w call m, State.initial.play .stock (Action.firstStart ++
          [Action.call (.sync true ⟨"file:///b.json", "file", "json"⟩ "b"),
            .call (.sync true ⟨"file:///a.yaml", "file", "yaml"⟩ "a"),
            .proceed 2, .proceed 1, .proceed 2, .proceed 2]) = some (past, w) ∧
        w.foreign .stock 0 = false ∧ w.foreign .stock 1 = true ∧
        w.calls[1]?.map (·.stage) = some (.done (.document (.ok .outOfScope))) ∧
        w.calls[2]? = some call ∧ Setup.stock.isForeign call.job = false ∧
        call.stage = .done (.document (.ok .sent)) ∧ past[22]? = some m ∧
        ∃ notice : Notice, framesOn 0 m.said = [notice.frame] :=
    ⟨_, _, _, _, rfl, rfl, rfl, rfl, rfl, rfl, rfl, rfl,
      .opened "file:///a.yaml" ⟨"yaml", 1, "a"⟩, rfl⟩
  obtain ⟨-, ⟨hrun, -, hnews, -, hothers⟩, htexts⟩ := (of_play hplay).foreign_unheard
  obtain ⟨notice, hframes⟩ := hsent
  refine ⟨past, w, of_play hplay, hanswer, hrun, hnews, ?_,
    ⟨m, List.mem_of_getElem? hm, notice.frame, by simp [hframes], by simp [textMethod?_notice]⟩, ?_⟩
  · have hnumber : renumber (w.foreign .stock) 2 = 1 := by simp [renumber, hstart, hjson]
    rw [← hnumber, hothers 2 call hi hyaml, Option.map_some, Call.renumber, hstage]
    rfl
  · intro m hm frame hframe htext
    obtain ⟨earlier, later, hsplit⟩ := List.mem_iff_append.mp hm
    obtain ⟨m', hm', job, doc, ha, hdoc, hadmits, huri⟩ :=
      htexts earlier m later 0 frame hsplit hframe htext
    have hmem : .call job ∈ past.map (·.action) := by
      rw [← ha, hsplit]
      exact List.mem_map_of_mem (List.mem_append_left _ hm')
    rw [actions_of_play hplay] at hmem
    obtain rfl | rfl | rfl : job = .start ∨
        job = .sync true ⟨"file:///b.json", "file", "json"⟩ "b" ∨
        job = .sync true ⟨"file:///a.yaml", "file", "yaml"⟩ "a" := by
      simpa [Action.firstStart] using hmem
    · cases hdoc
    · obtain rfl := Option.some.inj hdoc
      cases hadmits
    · obtain rfl := Option.some.inj hdoc
      exact huri

end Run

end LanguageClient
