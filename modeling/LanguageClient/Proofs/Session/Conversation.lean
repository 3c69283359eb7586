import LanguageClient.Proofs.Session.Heard
import LanguageClient.Proofs.Session.Sync

/-!
# The order of a conversation

What a session says on a connection follows a script: the handshake, the documents that are open,
notices as they come, then the shutdown and the exit. Replies to the server may come anywhere in
between. `Stage.Says` is how far the script has got by the stage of the call that has the
connection to itself, and `Exchange.keeps_script` that such a call follows it.
-/

namespace LanguageClient

/-! ### The script -/

def exitFrame : Json := Message.notification "exit" none

namespace Setup

variable (s : Setup)

/-- The first request on every connection. -/
def greeting : Json := State.requestFrame s 1 .handshake

/-- The second. -/
def farewell : Json := State.requestFrame s 2 .shutdown

/-- What is said until the server's copies are those of the session, which opens its documents one
after another. -/
def opening (documents : Table OpenDocument) : List Json :=
  s.greeting :: initializedFrame :: documents.map openingFrame

/-- What is said as long as the session runs. -/
def talk (documents : Table OpenDocument) (notices : List Notice) : List Json :=
  s.opening documents ++ notices.map Notice.frame

/-- What is said to the end. -/
def script (documents : Table OpenDocument) (notices : List Notice) : List Json :=
  s.talk documents notices ++ [s.farewell, exitFrame]

variable {s} {documents rest : Table OpenDocument}

lemma opening_append (documents rest : Table OpenDocument) :
    s.opening (documents ++ rest) = s.opening documents ++ rest.map openingFrame := by
  simp [opening]

lemma talk_nil (documents : Table OpenDocument) : s.talk documents [] = s.opening documents := by
  simp [talk]

/-- Nothing of it is the shutdown. -/
lemma farewell_notMem_talk (s : Setup) (documents : Table OpenDocument) (notices : List Notice) :
    s.farewell ∉ s.talk documents notices := by
  have hfarewell : s.farewell.get? "method" = some (.str "shutdown") := get?_method_request _ _ _
  have hother {frame : Json} {method : String} (hframe : frame.get? "method" = some (.str method))
      (hne : method ≠ "shutdown") : s.farewell ≠ frame := by
    rintro rfl
    rw [hfarewell, Option.some.injEq, Json.str.injEq] at hframe
    exact hne hframe.symm
  intro hmem
  simp only [talk, opening, List.cons_append, List.mem_cons, List.mem_append, List.mem_map] at hmem
  rcases hmem with heq | heq | ⟨e, -, heq⟩ | ⟨notice, -, heq⟩
  · exact hother (get?_method_request _ _ _) (by simp [Ask.method]) heq
  · exact hother (get?_method_notification _ _) (by simp) heq
  · exact hother (get?_method_notification _ _) (by simp [Notice.method]) heq.symm
  · refine hother (get?_method_notification _ _) ?_ heq.symm
    cases notice <;> simp [Notice.method]

lemma talk_append (documents : Table OpenDocument) (notices later : List Notice) :
    s.talk documents (notices ++ later) = s.talk documents notices ++ later.map Notice.frame := by
  simp [talk]

end Setup

/-! ### What has been said -/

/-- What a call says on connection `c` in a moment. What the reader queues is not said by a call. -/
def Moment.spoken (c : Nat) (m : Moment) : List Json :=
  if m.action.caller?.isSome then framesOn c m.said else []

/-- What calls have said on connection `c`. -/
def spoken (c : Nat) (past : List Moment) : List Json := past.flatMap (·.spoken c)

lemma spoken_append (c : Nat) (past later : List Moment) :
    spoken c (past ++ later) = spoken c past ++ spoken c later := List.flatMap_append

lemma spoken_singleton (c : Nat) (m : Moment) : spoken c [m] = m.spoken c := by simp [spoken]

lemma mem_spoken {c : Nat} {past : List Moment} {m : Moment} {frame : Json} (hm : m ∈ past)
    (hframe : frame ∈ m.spoken c) : frame ∈ spoken c past :=
  List.mem_flatMap.mpr ⟨m, hm, hframe⟩

/-- The server has answered request `n` on connection `c`, and not with an error. -/
def Affirmed (c n : Nat) (past : List Moment) : Prop :=
  ∃ body, Heard c past (.response n body) ∧ body.get? "error" = none

lemma Affirmed.append {c n : Nat} {past : List Moment} (h : Affirmed c n past)
    (later : List Moment) : Affirmed c n (past ++ later) := by
  obtain ⟨body, hheard, hbody⟩ := h
  exact ⟨body, hheard.append later, hbody⟩

/-! ### Who says what -/

/-- What a call says on connection `c` at a stage. -/
inductive Speech (s : Setup) (c : Nat) : Stage → Json → Prop
  | ask (ask : Ask) (n : Nat) : Speech s c (.asking c ask n) (State.requestFrame s n ask)
  | announce : Speech s c (.announcing c) initializedFrame
  | reopen {documents : Table OpenDocument} {e : String × OpenDocument} : e ∈ documents →
      Speech s c (.reopening c documents) (openingFrame e)
  | dismiss : Speech s c (.exiting c) exitFrame
  | notice (notice : Notice) : Speech s c (.sending c notice) notice.frame

/-- The method of what a call says at a stage. -/
def Stage.method : Stage → String
  | .asking _ ask _ => ask.method
  | .announcing _ => "initialized"
  | .exiting _ => "exit"
  | .sending _ notice => notice.method
  | _ => "textDocument/didOpen"

namespace Speech

variable {s : Setup} {c : Nat} {stage : Stage} {frame : Json}

lemma get?_method (h : Speech s c stage frame) :
    frame.get? "method" = some (.str stage.method) := by
  cases h with
  | ask ask n => cases ask <;> exact get?_method_request _ _ _
  | _ => exact get?_method_notification _ _

lemma method_eq (h : Speech s c stage frame) {method : String}
    (hframe : frame.get? "method" = some (.str method)) : stage.method = method := by
  rw [h.get?_method, Option.some.injEq, Json.str.injEq] at hframe
  exact hframe

lemma eq_announcing (h : Speech s c stage frame) (hmethod : stage.method = "initialized") :
    stage = .announcing c := by
  cases h with
  | announce => rfl
  | ask ask => cases ask <;> simp [Stage.method, Ask.method] at hmethod
  | notice notice => cases notice <;> simp [Stage.method, Notice.method] at hmethod
  | _ => simp [Stage.method] at hmethod

lemma eq_exiting (h : Speech s c stage frame) (hmethod : stage.method = "exit") :
    stage = .exiting c := by
  cases h with
  | dismiss => rfl
  | ask ask => cases ask <;> simp [Stage.method, Ask.method] at hmethod
  | notice notice => cases notice <;> simp [Stage.method, Notice.method] at hmethod
  | _ => simp [Stage.method] at hmethod

end Speech

namespace State

variable {s : Setup} {w w' : State} {a : Action} {i c k : Nat} {said : List Effect}
  {job : Job} {before after stage : Stage} {f : Connection → Connection} {frame : Json}

lemma Takes.of_mem_queued (ht : w.Takes k) {said : Json}
    (hmem : frame ∈ framesOn c [.queued k (.send said)]) : k = c ∧ w.Takes c ∧ frame = said := by
  rcases eq_or_ne k c with rfl | hne
  · rw [framesOn_queued_self] at hmem
    exact ⟨rfl, ht, List.mem_singleton.mp hmem⟩
  · rw [framesOn_queued_of_ne hne] at hmem
    cases hmem

lemma Exchange.speech (h : Exchange s w k before f after said) (hmem : frame ∈ framesOn c said) :
    w.Takes c ∧ Speech s c before frame := by
  cases h with
  | asked ask n ht =>
    obtain ⟨rfl, ht, rfl⟩ := ht.of_mem_queued hmem
    exact ⟨ht, .ask ask n⟩
  | announced ht =>
    obtain ⟨rfl, ht, rfl⟩ := ht.of_mem_queued hmem
    exact ⟨ht, .announce⟩
  | reopened _ hplace ht =>
    obtain ⟨rfl, ht, rfl⟩ := ht.of_mem_queued hmem
    exact ⟨ht, .reopen (List.mem_of_getElem? hplace)⟩
  | dismissing ht =>
    obtain ⟨rfl, ht, rfl⟩ := ht.of_mem_queued hmem
    exact ⟨ht, .dismiss⟩
  | _ => cases hmem

/-- Whatever a call says, it is at a stage for it, and the outbox takes it. -/
lemma Advance.speech (h : Advance s w i job a stage w' said) (hmem : frame ∈ framesOn c said) :
    w.Takes c ∧ Speech s c stage frame := by
  cases h with
  | exchange _ hex => exact hex.speech hmem
  | sent notice ht =>
    obtain ⟨rfl, ht, rfl⟩ := ht.of_mem_queued hmem
    exact ⟨ht, .notice notice⟩
  | lose =>
    rw [framesOn_lose] at hmem
    cases hmem
  | _ => cases hmem

end State

/-! ### How far the script has got -/

/-- Whether a call deals with its connection at a stage, and with nothing else. -/
def Stage.deals : Stage → Bool
  | .settling _ | .reaping _ _ | .aborting _ _ => false
  | stage => stage.owned?.isSome

/-- What has been said on the connection that a call has to itself at a stage, with the number of
its next request. The documents are those that have been opened after the handshake, or will be, in
their order. -/
def Stage.Says (s : Setup) (affirmed : Nat → Prop) (opened : Table OpenDocument)
    (frames : List Json) (next : Nat) : Stage → Prop
  | .greeting _ | .testing _ .handshake | .registering _ .handshake => frames = [] ∧ next = 1
  | .retesting _ .handshake n | .asking _ .handshake n => frames = [] ∧ n = 1 ∧ next = 2
  | .awaiting _ .handshake n => frames = [s.greeting] ∧ n = 1 ∧ next = 2
  | .announcing _ => frames = [s.greeting] ∧ next = 2 ∧ affirmed 1
  | .reopening _ rest => ∃ done, opened = done ++ rest ∧ frames = s.opening done ∧ next = 2
  | .settling _ => frames = s.opening opened ∧ next = 2
  | .ending _ | .testing _ .shutdown | .registering _ .shutdown =>
    (∃ notices, frames = s.talk opened notices) ∧ next = 2
  | .retesting _ .shutdown n | .asking _ .shutdown n =>
    (∃ notices, frames = s.talk opened notices) ∧ n = 2
  | .awaiting _ .shutdown n =>
    (∃ notices, frames = s.talk opened notices ++ [s.farewell]) ∧ n = 2
  | .exiting _ => (∃ notices, frames = s.talk opened notices ++ [s.farewell]) ∧ affirmed 2
  | _ => ∃ notices, frames <+: s.script opened notices

namespace Stage.Says

variable {s : Setup} {affirmed affirmed' : Nat → Prop} {opened : Table OpenDocument}
  {frames : List Json} {next : Nat} {stage : Stage}

lemma mono (h : stage.Says s affirmed opened frames next)
    (himp : ∀ n, affirmed n → affirmed' n) : stage.Says s affirmed' opened frames next := by
  cases stage with
  | announcing => exact ⟨h.1, h.2.1, himp 1 h.2.2⟩
  | exiting => exact ⟨h.1, himp 2 h.2⟩
  | testing _ ask | registering _ ask | retesting _ ask | asking _ ask | awaiting _ ask =>
    cases ask <;> exact h
  | _ => exact h

lemma greeting_prefix (opened : Table OpenDocument) :
    ∃ notices, [s.greeting] <+: s.script opened notices := by
  refine ⟨[], ?_⟩
  simp [Setup.script, Setup.talk, Setup.opening]

lemma opening_prefix (done rest : Table OpenDocument) :
    ∃ notices, s.opening done <+: s.script (done ++ rest) notices := by
  refine ⟨[], ?_⟩
  rw [Setup.script, Setup.talk_nil, Setup.opening_append, List.append_assoc]
  exact List.prefix_append _ _

lemma talk_prefix (opened : Table OpenDocument) (notices : List Notice) :
    s.talk opened notices <+: s.script opened notices := List.prefix_append _ _

lemma farewell_prefix (opened : Table OpenDocument) (notices : List Notice) :
    s.talk opened notices ++ [s.farewell] <+: s.script opened notices := by
  rw [Setup.script, List.prefix_append_right_inj]
  exact List.prefix_append [s.farewell] [exitFrame]

/-- Whatever the stage, the script has been followed. -/
lemma script (h : stage.Says s affirmed opened frames next) :
    ∃ notices, frames <+: s.script opened notices := by
  have hnothing : frames = [] → ∃ notices, frames <+: s.script opened notices := by
    rintro rfl
    exact ⟨[], List.nil_prefix⟩
  have htalk : (∃ notices, frames = s.talk opened notices) →
      ∃ notices, frames <+: s.script opened notices := by
    rintro ⟨notices, rfl⟩
    exact ⟨notices, talk_prefix opened notices⟩
  have hfarewell : (∃ notices, frames = s.talk opened notices ++ [s.farewell]) →
      ∃ notices, frames <+: s.script opened notices := by
    rintro ⟨notices, rfl⟩
    exact ⟨notices, farewell_prefix opened notices⟩
  cases stage with
  | greeting => exact hnothing h.1
  | announcing =>
    rw [h.1]
    exact greeting_prefix opened
  | reopening c rest =>
    obtain ⟨done, rfl, rfl, -⟩ := h
    exact opening_prefix done rest
  | settling =>
    rw [h.1]
    simpa using opening_prefix (s := s) opened []
  | ending => exact htalk h.1
  | exiting => exact hfarewell h.1
  | testing _ ask | registering _ ask | retesting _ ask | asking _ ask =>
    cases ask with
    | handshake => exact hnothing h.1
    | shutdown => exact htalk h.1
  | awaiting _ ask =>
    cases ask with
    | handshake =>
      rw [h.1]
      exact greeting_prefix opened
    | shutdown => exact hfarewell h.1
  | _ => exact h

end Stage.Says

namespace State

variable {s : Setup} {w w' : State} {a : Action} {i c : Nat} {said : List Effect}
  {job : Job} {before after stage : Stage} {f : Connection → Connection} {conn : Connection}

lemma Exchange.deals (h : Exchange s w c before f after said) : before.deals = true := by
  cases h <;> rfl

/-- What a start has to open are the documents that the session knows of, and then those that are
left of them. -/
lemma Exchange.of_reopening {rest : Table OpenDocument}
    (h : Exchange s w c before f (.reopening c rest) said) :
    before = .announcing c ∧ rest = w.documents ∨
      ∃ place documents, before = .reopening c documents ∧ rest = documents.eraseIdx place := by
  generalize hafter : Stage.reopening c rest = after at h
  cases h with
  | announced =>
    cases hafter
    exact .inl ⟨rfl, rfl⟩
  | reopened place | unopened place =>
    cases hafter
    exact .inr ⟨place, _, rfl, rfl⟩
  | closedBefore ask | closedSince ask | unasked ask | rejected ask | forsaken ask
  | timedOut ask => cases ask <;> cases hafter
  | _ => cases hafter

lemma Exchange.owned_after (h : Exchange s w c before f after said) : after.owned? = some c := by
  cases h with
  | closedBefore ask | closedSince ask | unasked ask | rejected ask | forsaken ask
  | timedOut ask => cases ask <;> rfl
  | _ => rfl

variable {affirmed : Nat → Prop} {opened : Table OpenDocument} {frames : List Json}

/-- A call that has a connection to itself follows the script as it goes on. What the handshake
settles and which document is opened next are left aside. -/
lemma Exchange.keeps_script (h : Exchange s w c before f after said)
    (hc : w.connections[c]? = some conn) (hstage : before ≠ .announcing c)
    (hrest : ∀ rest, before ≠ .reopening c rest)
    (haffirmed : ∀ n body, conn.answer? n = some body → body.get? "error" = none → affirmed n)
    (hwords : before.Says s affirmed opened frames conn.nextId) :
    after.Says s affirmed opened (frames ++ framesOn c said) (f conn).nextId := by
  have hscript : ∃ notices, frames ++ framesOn c [] <+: s.script opened notices := by
    rw [framesOn_nil, List.append_nil]
    exact hwords.script
  cases h with
  | announced | unannounced => exact absurd rfl hstage
  | greeted | foundOpen =>
    rw [framesOn_nil, List.append_nil]
    exact hwords
  | tested ask | retested ask =>
    rw [framesOn_nil, List.append_nil]
    cases ask <;> exact hwords
  | registered ask hc' =>
    obtain rfl := Option.some.inj (hc.symm.trans hc')
    rw [framesOn_nil, List.append_nil]
    cases ask with
    | handshake =>
      obtain ⟨hnothing, hnext⟩ := hwords
      exact ⟨hnothing, hnext, congrArg (· + 1) hnext⟩
    | shutdown => exact hwords
  | asked ask n =>
    rw [framesOn_queued_self]
    cases ask with
    | handshake =>
      obtain ⟨rfl, rfl, hnext⟩ := hwords
      exact ⟨rfl, rfl, hnext⟩
    | shutdown =>
      obtain ⟨⟨notices, rfl⟩, rfl⟩ := hwords
      exact ⟨⟨notices, rfl⟩, rfl⟩
  | welcomed n hc' hanswer hok =>
    obtain rfl := Option.some.inj (hc.symm.trans hc')
    obtain ⟨rfl, rfl, hnext⟩ := hwords
    exact ⟨rfl, hnext, haffirmed 1 _ hanswer hok⟩
  | dismissed n hc' hanswer hok =>
    obtain rfl := Option.some.inj (hc.symm.trans hc')
    obtain ⟨hfarewell, rfl⟩ := hwords
    rw [framesOn_nil, List.append_nil]
    exact ⟨hfarewell, haffirmed 2 _ hanswer hok⟩
  | reopened | unopened | allReopened => exact absurd rfl (hrest _)
  | dismissing =>
    obtain ⟨⟨notices, rfl⟩, -⟩ := hwords
    refine ⟨notices, ?_⟩
    rw [framesOn_queued_self, List.append_assoc]
    exact List.prefix_refl _
  | closedBefore ask | closedSince ask | unasked ask | rejected ask | forsaken ask
  | timedOut ask => cases ask <;> exact hscript
  | _ => exact hscript

/-- Whichever document is opened again, it comes before those that still have to be, as long as
there is a writer. -/
lemma Exchange.keeps_script_reopening {rest : Table OpenDocument}
    (h : Exchange s w c (.reopening c rest) f after said) (hc : w.connections[c]? = some conn)
    (hwriter : conn.writer.hasEnded = false)
    (hwords : (Stage.reopening c rest).Says s affirmed opened frames conn.nextId) :
    ∃ opened' : Table OpenDocument, opened'.Perm opened ∧
      after.Says s affirmed opened' (frames ++ framesOn c said) (f conn).nextId := by
  obtain ⟨done, rfl, rfl, hnext⟩ := hwords
  cases h with
  | @reopened place _ uri doc hplace =>
    refine ⟨(done ++ [(uri, doc)]) ++ rest.eraseIdx place, ?_, done ++ [(uri, doc)], rfl, ?_, hnext⟩
    · rw [List.append_assoc]
      exact (Table.perm_of_place hplace).append_left done
    · rw [framesOn_queued_self, Setup.opening_append]
      rfl
  | unopened _ _ hr =>
    rw [hr conn hc] at hwriter
    cases hwriter
  | allReopened =>
    refine ⟨done, by simp, ?_, hnext⟩
    rw [framesOn_nil, List.append_nil]

/-- The documents of the script are those that are open when the handshake is done. -/
lemma Exchange.keeps_script_announcing (h : Exchange s w c (.announcing c) f after said)
    (hwords : (Stage.announcing c).Says s affirmed opened frames conn.nextId) :
    after.Says s affirmed w.documents (frames ++ framesOn c said) (f conn).nextId := by
  obtain ⟨rfl, hnext, -⟩ := hwords
  cases h with
  | announced =>
    refine ⟨[], rfl, ?_, hnext⟩
    rw [framesOn_queued_self]
    rfl
  | unannounced =>
    rw [framesOn_nil, List.append_nil]
    exact Stage.Says.greeting_prefix w.documents

end State

end LanguageClient
