import LanguageClient.Proofs.Session.Conversation

/-!
# Every run follows the script

Which call has a connection to itself, what stands in the slot and how far the script has got go
together in every state: `State.Course`, which each turn keeps, also one that gives up a call. So
the order of what is queued is the same in every run: `Run.protocol_order`.
-/

namespace LanguageClient

/-! ### Connections of calls -/

namespace State

variable {s : Setup} {w w' : State} {a : Action} {i c : Nat} {said : List Effect} {job job' : Job}
  {stage after : Stage} {conn conn' : Connection}

/-- Requests are numbered by the calls that make them. -/
lemma Touch.nextId (h : Touch s w a said c conn conn') :
    conn'.nextId = conn.nextId ∨ ∃ (i : Nat) (job : Job) (ask : Ask), a.caller? = some i ∧
      w.calls[i]? = some ⟨job, .registering c ask⟩ := by
  cases h with
  | deed hdeed =>
    left
    cases hdeed with
    | write hstep => rw [Connection.stepWriter_eq hstep]
    | _ => rfl
  | exchange hcaller hi hex =>
    cases hex with
    | registered ask => exact .inr ⟨_, _, ask, hcaller, hi⟩
    | _ => exact .inl rfl
  | _ => exact .inl rfl

/-- A connection that serves after a turn did so before. -/
lemma Turn.served (h : Turn s w a w' said) (halive : Alive w.connections (some c))
    (hc' : w'.connections[c]? = some conn') (hserves : conn'.Serves) :
    ∃ conn, w.connections[c]? = some conn ∧ conn.Serves ∧ Touch s w a said c conn conn' := by
  obtain ⟨conn, hc, hchange⟩ | ⟨rfl, -⟩ := h.came hc'
  · refine ⟨conn, hc, ?_, h.touch hc hc'⟩
    rcases hchange with rfl | hchange
    · exact hserves
    · exact hchange.serves hserves
  · have hnewest := halive.newest rfl
    omega

/-- Only a call that goes on comes to have a connection to itself. -/
lemma Turn.of_owned (h : Turn s w a w' said) (hcaller : a.caller? = none) {call : Call}
    (hi : w'.calls[i]? = some call) (howned : call.stage.owned? = some c) :
    w.calls[i]? = some call := by
  have hnew : call.stage ≠ .arriving := by
    intro hstage
    rw [hstage] at howned
    cases howned
  cases h with
  | call | activate =>
    rcases of_getElem?_append_call hi with hi | rfl
    · exact hi
    · exact absurd rfl hnew
  | @drop k dropped hk =>
    have hmoved : (moveCall w.calls k .dropped)[i]? = some call := by
      unfold State.drop at hi
      split at hi <;> exact hi
    rcases eq_or_ne k i with rfl | hne
    · rw [getElem?_moveCall_self _ hk] at hmoved
      obtain rfl := Option.some.inj hmoved
      cases howned
    · rwa [getElem?_moveCall_ne _ _ hne] at hmoved
  | advance _ hadv =>
    rw [hadv.caller] at hcaller
    cases hcaller
  | publish =>
    rw [emit_fst] at hi
    exact hi
  | report =>
    rcases of_getElem?_calls_lose hi with hi | hstage
    · exact hi
    · exact absurd hstage hnew
  | _ => exact hi

/-- Only calls that go on change the slot. -/
lemma Turn.slot_eq (h : Turn s w a w' said) (hcaller : a.caller? = none) : w'.slot = w.slot := by
  cases h with
  | drop =>
    unfold State.drop
    split <;> rfl
  | advance _ hadv =>
    rw [hadv.caller] at hcaller
    cases hcaller
  | publish => rw [emit_fst]
  | report =>
    rw [slot_lose]
    rfl
  | _ => rfl

/-- A call has a connection to itself since it was launched, or since it was taken from the slot. -/
lemma Advance.of_owned (h : Advance s w i job a stage w' said)
    (hi : w.calls[i]? = some ⟨job, stage⟩) (hi' : w'.calls[i]? = some ⟨job', after⟩)
    (howned : after.owned? = some c) :
    (∃ f, Exchange s w c stage f after said) ∨
      (stage = .launching ∧ c = w.connections.length ∧ after = .greeting c ∧
        ∃ room, w'.connections[c]? = some (.fresh room)) ∨
      (stage = .waiting ∧ w.slot = some c ∧ w'.connections = w.connections ∧
        (after = .discarding c .relaunch ∨ after = .ending c)) := by
  cases h with
  | exchange _ hex =>
    obtain rfl := stage_of_moveCall hi hi'
    obtain rfl := Option.some.inj (hex.owned_after.symm.trans howned)
    exact .inl ⟨_, hex⟩
  | launched room =>
    obtain rfl := stage_of_moveCall hi hi'
    obtain rfl := Option.some.inj howned
    exact .inr (.inl ⟨rfl, rfl, rfl, room, by simp [setStage]⟩)
  | vacate _ _ hslot =>
    obtain rfl := stage_of_moveCall hi hi'
    obtain rfl := Option.some.inj howned
    exact .inr (.inr ⟨rfl, hslot, rfl, .inl rfl⟩)
  | stop _ _ _ _ hslot =>
    obtain rfl := stage_of_moveCall hi hi'
    obtain rfl := Option.some.inj howned
    exact .inr (.inr ⟨rfl, hslot, rfl, .inr rfl⟩)
  | lose =>
    obtain rfl := stage_of_moveCall (getElem?_calls_lose hi) hi'
    cases howned
  | sent notice | unsent notice | notifyNobody | closeNobody =>
    obtain rfl := stage_of_moveCall hi hi'
    first | cases howned | (unfold Notice.settled at howned; split at howned <;> cases howned)
  | _ =>
    obtain rfl := stage_of_moveCall hi hi'
    cases howned

/-- A connection comes into the slot once it is ready. -/
lemma Advance.of_slot (h : Advance s w i job a stage w' said) (hslot : w'.slot = some c) :
    w.slot = some c ∨ stage = .settling c ∧ w'.connections = w.connections := by
  cases h with
  | settle k =>
    obtain rfl := Option.some.inj hslot
    exact .inr ⟨rfl, rfl⟩
  | lose =>
    have hkept : (w.lose s _ .processExited).1.slot = some c := hslot
    rw [slot_lose] at hkept
    exact .inl hkept
  | vacate | stop | stopNobody => cases hslot
  | _ => exact .inl hslot

/-- How the script and a run go together on connection `c`. The documents are those that were open
when the handshake was done, and they have been opened again, or will be, in some order. -/
structure Course (s : Setup) (past : List Moment) (w : State) (c : Nat)
    (documents opened : Table OpenDocument) : Prop where
  sorted : documents.Sorted
  perm : opened.Perm documents
  noted : ∀ m ∈ past, initializedFrame ∈ m.spoken c → m.before.documents = documents
  script : ∃ notices, spoken c past <+: s.script opened notices
  owned : ∀ {i : Nat} {job : Job} {stage : Stage} {conn : Connection},
    w.calls[i]? = some ⟨job, stage⟩ → stage.owned? = some c →
    w.connections[c]? = some conn → conn.Serves →
    stage.Says s (Affirmed c · past) opened (spoken c past) conn.nextId
  slotted : ∀ {conn : Connection}, w.slot = some c → w.connections[c]? = some conn →
    conn.Serves → (∃ notices, spoken c past = s.talk opened notices) ∧ conn.nextId = 2

end State

lemma Moment.spoken_of_caller {m : Moment} {i : Nat} (h : m.action.caller? = some i) (c : Nat) :
    m.spoken c = framesOn c (news m.said) := by
  rw [spoken, h, framesOn_news]
  rfl

lemma Moment.spoken_of_none {m : Moment} (h : m.action.caller? = none) (c : Nat) :
    m.spoken c = [] := by
  rw [spoken, h]
  rfl

namespace State.Course

variable {s : Setup} {past : List Moment} {m : Moment} {c i : Nat} {job : Job} {stage : Stage}
  {documents opened : Table OpenDocument}

theorem initial (s : Setup) (c : Nat) : Course s [] .initial c [] [] where
  sorted := Table.sorted_nil
  perm := .refl _
  noted := by simp
  script := ⟨[], List.nil_prefix⟩
  owned hi := by simp [State.initial] at hi
  slotted hslot := by cases hslot

/-- A moment in which no call says anything on the connection. -/
lemma silent (h : Course s past m.before c documents opened) (hsound : Sound False m.before)
    (hturn : Turn s m.before m.action m.after (news m.said)) (hquiet : m.spoken c = [])
    (howned : ∀ {i : Nat} {job : Job} {stage : Stage}, m.after.calls[i]? = some ⟨job, stage⟩ →
      stage.owned? = some c →
      (m.before.calls[i]? = some ⟨job, stage⟩ ∧ m.action.caller? ≠ some i) ∨
      ∀ conn, m.after.connections[c]? = some conn → conn.Serves →
        stage.Says s (Affirmed c · past) opened (spoken c past) conn.nextId)
    (hslotted : m.after.slot = some c → m.before.slot = some c ∨
      ∀ conn, m.after.connections[c]? = some conn → conn.Serves →
        (∃ notices, spoken c past = s.talk opened notices) ∧ conn.nextId = 2) :
    Course s (past ++ [m]) m.after c documents opened := by
  have hspoken : spoken c (past ++ [m]) = spoken c past := by
    rw [spoken_append, spoken_singleton, hquiet, List.append_nil]
  refine ⟨h.sorted, h.perm, ?_, hspoken ▸ h.script, ?_, ?_⟩
  · intro k hk hframe
    rcases List.mem_append.mp hk with hk | hk
    · exact h.noted k hk hframe
    · obtain rfl := List.mem_singleton.mp hk
      rw [hquiet] at hframe
      cases hframe
  · intro i job stage conn' hi ho hc' hserves
    rw [hspoken]
    have hwords : stage.Says s (Affirmed c · past) opened (spoken c past) conn'.nextId := by
      rcases howned hi ho with ⟨hbefore, hne⟩ | hwords
      · obtain ⟨halive, -⟩ := hsound.of_owned hbefore ho
        obtain ⟨conn, hc, hserved, htouch⟩ := hturn.served halive hc' hserves
        have hsame : conn'.nextId = conn.nextId := by
          rcases htouch.nextId with hsame | ⟨k, job', ask, hcaller, hk⟩
          · exact hsame
          · have hki : k = i := hsound.eq_of_inside hk rfl hbefore (Stage.isInside_of_owned ho)
            exact absurd (hki ▸ hcaller) hne
        rw [hsame]
        exact h.owned hbefore ho hc hserved
      · exact hwords conn' hc' hserves
    exact hwords.mono fun n hn => hn.append [m]
  · intro conn' hslot hc' hserves
    rw [hspoken]
    rcases hslotted hslot with hbefore | htalk
    · obtain ⟨conn, hc, hserved, htouch⟩ := hturn.served (hsound.alive_of_slot hbefore) hc' hserves
      have hsame : conn'.nextId = conn.nextId := by
        rcases htouch.nextId with hsame | ⟨k, job', ask, -, hk⟩
        · exact hsame
        · obtain ⟨-, hnone⟩ := hsound.of_owned hk rfl
          rw [hbefore] at hnone
          cases hnone
      rw [hsame]
      exact h.slotted hbefore hc hserved
    · exact htalk conn' hc' hserves

/-- A moment in which no call goes on. -/
lemma aside (h : Course s past m.before c documents opened) (hsound : Sound False m.before)
    (hturn : Turn s m.before m.action m.after (news m.said)) (hcaller : m.action.caller? = none) :
    Course s (past ++ [m]) m.after c documents opened := by
  refine h.silent hsound hturn (m.spoken_of_none hcaller c) ?_ ?_
  · intro i job stage hi ho
    refine .inl ⟨hturn.of_owned hcaller hi ho, ?_⟩
    rw [hcaller]
    exact nofun
  · intro hslot
    rw [hturn.slot_eq hcaller] at hslot
    exact .inl hslot

/-- A call goes on, but says nothing on the connection and asks nothing of it. -/
lemma proceed (h : Course s past m.before c documents opened) (hsound : Sound False m.before)
    (hunused : m.before.connections.length ≤ c → spoken c past = [])
    (hi : m.before.calls[i]? = some ⟨job, stage⟩)
    (hadv : Advance s m.before i job m.action stage m.after (news m.said))
    (hquiet : framesOn c (news m.said) = [])
    (hother : stage.owned? = some c → stage.deals = false) :
    Course s (past ++ [m]) m.after c documents opened := by
  refine h.silent hsound (.advance hi hadv) ?_ ?_ ?_
  · rw [m.spoken_of_caller hadv.caller, hquiet]
  · intro k job' after hk ho
    rcases eq_or_ne i k with rfl | hne
    · right
      intro conn hc hserves
      obtain ⟨f, hex⟩ | ⟨-, rfl, rfl, room, hfresh⟩ | ⟨-, hslot, hsame, hafter⟩ :=
        hadv.of_owned hi hk ho
      · have hdeals := hother hex.owned
        rw [hex.deals] at hdeals
        cases hdeals
      · obtain rfl := Option.some.inj (hfresh.symm.trans hc)
        exact ⟨hunused (Nat.le_refl _), rfl⟩
      · rw [hsame] at hc
        rcases hafter with rfl | rfl
        · exact h.script
        · exact h.slotted hslot hc hserves
    · left
      rw [hadv.caller]
      refine ⟨?_, fun heq => hne (Option.some.inj heq)⟩
      rcases hadv.of_other hk hne with hk | hstage
      · exact hk
      · obtain rfl : after = .arriving := hstage
        cases ho
  · intro hslot
    rcases hadv.of_slot hslot with hbefore | ⟨rfl, hsame⟩
    · exact .inl hbefore
    · right
      intro conn hc hserves
      rw [hsame] at hc
      obtain ⟨hopening, hnext⟩ := h.owned hi rfl hc hserves
      exact ⟨⟨[], hopening.trans (Setup.talk_nil opened).symm⟩, hnext⟩

/-- The other calls have no connection to themselves while one of them has. -/
lemma of_owned_after {w w' : State} {a : Action} {said : List Effect} {k : Nat} {job' : Job}
    {after : Stage} (hsound : Sound False w) (hi : w.calls[i]? = some ⟨job, stage⟩)
    (hin : stage.isInside = true) (hadv : Advance s w i job a stage w' said)
    (hk : w'.calls[k]? = some ⟨job', after⟩) (ho : after.owned? = some c) : i = k := by
  by_contra hne
  rcases hadv.of_other hk hne with hk | hstage
  · exact hne (hsound.eq_of_inside hi hin hk (Stage.isInside_of_owned ho))
  · obtain rfl : after = .arriving := hstage
    cases ho

/-- What a call says over the connection that it has to itself comes next in the script. -/
lemma exchange_script {f : Connection → Connection} {after : Stage} {conn : Connection}
    (h : Course s past m.before c documents opened) (hsorted : m.before.documents.Sorted)
    (hc : m.before.connections[c]? = some conn) (hinformed : conn.Informed c past)
    (hserves : conn.Serves) (hi : m.before.calls[i]? = some ⟨job, stage⟩)
    (hcaller : m.action.caller? = some i)
    (hex : Exchange s m.before c stage f after (news m.said)) :
    ∃ documents' opened' : Table OpenDocument, documents'.Sorted ∧ opened'.Perm documents' ∧
      after.Says s (Affirmed c · past) opened' (spoken c past ++ framesOn c (news m.said))
        (f conn).nextId ∧
      ∀ k ∈ past ++ [m], initializedFrame ∈ k.spoken c → k.before.documents = documents' := by
  have hwords := h.owned hi hex.owned hc hserves
  have hnoted (hstage : stage ≠ .announcing c) :
      ∀ k ∈ past ++ [m], initializedFrame ∈ k.spoken c → k.before.documents = documents := by
    intro k hk hframe
    rcases List.mem_append.mp hk with hk | hk
    · exact h.noted k hk hframe
    · obtain rfl := List.mem_singleton.mp hk
      rw [k.spoken_of_caller hcaller] at hframe
      obtain ⟨-, hspeech⟩ := hex.speech hframe
      exact absurd (hspeech.eq_announcing (hspeech.method_eq (get?_method_notification _ _)))
        hstage
  rcases eq_or_ne stage (.announcing c) with rfl | hstage
  · -- The documents that are open now are those that will be opened again.
    refine ⟨m.before.documents, m.before.documents, hsorted, .refl _,
      hex.keeps_script_announcing hwords, ?_⟩
    intro k hk hframe
    rcases List.mem_append.mp hk with hk | hk
    · have hmem := mem_spoken hk hframe
      rw [hwords.1, List.mem_singleton] at hmem
      have hmethod : s.greeting.get? "method" = some (.str "initialize") :=
        get?_method_request _ _ _
      rw [← hmem, initializedFrame, get?_method_notification] at hmethod
      simp at hmethod
    · rw [List.mem_singleton.mp hk]
  · by_cases hrest : ∃ rest, stage = .reopening c rest
    · obtain ⟨rest, rfl⟩ := hrest
      obtain ⟨opened', hperm, hafter⟩ := hex.keeps_script_reopening hc hserves.2 hwords
      exact ⟨documents, opened', h.sorted, hperm.trans h.perm, hafter, hnoted hstage⟩
    · have hrest' : ∀ rest, stage ≠ .reopening c rest := fun rest heq => hrest ⟨rest, heq⟩
      refine ⟨documents, opened, h.sorted, h.perm,
        hex.keeps_script hc hstage hrest' ?_ hwords, hnoted hstage⟩
      intro n body hanswer hok
      exact ⟨body, hinformed.heard hanswer, hok⟩

/-- The call that has the connection to itself goes on with it. -/
lemma exchange {w : State} {a : Action} {f : Connection → Connection} {after : Stage}
    {said : List Effect} (h : Course s past w c documents opened) (hsound : Sound False w)
    (hsorted : w.documents.Sorted)
    (hinformed : ∀ conn, w.connections[c]? = some conn → conn.Informed c past)
    (hi : w.calls[i]? = some ⟨job, stage⟩)
    (hadv : Advance s w i job a stage ((w.modifyConnection c f).setStage i after) (news said))
    (hex : Exchange s w c stage f after (news said)) :
    ∃ documents' opened', Course s
      (past ++ [⟨w, a, (w.modifyConnection c f).setStage i after, said⟩])
      ((w.modifyConnection c f).setStage i after) c documents' opened' := by
  set w' := (w.modifyConnection c f).setStage i after with hw'
  set m : Moment := ⟨w, a, w', said⟩ with hm
  have hspoken : spoken c (past ++ [m]) = spoken c past ++ framesOn c (news said) := by
    rw [spoken_append, spoken_singleton, m.spoken_of_caller hadv.caller]
  obtain ⟨halive, hnone⟩ := hsound.of_owned hi hex.owned
  obtain ⟨conn, hc⟩ := halive.getElem?
  have hc' : w'.connections[c]? = some (f conn) := getElem?_modifyConnection f hc
  have hslotted {P : Prop} (hslot : w'.slot = some c) : P := by
    have hslot : w.slot = some c := hslot
    rw [hnone] at hslot
    cases hslot
  by_cases hserves : conn.Serves
  · obtain ⟨documents', opened', hsorted', hperm, hafter, hnoted⟩ :=
      exchange_script (m := m) h hsorted hc (hinformed conn hc) hserves hi hadv.caller hex
    refine ⟨documents', opened', hsorted', hperm, hnoted, hspoken ▸ hafter.script, ?_,
      fun hslot => hslotted hslot⟩
    intro k job' stage' conn' hk ho hconn' _
    obtain rfl := of_owned_after hsound hi (Stage.isInside_of_owned hex.owned) hadv hk ho
    obtain rfl := Option.some.inj (hc'.symm.trans hconn')
    have hmoved : w'.calls[i]? = some ⟨job, after⟩ := getElem?_moveCall_self after hi
    rw [hmoved, Option.some.injEq, Call.mk.injEq] at hk
    obtain ⟨-, rfl⟩ := hk
    rw [hspoken]
    exact hafter.mono fun n hn => hn.append [m]
  · -- Nothing can be said any more.
    have hquiet : framesOn c (news said) = [] := by
      refine List.eq_nil_iff_forall_not_mem.mpr ?_
      intro frame hframe
      obtain ⟨⟨old, hold, hwriter, -⟩, -⟩ := hex.speech hframe
      obtain rfl := Option.some.inj (hc.symm.trans hold)
      exact hserves ⟨(halive.held_iff hc).mpr rfl, hwriter⟩
    have hturn : Turn s w a w' (news said) := .advance hi hadv
    refine ⟨documents, opened, h.silent (m := m) hsound hturn ?_ ?_ fun hslot => hslotted hslot⟩
    · rw [m.spoken_of_caller hadv.caller, hquiet]
    · intro k job' stage' _ ho
      right
      intro conn' hconn' hafter
      obtain ⟨old, hold, hserved, -⟩ := hturn.served halive hconn' hafter
      obtain rfl := Option.some.inj (hc.symm.trans hold)
      exact absurd hserved hserves

/-- A notice is said over the connection in the slot. -/
lemma sent (h : Course s past m.before c documents opened) (hsound : Sound False m.before)
    {notice : Notice} (hi : m.before.calls[i]? = some ⟨job, .sending c notice⟩)
    (hadv : Advance s m.before i job m.action (.sending c notice) m.after (news m.said))
    (htakes : m.before.Takes c) (hsaid : news m.said = [.queued c (.send notice.frame)]) :
    Course s (past ++ [m]) m.after c documents opened := by
  have hspoken : spoken c (past ++ [m]) = spoken c past ++ [notice.frame] := by
    rw [spoken_append, spoken_singleton, m.spoken_of_caller hadv.caller, hsaid,
      framesOn_queued_self]
  obtain ⟨live, halive, -, hslot, rfl⟩ := hsound.fits_of_inside hi rfl
  obtain ⟨conn, hc, hwriter, -⟩ := htakes
  have hserves : conn.Serves := ⟨(halive.held_iff hc).mpr rfl, hwriter⟩
  obtain ⟨⟨notices, htalk⟩, hnext⟩ := h.slotted hslot hc hserves
  have htalk' : spoken c (past ++ [m]) = s.talk opened (notices ++ [notice]) := by
    rw [hspoken, htalk, Setup.talk_append]
    rfl
  refine ⟨h.sorted, h.perm, ?_, ⟨notices ++ [notice], ?_⟩, ?_, ?_⟩
  · intro k hk hframe
    rcases List.mem_append.mp hk with hk | hk
    · exact h.noted k hk hframe
    · obtain rfl := List.mem_singleton.mp hk
      rw [k.spoken_of_caller hadv.caller] at hframe
      obtain ⟨-, hspeech⟩ := hadv.speech hframe
      cases hspeech.eq_announcing (hspeech.method_eq (get?_method_notification _ _))
  · rw [htalk']
    exact Stage.Says.talk_prefix opened (notices ++ [notice])
  · intro k job' stage' conn' hk ho _ _
    obtain rfl := of_owned_after hsound hi rfl hadv hk ho
    obtain ⟨f, hex⟩ | ⟨hstage, -⟩ | ⟨hstage, -⟩ := hadv.of_owned hi hk ho
    · cases hex
    · cases hstage
    · cases hstage
  · intro conn' _ hc' hafter
    obtain ⟨old, hold, -, htouch⟩ := (Turn.advance hi hadv).served halive hc' hafter
    obtain rfl := Option.some.inj (hc.symm.trans hold)
    refine ⟨⟨notices ++ [notice], htalk'⟩, ?_⟩
    rcases htouch.nextId with hsame | ⟨k, job', ask, hcaller, hk⟩
    · rw [hsame, hnext]
    · obtain ⟨-, hnone⟩ := hsound.of_owned hk rfl
      rw [hslot] at hnone
      cases hnone

lemma advance {w w' : State} {a : Action} {said : List Effect}
    (h : Course s past w c documents opened) (hsound : Sound False w) (hsorted : w.documents.Sorted)
    (hinformed : ∀ conn, w.connections[c]? = some conn → conn.Informed c past)
    (hunused : w.connections.length ≤ c → spoken c past = [])
    (hi : w.calls[i]? = some ⟨job, stage⟩) (hadv : Advance s w i job a stage w' (news said)) :
    ∃ documents' opened', Course s (past ++ [⟨w, a, w', said⟩]) w' c documents' opened' := by
  have hproceed (hquiet : framesOn c (news said) = [])
      (hother : stage.owned? = some c → stage.deals = false) :
      ∃ documents' opened', Course s (past ++ [⟨w, a, w', said⟩]) w' c documents' opened' :=
    ⟨documents, opened, h.proceed (m := ⟨w, a, w', said⟩) hsound hunused hi hadv hquiet hother⟩
  have hadv' := hadv
  generalize hsaid : news said = told at hadv hproceed
  cases hadv with
  | @exchange _ _ k _ _ _ _ ha hex =>
    rcases eq_or_ne k c with rfl | hne
    · subst hsaid
      exact h.exchange hsound hsorted hinformed hi hadv' hex
    · have hother : stage.owned? ≠ some c := by
        rw [hex.owned]
        exact fun heq => hne (Option.some.inj heq)
      refine hproceed (List.eq_nil_iff_forall_not_mem.mpr ?_) fun howned => absurd howned hother
      intro frame hframe
      obtain ⟨-, hspeech⟩ := hex.speech hframe
      cases hspeech with
      | notice => cases hex
      | _ => exact hother rfl
  | @sent _ k notice ht =>
    rcases eq_or_ne k c with rfl | hne
    · exact ⟨documents, opened, h.sent (m := ⟨w, .proceed i, _, said⟩) hsound hi hadv' ht hsaid⟩
    · exact hproceed (framesOn_queued_of_ne hne _) nofun
  | refused _ _ hstage =>
    refine hproceed rfl ?_
    rcases hstage with rfl | ⟨rfl, -⟩ <;> exact nofun
  | lose => exact hproceed (framesOn_lose c _) nofun
  | _ => exact hproceed rfl fun _ => rfl

/-- Whatever happens, the script is followed. -/
theorem turn {w w' : State} {a : Action} {said : List Effect}
    (h : Course s past w c documents opened) (hsound : Sound False w) (hsorted : w.documents.Sorted)
    (hinformed : ∀ conn, w.connections[c]? = some conn → conn.Informed c past)
    (hunused : w.connections.length ≤ c → spoken c past = [])
    (hturn : Turn s w a w' (news said)) :
    ∃ documents' opened', Course s (past ++ [⟨w, a, w', said⟩]) w' c documents' opened' := by
  cases hcaller : a.caller? with
  | none => exact ⟨documents, opened, h.aside (m := ⟨w, a, w', said⟩) hsound hturn hcaller⟩
  | some i =>
    obtain ⟨job, stage, hi, hadv⟩ := hturn.of_caller hcaller
    exact h.advance hsound hsorted hinformed hunused hi hadv

end State.Course

/-! ### Replies -/

lemma Connection.Deed.of_queued {conn conn' : Connection} {k c : Nat} {a : Action}
    {said : List Effect} {frame : Json} (h : conn.Deed k a conn' said)
    (hmem : frame ∈ framesOn c said) :
    k = c ∧ conn.reader = .replying frame := by
  cases h with
  | @write _ written =>
    cases written <;> cases hmem
  | reply hreader =>
    rcases eq_or_ne k c with rfl | hne
    · rw [framesOn_queued_self] at hmem
      obtain rfl := List.mem_singleton.mp hmem
      exact ⟨rfl, hreader⟩
    · rw [framesOn_queued_of_ne hne] at hmem
      cases hmem
  | _ => cases hmem

/-- What no call says, the reader was about to say. -/
lemma State.Turn.of_queued {s : Setup} {w w' : State} {a : Action} {c : Nat} {said : List Effect}
    {frame : Json} (h : Turn s w a w' said) (hcaller : a.caller? = none)
    (hmem : frame ∈ framesOn c said) :
    ∃ conn, w.connections[c]? = some conn ∧ conn.reader = .replying frame := by
  cases h with
  | advance _ hadv =>
    rw [hadv.caller] at hcaller
    cases hcaller
  | @deed _ k conn _ _ hk hdeed =>
    obtain ⟨rfl, hreader⟩ := hdeed.of_queued hmem
    exact ⟨conn, hk, hreader⟩
  | report =>
    rw [framesOn_lose] at hmem
    cases hmem
  | _ => cases hmem

/-! ### Documents stay in order -/

lemma State.Turn.sorted_documents {s : Setup} {w w' : State} {a : Action} {said : List Effect}
    (h : Turn s w a w' said) (hsorted : w.documents.Sorted) : w'.documents.Sorted := by
  cases h with
  | drop =>
    unfold State.drop
    split <;> exact hsorted
  | advance _ hadv =>
    cases hadv with
    | notifyClosed | closeNobody => exact Table.sorted_erase hsorted _
    | sent notice => exact notice.sorted_apply hsorted
    | lose =>
      rw [setStage, documents_lose]
      exact hsorted
    | _ => exact hsorted
  | publish =>
    rw [emit_fst]
    exact hsorted
  | report =>
    rw [documents_lose]
    exact hsorted
  | _ => exact hsorted

namespace Run

variable {s : Setup} {past : List Moment} {w : State}

theorem sorted_documents (h : Run s past w) : w.documents.Sorted := by
  induction h with
  | initial => exact Table.sorted_nil
  | step a _ hstep ih => exact (State.Turn.of_step hstep).sorted_documents ih

/-- Nothing has been said on a connection that there is not. -/
lemma spoken_eq_nil (h : Run s past w) {c : Nat} (hc : w.connections.length ≤ c) :
    spoken c past = [] := by
  induction h with
  | initial => rfl
  | @step past w w' said a _ hstep ih =>
    have hturn := State.Turn.of_step hstep
    have hold : w.connections.length ≤ c := Nat.le_trans hturn.length_le hc
    rw [spoken_append, spoken_singleton, ih hold, List.nil_append]
    cases hcaller : a.caller? with
    | none => exact Moment.spoken_of_none hcaller c
    | some i =>
      rw [Moment.spoken_of_caller hcaller]
      refine List.eq_nil_iff_forall_not_mem.mpr ?_
      intro frame hframe
      obtain ⟨job, stage, -, hadv⟩ := hturn.of_caller hcaller
      obtain ⟨⟨conn, hconn, -⟩, -⟩ := hadv.speech hframe
      have hlt := (List.getElem?_eq_some_iff.mp hconn).1
      omega

theorem course (h : Run s past w) (c : Nat) :
    ∃ documents opened, State.Course s past w c documents opened := by
  induction h with
  | initial => exact ⟨[], [], .initial s c⟩
  | step a hrun hstep ih =>
    obtain ⟨documents, opened, hcourse⟩ := ih
    exact hcourse.turn (hrun.sound nofun) hrun.sorted_documents (fun _ => hrun.informed)
      hrun.spoken_eq_nil (.of_step hstep)

variable {earlier later : List Moment} {m : Moment} {c : Nat} {frame : Json}

/-- What is queued and not said by a call is a reply to a request that was received before. -/
lemma reply_of_none (h : Run s (earlier ++ m :: later) w) (hcaller : m.action.caller? = none)
    (hmem : frame ∈ framesOn c m.said) :
    ∃ id method params, Heard c earlier (.request id method params) ∧
      frame = Message.reply id method params := by
  obtain ⟨hrun, hstep⟩ := h.of_split
  rw [← framesOn_news] at hmem
  obtain ⟨conn, hc, hreader⟩ := (State.Turn.of_step hstep).of_queued hcaller hmem
  exact hrun.heard_reply hc hreader

/-- Replies have no method, so what has one is said by a call. -/
lemma mem_spoken_of_method (h : Run s (earlier ++ m :: later) w) (hmem : frame ∈ framesOn c m.said)
    {method : Json} (hmethod : frame.get? "method" = some method) : frame ∈ m.spoken c := by
  cases hcaller : m.action.caller? with
  | none =>
    obtain ⟨id, name, params, -, rfl⟩ := h.reply_of_none hcaller hmem
    rw [get?_method_reply] at hmethod
    cases hmethod
  | some i => rwa [m.spoken_of_caller hcaller, framesOn_news]

/-- What a call says goes with its stage. -/
lemma speech_of_spoken (h : Run s (earlier ++ m :: later) w) (hmem : frame ∈ m.spoken c) :
    ∃ (i : Nat) (job : Job) (stage : Stage), m.before.calls[i]? = some ⟨job, stage⟩ ∧
      m.before.Takes c ∧ Speech s c stage frame := by
  cases hcaller : m.action.caller? with
  | none =>
    rw [m.spoken_of_none hcaller] at hmem
    cases hmem
  | some i =>
    rw [m.spoken_of_caller hcaller] at hmem
    obtain ⟨job, stage, hi, hadv⟩ := (State.Turn.of_step h.of_split.2).of_caller hcaller
    exact ⟨i, job, stage, hi, hadv.speech hmem⟩

/-- What has been said when a call that has the connection to itself speaks. -/
lemma says_of_takes (h : Run s past w) {i : Nat} {job : Job} {stage : Stage}
    (hi : w.calls[i]? = some ⟨job, stage⟩) (howned : stage.owned? = some c) (htakes : w.Takes c) :
    ∃ (opened : Table OpenDocument) (conn : Connection),
      stage.Says s (Affirmed c · past) opened (spoken c past) conn.nextId := by
  obtain ⟨documents, opened, hcourse⟩ := h.course c
  have hsound : State.Sound False w := h.sound nofun
  obtain ⟨conn, hc, hwriter, -⟩ := htakes
  obtain ⟨halive, -⟩ := hsound.of_owned hi howned
  have hheld : conn.held = true := (halive.held_iff hc).mpr rfl
  exact ⟨opened, conn, hcourse.owned hi howned hc ⟨hheld, hwriter⟩⟩

lemma affirmed_of_initialized (h : Run s (earlier ++ m :: later) w)
    (hmem : initializedFrame ∈ framesOn c m.said) : Affirmed c 1 earlier := by
  have hmethod : initializedFrame.get? "method" = some (.str "initialized") :=
    get?_method_notification _ _
  obtain ⟨i, job, stage, hi, htakes, hspeech⟩ :=
    h.speech_of_spoken (h.mem_spoken_of_method hmem hmethod)
  obtain rfl := hspeech.eq_announcing (hspeech.method_eq hmethod)
  obtain ⟨opened, conn, -, -, haffirmed⟩ := h.of_split.1.says_of_takes hi rfl htakes
  exact haffirmed

lemma affirmed_of_exit (h : Run s (earlier ++ m :: later) w)
    (hmem : exitFrame ∈ framesOn c m.said) : Affirmed c 2 earlier := by
  have hmethod : exitFrame.get? "method" = some (.str "exit") := get?_method_notification _ _
  obtain ⟨i, job, stage, hi, htakes, hspeech⟩ :=
    h.speech_of_spoken (h.mem_spoken_of_method hmem hmethod)
  obtain rfl := hspeech.eq_exiting (hspeech.method_eq hmethod)
  obtain ⟨opened, conn, -, haffirmed⟩ := h.of_split.1.says_of_takes hi rfl htakes
  exact haffirmed

/-- What comes after a frame of a prefix that is not among the first ones. -/
lemma mem_of_prefix {front rest before after : List Json} {frame : Json}
    (h : before ++ after <+: front ++ frame :: rest) (hmem : frame ∈ before)
    (hfront : frame ∉ front) : ∀ f ∈ after, f ∈ rest := by
  induction front generalizing before with
  | nil =>
    obtain _ | ⟨head, tail⟩ := before
    · cases hmem
    · obtain ⟨rfl, hrest⟩ := List.cons_prefix_cons.mp h
      intro f hf
      exact hrest.subset (List.mem_append_right _ hf)
  | cons first front ih =>
    obtain _ | ⟨head, tail⟩ := before
    · cases hmem
    · obtain ⟨rfl, hrest⟩ := List.cons_prefix_cons.mp h
      have hne : frame ≠ head := fun heq => hfront (heq ▸ List.mem_cons_self ..)
      have htail : frame ∈ tail := (List.mem_cons.mp hmem).resolve_left hne
      exact ih hrest htail fun hin => hfront (List.mem_cons_of_mem _ hin)

/-- After the shutdown there are no more notices. -/
lemma no_notice_of_farewell (h : Run s (earlier ++ m :: later) w)
    (hmem : s.farewell ∈ framesOn c m.said) :
    ∀ k ∈ later, ∀ notice : Notice, notice.frame ∉ framesOn c k.said := by
  intro k hk notice hnotice
  obtain ⟨first, last, rfl⟩ := List.mem_iff_append.mp hk
  have hfarewell : s.farewell ∈ m.spoken c :=
    h.mem_spoken_of_method hmem (get?_method_request _ _ _)
  have hspoken : notice.frame ∈ k.spoken c := by
    have hrun : Run s ((earlier ++ m :: first) ++ k :: last) w := by simpa using h
    exact hrun.mem_spoken_of_method hnotice (get?_method_notification _ _)
  obtain ⟨documents, opened, hcourse⟩ := h.course c
  obtain ⟨notices, hscript⟩ := hcourse.script
  rw [List.append_cons, spoken_append, Setup.script] at hscript
  have hbefore : s.farewell ∈ spoken c (earlier ++ [m]) :=
    mem_spoken (List.mem_append_right _ (List.mem_singleton_self m)) hfarewell
  have hlast := mem_of_prefix hscript hbefore (s.farewell_notMem_talk opened notices) _
    (mem_spoken (List.mem_append_right _ (List.mem_cons_self ..)) hspoken)
  have hmethod : notice.frame.get? "method" = some (.str notice.method) :=
    get?_method_notification _ _
  rw [List.mem_singleton.mp hlast, exitFrame, get?_method_notification] at hmethod
  cases notice <;> simp [Notice.method] at hmethod

/--
In every run, whatever the server does and whichever calls are given up, what calls say on a
connection begins like the script: the handshake, an opening for each document that is open when the
handshake is done, in whatever order, notices, the shutdown and the exit. The handshake is done only
after the server has affirmed the first request, and the exit is said only after it has affirmed the
second. After the shutdown no notice is queued any more. All else that is queued is a reply to a
request of the server.
-/
theorem protocol_order (h : Run s past w) (c : Nat) :
    (∃ (documents opened : Table OpenDocument) (notices : List Notice), documents.Sorted ∧
      opened.Perm documents ∧ spoken c past <+: s.script opened notices ∧
      ∀ m ∈ past, initializedFrame ∈ m.spoken c → m.before.documents = documents) ∧
    ∀ earlier m later, past = earlier ++ m :: later →
      (initializedFrame ∈ framesOn c m.said → Affirmed c 1 earlier) ∧
      (exitFrame ∈ framesOn c m.said → Affirmed c 2 earlier) ∧
      (s.farewell ∈ framesOn c m.said →
        ∀ k ∈ later, ∀ notice : Notice, notice.frame ∉ framesOn c k.said) ∧
      ∀ frame ∈ framesOn c m.said, frame ∈ m.spoken c ∨
        ∃ id method params, Heard c earlier (.request id method params) ∧
          frame = Message.reply id method params := by
  constructor
  · obtain ⟨documents, opened, hcourse⟩ := h.course c
    obtain ⟨notices, hscript⟩ := hcourse.script
    exact ⟨documents, opened, notices, hcourse.sorted, hcourse.perm, hscript, hcourse.noted⟩
  · rintro earlier m later rfl
    refine ⟨h.affirmed_of_initialized, h.affirmed_of_exit, h.no_notice_of_farewell, ?_⟩
    intro frame hmem
    cases hcaller : m.action.caller? with
    | none => exact .inr (h.reply_of_none hcaller hmem)
    | some i =>
      left
      rwa [m.spoken_of_caller hcaller, framesOn_news]

/-- A start, a document that is opened, and a stop that comes to the exit. -/
theorem protocol_order_exit :
    ∃ earlier m later w, Run .stock (earlier ++ m :: later) w ∧
      exitFrame ∈ framesOn 0 m.said ∧ Affirmed 0 2 earlier ∧
      ∃ opened notices,
        spoken 0 (earlier ++ m :: later) <+: Setup.stock.script opened notices ∧
        (spoken 0 (earlier ++ m :: later)).length = 5 := by
  obtain ⟨past, w, m, hplay, hlast, hsaid, hlength⟩ :
      ∃ past w m, State.initial.play .stock (Action.firstStart ++
        Action.call (.sync true ⟨"file:///a", "file", "yaml"⟩ "a") ::
          List.replicate 3 (Action.proceed 1) ++
        Action.call .stop :: List.replicate 7 (Action.proceed 2) ++
        Action.received 0 (.message (.obj [("id", .int 2), ("result", .null)])) ::
        List.replicate 2 (Action.proceed 2)) = some (past, w) ∧
        past.getLast? = some m ∧ framesOn 0 m.said = [exitFrame] ∧
        (spoken 0 past).length = 5 := ⟨_, _, _, rfl, rfl, rfl, rfl⟩
  have hsplit : past.dropLast ++ [m] = past := List.dropLast_append_getLast? m hlast
  have hrun : Run .stock past w := of_play hplay
  have hexit : exitFrame ∈ framesOn 0 m.said := hsaid ▸ List.mem_singleton_self exitFrame
  obtain ⟨⟨_, opened, notices, -, -, hscript, -⟩, hmoments⟩ := hrun.protocol_order 0
  have haffirmed := (hmoments past.dropLast m [] hsplit.symm).2.1 hexit
  refine ⟨past.dropLast, m, [], w, ?_, hexit, haffirmed, opened, notices, ?_, ?_⟩
  · rwa [hsplit]
  · rwa [hsplit]
  · rwa [hsplit]

end Run

end LanguageClient
