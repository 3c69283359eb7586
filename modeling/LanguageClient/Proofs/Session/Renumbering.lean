import LanguageClient.Proofs.Session.Lock

/-!
# Renumbered calls

Calls are told apart by their places among all calls. When some are omitted the others move up, and
`renumber` says where to. Every operation of a session commutes with that, and so does every step
that is not about an omitted call: `State.step_without`.
-/

namespace LanguageClient

/-! ### Numbers -/

/-- The number of call `i` when the omitted calls are not counted. -/
def renumber (omitted : Nat → Bool) : Nat → Nat
  | 0 => 0
  | i + 1 => renumber omitted i + if omitted i then 0 else 1

section Numbers

variable {omitted : Nat → Bool} {i k : Nat}

lemma renumber_le (h : i ≤ k) : renumber omitted i ≤ renumber omitted k := by
  induction h with
  | refl => exact Nat.le_refl _
  | step _ ih => exact Nat.le_trans ih (Nat.le_add_right _ _)

lemma renumber_lt (hi : omitted i = false) (h : i < k) :
    renumber omitted i < renumber omitted k := by
  have hnext : renumber omitted (i + 1) = renumber omitted i + 1 := by simp [renumber, hi]
  have hle : renumber omitted (i + 1) ≤ renumber omitted k := renumber_le h
  omega

/-- No two of the calls that are left get the same number. -/
lemma renumber_inj (hi : omitted i = false) (hk : omitted k = false)
    (h : renumber omitted i = renumber omitted k) : i = k := by
  rcases Nat.lt_trichotomy i k with hlt | heq | hgt
  · exact absurd h (Nat.ne_of_lt (renumber_lt hi hlt))
  · exact heq
  · exact absurd h (Nat.ne_of_gt (renumber_lt hk hgt))

end Numbers

/-! ### Calls -/

/-- A call may wait for another, whose number is a new one. -/
def Stage.renumber (omitted : Nat → Bool) : Stage → Stage
  | .joining start => .joining (LanguageClient.renumber omitted start)
  | stage => stage

def Call.renumber (omitted : Nat → Bool) (call : Call) : Call :=
  { call with stage := call.stage.renumber omitted }

/-- The calls that are left. -/
def remaining (omitted : Nat → Bool) (calls : List Call) : List Call :=
  (calls.zipIdx.filter fun e => !omitted e.2).map fun e => e.1.renumber omitted

section Calls

variable {omitted : Nat → Bool} {i : Nat} {calls : List Call} {stage : Stage}

lemma remaining_concat (calls : List Call) (call : Call) :
    remaining omitted (calls ++ [call]) =
      remaining omitted calls ++ if omitted calls.length then [] else [call.renumber omitted] := by
  cases h : omitted calls.length <;>
    simp [remaining, List.zipIdx_append, List.filter_append, h]

lemma length_remaining (calls : List Call) :
    (remaining omitted calls).length = renumber omitted calls.length := by
  induction calls using List.reverseRecOn with
  | nil => rfl
  | append_singleton rest call ih =>
    rw [remaining_concat, List.length_append, ih, List.length_append, List.length_singleton,
      renumber]
    split <;> rfl

lemma of_mem_remaining {call : Call} (h : call ∈ remaining omitted calls) :
    ∃ (i : Nat) (old : Call), calls[i]? = some old ∧ omitted i = false ∧
      call = old.renumber omitted := by
  obtain ⟨⟨old, i⟩, hmem, rfl⟩ := List.mem_map.mp h
  obtain ⟨hmem, hi⟩ := List.mem_filter.mp hmem
  exact ⟨i, old, List.mem_zipIdx_iff_getElem?.mp hmem, by simpa using hi, rfl⟩

/-- A call that is left stands where its number says. -/
lemma getElem?_remaining (hi : omitted i = false) (calls : List Call) :
    (remaining omitted calls)[renumber omitted i]? = calls[i]?.map (·.renumber omitted) := by
  induction calls using List.reverseRecOn with
  | nil => rfl
  | append_singleton rest call ih =>
    rw [remaining_concat]
    rcases Nat.lt_trichotomy i rest.length with hlt | rfl | hgt
    · have hlt' := renumber_lt hi hlt
      rw [← length_remaining] at hlt'
      rw [List.getElem?_append_left hlt', List.getElem?_append_left hlt, ih]
    · simp [hi, ← length_remaining]
    · have hle : renumber omitted (rest.length + 1) ≤ renumber omitted i := renumber_le hgt
      have hnone : (rest ++ [call])[i]? = none := by
        rw [List.getElem?_eq_none_iff, List.length_append, List.length_singleton]
        exact hgt
      rw [hnone, ← remaining_concat, List.getElem?_eq_none_iff.mpr]
      · rfl
      · rw [length_remaining, List.length_append]
        exact hle

lemma moveCall_concat (calls : List Call) (call : Call) (i : Nat) (stage : Stage) :
    moveCall (calls ++ [call]) i stage =
      moveCall calls i stage ++ [if i = calls.length then { call with stage } else call] := by
  refine List.ext_getElem? fun k => ?_
  rw [moveCall, List.getElem?_modify]
  rcases Nat.lt_trichotomy k calls.length with hlt | rfl | hgt
  · have hlt' : k < (moveCall calls i stage).length := by rwa [List.length_modify]
    rw [List.getElem?_append_left hlt, List.getElem?_append_left hlt', moveCall,
      List.getElem?_modify]
  · by_cases hi : i = calls.length <;> simp [moveCall, hi]
  · have hle : calls.length + 1 ≤ k := hgt
    rw [List.getElem?_eq_none_iff.mpr (by simpa using hle),
      List.getElem?_eq_none_iff.mpr (by simpa [moveCall] using hle)]
    rfl

lemma length_moveCall (calls : List Call) (i : Nat) (stage : Stage) :
    (moveCall calls i stage).length = calls.length := List.length_modify ..

/-- A call that is left moves there as it does here. -/
lemma remaining_moveCall (hi : omitted i = false) (calls : List Call) (stage : Stage) :
    remaining omitted (moveCall calls i stage) =
      moveCall (remaining omitted calls) (renumber omitted i) (stage.renumber omitted) := by
  induction calls using List.reverseRecOn with
  | nil => simp [remaining, moveCall]
  | append_singleton rest call ih =>
    rw [moveCall_concat, remaining_concat, remaining_concat, length_moveCall, ih]
    cases hlast : omitted rest.length with
    | true => simp
    | false =>
      have hiff : renumber omitted i = (remaining omitted rest).length ↔ i = rest.length := by
        rw [length_remaining]
        exact ⟨renumber_inj hi hlast, congrArg _⟩
      simp only [Bool.false_eq_true, if_false, moveCall_concat, hiff]
      split <;> rfl

/-- Where an omitted call stands does not matter. -/
lemma remaining_moveCall_of_omitted (hi : omitted i = true) (calls : List Call) (stage : Stage) :
    remaining omitted (moveCall calls i stage) = remaining omitted calls := by
  induction calls using List.reverseRecOn with
  | nil => simp [moveCall]
  | append_singleton rest call ih =>
    rw [moveCall_concat, remaining_concat, remaining_concat, length_moveCall, ih]
    by_cases heq : i = rest.length
    · subst heq
      simp [hi]
    · rw [if_neg heq]

end Calls

/-! ### The line for the lock -/

/-- The line without the omitted calls. -/
def remainingLine (omitted : Nat → Bool) (line : List Nat) : List Nat :=
  (line.filter fun i => !omitted i).map (renumber omitted)

section Line

variable {omitted : Nat → Bool} {i : Nat} {line line' : List Nat}

lemma head?_remainingLine (hi : omitted i = false) (hhead : line.head? = some i) :
    (remainingLine omitted line).head? = some (renumber omitted i) := by
  obtain ⟨rest, rfl⟩ := List.head?_eq_some_iff.mp hhead
  simp [remainingLine, hi]

lemma remainingLine_concat (hi : omitted i = false) (line : List Nat) :
    remainingLine omitted (line ++ [i]) = remainingLine omitted line ++ [renumber omitted i] := by
  simp [remainingLine, List.filter_append, hi]

lemma remainingLine_erase (hi : omitted i = false) (line : List Nat) :
    remainingLine omitted (line.erase i) =
      (remainingLine omitted line).erase (renumber omitted i) := by
  induction line with
  | nil => rfl
  | cons k rest ih =>
    rcases eq_or_ne k i with rfl | hne
    · simp [remainingLine, hi]
    · rw [List.erase_cons_tail (by simpa using hne)]
      cases hk : omitted k with
      | true => simpa [remainingLine, hk] using ih
      | false =>
        have hother : renumber omitted k ≠ renumber omitted i := fun h =>
          hne (renumber_inj hk hi h)
        simpa [remainingLine, hk, hother] using ih

/-- Where an omitted call stands in line does not matter. -/
lemma remainingLine_of_omitted (hi : omitted i = true)
    (h : line'.filter (· ≠ i) = line.filter (· ≠ i)) :
    remainingLine omitted line' = remainingLine omitted line := by
  have hsame (line : List Nat) : (line.filter fun k => !omitted k) =
      (line.filter (· ≠ i)).filter fun k => !omitted k := by
    rw [List.filter_filter]
    refine List.filter_congr fun k _ => ?_
    rcases eq_or_ne k i with rfl | hne
    · simp [hi]
    · simp [hne]
  rw [remainingLine, remainingLine, hsame line', h, ← hsame line]

end Line

/-! ### States -/

namespace State

/-- A state as it is without the omitted calls. -/
def without (omitted : Nat → Bool) (w : State) : State :=
  { w with
    calls := remaining omitted w.calls
    line := remainingLine omitted w.line
    activation := w.activation.map (Option.map (renumber omitted)) }

end State

def Stepped.without (omitted : Nat → Bool) (r : Stepped) : Stepped := (r.1.without omitted, r.2)

namespace State

variable {s : Setup} {omitted : Nat → Bool} {w : State} {i c : Nat}

@[simp] lemma phase_without : (w.without omitted).phase = w.phase := rfl

@[simp] lemma slot_without : (w.without omitted).slot = w.slot := rfl

@[simp] lemma documents_without : (w.without omitted).documents = w.documents := rfl

@[simp] lemma connections_without : (w.without omitted).connections = w.connections := rfl

@[simp] lemma modifyConnection_without (f : Connection → Connection) :
    (w.modifyConnection c f).without omitted = (w.without omitted).modifyConnection c f := rfl

lemma setStage_without (hi : omitted i = false) (stage : Stage) :
    (w.setStage i stage).without omitted =
      (w.without omitted).setStage (renumber omitted i) (stage.renumber omitted) := by
  simp [without, setStage, remaining_moveCall hi]

lemma leave_without (hi : omitted i = false) :
    (w.leave i).without omitted = (w.without omitted).leave (renumber omitted i) := by
  simp [without, leave, remainingLine_erase hi]

lemma finish_without (hi : omitted i = false) (outcome : Outcome) :
    (w.finish i outcome).without omitted =
      (w.without omitted).finish (renumber omitted i) outcome := by
  rw [finish, setStage_without hi, leave_without hi]
  rfl

lemma begin_without (hnew : omitted w.calls.length = false) (job : Job) :
    (w.begin job).without omitted = (w.without omitted).begin job := by
  simp [without, begin, remaining_concat, hnew, Call.renumber, Stage.renumber]

lemma enlist_without (hi : omitted i = false) :
    (w.enlist i).without omitted = (w.without omitted).enlist (renumber omitted i) := by
  simp [enlist, goto, Stepped.without, setStage_without hi, Stage.renumber]
  simp [without, remainingLine_concat hi]

lemma goto_without (hi : omitted i = false) (stage : Stage) :
    (goto i stage w).without omitted =
      goto (renumber omitted i) (stage.renumber omitted) (w.without omitted) := by
  rw [goto, Stepped.without, setStage_without hi]
  rfl

lemma failStart_without (hi : omitted i = false) (job : Job) (e : StartError) :
    (w.failStart i job e).without omitted =
      (w.without omitted).failStart (renumber omitted i) job e := by
  simp only [failStart, finishStart, Stepped.without, finish_without hi]
  rfl

lemma purge_without (hi : omitted i = false) (result : Except StopError Unit) :
    (w.purge i result).without omitted =
      (w.without omitted).purge (renumber omitted i) result := by
  simp only [purge, Stepped.without, finish_without hi]
  rfl

lemma finishDocument_without (hi : omitted i = false) (result : Except NotifyError Forwarded) :
    (w.finishDocument i result).without omitted =
      (w.without omitted).finishDocument (renumber omitted i) result := by
  rw [finishDocument, Stepped.without, finish_without hi]
  rfl

lemma refuseDocument_without (hi : omitted i = false) :
    (w.refuseDocument i).without omitted =
      (w.without omitted).refuseDocument (renumber omitted i) := finishDocument_without hi _

lemma launch_without (hi : omitted i = false) :
    (w.launch s i).without omitted = (w.without omitted).launch s (renumber omitted i) := by
  rw [launch, Stepped.without, setStage_without hi]
  rfl

lemma relaunch_without (hi : omitted i = false) :
    (w.relaunch s i).without omitted = (w.without omitted).relaunch s (renumber omitted i) := by
  simp only [relaunch, slot_without]
  cases w.slot with
  | some c => exact goto_without hi _
  | none => exact launch_without hi

lemma launched_without (hi : omitted i = false) (job : Job) (result : Except String Nat) :
    (w.launched s i job result).without omitted =
      (w.without omitted).launched s (renumber omitted i) job result := by
  cases result with
  | error reason => exact failStart_without hi job _
  | ok room => exact goto_without hi _

lemma failAsk_without (hi : omitted i = false) (reason : String) (ask : Ask) :
    (w.failAsk i c reason ask).without omitted =
      (w.without omitted).failAsk (renumber omitted i) c reason ask := by
  cases ask <;> exact goto_without hi _

lemma answered_without (hi : omitted i = false) (ask : Ask) (body : Json) :
    (w.answered i c ask body).without omitted =
      (w.without omitted).answered (renumber omitted i) c ask body := by
  unfold answered
  split
  · exact failAsk_without hi _ _
  · exact goto_without hi _
  · rw [Stepped.without, setStage_without hi]
    rfl

lemma noticed_without (hi : omitted i = false) (result : Except NotifyError Forwarded)
    (notice : Notice) :
    (w.noticed i result notice).without omitted =
      (w.without omitted).noticed (renumber omitted i) result notice := by
  cases notice with
  | closed uri =>
    rw [noticed, goto_without hi, leave_without hi]
    rfl
  | _ => exact finishDocument_without hi _

lemma withSlot_without (hi : omitted i = false) (notice : Notice) :
    (w.withSlot i notice).without omitted =
      (w.without omitted).withSlot (renumber omitted i) notice := by
  simp only [withSlot, slot_without]
  cases w.slot with
  | some c => exact goto_without hi _
  | none => exact noticed_without hi _ _

lemma closeDocument_without (hi : omitted i = false) (uri : String) :
    (w.closeDocument i uri).without omitted =
      (w.without omitted).closeDocument (renumber omitted i) uri := by
  simp only [closeDocument, documents_without]
  cases w.documents.find? uri with
  | none =>
    rw [← finishDocument_without hi]
    rfl
  | some _ => exact withSlot_without hi _

lemma arriveDocument_without (hi : omitted i = false) (doc : Document) (outside : List Effect) :
    (w.arriveDocument s i doc outside).without omitted =
      (w.without omitted).arriveDocument s (renumber omitted i) doc outside := by
  refine (apply_ite (Stepped.without omitted) _ _ _).trans (if_congr Iff.rfl ?_ ?_)
  · rw [Stepped.without, ← finishDocument_without hi]
    rfl
  · exact (apply_ite (Stepped.without omitted) _ _ _).trans
      (if_congr Iff.rfl (enlist_without hi) (refuseDocument_without hi))

lemma arrive_without (hi : omitted i = false) (job : Job) :
    (w.arrive s i job).without omitted =
      (w.without omitted).arrive s (renumber omitted i) job := by
  cases job with
  | start | restart | stop => exact enlist_without hi
  | sync _ doc _ | close doc => exact arriveDocument_without hi doc _
  | started =>
    rcases w with ⟨_, _, _, _, _, _, _, _, _, _ | _ | start⟩
    · exact congrArg (·, []) (finish_without hi _)
    · exact congrArg (·, []) (finish_without hi _)
    · exact goto_without hi _
  | deactivate =>
    let deactivating (r : Stepped) : Stepped := (r.1, .log .info "Deactivating" :: r.2)
    rcases w with ⟨_, _, _, _, _, _, _, _, _, _ | _ | start⟩
    · exact congrArg deactivating (enlist_without hi)
    · exact congrArg deactivating (enlist_without hi)
    · exact congrArg deactivating (goto_without hi _)

lemma joined_without (hi : omitted i = false) (job : Job) (result : Except StartError Unit) :
    (w.joined i job result).without omitted =
      (w.without omitted).joined (renumber omitted i) job result := by
  unfold joined
  split
  · rw [← enlist_without hi]
    rfl
  · exact enlist_without hi
  · rw [Stepped.without, finish_without hi]

lemma enterStop_without (hi : omitted i = false) :
    (w.enterStop i).without omitted = (w.without omitted).enterStop (renumber omitted i) := by
  simp only [enterStop, phase_without, slot_without]
  split
  · rw [Stepped.without, finish_without hi]
  · rw [Stepped.without, finish_without hi]
  · cases w.slot <;> simp [Stepped.without, goto, endStop, setStage_without hi] <;> rfl

lemma enter_without (hi : omitted i = false) (job : Job) :
    (w.enter s i job).without omitted =
      (w.without omitted).enter s (renumber omitted i) job := by
  cases job with
  | start =>
    refine (apply_ite (Stepped.without omitted) _ _ _).trans
      (if_congr Iff.rfl (relaunch_without hi) ?_)
    rw [Stepped.without, setStage_without hi]
    rfl
  | restart lost =>
    refine (apply_ite (Stepped.without omitted) _ _ _).trans
      (if_congr Iff.rfl (relaunch_without hi) ?_)
    rw [Stepped.without, finish_without hi]
  | sync opening doc text =>
    exact (apply_ite (Stepped.without omitted) _ _ _).trans
      (if_congr Iff.rfl (withSlot_without hi _) (refuseDocument_without hi))
  | close doc =>
    exact (apply_ite (Stepped.without omitted) _ _ _).trans
      (if_congr Iff.rfl (closeDocument_without hi _) (refuseDocument_without hi))
  | stop | started | deactivate => exact enterStop_without hi

lemma discarded_without (hi : omitted i = false) (job : Job) (next : AfterDiscard) :
    (w.discarded s i job next).without omitted =
      (w.without omitted).discarded s (renumber omitted i) job next := by
  cases next with
  | relaunch => exact launch_without hi
  | refuse reason => exact failStart_without hi job _
  | settle => exact goto_without hi _

lemma reaped_without (hi : omitted i = false) (problems : List String) :
    (w.reaped i c problems).without omitted =
      (w.without omitted).reaped (renumber omitted i) c problems := by
  simp only [reaped]
  split_ifs <;> simp [Stepped.without, goto, endStop, setStage_without hi] <;> rfl

/-! ### Commands -/

lemma queue_without {command : Command} {accepted refused accepted' refused' : State → Stepped}
    (haccepted : ∀ w, (accepted w).without omitted = accepted' (w.without omitted))
    (hrefused : (refused w).without omitted = refused' (w.without omitted)) :
    (w.queue c command accepted refused).map (Stepped.without omitted) =
      (w.without omitted).queue c command accepted' refused' := by
  simp only [queue, connections_without]
  cases w.connections[c]? with
  | none => exact congrArg some hrefused
  | some conn =>
    simp only
    cases conn.offer command with
    | full => rfl
    | refused => exact congrArg some hrefused
    | accepted conn =>
      simp only [Option.map_some, ← modifyConnection_without, ← haccepted]
      rfl

lemma ask_without (hi : omitted i = false) (ask : Ask) (id : Nat) :
    (w.ask s i c ask id).map (Stepped.without omitted) =
      (w.without omitted).ask s (renumber omitted i) c ask id :=
  queue_without (fun _ => goto_without hi _) (failAsk_without hi _ _)

lemma await_without (hi : omitted i = false) (ask : Ask) (id : Nat) :
    (w.await i c ask id).map (Stepped.without omitted) =
      (w.without omitted).await (renumber omitted i) c ask id := by
  simp only [await, connections_without, Option.bind_eq_bind]
  cases w.connections[c]? with
  | none => rfl
  | some conn =>
    simp only [Option.bind_some]
    cases conn.answer? id with
    | some body => exact congrArg some (answered_without hi ask body)
    | none =>
      simp only
      split_ifs
      · rfl
      · exact congrArg some (failAsk_without hi _ _)

lemma sendNotice_without (hi : omitted i = false) (notice : Notice) :
    (w.sendNotice i c notice).map (Stepped.without omitted) =
      (w.without omitted).sendNotice (renumber omitted i) c notice := by
  refine queue_without (fun _ => noticed_without hi _ _) ?_
  rw [← noticed_without hi]
  rfl

lemma reopen_without (hi : omitted i = false) (documents : Table OpenDocument) (place : Nat) :
    (w.reopen i c documents place).map (Stepped.without omitted) =
      (w.without omitted).reopen (renumber omitted i) c documents place := by
  unfold reopen
  cases documents[place]? with
  | none => rfl
  | some e =>
    exact queue_without (fun _ => goto_without hi _) (Prod.ext (setStage_without hi _) rfl)

/-! ### Calls -/

/-- A call that is left goes on there as it does here. -/
lemma stepCall_without (hi : omitted i = false) (call : Call)
    (hwait : call.stage = .waiting → w.line.head? = some i)
    (hjoin : ∀ start, call.stage = .joining start → omitted start = false)
    (hlost : ∀ c, call.stage = .verifying c → w.isClosed c = true →
      (w.lose s c .processExited).without omitted =
        (w.without omitted).lose s c .processExited) :
    (w.stepCall s i call).map (Stepped.without omitted) =
      (w.without omitted).stepCall s (renumber omitted i) (call.renumber omitted) := by
  obtain ⟨job, stage⟩ := call
  cases stage with
  | arriving => exact congrArg some (arrive_without hi job)
  | waiting =>
    have hhead : w.line.head? = some i := hwait rfl
    have hhead' : (w.without omitted).line.head? = some (renumber omitted i) :=
      head?_remainingLine hi hhead
    simp only [stepCall, Call.renumber, Stage.renumber, hhead, hhead', if_true]
    exact congrArg some (enter_without hi job)
  | joining start =>
    have hstart : ((w.without omitted).calls[renumber omitted start]?).bind (·.stage.outcome?) =
        (w.calls[start]?).bind (·.stage.outcome?) := by
      have hsame : (w.without omitted).calls[renumber omitted start]? =
          w.calls[start]?.map (·.renumber omitted) := getElem?_remaining (hjoin start rfl) _
      rw [hsame]
      cases w.calls[start]? with
      | none => rfl
      | some call =>
        obtain ⟨_, stage⟩ := call
        cases stage <;> rfl
    simp only [stepCall, Call.renumber, Stage.renumber, hstart]
    split
    · exact congrArg some (joined_without hi job _)
    · rfl
  | greeting c =>
    simp only [stepCall, Call.renumber, Stage.renumber]
    split
    · exact congrArg some (goto_without hi _)
    · exact congrArg some (failAsk_without hi _ _)
  | announcing c =>
    simp only [stepCall, Call.renumber, Stage.renumber]
    refine queue_without (fun w => ?_) ?_
    · exact goto_without hi (.reopening c w.documents)
    · exact failAsk_without hi _ _
  | reopening c documents =>
    simp only [stepCall, Call.renumber, Stage.renumber]
    split
    · exact congrArg some (goto_without hi _)
    · rfl
  | settling c => exact congrArg some (goto_without hi _)
  | raising c => exact congrArg some (Prod.ext (setStage_without hi _) rfl)
  | verifying c =>
    have hsame : (w.without omitted).isClosed c = w.isClosed c := rfl
    cases hclosed : w.isClosed c with
    | true =>
      simp only [stepCall, Call.renumber, Stage.renumber, hsame, hclosed, if_true,
        ← hlost c rfl hclosed]
      exact congrArg some (Prod.ext (setStage_without hi _) rfl)
    | false =>
      simp only [stepCall, Call.renumber, Stage.renumber, hsame, hclosed, Bool.false_eq_true,
        if_false]
      exact congrArg some (Prod.ext (setStage_without hi _) rfl)
  | leaving outcome => exact congrArg some (Prod.ext (finish_without hi _) rfl)
  | testing c ask =>
    exact (apply_ite (Option.map (Stepped.without omitted)) _ _ _).trans
      (if_congr Iff.rfl (congrArg some (failAsk_without hi _ _))
        (congrArg some (goto_without hi _)))
  | registering c ask =>
    simp only [stepCall, Call.renumber, Stage.renumber, connections_without, Option.bind_eq_bind]
    cases w.connections[c]? with
    | none => rfl
    | some conn => exact congrArg some (goto_without hi _)
  | retesting c ask id =>
    exact (apply_ite (Option.map (Stepped.without omitted)) _ _ _).trans
      (if_congr Iff.rfl (congrArg some (failAsk_without hi _ _))
        (congrArg some (goto_without hi _)))
  | asking c ask id => exact ask_without hi ask id
  | awaiting c ask id => exact await_without hi ask id
  | ending c =>
    exact (apply_ite (Option.map (Stepped.without omitted)) _ _ _).trans
      (if_congr Iff.rfl (congrArg some (goto_without hi _)) (congrArg some (goto_without hi _)))
  | exiting c => exact queue_without (fun _ => goto_without hi _) (goto_without hi _)
  | closing c problems => exact queue_without (fun _ => goto_without hi _) (goto_without hi _)
  | draining c problems =>
    exact (apply_ite (Option.map (Stepped.without omitted)) _ _ _).trans
      (if_congr Iff.rfl (congrArg some (goto_without hi _)) rfl)
  | concluding result => exact congrArg some (goto_without hi _)
  | purging result => exact congrArg some (purge_without hi result)
  | discarding c next => exact queue_without (fun _ => goto_without hi _) (goto_without hi _)
  | aborting c next => exact congrArg some (discarded_without hi job next)
  | sending c notice => exact sendNotice_without hi notice
  | forgetting uri outcome => exact congrArg some (Prod.ext (finish_without hi _) rfl)
  | launching | reaping | done | dropped => rfl

lemma expire_without (hi : omitted i = false) (call : Call) :
    (w.expire s i call).map (Stepped.without omitted) =
      (w.without omitted).expire s (renumber omitted i) (call.renumber omitted) := by
  obtain ⟨job, stage⟩ := call
  cases stage with
  | awaiting c ask id => exact congrArg some (failAsk_without hi _ _)
  | draining c problems => exact congrArg some (goto_without hi _)
  | reaping c problems => exact congrArg some (reaped_without hi _)
  | _ => rfl

lemma owned?_renumber (stage : Stage) : (stage.renumber omitted).owned? = stage.owned? := by
  cases stage <;> rfl

lemma drop_without (hi : omitted i = false) (call : Call) :
    (w.drop i call).without omitted =
      (w.without omitted).drop (renumber omitted i) (call.renumber omitted) := by
  have hleft : ((w.leave i).setStage i .dropped).without omitted =
      ((w.without omitted).leave (renumber omitted i)).setStage (renumber omitted i) .dropped := by
    rw [setStage_without hi, leave_without hi]
    rfl
  simp only [drop, Call.renumber, owned?_renumber, ← hleft]
  cases call.stage.owned? <;> rfl

/-! ### What comes from the server -/

lemma emit_without (event : Event) :
    ((w.emit event).1.without omitted, (w.emit event).2) = (w.without omitted).emit event :=
  apply_ite (fun r : State × Bool => (r.1.without omitted, r.2)) _ _ _

lemma publish_without (event : Event) :
    ((w.publish event).1.without omitted, (w.publish event).2) =
      (w.without omitted).publish event := by
  rw [publish, publish, ← emit_without]
  rfl

/-- The restart that a loss may begin is a new call. -/
lemma lose_without {failure : RuntimeFailure}
    (hnew : w.calls.length < (w.lose s c failure).1.calls.length →
      omitted w.calls.length = false) :
    (w.lose s c failure).without omitted = (w.without omitted).lose s c failure := by
  let failed : State := { w with phase := .failed (.runtime failure) }
  obtain ⟨r, hr⟩ : ∃ r, failed.emit (.connectionLost failure) = r := ⟨_, rfl⟩
  have hr' : (failed.without omitted).emit (.connectionLost failure) =
      (r.1.without omitted, r.2) := by
    rw [← emit_without, hr]
  have hcalls : r.1.calls = w.calls := by
    rw [← hr, emit_fst]
  dsimp only [failed, without] at hr hr'
  refine (apply_ite (Stepped.without omitted) _ _ _).trans
    (ite_congr rfl (fun _ => rfl) fun hheeds => ?_)
  simp only [publish, without, hr, hr']
  refine (apply_ite (Stepped.without omitted) _ _ _).trans
    (ite_congr rfl (fun hallows => Prod.ext ?_ rfl) fun _ => ?_)
  · have hbegin : omitted r.1.calls.length = false := by
      have hheeds : ¬(!w.isNewest c || !w.phase.isRunning) = true := hheeds
      rw [hcalls]
      refine hnew ?_
      rw [lose, if_neg hheeds]
      simp [publish, hr, hallows, begin, hcalls]
    exact begin_without (w := { r.1 with restarts := r.1.restarts + 1 }) hbegin _
  · exact (apply_ite (Stepped.without omitted) _ _ _).trans (if_congr Iff.rfl rfl rfl)

lemma receiveDiagnostics_without (params : Json) :
    (w.receiveDiagnostics s params).without omitted =
      (w.without omitted).receiveDiagnostics s params := by
  unfold receiveDiagnostics
  cases Published.decode params with
  | error e => rfl
  | ok p =>
    simp only
    rw [← publish_without]
    rfl

lemma receiveNotification_without (method : String) (params : Option Json) :
    (w.receiveNotification s method params).without omitted =
      (w.without omitted).receiveNotification s method params := by
  cases params with
  | none => rfl
  | some params =>
    simp only [receiveNotification]
    split_ifs
    · exact receiveDiagnostics_without params
    · cases ServerMessage.decode params <;> rfl
    · rfl

lemma dispatch_without (conn : Connection) (frame : Json) :
    (w.dispatch s c conn frame).without omitted = (w.without omitted).dispatch s c conn frame := by
  unfold dispatch
  split
  · rfl
  · unfold receiveResponse
    split <;> rfl
  · rfl
  · exact receiveNotification_without _ _

lemma receive_without (conn : Connection) (read : Frame.Read) :
    (w.receive s c conn read).without omitted = (w.without omitted).receive s c conn read := by
  cases read with
  | message frame => exact dispatch_without conn frame
  | ended | fault => rfl

lemma stepReader_without (conn : Connection)
    (hlost : ∀ failure, conn.reader = .reporting failure →
      ((w.modifyConnection c Connection.endReader).lose s c failure).without omitted =
        ((w.without omitted).modifyConnection c Connection.endReader).lose s c failure) :
    (w.stepReader s c conn).map (Stepped.without omitted) =
      (w.without omitted).stepReader s c conn := by
  unfold stepReader
  split
  · rfl
  · rfl
  · cases conn.offer _ <;> rfl
  · rfl
  · rfl
  · exact congrArg some (hlost _ ‹_›)

lemma stepWriter_without (conn : Connection) :
    (w.stepWriter c conn).map (Stepped.without omitted) =
      (w.without omitted).stepWriter c conn := by
  unfold stepWriter
  cases conn.stepWriter <;> rfl

end State

/-! ### Steps -/

namespace Action

/-- The call that goes on in an action or is given up. -/
def mover? : Action → Option Nat
  | .drop i => some i
  | a => a.caller?

lemma of_mover {a : Action} {i : Nat} (h : a.mover? = some i) :
    a = .drop i ∨ a.caller? = some i := by
  cases a with
  | drop => exact .inl (congrArg Action.drop (Option.some.inj h))
  | _ => exact .inr h

lemma mover_of_caller {a : Action} {i : Nat} (h : a.caller? = some i) : a.mover? = some i := by
  cases a with
  | drop => cases h
  | _ => exact h

def renumber (omitted : Nat → Bool) : Action → Action
  | .drop i => .drop (LanguageClient.renumber omitted i)
  | .proceed i => .proceed (LanguageClient.renumber omitted i)
  | .reopen i place => .reopen (LanguageClient.renumber omitted i) place
  | .expire i => .expire (LanguageClient.renumber omitted i)
  | .launched i result => .launched (LanguageClient.renumber omitted i) result
  | .exited i problem => .exited (LanguageClient.renumber omitted i) problem
  | a => a

end Action

namespace State

variable {s : Setup} {omitted : Nat → Bool} {w : State} {i : Nat} {a : Action} {r : Stepped}

lemma getElem?_without {call : Call} (hi : omitted i = false) (hcall : w.calls[i]? = some call) :
    (w.without omitted).calls[renumber omitted i]? = some (call.renumber omitted) := by
  have hsame : (w.without omitted).calls[renumber omitted i]? =
      w.calls[i]?.map (·.renumber omitted) := getElem?_remaining hi _
  rw [hsame, hcall]
  rfl

lemma canDrop_renumber (call : Call) : (call.renumber omitted).canDrop = call.canDrop := by
  obtain ⟨job, stage⟩ := call
  have hstage : (stage.renumber omitted).canWait = stage.canWait := by cases stage <;> rfl
  cases job <;> first | rfl | exact hstage

lemma stepCall_eq_without {call : Call} (hi : omitted i = false)
    (hstep : w.stepCall s i call = some r)
    (hjoin : ∀ start, call.stage = .joining start → omitted start = false)
    (hnew : w.calls.length < r.1.calls.length → omitted w.calls.length = false) :
    (w.without omitted).stepCall s (renumber omitted i) (call.renumber omitted) =
      some (r.without omitted) := by
  obtain ⟨job, stage⟩ := call
  have hwait : stage = .waiting → w.line.head? = some i := by
    rintro rfl
    by_contra hhead
    simp [stepCall, hhead] at hstep
  have hlost (c : Nat) (hstage : stage = .verifying c) (hclosed : w.isClosed c = true) :
      (w.lose s c .processExited).without omitted =
        (w.without omitted).lose s c .processExited := by
    subst hstage
    simp only [stepCall, hclosed, if_true, Option.some.injEq] at hstep
    subst hstep
    refine lose_without fun hlt => hnew ?_
    rwa [setStage, List.length_modify]
  rw [← stepCall_without hi _ hwait hjoin hlost, hstep]
  rfl

/-- A step that is not about an omitted call, and begins none, is possible without them and leads to
the same. -/
theorem step_without (hstep : w.step s a = some r)
    (hmover : ∀ i, a.mover? = some i → omitted i = false)
    (hjoin : ∀ (i start : Nat) (call : Call), w.calls[i]? = some call →
      call.stage = .joining start → omitted start = false)
    (hnew : w.calls.length < r.1.calls.length → omitted w.calls.length = false) :
    (w.without omitted).step s (a.renumber omitted) = some (r.without omitted) := by
  cases a with
  | call job =>
    obtain rfl := Option.some.inj hstep
    have hbegin : omitted w.calls.length = false := hnew (by simp [begin])
    exact congrArg some (Prod.ext (begin_without hbegin job).symm rfl)
  | activate =>
    obtain rfl := Option.some.inj hstep
    have hbegin : omitted w.calls.length = false := hnew (by simp [begin])
    have hlength : (w.without omitted).calls.length = renumber omitted w.calls.length :=
      length_remaining _
    have hbegun := begin_without hbegin .start
    simp only [step, Action.renumber, hlength, ← hbegun]
    rfl
  | poll budget =>
    obtain rfl := Option.some.inj hstep
    rfl
  | drop i =>
    simp only [step, Option.bind_eq_bind, Option.bind_eq_some_iff] at hstep
    obtain ⟨call, hcall, hstep⟩ := hstep
    have hi := hmover i rfl
    split at hstep
    case isTrue hdrop =>
      obtain rfl := Option.some.inj hstep
      simp only [step, Action.renumber, getElem?_without hi hcall, Option.bind_eq_bind,
        Option.bind_some, canDrop_renumber, hdrop, if_true, drop_without hi]
      rfl
    case isFalse => cases hstep
  | proceed i =>
    simp only [step, Option.bind_eq_bind, Option.bind_eq_some_iff] at hstep
    obtain ⟨call, hcall, hstep⟩ := hstep
    have hi := hmover i rfl
    simp only [step, Action.renumber, getElem?_without hi hcall, Option.bind_eq_bind,
      Option.bind_some]
    exact stepCall_eq_without hi hstep (fun start => hjoin i start call hcall) hnew
  | reopen i place =>
    simp only [step, Option.bind_eq_bind, Option.bind_eq_some_iff] at hstep
    obtain ⟨⟨job, stage⟩, hcall, hstep⟩ := hstep
    have hi := hmover i rfl
    split at hstep
    case h_1 c documents hstage =>
      obtain rfl : stage = .reopening c documents := hstage
      simp only [step, Action.renumber, getElem?_without hi hcall, Option.bind_eq_bind,
        Option.bind_some, Call.renumber, Stage.renumber, ← reopen_without hi, hstep,
        Option.map_some]
    case h_2 => cases hstep
  | write c =>
    simp only [step, Option.bind_eq_bind, Option.bind_eq_some_iff] at hstep
    obtain ⟨conn, hc, hstep⟩ := hstep
    simp only [step, Action.renumber, connections_without, hc, Option.bind_eq_bind,
      Option.bind_some, ← stepWriter_without, hstep, Option.map_some]
  | read c =>
    simp only [step, Option.bind_eq_bind, Option.bind_eq_some_iff] at hstep
    obtain ⟨conn, hc, hstep⟩ := hstep
    simp only [step, Action.renumber, connections_without, hc, Option.bind_eq_bind,
      Option.bind_some]
    rw [← stepReader_without, hstep, Option.map_some]
    intro failure hreader
    refine lose_without fun hlt => hnew ?_
    simp only [stepReader, hreader, Option.some.injEq] at hstep
    subst hstep
    exact hlt
  | expire i =>
    simp only [step, Option.bind_eq_bind, Option.bind_eq_some_iff] at hstep
    obtain ⟨call, hcall, hstep⟩ := hstep
    have hi := hmover i rfl
    split at hstep
    case isTrue => cases hstep
    case isFalse hnone =>
      -- Only calls that wait for something else than the lock or a start have a time limit.
      have hnone' : (w.without omitted).stepCall s (renumber omitted i)
          (call.renumber omitted) = none := by
        rw [← stepCall_without hi call, Option.not_isSome_iff_eq_none.mp hnone, Option.map_none]
        · intro hstage
          simp [expire, hstage] at hstep
        · intro start hstage
          simp [expire, hstage] at hstep
        · intro c hstage
          simp [expire, hstage] at hstep
      simp only [step, Action.renumber, getElem?_without hi hcall, Option.bind_eq_bind,
        Option.bind_some, hnone', Option.isSome_none, Bool.false_eq_true, if_false,
        ← expire_without hi, hstep, Option.map_some]
  | launched i result =>
    simp only [step, Option.bind_eq_bind, Option.bind_eq_some_iff] at hstep
    obtain ⟨⟨job, stage⟩, hcall, hstep⟩ := hstep
    have hi := hmover i rfl
    split at hstep
    case h_1 hstage =>
      obtain rfl : stage = .launching := hstage
      obtain rfl := Option.some.inj hstep
      simp only [step, Action.renumber, getElem?_without hi hcall, Option.bind_eq_bind,
        Option.bind_some]
      exact congrArg some (launched_without hi job result).symm
    case h_2 => cases hstep
  | received c read =>
    simp only [step, Option.bind_eq_bind, Option.bind_eq_some_iff] at hstep
    obtain ⟨conn, hc, hstep⟩ := hstep
    split at hstep
    case isTrue hreading =>
      obtain rfl := Option.some.inj hstep
      simp only [step, Action.renumber, connections_without, hc, Option.bind_eq_bind,
        Option.bind_some, hreading, if_true, ← receive_without]
      rfl
    case isFalse => cases hstep
  | drained c | broken c =>
    simp only [step, Option.bind_eq_bind, Option.bind_eq_some_iff] at hstep
    obtain ⟨conn, hc, hstep⟩ := hstep
    obtain rfl := Option.some.inj hstep
    simp only [step, Action.renumber, connections_without, hc, Option.bind_eq_bind,
      Option.bind_some]
    rfl
  | exited i problem =>
    simp only [step, Option.bind_eq_bind, Option.bind_eq_some_iff] at hstep
    obtain ⟨⟨job, stage⟩, hcall, hstep⟩ := hstep
    have hi := hmover i rfl
    split at hstep
    case h_1 c problems hstage =>
      obtain rfl : stage = .reaping c problems := hstage
      obtain rfl := Option.some.inj hstep
      simp only [step, Action.renumber, getElem?_without hi hcall, Option.bind_eq_bind,
        Option.bind_some]
      exact congrArg some (reaped_without hi _).symm
    case h_2 => cases hstep

end State

end LanguageClient
