import LanguageClient.Proofs.Session.Final

/-!
# What becomes of calls

Each call of a state was there before, or is new, or has been given up, or has gone on: `Origin`. A
call keeps its job and its answer, and whoever waits for a start waits for a start of the host.
-/

namespace LanguageClient

namespace State

variable {s : Setup} {w w' : State} {a : Action} {i k : Nat} {job : Job} {stage : Stage}
  {said : List Effect} {call : Call}

/-! ### Where a call comes from -/

/-- How call `k` has come to be where it is after a turn. -/
inductive Origin (s : Setup) (w : State) (a : Action) (w' : State) (said : List Effect) (k : Nat)
    (call : Call) : Prop
  | same : w.calls[k]? = some call → Origin s w a w' said k call
  | begun : k = w.calls.length → call.stage = .arriving →
      a = .call call.job ∨ a = .activate ∧ call.job = .start ∨ (∃ lost, call.job = .restart lost) →
      Origin s w a w' said k call
  | dropped {stage : Stage} : a = .drop k → w.calls[k]? = some ⟨call.job, stage⟩ →
      (Call.mk call.job stage).canDrop = true → call.stage = .dropped →
      Origin s w a w' said k call
  | advanced {stage : Stage} : w.calls[k]? = some ⟨call.job, stage⟩ →
      Advance s w k call.job a stage w' said → Origin s w a w' said k call

lemma eq_length_of_append {calls : List Call} {new : Call} (hk : (calls ++ [new])[k]? = some call) :
    calls[k]? = some call ∨ k = calls.length ∧ call = new := by
  rw [List.getElem?_append] at hk
  split at hk
  case isTrue => exact .inl hk
  case isFalse hle =>
    rw [List.getElem?_singleton] at hk
    split at hk
    case isTrue hlast => exact .inr ⟨by omega, (Option.some.inj hk).symm⟩
    case isFalse => cases hk

lemma Origin.of_lose {w₁ : State} {c : Nat} {failure : RuntimeFailure}
    (hcalls : w₁.calls = w.calls) (hk : (w₁.lose s c failure).1.calls[k]? = some call) :
    Origin s w a w' said k call := by
  rcases calls_lose s w₁ c failure with hsame | hmore
  · rw [hsame, hcalls] at hk
    exact .same hk
  · rw [hmore, hcalls] at hk
    obtain hk | ⟨rfl, rfl⟩ := eq_length_of_append hk
    · exact .same hk
    · exact .begun rfl rfl (.inr (.inr ⟨c, rfl⟩))

/-- The calls that do not go on come from where they were, but for a restart that a step begins. -/
lemma Advance.origin_other (h : Advance s w i job a stage w' said)
    (hk : w'.calls[k]? = some call) (hne : i ≠ k) : Origin s w a w' said k call := by
  cases h with
  | lose => exact .of_lose rfl ((getElem?_moveCall_ne _ _ hne).symm.trans hk)
  | _ => exact .same ((getElem?_moveCall_ne _ _ hne).symm.trans hk)

lemma calls_drop (w : State) (i : Nat) (call : Call) :
    (w.drop i call).1.calls = moveCall w.calls i .dropped := by
  unfold State.drop
  split <;> rfl

theorem Turn.origin (h : Turn s w a w' said) (hk : w'.calls[k]? = some call) :
    Origin s w a w' said k call := by
  cases h with
  | call job =>
    obtain hk | ⟨rfl, rfl⟩ := eq_length_of_append hk
    · exact .same hk
    · exact .begun rfl rfl (.inl rfl)
  | activate =>
    obtain hk | ⟨rfl, rfl⟩ := eq_length_of_append hk
    · exact .same hk
    · exact .begun rfl rfl (.inr (.inl ⟨rfl, rfl⟩))
  | @drop i dropped hi hdrop =>
    rw [calls_drop] at hk
    rcases eq_or_ne i k with rfl | hne
    · obtain rfl := eq_of_moveCall hi hk
      exact .dropped rfl hi hdrop rfl
    · rw [getElem?_moveCall_ne _ _ hne] at hk
      exact .same hk
  | @advance _ i job stage _ _ hi hadv =>
    rcases eq_or_ne i k with rfl | hne
    · obtain ⟨calls, after, hcalls, hbefore, -⟩ := hadv.moved hi
      rw [hcalls] at hk
      obtain rfl := eq_of_moveCall hbefore hk
      exact .advanced hi hadv
    · exact hadv.origin_other hk hne
  | publish =>
    rw [emit_fst] at hk
    exact .same hk
  | @report c =>
    have hcalls : (w.modifyConnection c Connection.endReader).calls = w.calls := rfl
    exact .of_lose hcalls hk
  | _ => exact .same hk

/-! ### What a call keeps -/

/-- A call keeps its job. -/
lemma Turn.keeps_job (h : Turn s w a w' said) (hi : w.calls[i]? = some call) :
    ∃ stage, w'.calls[i]? = some ⟨call.job, stage⟩ := by
  rcases h.call_cases hi with hsame | hdropped | hadv
  · exact ⟨call.stage, hsame⟩
  · exact ⟨.dropped, hdropped⟩
  · obtain ⟨calls, after, hcalls, hbefore, -⟩ := hadv.moved hi
    exact ⟨after, hcalls ▸ getElem?_moveCall_self after hbefore⟩

lemma hasEnded_of_canDrop (h : call.canDrop = true) : call.stage.hasEnded = false := by
  have hwait := canWait_of_canDrop h
  cases hstage : call.stage <;> simp_all [Stage.canWait, Stage.hasEnded]

/-- A call that has ended stays as it is. -/
lemma Turn.keeps_ended (h : Turn s w a w' said) (hi : w.calls[i]? = some call)
    (hended : call.stage.hasEnded = true) : w'.calls[i]? = some call := by
  have hgoes {stage : Stage} {P : Prop} (hcall : w.calls[i]? = some ⟨call.job, stage⟩)
      (hstage : stage.hasEnded = false) : P := by
    have hsame := congrArg Call.stage (Option.some.inj (hi.symm.trans hcall))
    rw [hsame, hstage] at hended
    cases hended
  obtain ⟨stage, hi'⟩ := h.keeps_job hi
  cases h.origin hi' with
  | same hsame => rw [hi', ← hsame, hi]
  | begun hlength =>
    have hlt := (List.getElem?_eq_some_iff.mp hi).1
    omega
  | dropped _ hcall hdrop => exact hgoes hcall (hasEnded_of_canDrop hdrop)
  | advanced hcall hadv => exact hgoes hcall hadv.not_ended

/-! ### Waiting for a start -/

/-- A call that comes to wait for a start has taken it from the activation. -/
lemma Advance.of_joining {start : Nat} (h : Advance s w i job a stage w' said)
    (hi : w.calls[i]? = some ⟨job, stage⟩) (hi' : w'.calls[i]? = some ⟨job, .joining start⟩) :
    stage = .arriving ∧ w.activation = some (some start) ∧
      (job = .started ∧ w'.activation = some none ∨ job = .deactivate ∧ w'.activation = none) := by
  cases h with
  | exchange _ hex =>
    have hin := hex.inside.2
    rw [← stage_of_moveCall hi hi'] at hin
    cases hin
  | join hstart =>
    obtain ⟨⟩ := stage_of_moveCall hi hi'
    exact ⟨rfl, hstart, .inl ⟨rfl, rfl⟩⟩
  | joinFirst hstart =>
    obtain ⟨⟩ := stage_of_moveCall hi hi'
    exact ⟨rfl, hstart, .inr ⟨rfl, rfl⟩⟩
  | lose => cases stage_of_moveCall (getElem?_calls_lose hi) hi'
  | notifyNobody =>
    have hsettled := stage_of_moveCall hi hi'
    unfold Notice.sync at hsettled
    split at hsettled <;> cases hsettled
  | sent notice | unsent notice =>
    have hsettled := stage_of_moveCall hi hi'
    cases notice <;> cases hsettled
  | _ => cases stage_of_moveCall hi hi'

/-- What a call does to the activation: only a call that waits for its start does anything, when it
arrives. -/
def Advance.Claims (w w' : State) (i : Nat) (job : Job) : Prop :=
  (job = .started ∧ w'.activation = some none ∧
      ∃ start, w.activation = some (some start) ∧ w'.calls[i]? = some ⟨job, .joining start⟩) ∨
    job = .deactivate ∧ w'.activation = none ∧
      ∀ start, w.activation = some (some start) → w'.calls[i]? = some ⟨job, .joining start⟩

lemma Advance.activation (h : Advance s w i job a stage w' said)
    (hi : w.calls[i]? = some ⟨job, stage⟩) :
    w'.activation = w.activation ∨ stage = .arriving ∧ Claims w w' i job := by
  cases h with
  | @join start hstart =>
    exact .inr ⟨rfl, .inl ⟨rfl, rfl, start, hstart, getElem?_moveCall_self _ hi⟩⟩
  | joinFirst hstart =>
    refine .inr ⟨rfl, .inr ⟨rfl, rfl, fun other hother => ?_⟩⟩
    obtain rfl : _ = other := by simpa [hstart] using hother
    exact getElem?_moveCall_self _ hi
  | deactivate hnone =>
    exact .inr ⟨rfl, .inr ⟨rfl, rfl, fun start hstart => absurd hstart (hnone start)⟩⟩
  | lose => exact .inl (by rw [setStage, lose_fst])
  | _ => exact .inl rfl

lemma Turn.activation (h : Turn s w a w' said) :
    w'.activation = w.activation ∨
      a = .activate ∧ w' = { w.begin .start with activation := some (some w.calls.length) } ∨
      ∃ i job, w.calls[i]? = some ⟨job, .arriving⟩ ∧ Advance s w i job a .arriving w' said ∧
        Advance.Claims w w' i job := by
  cases h with
  | activate => exact .inr (.inl ⟨rfl, rfl⟩)
  | drop =>
    unfold State.drop
    split <;> exact .inl rfl
  | advance hi hadv =>
    rcases hadv.activation hi with hsame | ⟨rfl, hclaims⟩
    · exact .inl hsame
    · exact .inr (.inr ⟨_, _, hi, hadv, hclaims⟩)
  | publish =>
    rw [emit_fst]
    exact .inl rfl
  | report => exact .inl (by rw [lose_fst]; rfl)
  | _ => exact .inl rfl

def IsStart (w : State) (k : Nat) : Prop := ∃ stage, w.calls[k]? = some ⟨.start, stage⟩

/-- Whoever waits for a start, or may come to, waits for a start of the host. -/
structure Joined (w : State) : Prop where
  activation : ∀ {start : Nat}, w.activation = some (some start) → w.IsStart start
  joining : ∀ {i start : Nat} {job : Job}, w.calls[i]? = some ⟨job, .joining start⟩ →
    w.IsStart start

lemma IsStart.turn (h : w.IsStart k) (hturn : Turn s w a w' said) : w'.IsStart k := by
  obtain ⟨stage, hk⟩ := h
  exact hturn.keeps_job hk

theorem Joined.turn (h : Joined w) (hturn : Turn s w a w' said) : Joined w' where
  activation {start} hstart := by
    rcases hturn.activation with hsame | ⟨-, rfl⟩ | ⟨_, _, _, _, ⟨-, hnone, -⟩ | ⟨-, hnone, -⟩⟩
    · exact (h.activation (hsame ▸ hstart)).turn hturn
    · obtain rfl : w.calls.length = start := by simpa using hstart
      exact ⟨.arriving, by simp [begin]⟩
    · cases hnone.symm.trans hstart
    · cases hnone.symm.trans hstart
  joining {i start job} hi' := by
    cases hturn.origin hi' with
    | same hi => exact (h.joining hi).turn hturn
    | begun _ hstage => cases hstage
    | dropped _ _ _ hstage => cases hstage
    | advanced hi hadv => exact (h.activation (hadv.of_joining hi hi').2.1).turn hturn

end State

namespace Run

variable {s : Setup} {past later : List Moment} {m : Moment} {w : State} {i : Nat} {job : Job}
  {stage : Stage}

/-- Whoever waits for a start waits for a start of the host. -/
theorem joined (h : Run s past w) : w.Joined := by
  induction h with
  | initial => exact ⟨by simp [State.initial], by simp [State.initial]⟩
  | step a _ hstep ih => exact ih.turn (.of_step hstep)

/-- A call keeps its job to the end. -/
lemma keeps_job_after (h : Run s (past ++ m :: later) w)
    (hi : m.after.calls[i]? = some ⟨job, stage⟩) : ∃ stage, w.calls[i]? = some ⟨job, stage⟩ := by
  refine h.induction_from (P := fun w => ∃ stage, w.calls[i]? = some ⟨job, stage⟩) ⟨stage, hi⟩ ?_
  rintro m' - earlier - hstep' ⟨stage', hi'⟩
  exact (State.Turn.of_step hstep').keeps_job hi'

lemma keeps_job (h : Run s (past ++ m :: later) w) (hi : m.before.calls[i]? = some ⟨job, stage⟩) :
    ∃ stage, w.calls[i]? = some ⟨job, stage⟩ := by
  obtain ⟨-, hstep⟩ := h.of_split
  obtain ⟨after, hafter⟩ := (State.Turn.of_step hstep).keeps_job hi
  exact h.keeps_job_after hafter

/-- A call that has ended stays as it is. -/
lemma keeps_ended {call : Call} (h : Run s (past ++ m :: later) w)
    (hi : m.before.calls[i]? = some call) (hended : call.stage.hasEnded = true) :
    w.calls[i]? = some call := by
  obtain ⟨-, hstep⟩ := h.of_split
  refine h.induction_from (P := fun w => w.calls[i]? = some call)
    ((State.Turn.of_step hstep).keeps_ended hi hended) ?_
  rintro m' - earlier - hstep' hi'
  exact (State.Turn.of_step hstep').keeps_ended hi' hended

/-- The host has begun each call, but for the restarts. -/
lemma begun (h : Run s past w) (hi : w.calls[i]? = some ⟨job, stage⟩) :
    (∃ m ∈ past, m.action = .call job) ∨ (job = .start ∧ ∃ m ∈ past, m.action = .activate) ∨
      ∃ lost, job = .restart lost := by
  induction h generalizing stage with
  | initial => simp [State.initial] at hi
  | @step past w w' said a _ hstep ih =>
    have hearlier {stage : Stage} (hi : w.calls[i]? = some ⟨job, stage⟩) :
        (∃ m ∈ past ++ [⟨w, a, w', said⟩], m.action = .call job) ∨
          (job = .start ∧ ∃ m ∈ past ++ [⟨w, a, w', said⟩], m.action = .activate) ∨
          ∃ lost, job = .restart lost := by
      obtain ⟨m, hm, ha⟩ | ⟨hjob, m, hm, ha⟩ | hlost := ih hi
      · exact .inl ⟨m, List.mem_append_left _ hm, ha⟩
      · exact .inr (.inl ⟨hjob, m, List.mem_append_left _ hm, ha⟩)
      · exact .inr (.inr hlost)
    have hlast : (⟨w, a, w', said⟩ : Moment) ∈ past ++ [⟨w, a, w', said⟩] :=
      List.mem_append_right _ (List.mem_singleton_self _)
    cases (State.Turn.of_step hstep).origin hi with
    | same hi => exact hearlier hi
    | dropped _ hi => exact hearlier hi
    | advanced hi => exact hearlier hi
    | begun _ _ hbegun =>
      obtain ha | ⟨ha, hjob⟩ | hlost := hbegun
      · exact .inl ⟨_, hlast, ha⟩
      · exact .inr (.inl ⟨hjob, _, hlast, ha⟩)
      · exact .inr (.inr hlost)

end Run

end LanguageClient
