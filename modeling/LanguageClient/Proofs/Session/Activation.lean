import LanguageClient.Proofs.Session.Calls
import LanguageClient.Proofs.Session.Losses

/-!
# Activation and deactivation

An activation starts the session in the background. Until somebody asks, it keeps the start, then
whoever asked has it, so a start that goes on is always accounted for: `State.Attended`. Hence a
deactivation has the lock only when the start is done, and finds something to stop:
`Run.deactivation_is_final`.
-/

namespace LanguageClient

/-- Whether a job waits for the start of an activation. -/
def Job.waits : Job → Bool
  | .started | .deactivate => true
  | _ => false

/-- Whether the host leaves the start to its activation in a moment: it starts the session only by
it, and once, it asks one thing of it at a time, and gives up nothing that it has asked. -/
def Moment.keepsActivation (m : Moment) : Bool :=
  match m.action with
  | .call .start => false
  | .activate => m.before.calls.all fun call => !(call.job matches .start)
  | .call .started | .call .deactivate =>
    m.before.activation.isSome &&
      m.before.calls.all fun call => !call.job.waits || call.stage.hasEnded
  | .drop i => m.before.calls[i]?.all fun call => !call.job.waits && !(call.job matches .start)
  | _ => true

namespace State

variable {s : Setup} {w w' : State} {a : Action} {i k : Nat} {job : Job} {stage : Stage}
  {said : List Effect}

/-! ### What the calls of an activation do -/

/-- A call never comes back to its arrival. -/
lemma Advance.after_ne_arriving (h : Advance s w i job a stage w' said)
    (hi : w.calls[i]? = some ⟨job, stage⟩) : w'.calls[i]? ≠ some ⟨job, .arriving⟩ := by
  intro hi'
  cases h with
  | exchange _ hex =>
    have hin := hex.inside.2
    rw [← stage_of_moveCall hi hi'] at hin
    cases hin
  | lose => cases stage_of_moveCall (getElem?_calls_lose hi) hi'
  | notifyNobody =>
    have hsettled := stage_of_moveCall hi hi'
    unfold Notice.sync at hsettled
    split at hsettled <;> cases hsettled
  | sent notice | unsent notice =>
    have hsettled := stage_of_moveCall hi hi'
    cases notice <;> cases hsettled
  | _ => cases stage_of_moveCall hi hi'

/-- A call that waits for a start goes on when the start has its outcome. -/
lemma Advance.start_done (h : Advance s w i job a (.joining k) w' said) :
    ∃ result, (w.calls[k]?).bind (·.stage.outcome?) = some (.start result) ∧
      (job = .started → w' = w.finish i (.start result)) := by
  cases h with
  | exchange _ hex => cases hex
  | refused _ _ hstage => rcases hstage with hstage | ⟨hstage, -⟩ <;> cases hstage
  | joined hresult => exact ⟨_, hresult, nofun⟩
  | heard _ hresult => exact ⟨_, hresult, fun _ => rfl⟩

/-- What a call of an activation does when it arrives. -/
lemma Advance.of_arriving (h : Advance s w i .started a .arriving w' said) :
    (∃ start, w.activation = some (some start) ∧ w'.activation = some none ∧
      w' = { w with activation := some none }.setStage i (.joining start)) ∨
    (∀ start, w.activation ≠ some (some start)) ∧ w' = w.finish i (.start w.startOutcome) := by
  cases h with
  | exchange _ hex => cases hex
  | outOfScope hdoc | refused _ hdoc => cases hdoc
  | enlist hstarted => exact absurd rfl hstarted
  | told hnone => exact .inr ⟨hnone, rfl⟩
  | join hstart => exact .inl ⟨_, hstart, rfl, rfl⟩

/-- Whoever asks an activation that has its start takes that. -/
lemma Advance.takes_start (h : Advance s w i job a .arriving w' said) (hwaits : job.waits = true)
    (hstart : w.activation = some (some k)) : w'.activation ≠ some (some k) := by
  have hnotice : job.document? = none := by cases job <;> first | rfl | cases hwaits
  cases h with
  | exchange _ hex => cases hex
  | outOfScope hdoc | refused _ hdoc => cases hnotice.symm.trans hdoc
  | enlist hstarted hdeactivate =>
    cases job <;> first | exact absurd rfl hstarted | exact absurd rfl hdeactivate | cases hwaits
  | told hnone | deactivate hnone => exact absurd hstart (hnone k)
  | join | joinFirst => nofun

/-- A start that arrives takes its place in line. -/
lemma Advance.start_fresh (h : Advance s w i .start a stage w' said) (hsound : Sound False w)
    (hi : w.calls[i]? = some ⟨.start, stage⟩) (hstage : stage = .arriving ∨ stage = .waiting)
    (hcreated : w'.phase = .created) : w'.calls[i]? = some ⟨.start, .waiting⟩ := by
  rcases hstage with rfl | rfl
  · cases h with
    | exchange _ hex => cases hex
    | outOfScope hdoc | refused _ hdoc => cases hdoc
    | enlist => exact getElem?_moveCall_self _ hi
  · cases h with
    | exchange _ hex => cases hex
    | refused _ hdoc => cases hdoc
    | stopIgnored _ hstop | stop _ hstop | stopNobody _ hstop => cases hstop
    | launch => cases hcreated
    | ignored _ hstart =>
      have hphase : w.phase = .created := hcreated
      rw [hphase] at hstart
      cases hstart
    | vacate hhead _ hslot =>
      obtain ⟨live, -, hidle⟩ := hsound.fits_of_head hhead hi
      have hphase : w.phase = .created := hcreated
      have hup := hidle.isUp (by simp [hslot])
      rw [hphase] at hup
      cases hup

lemma Turn.of_activate (h : Turn s w .activate w' said) :
    w' = { w.begin .start with activation := some (some w.calls.length) } := by
  cases h with
  | activate => rfl
  | advance _ hadv => cases hadv.caller
  | deed _ hdeed => cases hdeed

/-- No session is created anew. -/
lemma Turn.created (h : Turn s w a w' said) (hcreated : w'.phase = .created) :
    w.phase = .created := by
  rcases h.phase_cases with hsame | ⟨-, failure, hfailed⟩ | ⟨i, job, stage, hi, hadv⟩
  · exact hsame.symm.trans hcreated
  · cases hfailed.symm.trans hcreated
  · cases hadv with
    | launch | stop | stopNobody | raise | launchFailed | conclude | relaunch | refuse =>
      cases hcreated
    | @lose _ c =>
      by_cases hheeds : w.Heeds c
      · cases (phase_lose_of_heeds s w c .processExited hheeds).symm.trans hcreated
      · rwa [lose_of_not_heeds s w c _ hheeds] at hcreated
    | _ => exact hcreated

section Kept

variable (hkept : (Moment.mk w a w' said).keepsActivation = true)

include hkept

lemma not_isStart_of_activate (ha : a = .activate) (k : Nat) : ¬w.IsStart k := by
  rintro ⟨stage, hk⟩
  subst ha
  have hall := List.all_eq_true.mp hkept _ (List.mem_of_getElem? hk)
  cases hall

lemma ended_of_asks (ha : a = .call job) (hwaits : job.waits = true) :
    w.activation.isSome = true ∧ ∀ (i : Nat) (job : Job) (stage : Stage),
      w.calls[i]? = some ⟨job, stage⟩ → job.waits = true → stage.hasEnded = true := by
  subst ha
  obtain ⟨hsome, hall⟩ : w.activation.isSome = true ∧
      (w.calls.all fun call => !call.job.waits || call.stage.hasEnded) = true := by
    cases job <;> first | exact Bool.and_eq_true_iff.mp hkept | cases hwaits
  refine ⟨hsome, fun i job stage hi hwaits => ?_⟩
  simpa [hwaits] using List.all_eq_true.mp hall _ (List.mem_of_getElem? hi)

lemma not_waits_of_dropped (ha : a = .drop k) (hk : w.calls[k]? = some ⟨job, stage⟩) :
    job ≠ .start ∧ job.waits = false := by
  subst ha
  have hboth : (w.calls[k]?.all fun call => !call.job.waits && !(call.job matches .start)) = true :=
    hkept
  rw [hk, Option.all_some] at hboth
  obtain ⟨hwaits, hstart⟩ := Bool.and_eq_true_iff.mp hboth
  refine ⟨?_, by simpa using hwaits⟩
  rintro rfl
  cases hstart

end Kept

/-- The calls of an activation are never given up; a new one comes when the others are done. -/
lemma Turn.activation_call (h : Turn s w a w' said)
    (hkept : (Moment.mk w a w' said).keepsActivation = true)
    (hjob : job = .start ∨ job.waits = true)
    (hk : w'.calls[k]? = some ⟨job, stage⟩) :
    w.calls[k]? = some ⟨job, stage⟩ ∨
    (k = w.calls.length ∧ stage = .arriving ∧
      (a = .activate ∧ job = .start ∧ (∀ i, ¬w.IsStart i) ∨
        a = .call job ∧ job.waits = true ∧ w.activation.isSome = true ∧
          ∀ (i : Nat) (job : Job) (stage : Stage), w.calls[i]? = some ⟨job, stage⟩ →
            job.waits = true → stage.hasEnded = true)) ∨
    ∃ before, w.calls[k]? = some ⟨job, before⟩ ∧ Advance s w k job a before w' said := by
  cases h.origin hk with
  | same hold => exact .inl hold
  | begun hlength hstage hbegun =>
    refine .inr (.inl ⟨hlength, hstage, ?_⟩)
    obtain rfl | ⟨rfl, hstart⟩ | ⟨lost, hlost⟩ := hbegun
    · rcases hjob with rfl | hwaits
      · cases hkept
      · exact .inr ⟨rfl, hwaits, ended_of_asks hkept rfl hwaits⟩
    · exact .inl ⟨rfl, hstart, not_isStart_of_activate hkept rfl⟩
    · dsimp only at hlost
      subst hlost
      rcases hjob with hjob | hjob <;> cases hjob
  | dropped hdrop hold =>
    obtain ⟨hstart, hwaits⟩ := not_waits_of_dropped hkept hdrop hold
    rcases hjob with hjob | hjob
    · exact absurd hjob hstart
    · rw [hwaits] at hjob
      cases hjob
  | advanced hold hadv => exact .inr (.inr ⟨_, hold, hadv⟩)

/-- A call goes on waiting for a start that goes on. -/
lemma Turn.joining (hturn : Turn s w a w' said)
    (hkept : (Moment.mk w a w' said).keepsActivation = true) (hsound : Sound False w)
    (hjoined : Joined w) {start : Nat}
    (hi : w.calls[i]? = some ⟨job, .joining start⟩) :
    w'.calls[i]? = some ⟨job, .joining start⟩ ∨
      ∃ outcome, w.calls[start]? = some ⟨.start, .done outcome⟩ := by
  have hsuits : job.suits (.joining start) = true := hsound.suited hi
  have hwaits : job.waits = true := by cases job <;> first | rfl | cases hsuits
  obtain ⟨stage, hi'⟩ := hturn.keeps_job hi
  rcases hturn.activation_call hkept (.inr hwaits) hi' with
    hold | ⟨rfl, -, -⟩ | ⟨before, hold, hadv⟩
  · left
    rw [hi', ← hold, hi]
  · have hlt := (List.getElem?_eq_some_iff.mp hi).1
    omega
  · obtain ⟨-, rfl⟩ := Call.mk.inj (Option.some.inj (hi.symm.trans hold))
    obtain ⟨result, hresult, -⟩ := hadv.start_done
    obtain ⟨stage, hk⟩ := hjoined.joining hi
    rw [hk, Option.bind_some] at hresult
    cases stage <;> first | exact .inr ⟨_, hk⟩ | cases hresult

/-! ### The start is accounted for -/

/-- There is one start at most. As long as it goes on, either the activation has it, and nobody has
asked for it, or the one call that has taken it waits for it. -/
structure Attended (w : State) : Prop where
  lone : ∀ {i k : Nat}, w.IsStart i → w.IsStart k → i = k
  begun : w.activation.isSome = true → ∃ k, w.IsStart k
  asked : ∀ {i : Nat} {job : Job} {stage : Stage}, w.calls[i]? = some ⟨job, stage⟩ →
    job.waits = true → ∃ k, w.IsStart k
  /-- A start that goes on has somebody to wait for it. -/
  awaited : ∀ {k : Nat} {stage : Stage}, w.calls[k]? = some ⟨.start, stage⟩ →
    stage.hasEnded = true ∨ w.activation = some (some k) ∨
      ∃ (i : Nat) (job : Job), w.calls[i]? = some ⟨job, .joining k⟩
  /-- Only the last call to ask can be under way. -/
  last : ∀ {i k : Nat} {job job' : Job} {stage stage' : Stage},
    w.calls[i]? = some ⟨job, stage⟩ → job.waits = true → stage.hasEnded = false →
    w.calls[k]? = some ⟨job', stage'⟩ → job'.waits = true → k ≤ i
  untaken : ∀ {k : Nat}, w.activation = some (some k) →
    ∀ {i : Nat} {job : Job} {stage : Stage}, w.calls[i]? = some ⟨job, stage⟩ →
      job.waits = true → stage = .arriving
  /-- When the activation has given its start away and is not over, it was asked how that went. -/
  taken : w.activation = some none →
    ∃ (i : Nat) (stage : Stage), w.calls[i]? = some ⟨.started, stage⟩ ∧ stage ≠ .arriving
  held : ∀ {i : Nat} {job : Job}, w.calls[i]? = some ⟨job, .arriving⟩ → job.waits = true →
    w.activation.isSome = true
  /-- While the session is as it was created, the start has not had its turn. -/
  fresh : w.phase = .created → ∀ {k : Nat} {stage : Stage}, w.calls[k]? = some ⟨.start, stage⟩ →
    stage = .arriving ∨ stage = .waiting
  /-- The first call to ask how the start went gets the outcome of the start itself. -/
  first : ∀ {i : Nat} {stage : Stage}, w.calls[i]? = some ⟨.started, stage⟩ →
    (∀ (k : Nat) (stage : Stage), w.calls[k]? = some ⟨.started, stage⟩ → i ≤ k) →
    stage = .arriving ∨ (∃ k, stage = .joining k) ∨
      ∃ (k : Nat) (outcome : Outcome), stage = .done outcome ∧
        w.calls[k]? = some ⟨.start, .done outcome⟩
  /-- No other waits. -/
  later : ∀ {i k start : Nat} {stage : Stage}, w.calls[i]? = some ⟨.started, .joining start⟩ →
    w.calls[k]? = some ⟨.started, stage⟩ → i ≤ k

namespace Attended

theorem initial : Attended .initial where
  lone := by simp [IsStart, State.initial]
  begun := by simp [State.initial]
  asked := by simp [State.initial]
  awaited := by simp [State.initial]
  last := by simp [State.initial]
  untaken := by simp [State.initial]
  taken := by simp [State.initial]
  held := by simp [State.initial]
  fresh := by simp [State.initial]
  first := by simp [State.initial]
  later := by simp [State.initial]

variable (h : Attended w) (hturn : Turn s w a w' said)
  (hkept : (Moment.mk w a w' said).keepsActivation = true)

include h hturn hkept

lemma turn_lone (hi : w'.IsStart i) (hk : w'.IsStart k) : i = k := by
  obtain ⟨stage, hi⟩ := hi
  obtain ⟨stage', hk⟩ := hk
  have hold {k : Nat} {stage : Stage} (hk : w'.calls[k]? = some ⟨.start, stage⟩) :
      w.IsStart k ∨ k = w.calls.length ∧ ∀ i, ¬w.IsStart i := by
    rcases hturn.activation_call hkept (.inl rfl) hk with
      hk | ⟨hlength, -, ⟨-, -, hnone⟩ | ⟨-, hwaits, -⟩⟩ | ⟨before, hk, -⟩
    · exact .inl ⟨_, hk⟩
    · exact .inr ⟨hlength, hnone⟩
    · cases hwaits
    · exact .inl ⟨_, hk⟩
  rcases hold hi with hi | ⟨rfl, hnone⟩
  · rcases hold hk with hk | ⟨-, hnone⟩
    · exact h.lone hi hk
    · exact absurd hi (hnone i)
  · rcases hold hk with hk | ⟨rfl, -⟩
    · exact absurd hk (hnone k)
    · rfl

lemma turn_begun (hsome : w'.activation.isSome = true) : ∃ k, w'.IsStart k := by
  have hkeeps : w.activation.isSome = true → ∃ k, w'.IsStart k := fun hsome => by
    obtain ⟨k, hk⟩ := h.begun hsome
    exact ⟨k, hk.turn hturn⟩
  rcases hturn.activation with hsame | ⟨-, rfl⟩ |
      ⟨_, _, _, _, ⟨-, -, start, hstart, -⟩ | ⟨-, hnone, -⟩⟩
  · exact hkeeps (hsame ▸ hsome)
  · exact ⟨w.calls.length, .arriving, by simp [begin]⟩
  · exact hkeeps (by simp [hstart])
  · simp [hnone] at hsome

lemma turn_asked (hi : w'.calls[i]? = some ⟨job, stage⟩) (hwaits : job.waits = true) :
    ∃ k, w'.IsStart k := by
  have hkeeps : (∃ k, w.IsStart k) → ∃ k, w'.IsStart k := fun ⟨k, hk⟩ => ⟨k, hk.turn hturn⟩
  rcases hturn.activation_call hkept (.inr hwaits) hi with
    hi | ⟨-, -, ⟨-, rfl, -⟩ | ⟨-, -, hsome, -⟩⟩ | ⟨before, hi, -⟩
  · exact hkeeps (h.asked hi hwaits)
  · cases hwaits
  · exact hkeeps (h.begun hsome)
  · exact hkeeps (h.asked hi hwaits)

lemma turn_awaited (hsound : Sound False w) (hjoined : Joined w)
    (hk : w'.calls[k]? = some ⟨.start, stage⟩) :
    stage.hasEnded = true ∨ w'.activation = some (some k) ∨
      ∃ (i : Nat) (job : Job), w'.calls[i]? = some ⟨job, .joining k⟩ := by
  -- The start was awaited before, and so it still is.
  have hkeeps {before : Stage} (hk : w.calls[k]? = some ⟨.start, before⟩)
      (hgoes : before.hasEnded = false) : w'.activation = some (some k) ∨
      ∃ (i : Nat) (job : Job), w'.calls[i]? = some ⟨job, .joining k⟩ := by
    rcases h.awaited hk with hended | hstart | ⟨i, job, hi⟩
    · rw [hgoes] at hended
      cases hended
    · rcases hturn.activation with hsame | ⟨ha, -⟩ | ⟨i, job, hi, hadv, hclaims⟩
      · exact .inl (hsame.trans hstart)
      · exact absurd ⟨before, hk⟩ (not_isStart_of_activate hkept ha k)
      · right
        rcases hclaims with ⟨-, -, start, hother, hi'⟩ | ⟨-, -, hi'⟩
        · obtain rfl : start = k := by simpa [hstart] using hother.symm
          exact ⟨i, job, hi'⟩
        · exact ⟨i, job, hi' k hstart⟩
    · rcases hturn.joining hkept hsound hjoined hi with hi' | ⟨outcome, hdone⟩
      · exact .inr ⟨i, job, hi'⟩
      · obtain ⟨-, rfl⟩ := Call.mk.inj (Option.some.inj (hk.symm.trans hdone))
        cases hgoes
  rcases hturn.activation_call hkept (.inl rfl) hk with
    hk | ⟨rfl, -, ⟨rfl, -, -⟩ | ⟨-, hwaits, -⟩⟩ | ⟨before, hk, hadv⟩
  · cases hgoes : stage.hasEnded with
    | true => exact .inl rfl
    | false => exact .inr (hkeeps hk hgoes)
  · rw [hturn.of_activate]
    exact .inr (.inl rfl)
  · cases hwaits
  · exact .inr (hkeeps hk hadv.not_ended)

lemma turn_last {job' : Job} {stage' : Stage} (hi : w'.calls[i]? = some ⟨job, stage⟩)
    (hwaits : job.waits = true) (hgoes : stage.hasEnded = false)
    (hk : w'.calls[k]? = some ⟨job', stage'⟩) (hwaits' : job'.waits = true) : k ≤ i := by
  -- A call that was there before was under way before.
  have hold {before : Stage} (hi : w.calls[i]? = some ⟨job, before⟩)
      (hgoes : before.hasEnded = false) : k ≤ i := by
    rcases hturn.activation_call hkept (.inr hwaits') hk with
      hk | ⟨-, -, ⟨-, rfl, -⟩ | ⟨-, -, -, hdone⟩⟩ | ⟨before', hk, -⟩
    · exact h.last hi hwaits hgoes hk hwaits'
    · cases hwaits'
    · rw [hdone i job before hi hwaits] at hgoes
      cases hgoes
    · exact h.last hi hwaits hgoes hk hwaits'
  rcases hturn.activation_call hkept (.inr hwaits) hi with
    hi | ⟨rfl, -, -⟩ | ⟨before, hi, hadv⟩
  · exact hold hi hgoes
  · rcases hturn.activation_call hkept (.inr hwaits') hk with hk | ⟨rfl, -, -⟩ | ⟨before', hk, -⟩
    · exact Nat.le_of_lt (List.getElem?_eq_some_iff.mp hk).1
    · exact Nat.le_refl _
    · exact Nat.le_of_lt (List.getElem?_eq_some_iff.mp hk).1
  · exact hold hi hadv.not_ended

lemma turn_untaken (hstart : w'.activation = some (some k)) (hi : w'.calls[i]? = some ⟨job, stage⟩)
    (hwaits : job.waits = true) : stage = .arriving := by
  rcases hturn.activation with hsame | ⟨ha, -⟩ |
      ⟨_, _, _, _, ⟨-, hnone, -⟩ | ⟨-, hnone, -⟩⟩
  · rw [hsame] at hstart
    rcases hturn.activation_call hkept (.inr hwaits) hi with
      hi | ⟨-, hstage, -⟩ | ⟨before, hi, hadv⟩
    · exact h.untaken hstart hi hwaits
    · exact hstage
    · obtain rfl := h.untaken hstart hi hwaits
      exact absurd (hsame.trans hstart) (hadv.takes_start hwaits hstart)
  · rcases hturn.activation_call hkept (.inr hwaits) hi with
      hi | ⟨-, hstage, -⟩ | ⟨before, hi, -⟩
    · obtain ⟨k, hk⟩ := h.asked hi hwaits
      exact absurd hk (not_isStart_of_activate hkept ha k)
    · exact hstage
    · obtain ⟨k, hk⟩ := h.asked hi hwaits
      exact absurd hk (not_isStart_of_activate hkept ha k)
  · cases hnone.symm.trans hstart
  · cases hnone.symm.trans hstart

lemma turn_taken (hnone : w'.activation = some none) :
    ∃ (i : Nat) (stage : Stage), w'.calls[i]? = some ⟨.started, stage⟩ ∧ stage ≠ .arriving := by
  rcases hturn.activation with hsame | ⟨-, rfl⟩ |
      ⟨i, job, -, -, ⟨rfl, -, start, -, hi'⟩ | ⟨-, hover, -⟩⟩
  · obtain ⟨i, before, hi, hbefore⟩ := h.taken (hsame.symm.trans hnone)
    obtain ⟨stage, hi'⟩ := hturn.keeps_job hi
    refine ⟨i, stage, hi', ?_⟩
    rintro rfl
    rcases hturn.activation_call hkept (.inr rfl) hi' with
      hold | ⟨rfl, -, -⟩ | ⟨before, hold, hadv⟩
    · obtain ⟨-, rfl⟩ := Call.mk.inj (Option.some.inj (hi.symm.trans hold))
      exact hbefore rfl
    · have hlt := (List.getElem?_eq_some_iff.mp hi).1
      omega
    · exact hadv.after_ne_arriving hold hi'
  · simp at hnone
  · exact ⟨i, .joining start, hi', nofun⟩
  · cases hover.symm.trans hnone

lemma turn_held (hi : w'.calls[i]? = some ⟨job, .arriving⟩) (hwaits : job.waits = true) :
    w'.activation.isSome = true := by
  rcases hturn.activation_call hkept (.inr hwaits) hi with
    hold | ⟨-, -, ⟨-, rfl, -⟩ | ⟨ha, -, hsome, -⟩⟩ | ⟨before, hold, hadv⟩
  · rcases hturn.activation with hsame | ⟨-, rfl⟩ |
        ⟨k, job', hk, hadv, ⟨-, hnone, -⟩ | ⟨rfl, -, -⟩⟩
    · rw [hsame]
      exact h.held hold hwaits
    · rfl
    · rw [hnone]
      rfl
    · -- No other call is about to ask than the one that now does.
      have hle : k ≤ i := h.last hold hwaits rfl hk rfl
      have hge : i ≤ k := h.last hk rfl rfl hold hwaits
      obtain rfl : i = k := Nat.le_antisymm hge hle
      obtain ⟨rfl, -⟩ := Call.mk.inj (Option.some.inj (hold.symm.trans hk))
      exact absurd hi (hadv.after_ne_arriving hk)
  · cases hwaits
  · rcases hturn.activation with hsame | ⟨hactivate, -⟩ | ⟨k, job', -, hadv, -⟩
    · rwa [hsame]
    · cases ha.symm.trans hactivate
    · subst ha
      cases hadv.caller
  · exact absurd hi (hadv.after_ne_arriving hold)

lemma turn_fresh (hsound : Sound False w) (hcreated : w'.phase = .created)
    (hk : w'.calls[k]? = some ⟨.start, stage⟩) : stage = .arriving ∨ stage = .waiting := by
  have hbefore : w.phase = .created := hturn.created hcreated
  rcases hturn.activation_call hkept (.inl rfl) hk with
    hk | ⟨-, hstage, -⟩ | ⟨before, hold, hadv⟩
  · exact h.fresh hbefore hk
  · exact .inl hstage
  · have hwaiting := hadv.start_fresh hsound hold (h.fresh hbefore hold) hcreated
    exact .inr (Call.mk.inj (Option.some.inj (hk.symm.trans hwaiting))).2

lemma turn_later {start : Nat} (hi : w'.calls[i]? = some ⟨.started, .joining start⟩)
    (hk : w'.calls[k]? = some ⟨.started, stage⟩) : i ≤ k := by
  have hnew {before : Stage} (hi : w.calls[i]? = some ⟨.started, before⟩)
      (hlength : k = w.calls.length) : i ≤ k := by
    have hlt := (List.getElem?_eq_some_iff.mp hi).1
    omega
  rcases hturn.activation_call hkept (.inr rfl) hi with
    hold | ⟨-, hstage, -⟩ | ⟨before, hold, hadv⟩
  · rcases hturn.activation_call hkept (.inr rfl) hk with hk | ⟨hlength, -, -⟩ | ⟨before, hk, -⟩
    · exact h.later hold hk
    · exact hnew hold hlength
    · exact h.later hold hk
  · cases hstage
  · obtain ⟨rfl, hstart, -⟩ := hadv.of_joining hold hi
    -- Nobody has asked before, and so whoever is there asks later.
    have hbefore {before : Stage} (hk : w.calls[k]? = some ⟨.started, before⟩) : i ≤ k := by
      obtain rfl := h.untaken hstart hk rfl
      exact h.last hk rfl rfl hold rfl
    rcases hturn.activation_call hkept (.inr rfl) hk with hk | ⟨hlength, -, -⟩ | ⟨before, hk, -⟩
    · exact hbefore hk
    · exact hnew hold hlength
    · exact hbefore hk

lemma turn_first (hjoined : Joined w) (hi : w'.calls[i]? = some ⟨.started, stage⟩)
    (hfirst : ∀ (k : Nat) (stage : Stage), w'.calls[k]? = some ⟨.started, stage⟩ → i ≤ k) :
    stage = .arriving ∨ (∃ k, stage = .joining k) ∨ ∃ (k : Nat) (outcome : Outcome),
      stage = .done outcome ∧ w'.calls[k]? = some ⟨.start, .done outcome⟩ := by
  have hfirst' (k : Nat) (stage : Stage) (hk : w.calls[k]? = some ⟨.started, stage⟩) : i ≤ k := by
    obtain ⟨stage', hk'⟩ := hturn.keeps_job hk
    exact hfirst k stage' hk'
  rcases hturn.activation_call hkept (.inr rfl) hi with
    hold | ⟨-, hstage, -⟩ | ⟨before, hold, hadv⟩
  · rcases h.first hold hfirst' with harriving | hjoining | ⟨k, outcome, hdone, hk⟩
    · exact .inl harriving
    · exact .inr (.inl hjoining)
    · exact .inr (.inr ⟨k, outcome, hdone, hturn.keeps_ended hk rfl⟩)
  · exact .inl hstage
  · rcases h.first hold hfirst' with rfl | ⟨k, rfl⟩ | ⟨k, outcome, rfl, -⟩
    · rcases hadv.of_arriving with ⟨start, -, -, rfl⟩ | ⟨hnone, -⟩
      · exact .inr (.inl ⟨start, stage_of_moveCall hold hi⟩)
      · -- Somebody else has taken the start before, and was there first.
        exfalso
        have hsome := h.held hold rfl
        cases hactivation : w.activation with
        | none => simp [hactivation] at hsome
        | some start? =>
          cases start? with
          | some start => exact hnone start hactivation
          | none =>
            obtain ⟨k, stage', hk, hstage'⟩ := h.taken hactivation
            have hle : k ≤ i := h.last hold rfl rfl hk rfl
            obtain rfl : i = k := Nat.le_antisymm (hfirst' k stage' hk) hle
            obtain ⟨-, rfl⟩ := Call.mk.inj (Option.some.inj (hold.symm.trans hk))
            exact hstage' rfl
    · obtain ⟨result, hresult, hfinish⟩ := hadv.start_done
      obtain ⟨before, hk⟩ := hjoined.joining hold
      obtain rfl : before = .done (.start result) := by
        rw [hk, Option.bind_some] at hresult
        cases before <;> first | exact congrArg Stage.done (Option.some.inj hresult) | cases hresult
      obtain rfl := hfinish rfl
      refine .inr (.inr ⟨k, _, stage_of_moveCall hold hi, ?_⟩)
      exact hturn.keeps_ended hk rfl
    · cases hadv.not_ended

end Attended

theorem Attended.turn (h : Attended w) (hturn : Turn s w a w' said)
    (hkept : (Moment.mk w a w' said).keepsActivation = true) (hsound : Sound False w)
    (hjoined : Joined w) : Attended w' where
  lone := h.turn_lone hturn hkept
  begun := h.turn_begun hturn hkept
  asked := h.turn_asked hturn hkept
  awaited := h.turn_awaited hturn hkept hsound hjoined
  last := h.turn_last hturn hkept
  untaken hstart := h.turn_untaken hturn hkept hstart
  taken := h.turn_taken hturn hkept
  held := h.turn_held hturn hkept
  fresh hcreated := h.turn_fresh hturn hkept hsound hcreated
  first := h.turn_first hturn hkept hjoined
  later := h.turn_later hturn hkept

/-! ### The end of a deactivation -/

/-- When a call of the activation is past its wait for the start, the start is done. -/
lemma Attended.start_ended (h : Attended w) (hsound : Sound False w)
    (hi : w.calls[i]? = some ⟨job, stage⟩) (hwaits : job.waits = true)
    (hgoes : stage.hasEnded = false) (harrived : stage ≠ .arriving)
    (hjoined : ∀ k, stage ≠ .joining k) :
    ∃ (k : Nat) (call : Call), w.calls[k]? = some call ∧ call.job = .start ∧
      call.stage.hasEnded = true := by
  obtain ⟨k, before, hk⟩ := h.asked hi hwaits
  rcases h.awaited hk with hended | hstart | ⟨j, job', hj⟩
  · exact ⟨k, _, hk, rfl, hended⟩
  · exact absurd (h.untaken hstart hi hwaits) harrived
  · have hsuits : job'.suits (.joining k) = true := hsound.suited hj
    have hwaits' : job'.waits = true := by cases job' <;> first | rfl | cases hsuits
    obtain rfl : i = j :=
      Nat.le_antisymm (h.last hj hwaits' rfl hi hwaits) (h.last hi hwaits hgoes hj hwaits')
    exact absurd (Call.mk.inj (Option.some.inj (hi.symm.trans hj))).2 (hjoined k)

/-- A deactivation ends with the lock: there was nothing to stop, or its stop is through. -/
lemma Sound.deactivated (h : Sound False w) (hi : w.calls[i]? = some ⟨.deactivate, stage⟩)
    (hadv : Advance s w i .deactivate a stage w' said) {outcome : Outcome}
    (hdone : w'.calls[i]? = some ⟨.deactivate, .done outcome⟩) :
    (stage = .waiting ∧ w.line.head? = some i ∧ (w.phase = .created ∨ w.phase = .stopped) ∧
        outcome = .stop (.ok ()) ∧ w' = w.finish i outcome) ∨
      ∃ result, stage = .purging result ∧ outcome = .stop result ∧
        w' = { w with events := [], store := .empty }.finish i outcome := by
  have hsuits : Job.deactivate.suits stage = true := h.suited hi
  cases hadv with
  | exchange _ hex =>
    have hin := hex.inside.2
    rw [← stage_of_moveCall hi hdone] at hin
    cases hin
  | stopIgnored hhead _ hphase =>
    obtain ⟨⟩ := stage_of_moveCall hi hdone
    exact .inl ⟨rfl, hhead, hphase, rfl, rfl⟩
  | purge result =>
    obtain ⟨⟩ := stage_of_moveCall hi hdone
    exact .inr ⟨result, rfl, rfl, rfl⟩
  | outOfScope hdoc | refused _ hdoc => cases hdoc
  | heard hjob => exact absurd rfl hjob
  | lose | leave | launchFailed | refuse | sent | unsent | forget => cases hsuits
  | _ => cases stage_of_moveCall hi hdone

lemma stage_of_started (h : Job.started.suits stage = true) :
    stage = .arriving ∨ (∃ k, stage = .joining k) ∨ stage.hasEnded = true := by
  cases stage with
  | arriving => exact .inl rfl
  | joining k => exact .inr (.inl ⟨k, rfl⟩)
  | done | dropped => exact .inr (.inr rfl)
  | testing c ask | registering c ask | retesting c ask | asking c ask | awaiting c ask =>
    cases ask <;> cases h
  | discarding c next | aborting c next => cases next <;> cases h
  | _ => cases h

lemma startOutcome_eq_error_iff (e : StartError) :
    w.startOutcome = .error e ↔ w.phase = .failed (.start e) := by
  unfold startOutcome
  split
  case h_1 e' hphase => simp [hphase]
  case h_2 hphase => exact ⟨nofun, fun h => absurd h (hphase e)⟩

/-- A later call to ask how the start went is told by the phase. -/
lemma Attended.told (h : Attended w) (hsound : Sound False w)
    (hi : w.calls[i]? = some ⟨.started, stage⟩) (hadv : Advance s w i .started a stage w' said)
    {outcome : Outcome} (hdone : w'.calls[i]? = some ⟨.started, .done outcome⟩) {before : Stage}
    (hk : w.calls[k]? = some ⟨.started, before⟩) (hlt : k < i) :
    ∃ result, outcome = .start result ∧ ∀ e, result = .error e ↔ w'.phase = .failed (.start e) := by
  rcases stage_of_started (hsound.suited hi) with rfl | ⟨start, rfl⟩ | hended
  · rcases hadv.of_arriving with ⟨start, -, -, rfl⟩ | ⟨-, rfl⟩
    · cases eq_of_moveCall hi hdone
    · obtain ⟨-, ⟨⟩⟩ := Call.mk.inj (eq_of_moveCall hi hdone)
      exact ⟨w.startOutcome, rfl, startOutcome_eq_error_iff⟩
  · have hle := h.later hi hk
    omega
  · rw [hadv.not_ended] at hended
    cases hended

/-- With that the session is over, and the start has ended before. -/
lemma Attended.over_of_deactivated (h : Attended w) (hsound : Sound False w)
    (hi : w.calls[i]? = some ⟨.deactivate, stage⟩)
    (hadv : Advance s w i .deactivate a stage w' said) {outcome : Outcome}
    (hdone : w'.calls[i]? = some ⟨.deactivate, .done outcome⟩) :
    (∃ result, outcome = .stop result) ∧ Over w' ∧
      ∃ (k : Nat) (call : Call), w.calls[k]? = some call ∧ call.job = .start ∧
        call.stage.hasEnded = true := by
  have hgoes : stage.hasEnded = false := hadv.not_ended
  rcases hsound.deactivated hi hadv hdone with
    ⟨rfl, hhead, hphase, rfl, rfl⟩ | ⟨result, rfl, rfl, rfl⟩
  · obtain ⟨k, ⟨job, before⟩, hk, rfl, hended⟩ :=
      h.start_ended hsound hi rfl hgoes nofun nofun
    have hstopped : w.phase = .stopped := by
      refine hphase.resolve_left fun hcreated => ?_
      rcases h.fresh hcreated hk with rfl | rfl <;> cases hended
    obtain ⟨live, -, hidle⟩ := hsound.fits_of_head hhead hi
    have hslot : w.slot = none := by
      by_contra hsome
      have hup := hidle.isUp (Option.isSome_iff_ne_none.mpr hsome)
      rw [hstopped] at hup
      cases hup
    refine ⟨⟨_, rfl⟩, ⟨hstopped, hslot, ?_⟩, k, _, hk, rfl, hended⟩
    intro j call hj
    rcases eq_or_ne i j with rfl | hne
    · obtain rfl := eq_of_moveCall hi hj
      rfl
    · have hold : w.calls[j]? = some call := (getElem?_moveCall_ne _ _ hne).symm.trans hj
      by_contra hin
      have hfirst : w.line.head? = some j := hsound.head_of_inside hold (by simpa using hin)
      exact hne (Option.some.inj (hhead.symm.trans hfirst))
  · exact ⟨⟨result, rfl⟩, hsound.over_of_purge hi, h.start_ended hsound hi rfl hgoes nofun nofun⟩

end State

namespace Run

variable {s : Setup} {past earlier later : List Moment} {leave : Moment} {w : State} {i : Nat}

theorem attended (h : Run s past w) (hkept : ∀ m ∈ past, m.keepsActivation = true) :
    w.Attended := by
  induction h with
  | initial => exact .initial
  | step a hrun hstep ih =>
    have hattended := ih fun m hm => hkept m (List.mem_append_left _ hm)
    have hlast : Moment.keepsActivation _ = true :=
      hkept _ (List.mem_append_right _ (List.mem_singleton_self _))
    exact hattended.turn (.of_step hstep) hlast (hrun.sound nofun) hrun.joined

/-- Once the start of an activation has ended, no start gets the lock. -/
lemma not_enters_start (h : Run s (earlier ++ leave :: later) w)
    (hkept : ∀ m ∈ earlier ++ leave :: later, m.keepsActivation = true) {call : Call}
    (hi : leave.before.calls[i]? = some call) (hjob : call.job = .start)
    (hended : call.stage.hasEnded = true) {m : Moment} (hm : m ∈ later) (k : Nat) :
    ¬m.enters k .start := by
  rintro ⟨-, -, hk⟩
  obtain ⟨first, last, rfl⟩ := List.mem_iff_append.mp hm
  rw [← List.cons_append, ← List.append_assoc] at h hkept
  obtain ⟨hbefore, -⟩ := h.of_split
  have hattended := hbefore.attended fun m hm => hkept m (List.mem_append_left _ hm)
  have hi' := hbefore.keeps_ended hi hended
  obtain ⟨job, stage⟩ := call
  dsimp only at hjob
  subst hjob
  obtain rfl : i = k := hattended.lone ⟨_, hi'⟩ ⟨_, hk⟩
  obtain ⟨-, rfl⟩ := Call.mk.inj (Option.some.inj (hi'.symm.trans hk))
  cases hended

/--
The host starts the session by an activation only, and gives up nothing that it asks of that;
besides, anything may happen, whatever the start has come to when the deactivation begins. Once the
deactivation returns, the session is stopped, its slot is empty, and no server is launched any more.
The first call to ask how the start went is told what the start itself returned. A later one is told
of an error exactly when the session is failed with it as it returns.
-/
theorem deactivation_is_final (h : Run s past w) (hkept : ∀ m ∈ past, m.keepsActivation = true) :
    (∀ (earlier : List Moment) (leave : Moment) (later : List Moment) (i : Nat) (outcome : Outcome),
      past = earlier ++ leave :: later → leave.action.caller? = some i →
      leave.after.calls[i]? = some ⟨.deactivate, .done outcome⟩ →
      (∃ result, outcome = .stop result) ∧
        leave.after.phase = .stopped ∧ leave.after.slot = none ∧
        ∀ m ∈ later, m.launches = false ∧ m.after.phase = .stopped ∧ m.after.slot = none) ∧
    (∀ (i : Nat) (outcome : Outcome), w.calls[i]? = some ⟨.started, .done outcome⟩ →
      (∀ (k : Nat) (stage : Stage), w.calls[k]? = some ⟨.started, stage⟩ → i ≤ k) →
      ∃ start, w.calls[start]? = some ⟨.start, .done outcome⟩ ∧
        ∀ (k : Nat) (stage : Stage), w.calls[k]? = some ⟨.start, stage⟩ → k = start) ∧
    ∀ (earlier : List Moment) (leave : Moment) (later : List Moment) (i k : Nat) (stage : Stage)
      (outcome : Outcome),
      past = earlier ++ leave :: later → leave.action.caller? = some i →
      leave.after.calls[i]? = some ⟨.started, .done outcome⟩ →
      leave.before.calls[k]? = some ⟨.started, stage⟩ → k < i →
      ∃ result, outcome = .start result ∧
        ∀ e, result = .error e ↔ leave.after.phase = .failed (.start e) := by
  refine ⟨?_, ?_, ?_⟩
  · rintro earlier leave later i outcome rfl hcaller hdone
    obtain ⟨hrun, hstep⟩ := h.of_split
    have hattended := hrun.attended fun m hm => hkept m (List.mem_append_left _ hm)
    obtain ⟨job, stage, hi, hadv⟩ := (State.Turn.of_step hstep).of_caller hcaller
    obtain rfl := hadv.job_eq hi hdone
    obtain ⟨hresult, hover, start, call, hstart, hjob, hended⟩ :=
      hattended.over_of_deactivated (hrun.sound nofun) hi hadv hdone
    have hquiet : ∀ m ∈ later, ∀ k, ¬m.enters k .start := fun m hm k =>
      h.not_enters_start hkept hstart hjob hended hm k
    refine ⟨hresult, hover.phase, hover.slot, fun m hm => ?_⟩
    obtain ⟨hstill, hturn, hno⟩ := h.before_over State.Over hquiet hover
      (fun hw hturn hno => (hw.turn hturn hno).1) hm
    obtain ⟨hend, hlaunch⟩ := hstill.turn hturn hno
    exact ⟨hlaunch, hend.phase, hend.slot⟩
  · intro i outcome hi hfirst
    have hattended := h.attended hkept
    rcases hattended.first hi hfirst with hstage | ⟨k, hstage⟩ | ⟨start, outcome', hstage, hstart⟩
    · cases hstage
    · cases hstage
    · obtain rfl := Stage.done.inj hstage
      exact ⟨start, hstart, fun k stage hk => hattended.lone ⟨_, hk⟩ ⟨_, hstart⟩⟩
  · rintro earlier leave later i k stage outcome rfl hcaller hdone hk hlt
    obtain ⟨hrun, hstep⟩ := h.of_split
    have hattended := hrun.attended fun m hm => hkept m (List.mem_append_left _ hm)
    obtain ⟨job, before, hi, hadv⟩ := (State.Turn.of_step hstep).of_caller hcaller
    obtain rfl := hadv.job_eq hi hdone
    exact hattended.told (hrun.sound nofun) hi hadv hdone hk hlt

/-- The host asks how the start went while the server is answering the handshake, and again when it
is done. Then the connection is lost, and the deactivation comes before the restart. -/
theorem deactivation_is_final_lost :
    ∃ (earlier : List Moment) (leave : Moment) (later : List Moment) (w : State),
      Run (.restarting 1) (earlier ++ leave :: later) w ∧
      leave.before.calls[3]?.map (·.job) = some (.restart 0) ∧ later.length = 2 ∧
      leave.after.phase = .stopped ∧ leave.after.slot = none ∧
      (∀ m ∈ later, m.launches = false ∧ m.after.phase = .stopped) ∧
      ∃ start : Nat, w.calls[start]? = some ⟨.start, .done (.start (.ok ()))⟩ := by
  obtain ⟨earlier, w₁, leave, w₂, later, w, hearlier, hleave, hlater, hkept, hcaller, hdone,
      hrestart, hlength, hstarted, hfirst⟩ :
      ∃ earlier w₁ leave w₂ later w,
        State.initial.play (.restarting 1)
          ([Action.activate, .proceed 0, .proceed 0, .launched 0 (.ok 4096)] ++
            List.replicate 5 (Action.proceed 0) ++ [Action.call .started, .proceed 1,
              .received 0 (.message (.obj [("id", .int 1), ("result", .null)]))] ++
            List.replicate 7 (Action.proceed 0) ++ [Action.proceed 1, .call .started, .proceed 2] ++
            Action.lose 0 ++ [Action.call .deactivate, .proceed 4, .proceed 3] ++
            List.replicate 5 (Action.proceed 4)) = some (earlier, w₁) ∧
        w₁.play (.restarting 1) [.proceed 4] = some ([leave], w₂) ∧
        w₂.play (.restarting 1) [.proceed 3, .poll 1] = some (later, w) ∧
        (earlier ++ leave :: later).all (·.keepsActivation) = true ∧
        leave.action.caller? = some 4 ∧
        leave.after.calls[4]? = some ⟨.deactivate, .done (.stop (.ok ()))⟩ ∧
        leave.before.calls[3]?.map (·.job) = some (.restart 0) ∧ later.length = 2 ∧
        w.calls[1]? = some ⟨.started, .done (.start (.ok ()))⟩ ∧
        w.calls[0]?.map (·.job) = some .start :=
    ⟨_, _, _, _, _, _, rfl, rfl, rfl, rfl, rfl, rfl, rfl, rfl, rfl, rfl⟩
  have hrun : Run (.restarting 1) (earlier ++ leave :: later) w := by
    simpa using ((of_play hearlier).append_play hleave).append_play hlater
  obtain ⟨hstopped, horiginal, -⟩ := hrun.deactivation_is_final (List.all_eq_true.mp hkept)
  obtain ⟨-, hphase, hslot, hquiet⟩ := hstopped earlier leave later 4 _ rfl hcaller hdone
  obtain ⟨start, hstart, -⟩ := horiginal 1 _ hstarted fun k stage hk => by
    rcases k with _ | k
    · rw [hk] at hfirst
      cases hfirst
    · omega
  exact ⟨earlier, leave, later, w, hrun, hrestart, hlength, hphase, hslot,
    fun m hm => ⟨(hquiet m hm).1, (hquiet m hm).2.1⟩, start, hstart⟩

end Run

end LanguageClient
