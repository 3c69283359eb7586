import LanguageClient.Proofs.Session.Servers

/-!
# Sessions that nobody has started

A session launches nothing by itself. As long as the host neither starts nor activates it, the
launcher is not asked for a server and the session stays as it was created, whatever else the host
calls: `Run.untouched`.
-/

namespace LanguageClient

/-- Whether the host wants the session to run from now on. -/
def Action.isStart : Action → Bool
  | .call .start | .activate => true
  | _ => false

namespace State

variable {s : Setup} {w w' : State} {a : Action} {i : Nat} {job : Job} {stage : Stage}
  {said : List Effect}

/-- Nobody has started the session. -/
structure Untouched (w : State) : Prop where
  phase : w.phase = .created
  connections : w.connections = []
  calls : ∀ {i : Nat} {call : Call}, w.calls[i]? = some call →
    call.job ≠ .start ∧ call.stage.isInside = false

namespace Untouched

lemma move (h : Untouched w) (hi : w.calls[i]? = some ⟨job, stage⟩) {after : Stage}
    (hafter : after.isInside = false) (hcalls : w'.calls = moveCall w.calls i after)
    (hphase : w'.phase = w.phase) (hconnections : w'.connections = w.connections) :
    Untouched w' where
  phase := hphase.trans h.phase
  connections := hconnections.trans h.connections
  calls {k call} hk := by
    rw [hcalls] at hk
    rcases eq_or_ne i k with rfl | hne
    · obtain rfl := eq_of_moveCall hi hk
      exact ⟨(h.calls hi).1, hafter⟩
    · rw [getElem?_moveCall_ne _ _ hne] at hk
      exact h.calls hk

lemma begin (h : Untouched w) (hjob : job ≠ .start) : Untouched (w.begin job) where
  phase := h.phase
  connections := h.connections
  calls hk := by
    rcases of_getElem?_append_call hk with hk | rfl
    · exact h.calls hk
    · exact ⟨hjob, rfl⟩

/-- A call that is no start finds nothing to do. -/
lemma advance (h : Untouched w) (hi : w.calls[i]? = some ⟨job, stage⟩)
    (hadv : Advance s w i job a stage w' said) : Untouched w' ∧ a.isLaunch = false := by
  obtain ⟨hstart, hout⟩ := h.calls hi
  have hmay : ¬w.MayLaunch job := by
    intro hmay
    cases job with
    | start => exact hstart rfl
    | restart lost =>
      have hfailed := hmay.2
      rw [h.phase] at hfailed
      cases hfailed
    | _ => exact hmay
  have hnot {P : Prop} (hrunning : w.phase.isRunning = true) : P := by
    rw [h.phase] at hrunning
    cases hrunning
  cases hadv with
  | exchange _ hex =>
    rw [hex.inside.1] at hout
    cases hout
  | outOfScope | told | enlist | join | joinFirst | deactivate | joined | heard | superseded
  | stopIgnored | refused | forget => exact ⟨h.move hi rfl rfl rfl rfl, rfl⟩
  | ignored => exact absurd rfl hstart
  | vacate _ hlaunches | launch _ hlaunches => exact absurd hlaunches hmay
  | notify _ hrunning | notifyNobody _ hrunning | notOpen _ hrunning | notifyClosed _ hrunning
  | closeNobody _ hrunning => exact hnot hrunning
  | stop _ _ hcreated | stopNobody _ _ hcreated => exact absurd h.phase hcreated
  | _ => cases hout

lemma turn (h : Untouched w) (hturn : Turn s w a w' said) (hnone : a.isStart = false) :
    Untouched w' ∧ a.isLaunch = false := by
  have hgone {c : Nat} {conn : Connection} {P : Prop} (hc : w.connections[c]? = some conn) : P := by
    rw [h.connections] at hc
    cases hc
  cases hturn with
  | call job =>
    refine ⟨h.begin ?_, rfl⟩
    rintro rfl
    cases hnone
  | activate => cases hnone
  | poll => exact ⟨⟨h.phase, h.connections, h.calls⟩, rfl⟩
  | drop hi =>
    rw [drop_of_not_owned (Stage.owned?_eq_none (h.calls hi).2)]
    exact ⟨h.move hi rfl rfl rfl rfl, rfl⟩
  | advance hi hadv => exact h.advance hi hadv
  | deed hc | publish hc | overlook hc | report hc => exact hgone hc

end Untouched

end State

namespace Run

variable {s : Setup} {past : List Moment} {w : State}

/-- Nothing is launched before the host starts the session. -/
lemma untouched (h : Run s past w) (hnone : ∀ m ∈ past, m.action.isStart = false) :
    State.Untouched w ∧ ∀ m ∈ past, m.launches = false := by
  induction h with
  | initial => exact ⟨⟨rfl, rfl, by simp [State.initial]⟩, by simp⟩
  | step a hrun hstep ih =>
    simp only [List.forall_mem_append, List.forall_mem_singleton] at hnone ⊢
    obtain ⟨huntouched, hquiet⟩ := ih hnone.1
    obtain ⟨hafter, hlast⟩ := huntouched.turn (.of_step hstep) hnone.2
    exact ⟨hafter, hquiet, hlast⟩

end Run

end LanguageClient
