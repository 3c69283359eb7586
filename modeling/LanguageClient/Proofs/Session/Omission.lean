import LanguageClient.Proofs.Session.Calls
import LanguageClient.Proofs.Session.Renumbering

/-!
# Runs without some of their calls

When nothing that some document calls do changes anything but how far they have got and their places
in line, the run without them is a run as well, in which everything else happens as before:
`Run.without`.
-/

namespace LanguageClient

namespace State

variable {omitted : Nat → Bool} {w w' : State} {i : Nat}

/-- Call `i` has got further or has changed its place in line, and all else is as it was. -/
def Inert (i : Nat) (w w' : State) : Prop :=
  ∃ stage line, w' = { w with calls := moveCall w.calls i stage, line } ∧
    line.filter (· ≠ i) = w.line.filter (· ≠ i)

lemma Inert.without_eq (h : w.Inert i w') (hi : omitted i = true) :
    w'.without omitted = w.without omitted := by
  obtain ⟨stage, line, rfl, hline⟩ := h
  simp only [without, remaining_moveCall_of_omitted hi, remainingLine_of_omitted hi hline]

/-- A call that gives up its place in line does nothing else. -/
lemma inert_leave (w : State) (i : Nat) (stage : Stage) :
    w.Inert i ((w.leave i).setStage i stage) := by
  refine ⟨stage, w.line.erase i, rfl, ?_⟩
  induction w.line with
  | nil => rfl
  | cons k rest ih =>
    rcases eq_or_ne k i with rfl | hne
    · simp
    · rw [List.erase_cons_tail (by simpa using hne)]
      simpa [hne] using ih

lemma inert_enlist (w : State) (i : Nat) (stage : Stage) :
    w.Inert i ({ w with line := w.line ++ [i] }.setStage i stage) :=
  ⟨stage, w.line ++ [i], rfl, by simp⟩

lemma inert_setStage (w : State) (i : Nat) (stage : Stage) : w.Inert i (w.setStage i stage) :=
  ⟨stage, w.line, rfl, rfl⟩

lemma begin_without_of_omitted (hnew : omitted w.calls.length = true) (job : Job) :
    (w.begin job).without omitted = w.without omitted := by
  simp [without, begin, remaining_concat, hnew]

end State

namespace Moment

/-- The call that a moment is about: it begins, goes on or is given up. -/
def subject? (m : Moment) : Option Nat :=
  match m.action with
  | .call _ | .activate => some m.before.calls.length
  | a => a.mover?

lemma subject?_of_mover {m : Moment} {i : Nat} (h : m.action.mover? = some i) :
    m.subject? = some i := by
  unfold subject?
  split
  case h_1 ha | h_2 ha =>
    rw [ha] at h
    cases h
  case h_3 => exact h

/-- Whether a moment is about an omitted call. -/
def isOmitted (omitted : Nat → Bool) (m : Moment) : Bool := m.subject?.any omitted

/-- A moment as it is without the omitted calls, unless it is about one of them. -/
def without (omitted : Nat → Bool) (m : Moment) : Option Moment :=
  if m.isOmitted omitted then none
  else some ⟨m.before.without omitted, m.action.renumber omitted, m.after.without omitted, m.said⟩

/-- A moment that is about call `i` changes nothing else, and others see no more of it than the
log. -/
def Idles (m : Moment) (i : Nat) : Prop := m.before.Inert i m.after ∧ news m.said = []

end Moment

/-- The moments that are left. -/
def remainingMoments (omitted : Nat → Bool) (past : List Moment) : List Moment :=
  past.filterMap (·.without omitted)

section Moments

variable {omitted : Nat → Bool} {m : Moment}

lemma remainingMoments_concat_of_omitted (h : m.isOmitted omitted = true) (past : List Moment) :
    remainingMoments omitted (past ++ [m]) = remainingMoments omitted past := by
  simp [remainingMoments, Moment.without, h]

lemma remainingMoments_concat (h : m.isOmitted omitted = false) (past : List Moment) :
    remainingMoments omitted (past ++ [m]) = remainingMoments omitted past ++
      [⟨m.before.without omitted, m.action.renumber omitted, m.after.without omitted, m.said⟩] := by
  simp [remainingMoments, Moment.without, h]

end Moments

namespace Run

variable {s : Setup} {omitted : Nat → Bool} {past : List Moment} {w : State}

/-- A moment that is about an omitted call makes no difference to the others. -/
lemma without_eq_of_isOmitted {m : Moment}
    (hstep : m.before.step s m.action = some (m.after, m.said))
    (hdoc : ∀ (i : Nat) (call : Call), m.after.calls[i]? = some call → omitted i = true →
      call.job.document?.isSome)
    (hidle : ∀ i, m.action.mover? = some i → omitted i = true → m.Idles i)
    (h : m.isOmitted omitted = true) :
    m.after.without omitted = m.before.without omitted ∧ news m.said = [] := by
  cases hmover : m.action.mover? with
  | some i =>
    have hi : omitted i = true := by
      rwa [Moment.isOmitted, Moment.subject?_of_mover hmover] at h
    obtain ⟨hinert, hquiet⟩ := hidle i hmover hi
    exact ⟨hinert.without_eq hi, hquiet⟩
  | none =>
    obtain ⟨w, a, w', said⟩ := m
    dsimp only at hstep hdoc ⊢
    cases a with
    | call job =>
      obtain ⟨rfl, rfl⟩ := Prod.mk.inj (Option.some.inj hstep)
      exact ⟨State.begin_without_of_omitted h job, rfl⟩
    | activate =>
      obtain ⟨rfl, rfl⟩ := Prod.mk.inj (Option.some.inj hstep)
      cases hdoc w.calls.length ⟨.start, .arriving⟩ (by simp [State.begin]) h
    | drop | proceed | reopen | expire | launched | exited => cases hmover
    | _ => cases h

lemma without_step {w' : State} {a : Action} {said : List Effect} (hrun : Run s past w)
    (hstep : w.step s a = some (w', said))
    (hdoc : ∀ (i : Nat) (call : Call), w'.calls[i]? = some call → omitted i = true →
      call.job.document?.isSome)
    (h : (Moment.mk w a w' said).isOmitted omitted = false) :
    (w.without omitted).step s (a.renumber omitted) = some (w'.without omitted, said) := by
  have hturn := State.Turn.of_step hstep
  have hkept : ∀ k, w.IsStart k → omitted k = false := by
    intro k hstart
    obtain ⟨stage, hk⟩ := hstart.turn hturn
    by_contra homitted
    have hsome := hdoc k _ hk (by simpa using homitted)
    cases hsome
  refine State.step_without hstep ?_ ?_ ?_
  · intro i hi
    cases a with
    | drop | proceed | reopen | expire | launched | exited =>
      obtain rfl := Option.some.inj hi
      exact h
    | _ => cases hi
  · rintro i start ⟨job, stage⟩ hi rfl
    exact hkept start (hrun.joined.joining hi)
  · intro hlt
    obtain ⟨call, hcall⟩ : ∃ call, w'.calls[w.calls.length]? = some call :=
      ⟨_, List.getElem?_eq_getElem hlt⟩
    have hnew : w.calls[w.calls.length]? = none := List.getElem?_eq_none_iff.mpr (Nat.le_refl _)
    cases hturn.origin hcall with
    | same hsame => cases hnew.symm.trans hsame
    | dropped _ hsame => cases hnew.symm.trans hsame
    | advanced hsame => cases hnew.symm.trans hsame
    | begun _ _ hbegun =>
      obtain rfl | ⟨rfl, -⟩ | ⟨lost, hlost⟩ := hbegun
      · exact h
      · exact h
      · by_contra homitted
        have hsome := hdoc _ _ hcall (by simpa using homitted)
        rw [hlost] at hsome
        cases hsome

/-- A run without document calls that do nothing but go on is a run as well, and others see the same
of it. -/
theorem without (h : Run s past w)
    (hdoc : ∀ (i : Nat) (call : Call), w.calls[i]? = some call → omitted i = true →
      call.job.document?.isSome)
    (hidle : ∀ m ∈ past, ∀ i, m.action.mover? = some i → omitted i = true → m.Idles i) :
    Run s (remainingMoments omitted past) (w.without omitted) ∧
      news (seen (remainingMoments omitted past)) = news (seen past) ∧
      ∀ m ∈ past, m.isOmitted omitted = true →
        news m.said = [] ∧ m.after.without omitted = m.before.without omitted := by
  induction h with
  | initial => exact ⟨.initial, rfl, fun m hm => absurd hm List.not_mem_nil⟩
  | @step past w w' said a hrun hstep ih =>
    have hearlier : ∀ (i : Nat) (call : Call), w.calls[i]? = some call → omitted i = true →
        call.job.document?.isSome := by
      intro i call hi homitted
      obtain ⟨stage, hi'⟩ := (State.Turn.of_step hstep).keeps_job hi
      exact hdoc i ⟨call.job, stage⟩ hi' homitted
    obtain ⟨hshort, hnews, hsame⟩ := ih hearlier fun m hm => hidle m (List.mem_append_left _ hm)
    have hlast (homitted : (Moment.mk w a w' said).isOmitted omitted = true) :
        news said = [] ∧ w'.without omitted = w.without omitted :=
      (without_eq_of_isOmitted hstep hdoc
        (hidle _ (List.mem_append_right _ (List.mem_singleton_self _))) homitted).symm
    refine ⟨?_, ?_, fun m hm homitted => ?_⟩
    · cases homitted : (Moment.mk w a w' said).isOmitted omitted with
      | true =>
        rw [remainingMoments_concat_of_omitted homitted, (hlast homitted).2]
        exact hshort
      | false =>
        rw [remainingMoments_concat homitted]
        exact .step _ hshort (hrun.without_step hstep hdoc homitted)
    · cases homitted : (Moment.mk w a w' said).isOmitted omitted with
      | true =>
        rw [remainingMoments_concat_of_omitted homitted]
        simp [hnews, (hlast homitted).1]
      | false =>
        rw [remainingMoments_concat homitted]
        simp [hnews]
    · rcases List.mem_append.mp hm with hm | hm
      · exact hsame m hm homitted
      · obtain rfl := List.mem_singleton.mp hm
        exact hlast homitted

end Run

end LanguageClient
