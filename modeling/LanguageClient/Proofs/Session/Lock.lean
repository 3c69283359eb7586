import LanguageClient.Proofs.Session.Inversion

/-!
# The lifecycle lock

Calls stand in line for the lock, the first of them holds it, and nobody else is at a stage that
needs it. `State.Ordered` says so, and each change of the line or of a stage that a turn makes keeps
it.
-/

namespace LanguageClient

namespace Stage

/-- Whether a call at a stage has the lock and has begun to use it. -/
def isInside : Stage → Bool
  | .arriving | .waiting | .joining _ | .forgetting _ _ | .done _ | .dropped => false
  | _ => true

/-- Whether a call at a stage stands in line for the lock. -/
def isInLine (stage : Stage) : Bool := stage matches .waiting || stage.isInside

lemma isInLine_of_isInside {stage : Stage} (h : stage.isInside = true) :
    stage.isInLine = true := by
  simp [isInLine, h]

lemma eq_waiting {stage : Stage} (hline : stage.isInLine = true) (h : stage.isInside = false) :
    stage = .waiting := by
  cases stage <;> simp_all [isInLine, isInside]

lemma owned?_eq_none {stage : Stage} (h : stage.isInside = false) : stage.owned? = none := by
  cases stage <;> first | rfl | cases h

lemma isInside_of_owned {stage : Stage} {c : Nat} (h : stage.owned? = some c) :
    stage.isInside = true := by
  cases stage <;> first | rfl | cases h

end Stage

/-- The calls after one of them has moved to a stage. -/
abbrev moveCall (calls : List Call) (i : Nat) (stage : Stage) : List Call :=
  calls.modify i fun call => { call with stage }

lemma getElem?_moveCall_self {calls : List Call} {i : Nat} {call : Call} (stage : Stage)
    (hi : calls[i]? = some call) : (moveCall calls i stage)[i]? = some { call with stage } := by
  simp [moveCall, hi]

/-- A call that has moved to a stage is there. -/
lemma eq_of_moveCall {calls : List Call} {i : Nat} {job : Job} {before after : Stage} {call : Call}
    (hi : calls[i]? = some ⟨job, before⟩) (hk : (moveCall calls i after)[i]? = some call) :
    call = ⟨job, after⟩ := by
  rw [getElem?_moveCall_self after hi] at hk
  exact (Option.some.inj hk).symm

lemma stage_of_moveCall {calls : List Call} {i : Nat} {job job' : Job}
    {before next after : Stage} (hi : calls[i]? = some ⟨job, before⟩)
    (hk : (moveCall calls i next)[i]? = some ⟨job', after⟩) : after = next :=
  congrArg Call.stage (eq_of_moveCall hi hk)

lemma getElem?_moveCall_ne {i k : Nat} (calls : List Call) (stage : Stage) (h : i ≠ k) :
    (moveCall calls i stage)[k]? = calls[k]? := by
  rw [moveCall, List.getElem?_modify]
  simp [h]

lemma getElem?_append_call {calls : List Call} {i : Nat} {call : Call} (new : Call)
    (hi : calls[i]? = some call) : (calls ++ [new])[i]? = some call := by
  have hlt : i < calls.length := (List.getElem?_eq_some_iff.mp hi).1
  rwa [List.getElem?_append_left hlt]

lemma of_getElem?_append_call {calls : List Call} {i : Nat} {call new : Call}
    (hi : (calls ++ [new])[i]? = some call) : calls[i]? = some call ∨ call = new := by
  rw [List.getElem?_append] at hi
  split at hi
  · exact .inl hi
  · rw [List.getElem?_singleton] at hi
    split at hi
    · exact .inr (Option.some.inj hi).symm
    · cases hi

namespace State

/-- A call stays where it is while a connection is lost. -/
lemma getElem?_calls_lose {s : Setup} {w : State} {c i : Nat} {failure : RuntimeFailure}
    {call : Call} (hi : w.calls[i]? = some call) :
    (w.lose s c failure).1.calls[i]? = some call := by
  rcases calls_lose s w c failure with h | h <;> rw [h]
  · exact hi
  · exact getElem?_append_call _ hi

/-- Each call has its place in line as long as its stage says so, and only the first in line is past
its wait. -/
structure Ordered (line : List Nat) (calls : List Call) : Prop where
  nodup : line.Nodup
  mem_iff : ∀ i, i ∈ line ↔ ∃ call, calls[i]? = some call ∧ call.stage.isInLine = true
  head : ∀ {i : Nat} {call : Call}, calls[i]? = some call → call.stage.isInside = true →
    line.head? = some i

/-- The stage of the call that holds the lock; with nobody there, that of one about to enter. -/
def holder (line : List Nat) (calls : List Call) : Stage :=
  ((line.head?.bind (calls[·]?)).map (·.stage)).getD .waiting

lemma holder_of_head {line : List Nat} {calls : List Call} {i : Nat} {call : Call}
    (hhead : line.head? = some i) (hi : calls[i]? = some call) :
    holder line calls = call.stage := by
  simp [holder, hhead, hi]

namespace Ordered

variable {line : List Nat} {calls : List Call} {i : Nat} {call : Call}

theorem empty : Ordered [] [] where
  nodup := List.nodup_nil
  mem_iff := by simp
  head := by simp

lemma notMem_line (h : Ordered line calls) (hi : calls[i]? = some call)
    (hout : call.stage.isInLine = false) : i ∉ line := by
  intro hmem
  obtain ⟨call', hi', hline⟩ := (h.mem_iff i).mp hmem
  obtain rfl := Option.some.inj (hi.symm.trans hi')
  rw [hout] at hline
  cases hline

/-- Whoever holds the lock is past its wait, or else nobody is. -/
lemma holder_eq_waiting (h : Ordered line calls)
    (hout : ∀ (k : Nat) (call : Call), calls[k]? = some call → call.stage.isInside = false) :
    holder line calls = .waiting := by
  cases hhead : line.head? with
  | none => simp [holder, hhead]
  | some k =>
    obtain ⟨call, hk, hline⟩ := (h.mem_iff k).mp (List.mem_of_mem_head? hhead)
    rw [holder_of_head hhead hk]
    exact Stage.eq_waiting hline (hout k call hk)

/-! ### A new call -/

theorem begin (h : Ordered line calls) (job : Job) :
    Ordered line (calls ++ [⟨job, .arriving⟩]) where
  nodup := h.nodup
  mem_iff k := by
    rw [h.mem_iff k]
    constructor
    · rintro ⟨call, hk, hline⟩
      exact ⟨call, getElem?_append_call _ hk, hline⟩
    · rintro ⟨call, hk, hline⟩
      rcases of_getElem?_append_call hk with hk | rfl
      · exact ⟨call, hk, hline⟩
      · cases hline
  head hk hin := by
    rcases of_getElem?_append_call hk with hk | rfl
    · exact h.head hk hin
    · cases hin

lemma holder_begin (h : Ordered line calls) (job : Job) :
    holder line (calls ++ [⟨job, .arriving⟩]) = holder line calls := by
  cases hhead : line.head? with
  | none => simp [holder, hhead]
  | some k =>
    obtain ⟨call, hk, -⟩ := (h.mem_iff k).mp (List.mem_of_mem_head? hhead)
    rw [holder_of_head hhead hk, holder_of_head hhead (getElem?_append_call _ hk)]

/-! ### A call that keeps its place -/

theorem move (h : Ordered line calls) (hi : calls[i]? = some call) {stage : Stage}
    (hline : stage.isInLine = call.stage.isInLine)
    (hin : stage.isInside = true → line.head? = some i) :
    Ordered line (moveCall calls i stage) where
  nodup := h.nodup
  mem_iff k := by
    rcases eq_or_ne i k with rfl | hk
    · rw [getElem?_moveCall_self stage hi, h.mem_iff i, hi]
      simp [hline]
    · rw [getElem?_moveCall_ne calls stage hk]
      exact h.mem_iff k
  head {k call'} hk hin' := by
    rcases eq_or_ne i k with rfl | hne
    · rw [getElem?_moveCall_self stage hi] at hk
      obtain rfl := Option.some.inj hk
      exact hin hin'
    · rw [getElem?_moveCall_ne calls stage hne] at hk
      exact h.head hk hin'

lemma holder_move_self (hhead : line.head? = some i) (hi : calls[i]? = some call) (stage : Stage) :
    holder line (moveCall calls i stage) = stage :=
  holder_of_head hhead (getElem?_moveCall_self stage hi)

lemma holder_move_of_ne (hhead : line.head? ≠ some i) (stage : Stage) :
    holder line (moveCall calls i stage) = holder line calls := by
  cases hk : line.head? with
  | none => simp [holder, hk]
  | some k =>
    have hne : i ≠ k := by
      rintro rfl
      exact hhead hk
    simp only [holder, hk, Option.bind_some, getElem?_moveCall_ne calls stage hne]

/-! ### A call that joins the line -/

theorem enlist (h : Ordered line calls) (hi : calls[i]? = some call)
    (hout : call.stage.isInLine = false) :
    Ordered (line ++ [i]) (moveCall calls i .waiting) where
  nodup := by
    have hnot : i ∉ line := h.notMem_line hi hout
    rw [List.nodup_append]
    exact ⟨h.nodup, by simp, by
      rintro k hk _ hsingle rfl
      exact hnot (List.mem_singleton.mp hsingle ▸ hk)⟩
  mem_iff k := by
    rcases eq_or_ne i k with rfl | hk
    · rw [getElem?_moveCall_self _ hi]
      simp [Stage.isInLine]
    · rw [getElem?_moveCall_ne calls _ hk, List.mem_append, h.mem_iff k]
      simp [hk.symm]
  head {k call'} hk hin := by
    rcases eq_or_ne i k with rfl | hne
    · rw [getElem?_moveCall_self _ hi] at hk
      obtain rfl := Option.some.inj hk
      cases hin
    · rw [getElem?_moveCall_ne calls _ hne] at hk
      have hhead : line.head? = some k := h.head hk hin
      simp [List.head?_append, hhead]

lemma holder_enlist (h : Ordered line calls) (hi : calls[i]? = some call)
    (hout : call.stage.isInLine = false) :
    holder (line ++ [i]) (moveCall calls i .waiting) = holder line calls := by
  cases hhead : line.head? with
  | none =>
    have hself : (line ++ [i]).head? = some i := by simp [List.head?_append, hhead]
    rw [holder_move_self hself hi]
    simp [holder, hhead]
  | some k =>
    have hsame : (line ++ [i]).head? = some k := by simp [List.head?_append, hhead]
    have hne : (line ++ [i]).head? ≠ some i := by
      rw [hsame]
      rintro ⟨⟩
      exact h.notMem_line hi hout (List.mem_of_mem_head? hhead)
    rw [holder_move_of_ne hne]
    simp only [holder, hsame, hhead]

/-! ### A call that leaves the line -/

theorem leave (h : Ordered line calls) (hi : calls[i]? = some call) {stage : Stage}
    (hout : stage.isInLine = false) : Ordered (line.erase i) (moveCall calls i stage) where
  nodup := h.nodup.erase i
  mem_iff k := by
    rcases eq_or_ne i k with rfl | hk
    · rw [getElem?_moveCall_self _ hi]
      simp [h.nodup.mem_erase_iff, hout]
    · rw [getElem?_moveCall_ne calls _ hk, h.nodup.mem_erase_iff, h.mem_iff k]
      simp [hk.symm]
  head {k call'} hk hin := by
    rcases eq_or_ne i k with rfl | hne
    · rw [getElem?_moveCall_self _ hi] at hk
      obtain rfl := Option.some.inj hk
      rw [Stage.isInLine_of_isInside hin] at hout
      cases hout
    · rw [getElem?_moveCall_ne calls _ hne] at hk
      have hhead : line.head? = some k := h.head hk hin
      obtain ⟨rest, rfl⟩ : ∃ rest, line = k :: rest := List.head?_eq_some_iff.mp hhead
      simp [hne.symm]

/-- When the holder of the lock leaves, the next in line has not begun to use it. -/
lemma holder_leave (h : Ordered line calls) (hi : calls[i]? = some call)
    (hhead : line.head? = some i) {stage : Stage} (hout : stage.isInLine = false) :
    holder (line.erase i) (moveCall calls i stage) = .waiting := by
  refine (h.leave hi hout).holder_eq_waiting fun k call' hk => ?_
  rcases eq_or_ne i k with rfl | hne
  · rw [getElem?_moveCall_self _ hi] at hk
    obtain rfl := Option.some.inj hk
    exact Bool.eq_false_iff.mpr fun hin => by simp [Stage.isInLine_of_isInside hin] at hout
  · rw [getElem?_moveCall_ne calls _ hne] at hk
    refine Bool.eq_false_iff.mpr fun hin => hne ?_
    exact Option.some.inj (hhead.symm.trans (h.head hk hin))

/-- Whoever else leaves, the holder of the lock stays. -/
lemma holder_leave_of_ne (h : Ordered line calls) (hhead : line.head? ≠ some i)
    (stage : Stage) :
    holder (line.erase i) (moveCall calls i stage) = holder line calls := by
  have hsame : (line.erase i).head? = line.head? := by
    cases line with
    | nil => rfl
    | cons k rest =>
      have hne : k ≠ i := by
        rintro rfl
        exact hhead rfl
      simp [hne]
  rw [holder_move_of_ne (hsame ▸ hhead)]
  simp only [holder, hsame]

end Ordered

/-! ### Giving the lock back -/

variable {s : Setup} {w w' : State} {a : Action} {i : Nat} {said : List Effect}

lemma line_drop (call : Call) : (w.drop i call).1.line = w.line.erase i := by
  unfold State.drop
  split <;> rfl

/-- A call changes nothing in line but its own place. -/
lemma Advance.line {job : Job} {stage : Stage} (h : Advance s w i job a stage w' said) :
    w'.line = w.line ∨ w'.line = w.line ++ [i] ∨ w'.line = w.line.erase i := by
  cases h with
  | exchange | join | joinFirst | ignored | vacate | launch | notify | notifyClosed | stop
  | stopNobody | launched | settle | raise | verify | reaped | conclude | relaunch | aborted =>
    exact .inl rfl
  | enlist | deactivate | joined => exact .inr (.inl rfl)
  | lose => exact .inl (line_lose ..)
  | _ => exact .inr (.inr rfl)

lemma holder_lose {c : Nat} {failure : RuntimeFailure} (h : Ordered w.line w.calls) :
    holder (w.lose s c failure).1.line (w.lose s c failure).1.calls = holder w.line w.calls := by
  rw [line_lose]
  rcases calls_lose s w c failure with hcalls | hcalls <;> rw [hcalls]
  exact h.holder_begin _

/-- The calls that do not go on stay where they are. -/
lemma Advance.other {job : Job} {stage : Stage} (h : Advance s w i job a stage w' said) {k : Nat}
    {call : Call} (hk : w.calls[k]? = some call) (hne : i ≠ k) :
    w'.calls[k]? = some call := by
  cases h with
  | lose => exact (getElem?_moveCall_ne _ _ hne).trans (getElem?_calls_lose hk)
  | _ => exact (getElem?_moveCall_ne _ _ hne).trans hk

lemma of_getElem?_calls_lose {c k : Nat} {failure : RuntimeFailure} {call : Call}
    (hk : (w.lose s c failure).1.calls[k]? = some call) :
    w.calls[k]? = some call ∨ call.stage = .arriving := by
  rcases calls_lose s w c failure with h | h <;> rw [h] at hk
  · exact .inl hk
  · rcases of_getElem?_append_call hk with hk | rfl
    · exact .inl hk
    · exact .inr rfl

/-- Where a call is that does not go on, it was before, unless it is new. -/
lemma Advance.of_other {job : Job} {stage : Stage} (h : Advance s w i job a stage w' said)
    {k : Nat} {call : Call} (hk : w'.calls[k]? = some call) (hne : i ≠ k) :
    w.calls[k]? = some call ∨ call.stage = .arriving := by
  cases h with
  | lose => exact of_getElem?_calls_lose ((getElem?_moveCall_ne _ _ hne).symm.trans hk)
  | _ => exact .inl ((getElem?_moveCall_ne _ _ hne).symm.trans hk)

/-- A call that goes on keeps its job, and no call is begun meanwhile but a restart. -/
lemma Advance.moved {job : Job} {stage : Stage} (h : Advance s w i job a stage w' said)
    (hi : w.calls[i]? = some ⟨job, stage⟩) :
    ∃ calls after, w'.calls = moveCall calls i after ∧ calls[i]? = some ⟨job, stage⟩ ∧
      (calls = w.calls ∨ ∃ c, calls = w.calls ++ [⟨.restart c, .arriving⟩]) := by
  cases h with
  | lose =>
    refine ⟨_, _, rfl, getElem?_calls_lose hi, ?_⟩
    rcases calls_lose s w _ .processExited with hcalls | hcalls
    · exact .inl hcalls
    · exact .inr ⟨_, hcalls⟩
  | _ => exact ⟨_, _, rfl, hi, .inl rfl⟩

lemma Advance.job_eq {job job' : Job} {stage after : Stage} (h : Advance s w i job a stage w' said)
    (hi : w.calls[i]? = some ⟨job, stage⟩) (hi' : w'.calls[i]? = some ⟨job', after⟩) :
    job' = job := by
  obtain ⟨calls, next, hcalls, hmoved, -⟩ := h.moved hi
  rw [hcalls] at hi'
  exact congrArg Call.job (eq_of_moveCall hmoved hi')

/-- Where a call is now, it was before, unless it is new, given up or goes on. -/
lemma Turn.of_call (h : Turn s w a w' said) {k : Nat} {call : Call}
    (hk : w'.calls[k]? = some call) :
    w.calls[k]? = some call ∨ call.stage = .arriving ∨ call.stage = .dropped ∨
      ∃ stage, w.calls[k]? = some ⟨call.job, stage⟩ ∧
        Advance s w k call.job a stage w' said := by
  cases h with
  | call | activate =>
    rcases of_getElem?_append_call hk with hk | rfl
    · exact .inl hk
    · exact .inr (.inl rfl)
  | @drop i dropped hi =>
    have hcalls : (w.drop i dropped).1.calls = moveCall w.calls i .dropped := by
      unfold State.drop
      split <;> rfl
    rw [hcalls] at hk
    rcases eq_or_ne i k with rfl | hne
    · obtain rfl := eq_of_moveCall hi hk
      exact .inr (.inr (.inl rfl))
    · rw [getElem?_moveCall_ne _ _ hne] at hk
      exact .inl hk
  | @advance _ i job stage _ _ hi hadv =>
    rcases eq_or_ne i k with rfl | hne
    · obtain ⟨calls, after, hcalls, hbefore, -⟩ := hadv.moved hi
      rw [hcalls] at hk
      obtain rfl := eq_of_moveCall hbefore hk
      exact .inr (.inr (.inr ⟨stage, hi, hadv⟩))
    · rcases hadv.of_other hk hne with hk | hstage
      · exact .inl hk
      · exact .inr (.inl hstage)
  | publish =>
    rw [emit_fst] at hk
    exact .inl hk
  | report =>
    rcases of_getElem?_calls_lose hk with hk | hstage
    · exact .inl hk
    · exact .inr (.inl hstage)
  | _ => exact .inl hk

/-- Whoever leaves the line does so by itself, or is given up. -/
lemma Turn.of_leaves (h : Turn s w a w' said) (hmem : i ∈ w.line) (hleft : i ∉ w'.line) :
    a = .drop i ∨ ∃ job stage, w.calls[i]? = some ⟨job, stage⟩ ∧
      Advance s w i job a stage w' said := by
  have hstays {k : Nat} (hne : i ≠ k) : i ∈ w.line.erase k := (List.mem_erase_of_ne hne).mpr hmem
  cases h with
  | @drop k call hk =>
    rcases eq_or_ne i k with rfl | hne
    · exact .inl rfl
    · rw [line_drop] at hleft
      exact absurd (hstays hne) hleft
  | @advance _ k job stage _ _ hk hadv =>
    rcases eq_or_ne i k with rfl | hne
    · exact .inr ⟨job, stage, hk, hadv⟩
    · rcases hadv.line with hline | hline | hline <;> rw [hline] at hleft
      · exact absurd hmem hleft
      · exact absurd (List.mem_append_left _ hmem) hleft
      · exact absurd (hstays hne) hleft
  | publish =>
    rw [emit_fst] at hleft
    exact absurd hmem hleft
  | report =>
    rw [line_lose] at hleft
    exact absurd hmem hleft
  | _ => exact absurd hmem hleft

end State

/-- Whether a call has the lock when a moment begins and no longer when it ends. -/
def Moment.releases (m : Moment) (i : Nat) : Prop :=
  m.before.line.head? = some i ∧ i ∉ m.after.line

end LanguageClient
