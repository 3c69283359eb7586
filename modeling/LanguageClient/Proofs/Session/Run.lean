import LanguageClient.Session.Step
import Mathlib.Data.List.Basic
import Mathlib.Data.List.Induction

/-!
# Runs of a session

A run is any sequence of steps that a session can take from its beginning: calls of the host, steps
of the client's own tasks and timers, and whatever the world outside does. It is kept as the list of
its moments, so that a property of every run covers every interleaving.
-/

namespace LanguageClient

/-- One step of a run, with the states around it and what others saw of it. -/
structure Moment where
  before : State
  action : Action
  after : State
  said : List Effect

/-- The runs of a session, with the state that each leads to. -/
inductive Run (s : Setup) : List Moment → State → Prop
  | initial : Run s [] .initial
  | step {past : List Moment} {w w' : State} {said : List Effect} (a : Action) :
    Run s past w → w.step s a = some (w', said) → Run s (past ++ [⟨w, a, w', said⟩]) w'

/-- All that others saw of a run. -/
def seen (past : List Moment) : List Effect := past.flatMap (·.said)

@[simp] lemma seen_nil : seen [] = [] := rfl

@[simp] lemma seen_append (past later : List Moment) :
    seen (past ++ later) = seen past ++ seen later := List.flatMap_append

@[simp] lemma seen_singleton (m : Moment) : seen [m] = m.said := by simp [seen]

namespace Run

variable {s : Setup} {past : List Moment} {w : State}

/-- Each moment of a run is a step that its beginning could take. -/
theorem step_of_mem (h : Run s past w) {m : Moment} (hm : m ∈ past) :
    ∃ earlier later, past = earlier ++ m :: later ∧ Run s earlier m.before ∧
      m.before.step s m.action = some (m.after, m.said) := by
  induction h with
  | initial => simp at hm
  | @step past w w' said a hrun hstep ih =>
    rcases List.mem_append.mp hm with hm | hm
    · obtain ⟨earlier, later, rfl, hbefore, hmstep⟩ := ih hm
      exact ⟨earlier, later ++ [⟨w, a, w', said⟩], by simp, hbefore, hmstep⟩
    · obtain rfl := List.mem_singleton.mp hm
      exact ⟨past, [], rfl, hrun, hstep⟩

/-- The last moment of a run. -/
theorem of_concat {m : Moment} (h : Run s (past ++ [m]) w) :
    Run s past m.before ∧ m.before.step s m.action = some (m.after, m.said) ∧ m.after = w := by
  generalize hall : past ++ [m] = all at h
  cases h with
  | initial => simp at hall
  | step a hrun hstep =>
    obtain ⟨rfl, hlast⟩ := List.append_inj' hall rfl
    obtain rfl := List.head_eq_of_cons_eq hlast
    exact ⟨hrun, hstep, rfl⟩

/-- Each beginning of a run is a run. -/
theorem of_split {m : Moment} {later : List Moment} (h : Run s (past ++ m :: later) w) :
    Run s past m.before ∧ m.before.step s m.action = some (m.after, m.said) := by
  induction later using List.reverseRecOn generalizing w with
  | nil =>
    obtain ⟨hrun, hstep, -⟩ := h.of_concat
    exact ⟨hrun, hstep⟩
  | append_singleton rest last ih =>
    rw [← List.cons_append, ← List.append_assoc] at h
    exact ih h.of_concat.1

/-- What is so after a moment and is kept by each later one is so in the end. -/
theorem induction_from {P : State → Prop} {m : Moment} {later : List Moment}
    (h : Run s (past ++ m :: later) w) (hafter : P m.after)
    (hkept : ∀ m' ∈ later, ∀ {earlier : List Moment}, Run s earlier m'.before →
      m'.before.step s m'.action = some (m'.after, m'.said) → P m'.before → P m'.after) :
    P w := by
  induction later using List.reverseRecOn generalizing w with
  | nil =>
    obtain ⟨-, -, rfl⟩ := h.of_concat
    exact hafter
  | append_singleton rest last ih =>
    rw [← List.cons_append, ← List.append_assoc] at h
    obtain ⟨hrun, hstep, rfl⟩ := h.of_concat
    have hbefore := ih hrun fun m' hm' => hkept m' (List.mem_append_left _ hm')
    have hlast : last ∈ rest ++ [last] := List.mem_append_right _ (List.mem_singleton_self last)
    exact hkept last hlast hrun hstep hbefore

end Run

/-! ### Playing a run -/

/-- Take steps one after another, as long as each is possible. -/
def State.play (s : Setup) (w : State) : List Action → Option (List Moment × State)
  | [] => some ([], w)
  | a :: rest => do
    let (next, said) ← w.step s a
    let (later, last) ← next.play s rest
    return (⟨w, a, next, said⟩ :: later, last)

lemma State.play_cons {s : Setup} {w next last : State} {a : Action} {rest : List Action}
    {said : List Effect} {later : List Moment} (hstep : w.step s a = some (next, said))
    (hrest : next.play s rest = some (later, last)) :
    w.play s (a :: rest) = some (⟨w, a, next, said⟩ :: later, last) := by
  simp [play, hstep, hrest]

lemma State.play_append {s : Setup} {w next last : State} {actions more : List Action}
    {first later : List Moment} (hfirst : w.play s actions = some (first, next))
    (hlater : next.play s more = some (later, last)) :
    w.play s (actions ++ more) = some (first ++ later, last) := by
  induction actions generalizing w first with
  | nil =>
    obtain ⟨rfl, rfl⟩ : [] = first ∧ w = next := by simpa [play] using hfirst
    exact hlater
  | cons a rest ih =>
    simp only [play, Option.bind_eq_bind, Option.bind_eq_some_iff] at hfirst
    obtain ⟨⟨w', said⟩, hstep, ⟨after, final⟩, hrest, hfirst⟩ := hfirst
    obtain ⟨rfl, rfl⟩ : ⟨w, a, w', said⟩ :: after = first ∧ final = next := by
      simpa using hfirst
    exact play_cons hstep (ih hrest)

namespace Run

variable {s : Setup} {past later : List Moment} {w last : State} {actions : List Action}

theorem append_play (h : Run s past w) (hp : w.play s actions = some (later, last)) :
    Run s (past ++ later) last := by
  induction actions generalizing past later w with
  | nil =>
    obtain ⟨rfl, rfl⟩ : [] = later ∧ w = last := by simpa [State.play] using hp
    simpa using h
  | cons a rest ih =>
    simp only [State.play, Option.bind_eq_bind, Option.bind_eq_some_iff] at hp
    obtain ⟨⟨next, said⟩, hstep, ⟨after, final⟩, hrest, hp⟩ := hp
    obtain ⟨rfl, rfl⟩ : ⟨w, a, next, said⟩ :: after = later ∧ final = last := by simpa using hp
    simpa using ih (.step a h hstep) hrest

theorem of_play (h : State.initial.play s actions = some (past, w)) : Run s past w :=
  Run.initial.append_play h

/-- The moments that are played are those of the actions. -/
lemma actions_of_play (hp : w.play s actions = some (later, last)) :
    later.map (·.action) = actions := by
  induction actions generalizing later w with
  | nil =>
    obtain ⟨rfl, -⟩ : [] = later ∧ w = last := by simpa [State.play] using hp
    rfl
  | cons a rest ih =>
    simp only [State.play, Option.bind_eq_bind, Option.bind_eq_some_iff] at hp
    obtain ⟨⟨next, said⟩, -, ⟨after, final⟩, hrest, hp⟩ := hp
    obtain ⟨rfl, rfl⟩ : ⟨w, a, next, said⟩ :: after = later ∧ final = last := by simpa using hp
    simp [ih hrest]

end Run

/-- A session with the stock server. -/
def Setup.stock : Setup where
  launch := ⟨⟨"tekton-ls", [], .stdio⟩, none⟩
  selector := .stock
  options := .stock "/"
  processId := 1

/-- The steps of a first start, with a server that answers the handshake. -/
def Action.firstStart : List Action :=
  [Action.call .start, .proceed 0, .proceed 0, .launched 0 (.ok 4096)] ++
    List.replicate 5 (Action.proceed 0) ++
    [Action.received 0 (.message (.obj [("id", .int 1), ("result", .null)]))] ++
    List.replicate 7 (Action.proceed 0)

/-- A session with the stock server, which it launches anew this many times. -/
def Setup.restarting (maxRestarts : UInt32) : Setup :=
  { Setup.stock with
    options := { Options.stock "/" with restart := .onFailure maxRestarts } }

/-- The steps by which connection `c` is lost. -/
def Action.lose (c : Nat) : List Action := .received c .ended :: List.replicate 3 (.read c)

/-- The steps by which call `i` opens a document. -/
def Action.opening (i : Nat) (uri : String) : List Action :=
  .call (.sync true ⟨uri, "file", "yaml"⟩ "") :: List.replicate 3 (.proceed i)

/-- The steps by which call `i` starts the session again, until it launches a server. -/
def Action.relaunching (i : Nat) : List Action := .call .start :: List.replicate 4 (.proceed i)

/-- The steps of the handshake, on connection `c`, with the server that call `i` has launched. -/
def Action.greeting (i c : Nat) : List Action :=
  List.replicate 5 (Action.proceed i) ++
    Action.received c (.message (.obj [("id", .int 1), ("result", .null)])) ::
    List.replicate 2 (Action.proceed i)

/-- The steps of a restart that has the lock, with a server that answers the handshake. -/
def Action.secondStart : List Action :=
  [Action.proceed 1, .proceed 1, .proceed 1, .launched 1 (.ok 4096)] ++
    List.replicate 5 (Action.proceed 1) ++
    [Action.received 1 (.message (.obj [("id", .int 1), ("result", .null)]))] ++
    List.replicate 7 (Action.proceed 1)

end LanguageClient
