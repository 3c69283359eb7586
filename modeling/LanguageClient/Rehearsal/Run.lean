import LanguageClient.Rehearsal.Basic

/-!
# Running a rehearsal

The host of a rehearsal makes calls, which take turns with the other tasks, and lets time pass;
every loop here is cut short after `patience` rounds.
-/

namespace LanguageClient

namespace Rehearsal

/-- More rounds than any rehearsal needs. -/
def patience : Nat := 1000000

/-- How long the host waits for a call: an hour. -/
def hostLimit : Nat := 3600000

/-! ### Turns -/

/-- Put the tasks that can go on now in line, and after them those that have just begun. -/
def wake (r : Rehearsal) : Rehearsal :=
  let (up, down) := r.waiting.partition fun t => (r.step t).isSome
  { r with ready := r.ready ++ up ++ r.begun, waiting := down, begun := [] }

/-- Whether a task is over for good. -/
def taskEnded (r : Rehearsal) : Task → Bool
  | .call i => r.callEnded i
  | .writer c => (r.session.connections[c]?).all (·.writer.hasEnded)
  | .reader c => (r.session.connections[c]?).all (·.reader.hasEnded)
  | .server c => (r.servers[c]?).all (·.hasEnded)
  | .watcher k =>
    match r.watchers[k]? with
    | some (some i) => r.callEnded i
    | some none => false
    | none => true

/-- A task goes on until it has to wait. -/
def runTask (t : Task) : Nat → Rehearsal → Rehearsal
  | 0, r => r
  | fuel + 1, r =>
    match r.step t with
    | some r => runTask t fuel r.wake
    | none => if r.taskEnded t then r else { r with waiting := r.waiting ++ [t] }

/-- The tasks in line take their turns until none can go on. -/
def drain : Nat → Rehearsal → Rehearsal
  | 0, r => r
  | fuel + 1, r =>
    match r.ready with
    | [] => r
    | t :: rest => drain fuel (runTask t patience { r with ready := rest })

/-! ### Time -/

/-- The times at which something may happen. -/
def times (r : Rehearsal) : List Nat :=
  r.timers.map (·.2) ++ (r.limits.filter fun l => !r.callEnded l.1).map (·.2) ++
    r.launchings.map (·.2.1) ++ (r.servers.filter fun s => !s.hasEnded).map (·.resume)

/-- The next of them. -/
def nextTime? (r : Rehearsal) : Option Nat := (r.times.filter (r.now < ·)).min?

/-- Let time pass. -/
def pass (r : Rehearsal) (time : Nat) : Rehearsal := wake { r with now := time }

/-- Let all happen that happens up to a time. -/
def runTo (time : Nat) : Nat → Rehearsal → Rehearsal
  | 0, r => r
  | fuel + 1, r =>
    let r := r.drain patience
    match r.nextTime? with
    | some t => if t ≤ time then runTo time fuel (r.pass t) else (r.pass time).drain patience
    | none => (r.pass time).drain patience

/-- Let so many milliseconds pass. -/
def sleep (r : Rehearsal) (millis : Nat) : Rehearsal := runTo (r.now + millis) patience r

/-- Let all happen until a condition holds, at most up to a time; whether it does. -/
def runUntil (holds : Rehearsal → Bool) (time : Nat) : Nat → Rehearsal → Rehearsal × Bool
  | 0, r => (r, holds r)
  | fuel + 1, r =>
    if holds r then (r, true)
    else
      let r := r.drain patience
      if holds r then (r, true)
      else
        match r.nextTime? with
        | some t => if t ≤ time then runUntil holds time fuel (r.pass t) else (r.pass time, false)
        | none => (r.pass time, false)

/-! ### The host -/

/-- The host waits for a call. -/
def await (i : Nat) : Nat → Rehearsal → Rehearsal
  | 0, r => r
  | fuel + 1, r =>
    let r := r.drain patience
    if r.callEnded i then r
    else
      match r.nextTime? with
      | some t => await i fuel (r.pass t)
      | none => r

/-- The host is to give up a call after an hour. -/
def limit (r : Rehearsal) (i : Nat) : Rehearsal :=
  { r with limits := (i, r.now + hostLimit) :: r.limits }

/-- What became of a call; nothing if the host gave it up. -/
def outcome? (r : Rehearsal) (i : Nat) : Option Outcome := (r.stage? i).bind (·.outcome?)

/-- The host makes a call and waits for it. -/
def call (r : Rehearsal) (job : Job) : Rehearsal × Option Outcome :=
  let i := r.session.calls.length
  let r := ((r.act? (.call job)).getD r).limit i
  let r := await i patience { r with ready := .call i :: r.ready }
  (r, r.outcome? i)

/-- The host makes a call in the background. -/
def spawn (r : Rehearsal) (job : Job) : Rehearsal × Nat :=
  let i := r.session.calls.length
  ((r.must (.call job)).wake, i)

/-- The host gives calls and watchers up, all of them at once. -/
def abandon (r : Rehearsal) (calls watchers : List Nat) : Rehearsal :=
  let given := watchers.map Task.watcher
  let r := { r with waiting := r.waiting.filter (· ∉ given) }
  wake (calls.foldl (fun r i => (r.must (.drop i)).wind i) r)

/-- The host starts the session in the background once it fails. -/
def watch (r : Rehearsal) : Rehearsal × Nat :=
  let k := r.watchers.length
  ({ r with watchers := r.watchers ++ [none], ready := r.ready ++ [.watcher k] }, k)

/-- The host takes events. -/
def poll (r : Rehearsal) (budget : Nat) : Rehearsal × List Event :=
  (r.must (.poll budget), (r.session.poll budget).2)

/-! ### What the host does to the newest server -/

/-- The newest server, if it is alive. -/
def newest? (r : Rehearsal) : Option (Nat × Server) := do
  let c := r.servers.length - 1
  let server ← r.servers[c]?
  if server.hasEnded then none else return (c, server)

/-- Tell the newest server, if it is alive, to do something once it has done what it is doing. -/
def direct (r : Rehearsal) (act : Act) : Option Rehearsal := do
  let (c, _) ← r.newest?
  return (r.modifyServer c (·.direct act)).wake

end Rehearsal

end LanguageClient
