/-!
# Signals and exit statuses

How a process can end: by itself with a code, or by a signal.
-/

namespace LanguageClient

namespace Signal

/-- The signals and their names. -/
def names : List (Nat × String) := [
  (1, "HUP"), (2, "INT"), (3, "QUIT"), (4, "ILL"), (5, "TRAP"), (6, "ABRT"), (7, "BUS"),
  (8, "FPE"), (9, "KILL"), (10, "USR1"), (11, "SEGV"), (12, "USR2"), (13, "PIPE"), (14, "ALRM"),
  (15, "TERM"), (16, "STKFLT"), (17, "CHLD"), (18, "CONT"), (19, "STOP"), (20, "TSTP"),
  (21, "TTIN"), (22, "TTOU"), (23, "URG"), (24, "XCPU"), (25, "XFSZ"), (26, "VTALRM"),
  (27, "PROF"), (28, "WINCH"), (29, "IO"), (30, "PWR"), (31, "SYS")]

/-- There are fewer signals than this. -/
def limit : Nat := 65

/-- The number of a signal by its name. -/
def ofName? (name : String) : Option Nat := (names.find? fun s => s.2 = name).map (·.1)

/-- What a signal does to a process that has made no provision for it. -/
inductive Effect
  | ends
  | halts
  | nothing
  deriving DecidableEq, Repr

def effect (signal : Nat) : Effect :=
  if signal ∈ [0, 17, 18, 23, 28] then .nothing
  else if signal ∈ [19, 20, 21, 22] then .halts
  else .ends

/-- Signals for which no provision can be made. -/
def isCertain (signal : Nat) : Bool := signal = 9 || signal = 19

end Signal

/-- How a process ended. -/
inductive ExitStatus
  | exited (code : Nat)
  | killed (signal : Nat)
  deriving DecidableEq, Repr

namespace ExitStatus

def text : ExitStatus → String
  | .exited code => "exit status: " ++ Nat.repr code
  | .killed signal =>
    let name := match Signal.names.lookup signal with
      | some name => " (SIG" ++ name ++ ")"
      | none => ""
    "signal: " ++ Nat.repr signal ++ name

/-- What is wrong with a status, if it is not zero. -/
def problem? (s : ExitStatus) : Option String :=
  if s = .exited 0 then none else some ("server exited with " ++ s.text)

/-- The code that stands for a status where only codes can. -/
def code : ExitStatus → Nat
  | .exited code => code
  | .killed signal => 128 + signal

end ExitStatus

end LanguageClient
