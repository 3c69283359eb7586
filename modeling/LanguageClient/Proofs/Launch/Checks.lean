import LanguageClient.Config.Basic
import LanguageClient.Proofs.Selector.Rules
import LanguageClient.Proofs.Session.Untouched

/-!
# Checks of a configuration

A launch configuration is checked before anything is launched. Of what is wrong with it, the first
in a fixed order is reported; if nothing is, each mode has a command that is not blank, over the
transport that was asked for. The rules of the selector are checked before all that, when a
configuration is taken apart: `Config.checked`.
-/

namespace LanguageClient

variable {raw : RawLaunch} {launch : Launch} {e e' : ConfigurationError} {n : Nat}

namespace RawLaunch

/-- Nothing is wrong with a launch configuration. -/
structure Sound (raw : RawLaunch) : Prop where
  command : ∃ command, raw.command = some command ∧ Text.isAllBlank command.toList = false
  transport : raw.transport.isSome
  port : raw.port.isSome → raw.transport = some .socket
  debugCommand : ∀ command, raw.debugCommand = some command →
    Text.isAllBlank command.toList = false

/-- What is wrong with a launch configuration, by the place of the check that finds it. -/
inductive Fails (raw : RawLaunch) : Nat → ConfigurationError → Prop
  | noCommand : raw.command = none → Fails raw 0 .missingCommand
  | noTransport : raw.transport = none → Fails raw 1 .missingTransport
  | strayPort {port : UInt16} : raw.transport = some .stdio → raw.port = some port →
      Fails raw 2 (.portWithoutSocket port)
  | blankCommand {command : String} : raw.command = some command →
      Text.isAllBlank command.toList = true → Fails raw 3 .missingCommand
  | blankDebugCommand {command : String} : raw.debugCommand = some command →
      Text.isAllBlank command.toList = true → Fails raw 4 .missingCommand

/-- An error is what the first check finds that finds anything. -/
def FailsFirst (raw : RawLaunch) (e : ConfigurationError) : Prop :=
  ∃ n, raw.Fails n e ∧ ∀ m < n, ∀ e', ¬raw.Fails m e'

lemma Fails.unique (h : raw.Fails n e) (h' : raw.Fails n e') : e = e' := by
  cases h with
  | strayPort _ hport =>
    cases h' with
    | strayPort _ hport' => rw [Option.some.inj (hport.symm.trans hport')]
  | _ => cases h'; rfl

lemma FailsFirst.unique (h : raw.FailsFirst e) (h' : raw.FailsFirst e') : e = e' := by
  obtain ⟨n, hfails, hfirst⟩ := h
  obtain ⟨m, hfails', hfirst'⟩ := h'
  rcases Nat.lt_trichotomy n m with hlt | rfl | hlt
  · exact absurd hfails (hfirst' n hlt e)
  · exact hfails.unique hfails'
  · exact absurd hfails' (hfirst m hlt e')

lemma Sound.not_fails (h : raw.Sound) : ¬raw.Fails n e := by
  obtain ⟨command, hcommand, hblank⟩ := h.command
  intro hfails
  cases hfails with
  | noCommand hnone => cases hcommand.symm.trans hnone
  | noTransport hnone => simpa [hnone] using h.transport
  | strayPort hstdio hport =>
    have hsocket := h.port (by simp [hport])
    cases hsocket.symm.trans hstdio
  | blankCommand hsome hblank' =>
    obtain rfl := Option.some.inj (hcommand.symm.trans hsome)
    simp [hblank] at hblank'
  | blankDebugCommand hsome hblank' => simp [h.debugCommand _ hsome] at hblank'

/-- A checked configuration has in each mode the command that is meant for it, over the one
transport. -/
structure Yields (raw : RawLaunch) (launch : Launch) : Prop where
  notBlank : ∀ mode, Text.isAllBlank (launch.commandFor mode).command.toList = false
  transport : ∀ mode,
    raw.transport = some .stdio ∧ (launch.commandFor mode).transport = .stdio ∨
      raw.transport = some .socket ∧
        (launch.commandFor mode).transport = .socket (raw.port.getD 0)
  run : raw.command = some (launch.commandFor .run).command ∧
    (launch.commandFor .run).args = raw.args
  debug : ∀ command, raw.debugCommand = some command →
    (launch.commandFor .debug).command = command ∧
      (launch.commandFor .debug).args = raw.debugArgs.getD raw.args
  fallback : raw.debugCommand = none → launch.commandFor .debug = launch.commandFor .run

end RawLaunch

namespace ServerCommand

variable {command : String} {args : List String} {t : Transport}

lemma make_of_blank (h : Text.isAllBlank command.toList = true) :
    make command args t = .error .missingCommand := by
  simp [make, h]

lemma make_of_not_blank (h : Text.isAllBlank command.toList = false) :
    make command args t = .ok ⟨command, args, t⟩ := by
  simp [make, h]

end ServerCommand

namespace Launch

lemma of_transportOf_ok {t : Transport} (h : transportOf raw.transport raw.port = .ok t) :
    raw.transport = some .stdio ∧ raw.port = none ∧ t = .stdio ∨
      raw.transport = some .socket ∧ t = .socket (raw.port.getD 0) := by
  revert h
  rcases raw.transport with _ | _ | _ <;> cases raw.port <;> simp [transportOf, eq_comm]

lemma of_transportOf_error (h : transportOf raw.transport raw.port = .error e) :
    raw.transport = none ∧ e = .missingTransport ∨
      ∃ port, raw.transport = some .stdio ∧ raw.port = some port ∧
        e = .portWithoutSocket port := by
  revert h
  rcases raw.transport with _ | _ | _ <;> cases raw.port <;> simp [transportOf, eq_comm]

/-- What a configuration comes to that passes all checks. -/
lemma of_checks {command : String} {t : Transport} (hcommand : raw.command = some command)
    (ht : transportOf raw.transport raw.port = .ok t)
    (hblank : Text.isAllBlank command.toList = false)
    (hdebug : ∀ command, raw.debugCommand = some command →
      Text.isAllBlank command.toList = false) :
    ∃ launch, ofRaw raw = .ok launch ∧ raw.Sound ∧ raw.Yields launch := by
  have htransport := of_transportOf_ok ht
  have hsound : raw.Sound := by
    refine ⟨⟨command, hcommand, hblank⟩, ?_, ?_, hdebug⟩
    · rcases htransport with ⟨h, -⟩ | ⟨h, -⟩ <;> simp [h]
    · rcases htransport with ⟨-, hport, -⟩ | ⟨h, -⟩
      · simp [hport]
      · exact fun _ => h
  have htravels : raw.transport = some .stdio ∧ t = .stdio ∨
      raw.transport = some .socket ∧ t = .socket (raw.port.getD 0) :=
    htransport.imp_left fun h => ⟨h.1, h.2.2⟩
  cases hd : raw.debugCommand with
  | none =>
    refine ⟨⟨⟨command, raw.args, t⟩, none⟩, ?_, hsound, ?_⟩
    · simp [ofRaw, hcommand, ht, ServerCommand.make_of_not_blank hblank, hd, bind, Except.bind,
        pure, Except.pure]
    · exact ⟨fun mode => by cases mode <;> exact hblank,
        fun mode => by cases mode <;> exact htravels, ⟨hcommand, rfl⟩, by simp [hd], fun _ => rfl⟩
  | some debugCommand =>
    have hblank' := hdebug debugCommand hd
    refine ⟨⟨⟨command, raw.args, t⟩, some ⟨debugCommand, raw.debugArgs.getD raw.args, t⟩⟩, ?_,
      hsound, ?_⟩
    · simp [ofRaw, hcommand, ht, ServerCommand.make_of_not_blank hblank, hd,
        ServerCommand.make_of_not_blank hblank', bind, Except.bind, pure, Except.pure]
    · exact ⟨fun mode => by cases mode <;> assumption, fun mode => by cases mode <;> exact htravels,
        ⟨hcommand, rfl⟩, by simp [hd, commandFor], by simp [hd]⟩

/-- A configuration passes, or the first thing that is wrong with it is reported. -/
lemma ofRaw_cases (raw : RawLaunch) :
    (∃ e, ofRaw raw = .error e ∧ raw.FailsFirst e) ∨
      ∃ launch, ofRaw raw = .ok launch ∧ raw.Sound ∧ raw.Yields launch := by
  cases hcommand : raw.command with
  | none =>
    exact .inl ⟨.missingCommand, by simp [ofRaw, hcommand]; rfl, 0, .noCommand hcommand, nofun⟩
  | some command =>
    cases ht : transportOf raw.transport raw.port with
    | error e =>
      refine .inl ⟨e, by simp [ofRaw, hcommand, ht, bind, Except.bind], ?_⟩
      rcases of_transportOf_error ht with ⟨hnone, rfl⟩ | ⟨port, hstdio, hport, rfl⟩
      · refine ⟨1, .noTransport hnone, fun m hm e' hfails => ?_⟩
        cases hfails <;> simp_all
      · refine ⟨2, .strayPort hstdio hport, fun m hm e' hfails => ?_⟩
        cases hfails <;> simp_all
    | ok t =>
      cases hblank : Text.isAllBlank command.toList with
      | true =>
        refine .inl ⟨.missingCommand, ?_, 3, .blankCommand hcommand hblank,
          fun m hm e' hfails => ?_⟩
        · simp [ofRaw, hcommand, ht, ServerCommand.make_of_blank hblank, bind, Except.bind]
        · cases hfails <;> simp_all [transportOf]
      | false =>
        by_cases hdebug : ∀ command, raw.debugCommand = some command →
            Text.isAllBlank command.toList = false
        · exact .inr (of_checks hcommand ht hblank hdebug)
        · obtain ⟨debugCommand, hd, hblank'⟩ : ∃ command, raw.debugCommand = some command ∧
              Text.isAllBlank command.toList = true := by simpa using hdebug
          refine .inl ⟨.missingCommand, ?_, 4, .blankDebugCommand hd hblank',
            fun m hm e' hfails => ?_⟩
          · simp [ofRaw, hcommand, ht, ServerCommand.make_of_not_blank hblank, hd,
              ServerCommand.make_of_blank hblank', bind, Except.bind]
          · cases hfails <;> simp_all [transportOf]

lemma exists_ofRaw_iff : (∃ launch, ofRaw raw = .ok launch) ↔ raw.Sound := by
  rcases ofRaw_cases raw with ⟨e, herror, n, hfails, -⟩ | ⟨launch, hok, hsound, -⟩
  · refine iff_of_false ?_ fun hsound => hsound.not_fails hfails
    rintro ⟨launch, hok⟩
    cases herror.symm.trans hok
  · exact iff_of_true ⟨launch, hok⟩ hsound

lemma ofRaw_eq_error_iff : ofRaw raw = .error e ↔ raw.FailsFirst e := by
  rcases ofRaw_cases raw with ⟨e', herror, hfirst⟩ | ⟨launch, hok, hsound, -⟩
  · rw [herror, Except.error.injEq]
    constructor
    · rintro rfl
      exact hfirst
    · exact hfirst.unique
  · refine iff_of_false ?_ fun ⟨n, hfails, _⟩ => hsound.not_fails hfails
    rw [hok]
    nofun

lemma yields_of_ofRaw (h : ofRaw raw = .ok launch) : raw.Yields launch := by
  rcases ofRaw_cases raw with ⟨e, herror, -⟩ | ⟨launch', hok, -, hyields⟩
  · cases herror.symm.trans h
  · obtain rfl := Except.ok.inj (hok.symm.trans h)
    exact hyields

/-- The port is reported before the blank command. -/
example : ofRaw ⟨some " ", [], some .stdio, some 1, none, none⟩ = .error (.portWithoutSocket 1) :=
  rfl

end Launch

/-! ### Configurations -/

namespace Config

variable {c : Config} {here : List Char} {processId : Nat} {s : Setup}

/-- The session that a configuration sets up. -/
def session (c : Config) (here : List Char) (processId : Nat) :
    Except ConfigurationError Setup := do
  let p ← c.parts here
  Setup.make p.launch p.selector p.options processId

/-- Each rule of the selector can be read. -/
def Legible (c : Config) : Prop :=
  ∀ rules, c.selector = some rules → ∀ rule ∈ rules, rule.Legible

/-- The first rule that cannot be read is at fault. -/
def Misreads (c : Config) (e : ConfigurationError) : Prop :=
  ∃ before rule after, c.selector = some (before ++ rule :: after) ∧
    (∀ r ∈ before, r.Legible) ∧ rule.Fails e

/-- What the rules of a configuration are read as. -/
def readRules (c : Config) : Except ConfigurationError Selector :=
  match c.selector with
  | none => .ok .stock
  | some rules => Selector.ofRaw rules

lemma exists_readRules_iff : (∃ selector, c.readRules = .ok selector) ↔ c.Legible := by
  unfold readRules Legible
  cases c.selector with
  | none => simp
  | some rules => simp [Selector.exists_ofRaw_iff]

lemma readRules_eq_error_iff : c.readRules = .error e ↔ c.Misreads e := by
  unfold readRules Misreads
  cases c.selector with
  | none => simp
  | some rules => simp [Selector.ofRaw_eq_error_iff]

lemma parts_eq (c : Config) (here : List Char) : c.parts here =
    c.readRules.map fun selector => ⟨c.server, selector, c.options here⟩ := by
  unfold parts readRules
  cases c.selector with
  | none => rfl
  | some rules => cases Selector.ofRaw rules <;> rfl

lemma options_of_parts {p : Parts} (h : c.parts here = .ok p) : p.options = c.options here := by
  rw [parts_eq] at h
  cases hrules : c.readRules with
  | error e => simp [hrules, Except.map] at h
  | ok selector =>
    obtain rfl : ⟨c.server, selector, c.options here⟩ = p := by
      simpa [hrules, Except.map] using h
    rfl

/-- The rules are read first, then the launch configuration is checked. -/
lemma session_eq (c : Config) (here : List Char) (processId : Nat) :
    c.session here processId = c.readRules.bind fun selector =>
      (Launch.ofRaw c.server).map fun launch =>
        ⟨launch, selector, c.options here, processId⟩ := by
  rw [session, parts_eq]
  cases c.readRules with
  | error e => rfl
  | ok selector =>
    change Setup.make c.server selector (c.options here) processId = _
    unfold Setup.make
    cases Launch.ofRaw c.server <;> rfl

lemma of_session (h : c.session here processId = .ok s) :
    Launch.ofRaw c.server = .ok s.launch ∧ s.options = c.options here := by
  rw [session_eq] at h
  cases hrules : c.readRules with
  | error e => simp [hrules, Except.bind] at h
  | ok selector =>
    cases hlaunch : Launch.ofRaw c.server with
    | error e => simp [hrules, hlaunch, Except.bind, Except.map] at h
    | ok launch =>
      obtain rfl : ⟨launch, selector, c.options here, processId⟩ = s := by
        simpa [hrules, hlaunch, Except.bind, Except.map] using h
      exact ⟨rfl, rfl⟩

/--
A launch configuration passes exactly when it has a command that is not blank and a transport, a
port only with the socket, and no blank command for debugging. If it does not pass, the first that
is wrong in that order is reported: no command, no transport, a stray port, a blank command, a blank
command for debugging. If it passes, each mode has its command. A configuration sets up a session
when its launch configuration passes and its rules can be read, and what is wrong with the rules is
reported first. Nothing is launched until the host starts the session.
-/
theorem checked :
    (∀ raw : RawLaunch,
      ((∃ launch, Launch.ofRaw raw = .ok launch) ↔ raw.Sound) ∧
      (∀ e, Launch.ofRaw raw = .error e ↔ raw.FailsFirst e) ∧
      ∀ launch, Launch.ofRaw raw = .ok launch → raw.Yields launch) ∧
    ∀ (c : Config) (here : List Char) (processId : Nat),
      ((∃ s, c.session here processId = .ok s) ↔ c.Legible ∧ c.server.Sound) ∧
      (∀ e, c.session here processId = .error e ↔
        c.Misreads e ∨ c.Legible ∧ c.server.FailsFirst e) ∧
      ∀ s, c.session here processId = .ok s →
        Launch.ofRaw c.server = .ok s.launch ∧ s.options = c.options here ∧
        ∀ past w, Run s past w → (∀ m ∈ past, m.action.isStart = false) →
          w.phase = .created ∧ w.connections = [] ∧ (∀ call ∈ w.calls, call.stage ≠ .launching) ∧
            ∀ m ∈ past, m.launches = false := by
  refine ⟨fun raw => ⟨Launch.exists_ofRaw_iff, fun e => Launch.ofRaw_eq_error_iff,
    fun launch => Launch.yields_of_ofRaw⟩, fun c here processId => ?_⟩
  refine ⟨?_, fun e => ?_, fun s hs => ⟨(of_session hs).1, (of_session hs).2,
    fun past w hrun hnone => ?_⟩⟩
  · rw [session_eq, ← exists_readRules_iff, ← Launch.exists_ofRaw_iff]
    cases c.readRules <;> cases Launch.ofRaw c.server <;> simp [Except.bind, Except.map]
  · rw [session_eq, ← readRules_eq_error_iff, ← exists_readRules_iff, ← Launch.ofRaw_eq_error_iff]
    cases c.readRules <;> cases Launch.ofRaw c.server <;> simp [Except.bind, Except.map]
  · obtain ⟨huntouched, hquiet⟩ := hrun.untouched hnone
    refine ⟨huntouched.phase, huntouched.connections, fun call hcall hlaunching => ?_, hquiet⟩
    obtain ⟨i, hi⟩ := List.mem_iff_getElem?.mp hcall
    have hout := (huntouched.calls hi).2
    rw [hlaunching] at hout
    cases hout

end Config

end LanguageClient
