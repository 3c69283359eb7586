import LanguageClient.Proofs.Launch.Checks
import LanguageClient.Proofs.Session.Handshake
import LanguageClient.Proofs.Uri.FilePath

/-!
# The workspace of a configuration

Seen from an absolute directory, the workspace of a configuration is an absolute path and so has a
URI, unless it is set to the empty text, which stays empty. The session of such a configuration
launches its server and gives it up at once: `Config.workspace_usable`.
-/

namespace LanguageClient

namespace Path

variable {here path component whole : List Char}

lemma isAbsolute_iff : isAbsolute path = true ↔ ∃ rest, path = '/' :: rest := by
  unfold isAbsolute
  split <;> simp_all

lemma isAbsolute_append (h : isAbsolute path = true) (rest : List Char) :
    isAbsolute (path ++ rest) = true := by
  obtain ⟨more, rfl⟩ := isAbsolute_iff.mp h
  rfl

lemma isAbsolute_push (h : isAbsolute path = true) (component : List Char) :
    isAbsolute (push path component) = true := by
  unfold push
  split <;> exact isAbsolute_append h _

lemma isAbsolute_foldl_push (h : isAbsolute path = true) (components : List (List Char)) :
    isAbsolute (components.foldl push path) = true := by
  induction components generalizing path with
  | nil => exact h
  | cons component rest ih => exact ih (isAbsolute_push h component)

lemma isAbsolute_rootOf (path : List Char) : isAbsolute (rootOf path) = true := by
  unfold rootOf
  split <;> rfl

/-- All paths but the empty one lead somewhere from the root. -/
lemma exists_absolute? (hhere : isAbsolute here = true) (hpath : path ≠ []) :
    ∃ whole, absolute? here path = some whole ∧ isAbsolute whole = true := by
  unfold absolute?
  rw [if_neg (by simpa using hpath)]
  have hstart : isAbsolute (if isAbsolute path then rootOf path else here) = true := by
    split
    · exact isAbsolute_rootOf path
    · exact hhere
  have hwhole := isAbsolute_foldl_push hstart (components path)
  refine ⟨_, rfl, ?_⟩
  split
  · exact isAbsolute_push hwhole []
  · exact hwhole

end Path

namespace Config

variable {c : Config} {here : List Char}

/-- The empty text stays as it is. -/
lemma workspace_empty (here : List Char) : workspace here (some "") = "" := by
  simp [workspace, Path.absolute?]

lemma root_options_of_empty (h : c.root = some "") : (c.options here).root = "" := by
  rw [options, h]
  exact workspace_empty here

lemma isAbsolute_workspace_iff (hhere : Path.isAbsolute here = true) (root : Option String) :
    Path.isAbsolute (workspace here root).toList = true ↔ root ≠ some "" := by
  cases root with
  | none => simp [workspace, hhere]
  | some root =>
    by_cases hroot : root = ""
    · subst hroot
      rw [workspace_empty]
      exact iff_of_false (by decide) (by simp)
    · obtain ⟨whole, hwhole, habsolute⟩ :=
        Path.exists_absolute? hhere (String.toList_eq_nil_iff.not.mpr hroot)
      simp [workspace, hwhole, habsolute, hroot]

end Config

/-! ### Starts that fail -/

/-- The session or a call has it that a start failed in the handshake for a reason. -/
def State.FailsWith (w : State) (reason : String) : Prop :=
  w.phase = .failed (.start (.handshakeFailed reason)) ∨
    ∃ call ∈ w.calls, call.stage = .done (.start (.error (.handshakeFailed reason)))

lemma State.Reasons.of_failsWith {w : State} {P : String → Prop} {reason : String}
    (h : State.Reasons P w) (hfails : w.FailsWith reason) : P reason := by
  rcases hfails with hphase | ⟨call, hcall, hstage⟩
  · exact h.phase reason (by rw [hphase]; rfl)
  · obtain ⟨i, hi⟩ := List.mem_iff_getElem?.mp hcall
    exact h.calls hi (by rw [hstage]; rfl)

lemma Setup.rootFault_of_root {s : Setup} {root : String} (h : s.options.root = root) :
    s.rootFault = "converting workspace root to URI: " ++ Uri.pathFault root := by
  subst h
  rfl

/-- The other reasons say nothing about the workspace. -/
lemma Stage.Blames.not_prefix {s : Setup} {k : Nat} {stage : Stage} {reason : String}
    (h : Stage.Blames s k stage reason) (hroot : Uri.ofPath s.options.root.toList ≠ none) :
    ¬"converting workspace root to URI".toList <+: reason.toList := by
  cases h with
  | rootless hnone => exact absurd hnone hroot
  | rejected | timedOut =>
    rintro ⟨rest, h⟩
    simp [String.toList_append] at h
  | _ => decide

namespace Config

variable {c : Config} {here : List Char} {processId : Nat} {s : Setup}

/--
Seen from an absolute directory, the workspace of a configuration is absolute and has a URI, unless
it is set to the empty text. If it is not, no start of a session that the configuration sets up ever
fails for want of a URI for the workspace. If it is, the session never runs, and each start that
comes as far as the handshake fails for that.
-/
theorem workspace_usable (hhere : Path.isAbsolute here = true) :
    (∀ p, c.parts here = .ok p →
      (Path.isAbsolute p.options.root.toList = true ↔ c.root ≠ some "") ∧
      ((∃ uri, Uri.ofPath p.options.root.toList = some uri) ↔ c.root ≠ some "")) ∧
    ∀ processId s, c.session here processId = .ok s → ∀ past w, Run s past w →
      (c.root ≠ some "" → ∀ reason, w.FailsWith reason →
        ¬"converting workspace root to URI".toList <+: reason.toList) ∧
      (c.root = some "" → w.phase.isRunning = false ∧ ∀ reason, w.FailsWith reason →
        reason = "converting workspace root to URI: " ++ Uri.pathFault "") := by
  have habsolute : Path.isAbsolute (c.options here).root.toList = true ↔ c.root ≠ some "" :=
    isAbsolute_workspace_iff hhere c.root
  have huri : (∃ uri, Uri.ofPath (c.options here).root.toList = some uri) ↔ c.root ≠ some "" := by
    rw [← habsolute]
    simp [Uri.ofPath_eq_some_iff]
  refine ⟨fun p hp => ?_, fun processId s hs past w hrun => ?_⟩
  · rw [options_of_parts hp]
    exact ⟨habsolute, huri⟩
  · obtain ⟨-, hoptions⟩ := of_session hs
    rw [← hoptions] at huri
    refine ⟨fun hroot reason hfails => ?_, fun hroot => ?_⟩
    · obtain ⟨k, stage, hblames⟩ := hrun.reasons.of_failsWith hfails
      exact hblames.not_prefix (Option.ne_none_iff_exists'.mpr (huri.mpr hroot))
    · have hnone : Uri.ofPath s.options.root.toList = none :=
        Option.not_isSome_iff_eq_none.mp fun h => huri.mp (Option.isSome_iff_exists.mp h) hroot
      obtain ⟨hgrounded, hreasons⟩ := hrun.rootless hnone
      refine ⟨hgrounded.phase, fun reason hfails => ?_⟩
      have hreason : reason = s.rootFault := hreasons.of_failsWith hfails
      have hempty : s.options.root = "" := hoptions ▸ root_options_of_empty hroot
      exact hreason.trans (Setup.rootFault_of_root hempty)

/-- The stock configuration for another workspace. -/
def stockAt (root : String) : Config := { stock with root := some root }

/-- A server that is gone at once fails the start, and not for want of a URI for the workspace. -/
theorem workspace_usable_relative :
    Path.isAbsolute "/srv".toList = true ∧ ∃ p s past w reason,
      (stockAt "../work").parts "/srv".toList = .ok p ∧
      (stockAt "../work").session "/srv".toList 1 = .ok s ∧ Run s past w ∧ w.FailsWith reason ∧
      Path.isAbsolute p.options.root.toList = true ∧
      (∃ uri, Uri.ofPath p.options.root.toList = some uri) ∧
      ¬"converting workspace root to URI".toList <+: reason.toList := by
  have hhere : Path.isAbsolute "/srv".toList = true := rfl
  have hroot : (stockAt "../work").root ≠ some "" := by decide
  obtain ⟨p, s, past, w, reason, hparts, hsession, hplay, hphase⟩ :
      ∃ p s past w reason, (stockAt "../work").parts "/srv".toList = .ok p ∧
        (stockAt "../work").session "/srv".toList 1 = .ok s ∧
        State.initial.play s [.call .start, .proceed 0, .proceed 0, .launched 0 (.ok 4096),
          .received 0 .ended, .read 0, .proceed 0, .proceed 0, .proceed 0, .proceed 0] =
            some (past, w) ∧
        w.phase = .failed (.start (.handshakeFailed reason)) :=
    ⟨_, _, _, _, _, rfl, rfl, rfl, rfl⟩
  obtain ⟨habsolute, huri⟩ := (workspace_usable hhere).1 p hparts
  have hsafe := (workspace_usable hhere).2 1 s hsession past w (Run.of_play hplay)
  exact ⟨hhere, p, s, past, w, reason, hparts, hsession, Run.of_play hplay, .inl hphase,
    habsolute.mpr hroot, huri.mpr hroot, hsafe.1 hroot reason (.inl hphase)⟩

/-- Set to the empty text the workspace is not absolute and has no URI. The server is launched, and
then the start fails for that. -/
theorem workspace_unusable_empty :
    Path.isAbsolute "/srv".toList = true ∧ ∃ p s past w,
      (stockAt "").parts "/srv".toList = .ok p ∧ (stockAt "").session "/srv".toList 1 = .ok s ∧
      Path.isAbsolute p.options.root.toList = false ∧ Uri.ofPath p.options.root.toList = none ∧
      Run s past w ∧ (∃ m ∈ past, m.action = .launched 0 (.ok 4096)) ∧
      w.phase = .failed (.start (.handshakeFailed
        ("converting workspace root to URI: " ++ Uri.pathFault ""))) := by
  obtain ⟨p, s, past, w, reason, hparts, hsession, habsolute, huri, hplay, hlaunch, hphase⟩ :
      ∃ p s past w reason,
        (stockAt "").parts "/srv".toList = .ok p ∧ (stockAt "").session "/srv".toList 1 = .ok s ∧
        Path.isAbsolute p.options.root.toList = false ∧ Uri.ofPath p.options.root.toList = none ∧
        State.initial.play s [.call .start, .proceed 0, .proceed 0, .launched 0 (.ok 4096),
          .proceed 0, .proceed 0, .proceed 0] = some (past, w) ∧
        (past[3]?).map (·.action) = some (.launched 0 (.ok 4096)) ∧
        w.phase = .failed (.start (.handshakeFailed reason)) :=
    ⟨_, _, _, _, _, rfl, rfl, rfl, rfl, rfl, rfl, rfl⟩
  have hoptions : p.options = s.options := by
    rw [options_of_parts hparts, (of_session hsession).2]
  obtain ⟨-, hreasons⟩ := (Run.of_play hplay).rootless (hoptions ▸ huri)
  have hreason : reason = s.rootFault := hreasons.phase reason (by rw [hphase]; rfl)
  have hempty : s.options.root = "" := (of_session hsession).2 ▸ root_options_of_empty rfl
  obtain ⟨m, hm, haction⟩ := Option.map_eq_some_iff.mp hlaunch
  refine ⟨rfl, p, s, past, w, hparts, hsession, habsolute, huri, Run.of_play hplay,
    ⟨m, List.mem_of_getElem? hm, haction⟩, ?_⟩
  rw [hphase, hreason, Setup.rootFault_of_root hempty]

end Config

end LanguageClient
