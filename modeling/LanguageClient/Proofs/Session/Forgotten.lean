import LanguageClient.Proofs.Session.History
import LanguageClient.Proofs.Session.Inbox

/-!
# Diagnostics of documents that were closed

The closing of a document takes its diagnostics from the store, and nothing brings them back but
diagnostics that the host polls later: `Run.latest_since`. The closing leaves the inbox as it is, so
these may have come before: `Run.waited`. Diagnostics are gone for good once none of them waits any
more: `Run.closed_forgotten`.
-/

namespace LanguageClient

/-! ### The last word after a document was dropped -/

namespace StoreChange

variable {before after : List StoreChange} {uri : String} {items : List Diagnostic}

lemma latest_append_forget :
    Latest (before ++ .forget uri :: after) uri items ↔ Latest after uri items := by
  induction after using List.reverseRecOn with
  | nil => simp [latest_concat, not_latest_nil, Concerns]
  | append_singleton after change ih =>
    rw [← List.cons_append, ← List.append_assoc, latest_concat, latest_concat, ih]

lemma Latest.mem (h : Latest after uri items) : .update uri items ∈ after := by
  obtain ⟨-, before, later, rfl, -⟩ := h
  simp

end StoreChange

/-- A look-up finds the last word on a document. -/
lemma DiagnosticsStore.get?_snapshot_after (changes : List StoreChange) {uri : String}
    {items : List Diagnostic} :
    (after changes).snapshot.get? uri = some items ↔ StoreChange.Latest changes uri items := by
  have hkept := kept_after changes
  rw [Snapshot.get?_eq_some_iff (nodup_snapshot hkept), mem_snapshot,
    Table.mem_iff_find? hkept.sorted, find?_after]

/-! ### Calls that close a document -/

/-- In a moment a call says that the server has been told that a document is closed. -/
def Moment.closes (m : Moment) (doc : Document) : Prop :=
  ∃ i, m.action.caller? = some i ∧
    m.after.calls[i]? = some ⟨.close doc, .done (.document (.ok .sent))⟩

/-- Diagnostics come to the store by a poll. -/
lemma Moment.mem_polled_of_stores {m : Moment} {uri : String} {items : List Diagnostic}
    (h : .update uri items ∈ m.stores) : .diagnostics uri items ∈ m.polled := by
  simp only [stores, List.mem_append] at h
  rcases h with (h | h) | h
  · obtain ⟨event, hevent, hupdate⟩ := List.mem_filterMap.mp h
    cases event with
    | diagnostics uri' items' =>
      cases hupdate
      exact hevent
    | connectionLost => cases hupdate
  · obtain ⟨_, -, hforget⟩ := Option.map_eq_some_iff.mp (Option.mem_toList.mp h)
    cases hforget
  · split at h
    · cases List.mem_singleton.mp h
    · cases h

namespace State

variable {s : Setup} {w w' : State} {a : Action} {i : Nat} {said : List Effect} {job : Job}
  {doc : Document} {stage : Stage}

/-- A call says that a document is closed when it has dropped the diagnostics. -/
lemma Advance.of_closed (h : Advance s w i (.close doc) a stage w' said) (hsound : Sound False w)
    (hi : w.calls[i]? = some ⟨.close doc, stage⟩)
    (hsends : ∀ c notice, stage = .sending c notice → (Job.close doc).Sends notice)
    (hi' : w'.calls[i]? = some ⟨.close doc, .done (.document (.ok .sent))⟩) :
    a = .proceed i ∧ ∃ uri outcome, stage = .forgetting uri outcome := by
  cases h with
  | exchange _ hex =>
    obtain ⟨-, -, hanswer⟩ := hex.not_isSending
    obtain ⟨-, rfl⟩ := Call.mk.inj (eq_of_moveCall hi hi')
    cases hanswer
  | sent | unsent =>
    obtain rfl := hsends _ _ rfl
    cases eq_of_moveCall hi hi'
  | leave => cases hsound.suited hi
  | forget uri outcome => exact ⟨rfl, uri, outcome, rfl⟩
  | lose => cases eq_of_moveCall (getElem?_calls_lose hi) hi'
  | _ => cases eq_of_moveCall hi hi'

end State

/-- A host that opens a document, may poll what the server has published of it, and closes it until
the call has but to drop the diagnostics. -/
def Action.publishAndClose (polls : List Action) : List Action :=
  let item : Json := .obj [("message", .str "unknown task"),
    ("range", .obj [("start", .obj [("character", .int 2), ("line", .int 1)])])]
  firstStart ++
    Action.call (.sync true ⟨"file:///a", "file", "yaml"⟩ "a") ::
      List.replicate 3 (Action.proceed 1) ++
    .received 0 (.message (.obj [("method", .str "textDocument/publishDiagnostics"),
      ("params", .obj [("diagnostics", .arr [item]), ("uri", .str "file:///a")])])) :: polls ++
    Action.call (.close ⟨"file:///a", "file", "yaml"⟩) :: List.replicate 3 (Action.proceed 2)

namespace Run

variable {s : Setup} {past earlier later : List Moment} {w : State} {doc : Document}

/-- The moment in which a call says that a document is closed is that in which its diagnostics are
dropped. -/
lemma forgets_of_closes {m : Moment} (h : Run s past m.before)
    (hstep : m.before.step s m.action = some (m.after, m.said)) (hm : m.closes doc) :
    m.forgets? = some doc.uri := by
  obtain ⟨i, hcaller, hi'⟩ := hm
  obtain ⟨job, stage, hi, hadv⟩ := (State.Turn.of_step hstep).of_caller hcaller
  obtain rfl := hadv.job_eq hi hi'
  obtain ⟨haction, uri, outcome, rfl⟩ := hadv.of_closed (h.sound nofun) hi
    (fun c notice hstage => h.sends (hstage ▸ hi)) hi'
  exact Moment.forgets?_eq_some_iff.mpr ⟨i, doc, uri, outcome, haction, hi, rfl⟩

/-! ### What comes after -/

/-- Only what is polled after a document was closed counts. -/
theorem latest_since {close : Moment} (h : Run s (earlier ++ close :: later) w)
    (hclose : close.closes doc) (items : List Diagnostic) :
    w.store.snapshot.get? doc.uri = some items ↔
      StoreChange.Latest (later.flatMap Moment.stores) doc.uri items := by
  obtain ⟨hrun, hstep⟩ := h.of_split
  have hforgets := hrun.forgets_of_closes hstep hclose
  obtain ⟨i, doc', uri, outcome, haction, hi, -⟩ := Moment.forgets?_eq_some_iff.mp hforgets
  have hstores : close.stores = [.forget doc.uri] := by
    simp [Moment.stores, Moment.polled, Moment.clears, hforgets, haction, hi]
  rw [h.stored, DiagnosticsStore.get?_snapshot_after, List.flatMap_append, List.flatMap_cons,
    hstores, List.singleton_append, StoreChange.latest_append_forget]

/-- What waits after a moment or is polled in it has waited before, or comes in it. -/
lemma of_delivered {m : Moment} (h : Run s past m.before)
    (hstep : m.before.step s m.action = some (m.after, m.said)) {uri : String}
    {items : List Diagnostic}
    (hmem : .diagnostics uri items ∈ m.after.events ∨ .diagnostics uri items ∈ m.polled) :
    .diagnostics uri items ∈ m.before.events ∨
      m.published? = some (.diagnostics uri items) := by
  have hdelivers := h.delivers hstep
  cases hclears : m.clears with
  | true =>
    obtain ⟨i, job, result, haction, -⟩ := Moment.clears_iff.mp hclears
    have hpolled : m.polled = [] := by simp [Moment.polled, haction]
    simp [hdelivers.cleared hclears, hpolled] at hmem
  | false =>
    have hall : Event.diagnostics uri items ∈ m.before.events ++ m.keeps := by
      rw [hdelivers.events hclears, List.mem_append]
      exact hmem.symm
    rcases List.mem_append.mp hall with hbefore | hkept
    · exact .inl hbefore
    · have hemits : Event.diagnostics uri items ∈ m.emits := by
        unfold Moment.keeps at hkept
        split at hkept
        · exact hkept
        · cases hkept
      rcases List.mem_append.mp hemits with hcame | hlost
      · exact .inr (Option.mem_toList.mp hcame)
      · rw [Option.mem_toList, Moment.loss?] at hlost
        split at hlost <;> cases hlost

/-- If a server publishes no more diagnostics of a document, those that still wait or are polled
have waited before. -/
lemma waited {uri : String} {items : List Diagnostic} {m : Moment}
    (h : Run s (earlier ++ m :: later) w)
    (hquiet : ∀ k ∈ later, ∀ items, k.published? ≠ some (.diagnostics uri items))
    (hmem : .diagnostics uri items ∈ w.events ∨
      ∃ k ∈ later, .diagnostics uri items ∈ k.polled) :
    .diagnostics uri items ∈ m.after.events := by
  induction later using List.reverseRecOn generalizing w with
  | nil =>
    obtain ⟨-, -, rfl⟩ := h.of_concat
    simpa using hmem
  | append_singleton later last ih =>
    rw [← List.cons_append, ← List.append_assoc] at h
    obtain ⟨hrun, hstep, rfl⟩ := h.of_concat
    apply ih hrun fun k hk => hquiet k (List.mem_append_left _ hk)
    have hsilent := hquiet last (List.mem_append_right _ (List.mem_singleton_self last)) items
    have hlast (hmem : .diagnostics uri items ∈ last.after.events ∨
        .diagnostics uri items ∈ last.polled) : .diagnostics uri items ∈ last.before.events :=
      (hrun.of_delivered hstep hmem).resolve_right hsilent
    rcases hmem with hwaits | ⟨k, hk, hpolled⟩
    · exact .inl (hlast (.inl hwaits))
    · rcases List.mem_append.mp hk with hk | hk
      · exact .inr ⟨k, hk, hpolled⟩
      · obtain rfl := List.mem_singleton.mp hk
        exact .inl (hlast (.inr hpolled))

/--
Once a call says that a document is closed and the server has been told so, a look-up finds nothing
but the last word of what has been polled since. If the server publishes no more diagnostics of the
document, that is something that was waiting when the document was closed and was polled since. So
if no diagnostics of it were waiting then, there are none any more, however the host polls.
-/
theorem closed_forgotten {close : Moment} (h : Run s (earlier ++ close :: later) w)
    (hclose : close.closes doc) :
    (∀ items, w.store.snapshot.get? doc.uri = some items ↔
      StoreChange.Latest (later.flatMap Moment.stores) doc.uri items) ∧
    ((∀ m ∈ later, ∀ items, m.published? ≠ some (.diagnostics doc.uri items)) →
      (∀ items, w.store.snapshot.get? doc.uri = some items →
        .diagnostics doc.uri items ∈ close.after.events ∧
          ∃ m ∈ later, .diagnostics doc.uri items ∈ m.polled) ∧
      ((∀ items, .diagnostics doc.uri items ∉ close.after.events) →
        w.store.snapshot.get? doc.uri = none)) := by
  refine ⟨h.latest_since hclose, fun hquiet => ?_⟩
  have hfound (items : List Diagnostic) (hget : w.store.snapshot.get? doc.uri = some items) :
      .diagnostics doc.uri items ∈ close.after.events ∧
        ∃ m ∈ later, .diagnostics doc.uri items ∈ m.polled := by
    have hupdate := ((h.latest_since hclose items).mp hget).mem
    obtain ⟨m, hm, hstores⟩ := List.mem_flatMap.mp hupdate
    have hpolled : ∃ m ∈ later, Event.diagnostics doc.uri items ∈ m.polled :=
      ⟨m, hm, m.mem_polled_of_stores hstores⟩
    exact ⟨h.waited hquiet (.inr hpolled), hpolled⟩
  refine ⟨hfound, fun hnone => ?_⟩
  by_contra hsome
  obtain ⟨items, hget⟩ := Option.ne_none_iff_exists'.mp hsome
  exact hnone items (hfound items hget).1

/-- The host has polled the diagnostics of a document before it closes it, and polls again. -/
theorem closed_forgotten_polled :
    ∃ earlier close later w, ∃ doc : Document, Run .stock (earlier ++ close :: later) w ∧
      close.closes doc ∧ (∃ m ∈ earlier, m.polled ≠ []) ∧
      (∀ m ∈ later, ∀ items, m.published? ≠ some (.diagnostics doc.uri items)) ∧
      (∀ items, .diagnostics doc.uri items ∉ close.after.events) ∧
      w.store.snapshot.get? doc.uri = none := by
  obtain ⟨earlier, w₁, close, w₂, poll, w, hearlier, hclose, hpoll, hcaller, hdone, hpolled,
      hwaits, hquiet⟩ :
      ∃ earlier w₁ close w₂ poll w,
        State.initial.play .stock (Action.publishAndClose [.poll 8]) = some (earlier, w₁) ∧
        w₁.play .stock [.proceed 2] = some ([close], w₂) ∧
        w₂.play .stock [.poll 8] = some ([poll], w) ∧
        close.action.caller? = some 2 ∧ close.after.calls[2]? =
          some ⟨.close ⟨"file:///a", "file", "yaml"⟩, .done (.document (.ok .sent))⟩ ∧
        (earlier.any fun m => !m.polled.isEmpty) = true ∧ close.after.events = [] ∧
        poll.published? = none :=
    ⟨_, _, _, _, _, _, rfl, rfl, rfl, rfl, rfl, rfl, rfl, rfl⟩
  have hrun : Run .stock (earlier ++ close :: [poll]) w := by
    simpa using ((of_play hearlier).append_play hclose).append_play hpoll
  have hlater : ∀ m ∈ [poll], ∀ items, m.published? ≠ some (.diagnostics "file:///a" items) := by
    simp [hquiet]
  have hnone : ∀ items, .diagnostics "file:///a" items ∉ close.after.events := by
    simp [hwaits]
  obtain ⟨m, hm, hsome⟩ := List.any_eq_true.mp hpolled
  obtain ⟨-, hgone⟩ := hrun.closed_forgotten ⟨2, hcaller, hdone⟩
  exact ⟨earlier, close, [poll], w, _, hrun, ⟨2, hcaller, hdone⟩, ⟨m, hm, by simpa using hsome⟩,
    hlater, hnone, (hgone hlater).2 hnone⟩

/-- The diagnostics of a document still wait when the host closes it, and it gets them back when it
polls. -/
theorem closed_remembered :
    ∃ earlier close later w, ∃ doc : Document, Run .stock (earlier ++ close :: later) w ∧
      close.closes doc ∧ (∀ m ∈ later, ∀ items, m.published? ≠ some (.diagnostics doc.uri items)) ∧
      w.store.snapshot.get? doc.uri ≠ none := by
  obtain ⟨earlier, w₁, close, w₂, poll, w, hearlier, hclose, hpoll, hcaller, hdone, hquiet,
      hfound⟩ :
      ∃ earlier w₁ close w₂ poll w,
        State.initial.play .stock (Action.publishAndClose []) = some (earlier, w₁) ∧
        w₁.play .stock [.proceed 2] = some ([close], w₂) ∧
        w₂.play .stock [.poll 8] = some ([poll], w) ∧
        close.action.caller? = some 2 ∧ close.after.calls[2]? =
          some ⟨.close ⟨"file:///a", "file", "yaml"⟩, .done (.document (.ok .sent))⟩ ∧
        poll.published? = none ∧ (w.store.snapshot.get? "file:///a").isSome = true :=
    ⟨_, _, _, _, _, _, rfl, rfl, rfl, rfl, rfl, rfl, rfl⟩
  have hrun : Run .stock (earlier ++ close :: [poll]) w := by
    simpa using ((of_play hearlier).append_play hclose).append_play hpoll
  refine ⟨earlier, close, [poll], w, _, hrun, ⟨2, hcaller, hdone⟩, by simp [hquiet], ?_⟩
  exact Option.isSome_iff_ne_none.mp hfound

end Run

end LanguageClient
