import LanguageClient.Proofs.Session.Connections
import LanguageClient.Proofs.Session.Frames
import LanguageClient.Proofs.Session.History
import Mathlib.Data.List.Perm.Basic

/-!
# The server's documents are the client's

`Stage.Owes` says how far the frames that have been queued on the live connection are from bringing
the server's copies up to date, by the stage of the call that has the lock. Once the lock is free
nothing is owed any more: `Run.documents_synced`.
-/

namespace LanguageClient

/-- The frame that opens a document again. -/
def openingFrame (e : String × OpenDocument) : Json := (Notice.opened e.1 e.2).frame

def initializedFrame : Json := Message.notification "initialized" (some (.obj []))

/-- The document at a place, and the others. -/
lemma Table.perm_of_place {documents : Table OpenDocument} {place : Nat}
    {e : String × OpenDocument} (h : documents[place]? = some e) :
    (e :: documents.eraseIdx place).Perm documents := by
  obtain ⟨hlt, rfl⟩ := List.getElem?_eq_some_iff.mp h
  exact List.getElem_cons_eraseIdx_perm hlt

/-! ### What is owed -/

/-- After the handshake documents have been opened again, each once and in whatever order, and no
other frames were about any. -/
def Reopened (frames : List Json) (documents : Table OpenDocument) : Prop :=
  ∃ (before after : List Json) (opened : Table OpenDocument),
    frames = before ++ initializedFrame :: after ∧ texts before = [] ∧ opened.Perm documents ∧
      texts after = opened.map openingFrame

namespace Stage

/-- How the frames on the live connection go with the documents while the lock is held at a
stage. -/
def Owes (documents : Table OpenDocument) (frames : List Json) : Stage → Prop
  | .greeting _ | .announcing _ => texts frames = []
  | .testing _ ask | .registering _ ask | .retesting _ ask _ | .asking _ ask _
  | .awaiting _ ask _ => ask = .handshake → texts frames = []
  | .reopening _ rest => ∃ done, (done ++ rest).Perm documents ∧ Reopened frames done
  | .settling _ => Reopened frames documents
  | .sending _ notice =>
    Counted (notice.apply documents) ∧ ∃ known, replay frames = some known ∧
      hear known notice.frame = some (copies (notice.apply documents))
  | .raising _ | .verifying _ | .leaving _ | .arriving | .waiting | .joining _ | .forgetting _ _
  | .done _ | .dropped => replay frames = some (copies documents)
  | _ => True

end Stage

lemma Reopened.append {frames later : List Json} {documents : Table OpenDocument}
    (h : Reopened frames documents) (hlater : texts later = []) :
    Reopened (frames ++ later) documents := by
  obtain ⟨before, after, opened, rfl, hbefore, hperm, hafter⟩ := h
  exact ⟨before, after ++ later, opened, by simp, hbefore, hperm, by simp [hafter, hlater]⟩

/-- The server has been told of nothing but the documents that have been opened again. -/
lemma Reopened.texts_eq {frames : List Json} {documents : Table OpenDocument}
    (h : Reopened frames documents) :
    ∃ opened : Table OpenDocument, opened.Perm documents ∧
      texts frames = opened.map openingFrame := by
  obtain ⟨before, after, opened, rfl, hbefore, hperm, hafter⟩ := h
  refine ⟨opened, hperm, ?_⟩
  have hinitialized : texts [initializedFrame] = [] := texts_singleton textMethod?_initialized
  rw [List.append_cons, texts_append, texts_append, hbefore, hinitialized, hafter]
  rfl

lemma Reopened.replay_eq {frames : List Json} {documents : Table OpenDocument}
    (h : Reopened frames documents) (hsorted : documents.Sorted) :
    replay frames = some (copies documents) := by
  obtain ⟨opened, hperm, htexts⟩ := h.texts_eq
  rw [← replay_texts, htexts]
  exact replay_opened_of_perm hsorted hperm

/-- A server allows it as far as it has come. -/
lemma Reopened.legal {frames : List Json} {done rest documents : Table OpenDocument}
    (h : Reopened frames done) (hperm : (done ++ rest).Perm documents)
    (hsorted : documents.Sorted) : (replay frames).isSome = true := by
  obtain ⟨opened, hopened, htexts⟩ := h.texts_eq
  have hkeys : ((done ++ rest).map (·.1)).Nodup :=
    (hperm.map (·.1)).nodup_iff.mpr hsorted.nodup_keys
  rw [List.map_append] at hkeys
  have hdone : (opened.map (·.1)).Nodup :=
    (hopened.map (·.1)).nodup_iff.mpr (List.nodup_append.mp hkeys).1
  obtain ⟨known, hknown, -⟩ := replay_opened hdone
  rw [← replay_texts, htexts]
  exact Option.isSome_of_eq_some hknown

/-- Frames that are not about documents change nothing in what is owed. -/
lemma Stage.Owes.append {stage : Stage} {documents : Table OpenDocument} {frames later : List Json}
    (h : stage.Owes documents frames) (hlater : texts later = []) :
    stage.Owes documents (frames ++ later) := by
  have htexts : texts (frames ++ later) = texts frames := by simp [hlater]
  have hreplay : replay (frames ++ later) = replay frames := replay_append_of_texts hlater
  cases stage with
  | reopening c rest =>
    obtain ⟨done, hdone, hreopened⟩ := h
    exact ⟨done, hdone, hreopened.append hlater⟩
  | settling c => exact Reopened.append h hlater
  | sending c notice =>
    obtain ⟨hcounted, known, hknown, hhear⟩ := h
    exact ⟨hcounted, known, hreplay.trans hknown, hhear⟩
  | greeting | announcing => exact htexts.trans h
  | testing _ ask | registering _ ask | retesting _ ask | asking _ ask | awaiting _ ask =>
    exact fun hask => htexts.trans (h hask)
  | raising | verifying | leaving | arriving | waiting | joining | forgetting | done | dropped =>
    exact hreplay.trans h
  | _ => trivial

/-! ### What calls do about it -/

namespace State

variable {s : Setup} {w w' : State} {a : Action} {i c : Nat} {said : List Effect}

/-- A call that has a connection to itself pays as it goes on, as long as there is a writer. -/
lemma Exchange.owes {before after : Stage} {f : Connection → Connection} {conn : Connection}
    {frames : List Json} (h : Exchange s w c before f after said)
    (hc : w.connections[c]? = some conn) (halive : conn.writer.hasEnded = false)
    (howes : before.Owes w.documents frames) :
    after.Owes w.documents (frames ++ framesOn c said) := by
  have hrefuses : ¬w.Refuses c := fun hr => by simp [hr conn hc] at halive
  cases h with
  | greeted => simpa [Stage.Owes] using howes
  | tested | registered | retested => simpa [Stage.Owes] using howes
  | closedBefore ask | closedSince ask | rejected ask | forsaken ask | timedOut ask =>
    cases ask <;> trivial
  | asked ask n =>
    have hlater := texts_singleton (textMethod?_requestFrame s n ask)
    have hstill : (Stage.awaiting c ask n).Owes w.documents frames := howes
    simpa using hstill.append hlater
  | unasked _ _ _ hr => exact absurd hr hrefuses
  | welcomed => simpa [Stage.Owes] using howes
  | announced =>
    exact ⟨[], .refl _, frames, [], [], by simp [initializedFrame], howes, .refl _, rfl⟩
  | @reopened place rest uri doc hplace =>
    obtain ⟨done, hdone, before, after, opened, rfl, hbefore, hopened, hafter⟩ := howes
    refine ⟨done ++ [(uri, doc)], ?_, before, after ++ [openingFrame (uri, doc)],
      opened ++ [(uri, doc)], by simp [openingFrame], hbefore, hopened.append_right _, ?_⟩
    · rw [List.append_assoc]
      exact ((Table.perm_of_place hplace).append_left done).trans hdone
    · have hlast : texts [openingFrame (uri, doc)] = [openingFrame (uri, doc)] := by
        simp [texts, openingFrame, textMethod?_notice]
      simp [hafter, hlast]
  | unopened _ _ hr => exact absurd hr hrefuses
  | allReopened =>
    obtain ⟨done, hdone, before, after, opened, rfl, hbefore, hopened, hafter⟩ := howes
    rw [List.append_nil] at hdone
    rw [framesOn_nil, List.append_nil]
    exact ⟨before, after, opened, rfl, hbefore, hopened.trans hdone, hafter⟩
  | foundOpen =>
    intro hask
    cases hask
  | _ => trivial

lemma Exchange.owned {before after : Stage} {f : Connection → Connection}
    (h : Exchange s w c before f after said) : before.owned? = some c := by
  cases h <;> rfl

/-- An exchange is about documents only when it opens one again. -/
lemma Exchange.texts_eq {before after : Stage} {f : Connection → Connection}
    (h : Exchange s w c before f after said) :
    (∀ k, texts (framesOn k said) = []) ∨
      w.Takes c ∧ (∃ rest, after = .reopening c rest) ∧ ∀ k, k ≠ c → framesOn k said = [] := by
  have hquiet {frame : Json} (hframe : textMethod? frame = none) (k : Nat) :
      texts (framesOn k [.queued c (.send frame)]) = [] := by
    rcases eq_or_ne c k with rfl | hne
    · simp [texts_singleton hframe]
    · simp [framesOn_queued_of_ne hne, texts]
  cases h with
  | asked ask n => exact .inl (hquiet (textMethod?_requestFrame s n ask))
  | announced => exact .inl (hquiet textMethod?_initialized)
  | dismissing => exact .inl (hquiet textMethod?_exit)
  | reopened place _ ht => exact .inr ⟨ht, ⟨_, rfl⟩, fun k hk => framesOn_queued_of_ne hk.symm _⟩
  | _ => exact .inl fun k => rfl

end State

/-! ### The invariant -/

namespace Connection

variable {conn conn' : Connection}

/-- The session uses the connection, and the connection has its writer. -/
def Serves (conn : Connection) : Prop := conn.held = true ∧ conn.writer.hasEnded = false

lemma Change.serves (h : conn.Change conn') (hserves : conn'.Serves) : conn.Serves := by
  cases h with
  | deed hdeed =>
    cases hdeed with
    | write hstep =>
      refine ⟨?_, ?_⟩
      · have hheld := hserves.1
        rwa [stepWriter_eq hstep] at hheld
      · cases hwriter : conn.writer with
        | ended => simp [stepWriter, hwriter] at hstep
        | _ => rfl
    | _ => exact hserves
  | endWriter => cases hserves.2
  | reap | abort | letGo => cases hserves.1
  | _ => exact hserves

/-- What a reader is about to reply is not about documents. -/
def Quiet (conn : Connection) : Prop :=
  ∀ frame, conn.reader = .replying frame → textMethod? frame = none

lemma Quiet.fresh (room : Nat) : (Connection.fresh room).Quiet := nofun

lemma Quiet.change (h : conn.Quiet) (hchange : conn.Change conn') : conn'.Quiet := by
  cases hchange with
  | deed hdeed =>
    cases hdeed with
    | write hstep =>
      rw [stepWriter_eq hstep]
      exact h
    | request =>
      rintro frame ⟨⟩
      exact textMethod?_reply _ _ _
    | respond | drained | broken => exact h
    | _ => nofun
  | reap | abort | report => nofun
  | _ => exact h

lemma Deed.texts_eq {c : Nat} {a : Action} {said : List Effect} (h : conn.Deed c a conn' said)
    (hquiet : conn.Quiet) (k : Nat) : texts (framesOn k said) = [] := by
  cases h with
  | @write _ written _ => cases written <;> rfl
  | reply hreader =>
    rcases eq_or_ne c k with rfl | hne
    · simp [texts_singleton (hquiet _ hreader)]
    · simp [framesOn_queued_of_ne hne, texts]
  | _ => rfl

end Connection

namespace State

/-- The frames that have been queued are all allowed, and nothing more is owed to the live
connection than goes with the stage of the call that has the lock. -/
structure Synced (w : State) (seen : List Effect) : Prop where
  sorted : w.documents.Sorted
  counted : Counted w.documents
  unused : ∀ {c : Nat}, w.connections.length ≤ c → texts (framesOn c seen) = []
  legal : ∀ c, (replay (framesOn c seen)).isSome = true
  owes : ∀ {c : Nat} {conn : Connection}, w.connections[c]? = some conn → conn.Serves →
    (holder w.line w.calls).Owes w.documents (framesOn c seen)

namespace Synced

variable {s : Setup} {w w' : State} {a : Action} {i c : Nat} {said seen : List Effect}
  {job : Job} {before after : Stage}

theorem initial : Synced .initial [] where
  sorted := Table.sorted_nil
  counted := nofun
  unused _ := rfl
  legal _ := rfl
  owes hc := by simp [State.initial] at hc

/-- A turn without a new connection. -/
lemma step (h : Synced w seen) (hturn : Turn s w a w' said)
    (hlength : w'.connections.length = w.connections.length) (hsorted : w'.documents.Sorted)
    (hcounted : Counted w'.documents)
    (hunused : ∀ c, w.connections.length ≤ c → texts (framesOn c said) = [])
    (hlegal : ∀ c, (replay (framesOn c seen ++ framesOn c said)).isSome = true)
    (howes : ∀ c conn, w.connections[c]? = some conn → conn.Serves →
      (∃ conn', w'.connections[c]? = some conn' ∧ conn'.Serves) →
      (holder w.line w.calls).Owes w.documents (framesOn c seen) →
      (holder w'.line w'.calls).Owes w'.documents (framesOn c seen ++ framesOn c said)) :
    Synced w' (seen ++ said) where
  sorted := hsorted
  counted := hcounted
  unused {c} hc := by
    rw [hlength] at hc
    simp [h.unused hc, hunused c hc]
  legal c := by simpa using hlegal c
  owes {c conn'} hc hserves := by
    rw [framesOn_append]
    obtain ⟨conn, hold, hchange⟩ | ⟨rfl, -⟩ := hturn.came hc
    · have hserved : conn.Serves := by
        rcases hchange with rfl | hchange
        · exact hserves
        · exact hchange.serves hserves
      exact howes c conn hold hserved ⟨conn', hc, hserves⟩ (h.owes hold hserved)
    · have hlt := (List.getElem?_eq_some_iff.mp hc).1
      omega

/-- A turn that queues nothing about documents. -/
lemma quietly (h : Synced w seen) (hturn : Turn s w a w' said)
    (hlength : w'.connections.length = w.connections.length) (hsorted : w'.documents.Sorted)
    (hcounted : Counted w'.documents) (hquiet : ∀ c, texts (framesOn c said) = [])
    (howes : ∀ c, (∃ conn', w'.connections[c]? = some conn' ∧ conn'.Serves) →
      (holder w.line w.calls).Owes w.documents (framesOn c seen) →
      (holder w'.line w'.calls).Owes w'.documents (framesOn c seen)) :
    Synced w' (seen ++ said) := by
  refine h.step hturn hlength hsorted hcounted (fun c _ => hquiet c) (fun c => ?_) ?_
  · rw [replay_append_of_texts (hquiet c)]
    exact h.legal c
  · intro c conn _ _ hserves hbefore
    exact (howes c hserves hbefore).append (hquiet c)

/-- The call that holds the lock goes on holding it. -/
lemma move (h : Synced w seen) (hturn : Turn s w a w' said) (hhead : w.line.head? = some i)
    (hi : w.calls[i]? = some ⟨job, before⟩) (hline : w'.line = w.line)
    (hcalls : w'.calls = moveCall w.calls i after)
    (hlength : w'.connections.length = w.connections.length) (hsorted : w'.documents.Sorted)
    (hcounted : Counted w'.documents) (hquiet : ∀ c, texts (framesOn c said) = [])
    (howes : ∀ frames, before.Owes w.documents frames → after.Owes w'.documents frames) :
    Synced w' (seen ++ said) := by
  refine h.quietly hturn hlength hsorted hcounted hquiet fun c _ hbefore => ?_
  rw [holder_of_head hhead hi] at hbefore
  rw [hline, hcalls, Ordered.holder_move_self hhead hi]
  exact howes _ hbefore

/-- The call that holds the lock gives it back. -/
lemma leave (h : Synced w seen) (hturn : Turn s w a w' said) (hsound : Sound True w)
    (hsound' : Sound True w') (hhead : w.line.head? = some i)
    (hi : w.calls[i]? = some ⟨job, before⟩) (hline : w'.line = w.line.erase i)
    (hcalls : w'.calls = moveCall w.calls i after) (hout : after.isInLine = false)
    (hlength : w'.connections.length = w.connections.length)
    (hdocuments : w'.documents = w.documents) (hquiet : ∀ c, texts (framesOn c said) = [])
    (howes : ∀ {c conn}, w'.slot = some c → w'.connections[c]? = some conn → conn.Serves →
      ∀ frames, before.Owes w.documents frames → replay frames = some (copies w.documents)) :
    Synced w' (seen ++ said) := by
  have hwaiting : holder w'.line w'.calls = .waiting := by
    rw [hline, hcalls, hsound.ordered.holder_leave hi hhead hout]
  refine h.quietly hturn hlength (hdocuments ▸ h.sorted) (hdocuments ▸ h.counted) hquiet ?_
  rintro c ⟨conn', hc', hserves⟩ hbefore
  rw [holder_of_head hhead hi] at hbefore
  have hslot : w'.slot = some c := by
    obtain ⟨live, halive, hfits⟩ := hsound'.fits
    rw [hwaiting] at hfits
    rw [← Idle.live_eq hfits, (halive.held_iff hc').mp hserves.1]
  rw [hwaiting, hdocuments]
  exact howes hslot hc' hserves _ hbefore

/-- What happens elsewhere than at the lock. -/
lemma elsewhere (h : Synced w seen) (hturn : Turn s w a w' said)
    (hholder : holder w'.line w'.calls = holder w.line w.calls)
    (hlength : w'.connections.length = w.connections.length)
    (hdocuments : w'.documents = w.documents) (hquiet : ∀ c, texts (framesOn c said) = []) :
    Synced w' (seen ++ said) := by
  refine h.quietly hturn hlength (hdocuments ▸ h.sorted) (hdocuments ▸ h.counted) hquiet ?_
  intro c _ hbefore
  rwa [hholder, hdocuments]

/-- The connection that a call has to itself is held, and no other is. -/
lemma held_iff_of_owned (hsound : Sound True w) (hhead : w.line.head? = some i)
    (hi : w.calls[i]? = some ⟨job, before⟩) {k : Nat} (howned : before.owned? = some k)
    {conn : Connection} (hc : w.connections[c]? = some conn) : conn.held = true ↔ k = c := by
  obtain ⟨live, halive, hfits⟩ := hsound.fits_of_head hhead hi
  have hlive := hfits.live_eq_or
  rw [hfits.slot_of_owned howned, howned, Option.none_or] at hlive
  rw [halive.held_iff hc, hlive, Option.some.injEq]

lemma exchange (h : Synced w seen) (hsound : Sound True w) (hi : w.calls[i]? = some ⟨job, before⟩)
    {k : Nat} {f : Connection → Connection} (hex : Exchange s w k before f after said)
    (hturn : Turn s w a ((w.modifyConnection k f).setStage i after) said) :
    Synced ((w.modifyConnection k f).setStage i after) (seen ++ said) := by
  have hhead := hsound.head_of_inside hi hex.inside.1
  have howes : ∀ {c conn}, w.connections[c]? = some conn → conn.Serves →
      after.Owes w.documents (framesOn c seen ++ framesOn c said) := by
    intro c conn hc hserves
    have hbefore := h.owes hc hserves
    rw [holder_of_head hhead hi] at hbefore
    obtain rfl := (held_iff_of_owned hsound hhead hi hex.owned hc).mp hserves.1
    exact hex.owes hc hserves.2 hbefore
  refine h.step hturn (List.length_modify ..) h.sorted h.counted (fun c hc => ?_) (fun c => ?_) ?_
  · rcases hex.texts_eq with hquiet | ⟨⟨conn, hk, -⟩, -, hother⟩
    · exact hquiet c
    · have hlt := (List.getElem?_eq_some_iff.mp hk).1
      simp [hother c (by omega), texts]
  · rcases hex.texts_eq with hquiet | ⟨⟨conn, hk, htakes⟩, ⟨rest, rfl⟩, hother⟩
    · rw [replay_append_of_texts (hquiet c)]
      exact h.legal c
    · rcases eq_or_ne c k with rfl | hne
      · have hheld := (held_iff_of_owned hsound hhead hi hex.owned hk).mpr rfl
        obtain ⟨done, hdone, hreopened⟩ := howes hk ⟨hheld, htakes.1⟩
        exact hreopened.legal hdone h.sorted
      · simpa [hother c hne] using h.legal c
  · intro c conn hc hserves _ _
    have hafter : holder w.line (moveCall w.calls i after) = after :=
      Ordered.holder_move_self hhead hi after
    have hgoal := howes hc hserves
    rwa [← hafter] at hgoal

lemma launched (h : Synced w seen) (hsound : Sound True w)
    (hi : w.calls[i]? = some ⟨job, .launching⟩) (room : Nat) :
    Synced ({ w with connections := w.connections ++ [Connection.fresh room] }.setStage i
      (.greeting w.connections.length)) seen := by
  have hhead := hsound.head_of_inside hi rfl
  refine ⟨h.sorted, h.counted, fun {c} hc => h.unused ?_, h.legal, fun {c conn} hc hserves => ?_⟩
  · have hlength : w.connections.length + 1 ≤ c := by simpa [setStage] using hc
    omega
  · have hnew : w.connections.length ≤ c := by
      by_contra hold
      have hc' : w.connections[c]? = some conn := by
        simpa [setStage, List.getElem?_append, Nat.lt_of_not_le hold] using hc
      obtain ⟨live, halive, -, -, hlive⟩ := hsound.fits_of_head hhead hi
      have hheld := (halive.held_iff hc').mp hserves.1
      rw [hlive] at hheld
      cases hheld
    have hgreeting : holder w.line (moveCall w.calls i (.greeting w.connections.length)) = _ :=
      Ordered.holder_move_self hhead hi _
    have hgoal : (Stage.greeting w.connections.length).Owes w.documents (framesOn c seen) :=
      h.unused hnew
    rwa [← hgreeting] at hgoal

/-- A notice is queued, and the documents are what it says. -/
lemma sent (h : Synced w seen) (hsound : Sound True w) {k : Nat} {notice : Notice}
    (hi : w.calls[i]? = some ⟨job, .sending k notice⟩) (htakes : w.Takes k) {w' : State}
    (hline : w'.line = w.line.erase i)
    (hcalls : w'.calls = moveCall w.calls i (notice.settled (.ok .sent)))
    (hlength : w'.connections.length = w.connections.length)
    (hdocuments : w'.documents = notice.apply w.documents)
    (hturn : Turn s w a w' [.queued k (.send notice.frame)]) :
    Synced w' (seen ++ [.queued k (.send notice.frame)]) := by
  have hhead := hsound.head_of_inside hi rfl
  obtain ⟨live, halive, -, -, rfl⟩ := hsound.fits_of_head hhead hi
  obtain ⟨conn, hk, hwriter⟩ := htakes
  have howes := h.owes hk ⟨(halive.held_iff hk).mpr rfl, hwriter.1⟩
  rw [holder_of_head hhead hi] at howes
  obtain ⟨hcounted, known, hknown, hhear⟩ := howes
  have hreplay : replay (framesOn k seen ++ [notice.frame]) =
      some (copies (notice.apply w.documents)) := by
    simp [replay_append, hknown, hhear]
  have hwaiting : holder w'.line w'.calls = .waiting := by
    rw [hline, hcalls, hsound.ordered.holder_leave hi hhead notice.isInLine_settled]
  refine h.step hturn hlength (hdocuments ▸ notice.sorted_apply h.sorted) (hdocuments ▸ hcounted)
    (fun c hc => ?_) (fun c => ?_) fun c conn' hc hserves _ _ => ?_
  · have hlt := (List.getElem?_eq_some_iff.mp hk).1
    simp [framesOn_queued_of_ne (c := c) (k := k) (by omega), texts]
  · rcases eq_or_ne k c with rfl | hne
    · simp [hreplay]
    · simpa [framesOn_queued_of_ne hne] using h.legal c
  · obtain rfl : k = c := Option.some.inj ((halive.held_iff hc).mp hserves.1)
    rw [hwaiting, hdocuments, framesOn_queued_self]
    exact hreplay

lemma advance (h : Synced w seen) (hsound : Sound True w) (hsound' : Sound True w')
    (hi : w.calls[i]? = some ⟨job, before⟩) (hadv : Advance s w i job a before w' said) :
    Synced w' (seen ++ said) := by
  have hturn : Turn s w a w' said := .advance hi hadv
  have hnothing : ∀ c, texts (framesOn c []) = [] := fun _ => rfl
  have hhead (hin : before.isInside = true) := hsound.head_of_inside hi hin
  have hne (hout : before.isInLine = false) := hsound.head_ne hi hout
  cases hadv with
  | exchange _ hex => exact h.exchange hsound hi hex hturn
  -- Elsewhere than at the lock.
  | outOfScope | told | heard | forget =>
    exact h.elsewhere hturn (hsound.ordered.holder_leave_of_ne (hne rfl) _) rfl rfl hnothing
  | refused stage _ hstage =>
    rcases hstage with rfl | ⟨rfl, hfirst⟩
    · exact h.elsewhere hturn (hsound.ordered.holder_leave_of_ne (hne rfl) _) rfl rfl hnothing
    · exact h.leave hturn hsound hsound' hfirst hi rfl rfl rfl rfl rfl hnothing
        fun _ _ _ _ hbefore => hbefore
  | enlist | deactivate | joined =>
    exact h.elsewhere hturn (hsound.ordered.holder_enlist hi rfl) rfl rfl hnothing
  | join | joinFirst =>
    exact h.elsewhere hturn (Ordered.holder_move_of_ne (hne rfl) _) rfl rfl hnothing
  -- With the lock.
  | ignored hfirst =>
    exact h.move hturn hfirst hi rfl rfl rfl h.sorted h.counted hnothing fun _ hbefore => hbefore
  | superseded hfirst | notOpen hfirst | stopIgnored hfirst =>
    exact h.leave hturn hsound hsound' hfirst hi rfl rfl rfl rfl rfl hnothing
      fun _ _ _ _ hbefore => hbefore
  | vacate hfirst | launch hfirst =>
    exact h.move hturn hfirst hi rfl rfl rfl h.sorted h.counted hnothing fun _ _ => trivial
  | stop hfirst | stopNobody hfirst =>
    exact h.move hturn hfirst hi rfl rfl rfl h.sorted h.counted hnothing fun _ _ => trivial
  | @notify opening doc text _ hfirst =>
    exact h.move hturn hfirst hi rfl rfl rfl h.sorted h.counted hnothing fun _ hbefore =>
      ⟨h.counted.sync doc text, _, hbefore, hear_sync h.counted doc text⟩
  | @notifyClosed doc _ hfirst _ hopen =>
    refine h.move hturn hfirst hi rfl rfl rfl (Table.sorted_erase h.sorted _)
      (h.counted.erase _) hnothing fun _ hbefore => ⟨?_, _, hbefore, ?_⟩
    · exact (h.counted.erase _).erase _
    · rw [hear_closed hopen]
      exact congrArg (some ∘ copies) (Table.erase_erase doc.uri w.documents).symm
  | notifyNobody hfirst hrunning hslot | closeNobody hfirst hrunning _ hslot =>
    obtain ⟨live, -, hidle⟩ := hsound.fits_of_head hfirst hi
    exact absurd (hidle.slotted (Phase.eq_running hrunning)) (by simp [hslot])
  -- On the way to a running session.
  | launched room =>
    rw [List.append_nil]
    exact h.launched hsound hi room
  | settle c =>
    exact h.move hturn (hhead rfl) hi rfl rfl rfl h.sorted h.counted hnothing
      fun _ hbefore => Reopened.replay_eq hbefore h.sorted
  | raise c | verify =>
    exact h.move hturn (hhead rfl) hi rfl rfl rfl h.sorted h.counted hnothing
      fun _ hbefore => hbefore
  | @lose _ c =>
    have hlost : (w.lose s c .processExited).1.line.head? = some i := by
      rw [line_lose]
      exact hhead rfl
    refine h.quietly hturn (congrArg List.length (connections_lose ..))
      (by simpa [setStage, documents_lose] using h.sorted)
      (by simpa [setStage, documents_lose] using h.counted) (fun k => ?_) fun k _ hbefore => ?_
    · simp [framesOn_lose, texts]
    · rw [holder_of_head (hhead rfl) hi] at hbefore
      have hstays : (w.lose s c .processExited).1.calls[i]? = _ := getElem?_calls_lose hi
      have hleaving := Ordered.holder_move_self hlost hstays (.leaving (.start (.ok ())))
      have hgoal : (Stage.leaving (.start (.ok ()))).Owes (w.lose s c .processExited).1.documents
          (framesOn k seen) := by
        rw [documents_lose]
        exact hbefore
      rwa [← hleaving] at hgoal
  | leave outcome =>
    exact h.leave hturn hsound hsound' (hhead rfl) hi rfl rfl rfl rfl rfl hnothing
      fun _ _ _ _ hbefore => hbefore
  -- On the way out.
  | reaped | conclude | relaunch | aborted =>
    refine h.move hturn (hhead rfl) hi rfl rfl ?_ h.sorted h.counted hnothing fun _ _ => trivial
    first | rfl | exact List.length_modify ..
  | launchFailed =>
    obtain ⟨live, -, -, hslot, -⟩ := hsound.fits_of_inside hi rfl
    exact h.leave hturn hsound hsound' (hhead rfl) hi rfl rfl rfl rfl rfl hnothing
      fun hslot' => absurd (hslot.symm.trans hslot') (by simp)
  | purge =>
    obtain ⟨live, -, -, hslot, -⟩ := hsound.fits_of_inside hi rfl
    exact h.leave hturn hsound hsound' (hhead rfl) hi rfl rfl rfl rfl rfl hnothing
      fun hslot' => absurd (hslot.symm.trans hslot') (by simp)
  | refuse =>
    obtain ⟨live, -, -, hslot, -⟩ := hsound.fits_of_inside hi rfl
    exact h.leave hturn hsound hsound' (hhead rfl) hi rfl rfl rfl (List.length_modify ..) rfl
      hnothing fun hslot' => absurd (hslot.symm.trans hslot') (by simp)
  -- With a notice.
  | sent notice htakes =>
    exact h.sent hsound hi htakes rfl rfl (List.length_modify ..) rfl hturn
  | unsent notice hrefuses =>
    obtain ⟨live, -, -, hslot, -⟩ := hsound.fits_of_inside hi rfl
    refine h.leave hturn hsound hsound' (hhead rfl) hi rfl rfl notice.isInLine_settled rfl rfl
      hnothing ?_
    intro c conn hslot' hc hserves
    obtain rfl := Option.some.inj (hslot.symm.trans hslot')
    have hended := hrefuses conn hc
    simp [hserves.2] at hended

/-- A call that is given up before it uses the lock owes nothing. -/
lemma drop (h : Synced w seen) (hsound : Sound True w)
    (hsound' : Sound True (w.drop i ⟨job, before⟩).1) (hi : w.calls[i]? = some ⟨job, before⟩)
    (hout : before.isInside = false) (hturn : Turn s w a (w.drop i ⟨job, before⟩).1 []) :
    Synced (w.drop i ⟨job, before⟩).1 (seen ++ []) := by
  have hnothing : ∀ c, texts (framesOn c []) = [] := fun _ => rfl
  rw [drop_of_not_owned (Stage.owned?_eq_none hout)] at hsound' hturn ⊢
  by_cases hhead : w.line.head? = some i
  · refine h.leave hturn hsound hsound' hhead hi rfl rfl rfl rfl rfl hnothing ?_
    intro _ _ _ _ _ frames hbefore
    cases before <;> first | exact hbefore | cases hout
  · exact h.elsewhere hturn (hsound.ordered.holder_leave_of_ne hhead _) rfl rfl hnothing

theorem turn (h : Synced w seen) (hsound : Sound True w) (hsound' : Sound True w')
    (hquiet : ∀ {c : Nat} {conn : Connection}, w.connections[c]? = some conn → conn.Quiet)
    (hturn : Turn s w a w' said) (hwhole : ∀ call, ¬w.Interrupts a call) :
    Synced w' (seen ++ said) := by
  have hnothing : ∀ c, texts (framesOn c []) = [] := fun _ => rfl
  have hturn' := hturn
  cases hturn with
  | call job =>
    exact h.elsewhere hturn' (hsound.ordered.holder_begin job) rfl rfl hnothing
  | activate =>
    exact h.elsewhere hturn' (hsound.ordered.holder_begin .start) rfl rfl hnothing
  | poll | overlook => exact h.elsewhere hturn' rfl rfl rfl hnothing
  | @drop i call hi =>
    have hout : call.stage.isInside = false := isInside_of_not_interrupts hwhole hi
    exact h.drop hsound hsound' hi hout hturn'
  | advance hi hadv => exact h.advance hsound hsound' hi hadv
  | deed hc hdeed =>
    exact h.elsewhere hturn' rfl (List.length_modify ..) rfl (hdeed.texts_eq (hquiet hc))
  | publish =>
    rw [emit_fst] at hturn' ⊢
    exact h.elsewhere hturn' rfl rfl rfl fun _ => rfl
  | @report c _ failure =>
    have hended : Ordered (w.modifyConnection c Connection.endReader).line
        (w.modifyConnection c Connection.endReader).calls := hsound.ordered
    refine h.elsewhere hturn' (holder_lose hended) ?_ ?_ fun k => ?_
    · rw [connections_lose]
      exact List.length_modify ..
    · rw [documents_lose]
      rfl
    · rw [framesOn_lose]
      rfl

end Synced

end State

namespace Run

variable {s : Setup} {past : List Moment} {w : State}

theorem quiet (h : Run s past w) {c : Nat} {conn : Connection}
    (hc : w.connections[c]? = some conn) : conn.Quiet :=
  h.every Connection.Quiet.fresh (fun _ _ hquiet hchange => hquiet.change hchange) hc

theorem synced (h : Run s past w) (hwhole : ∀ m ∈ past, ∀ call, ¬m.interrupts call) :
    State.Synced w (news (seen past)) := by
  refine induction_of_whole (P := fun past w => State.Synced w (news (seen past))) .initial ?_ h
    hwhole
  intro past w w' a said hrun hsynced hsound hsound' hturn hlast
  rw [seen_append, news_append, seen_singleton]
  exact hsynced.turn hsound hsound' hrun.quiet hturn hlast

/--
In a run that gives up no call that uses the lock, every frame about documents on every connection
is one that a server allows. While nobody has the lock and the session is running, what the server
knows of once it has read all that its writer was given is the documents of the session. These are
what the answers of document calls amount to, and the answers are those of the calls, each once. On
a new connection there is one opening for each of the documents, in whatever order, after the
handshake.
-/
theorem documents_synced (h : Run s past w) (hwhole : ∀ m ∈ past, ∀ call, ¬m.interrupts call) :
    (∀ c, (replay (framesOn c (seen past))).isSome = true) ∧
    (w.isFree = true → w.phase = .running → ∃ c conn, w.slot = some c ∧
      w.connections[c]? = some conn ∧ (conn.writer.hasEnded = false →
        replay (framesOn c (seen past)) = some (copies w.documents))) ∧
    (w.isFree = true → w.documents = effects (answers past)) ∧
    (answers past).Perm (callAnswers w.calls) ∧
    ∀ (i : Nat) (job : Job) (c : Nat) (conn : Connection),
      w.calls[i]? = some ⟨job, .settling c⟩ → w.connections[c]? = some conn →
      conn.writer.hasEnded = false →
      Reopened (framesOn c (seen past)) w.documents ∧ w.documents = effects (answers past) := by
  have hsound : State.Sound True w := h.sound_of_whole hwhole
  have hsynced : State.Synced w (news (seen past)) := h.synced hwhole
  have hrecorded : State.Recorded w (effects (answers past)) := h.recorded hwhole
  have hwaiting (hfree : w.isFree = true) : State.holder w.line w.calls = .waiting := by
    have hline : w.line = [] := by simpa [State.isFree] using hfree
    simp [State.holder, hline]
  refine ⟨fun c => ?_, fun hfree hrunning => ?_, fun hfree => ?_, h.perm_answers, ?_⟩
  · rw [← framesOn_news]
    exact hsynced.legal c
  · obtain ⟨live, -, hidle⟩ := hsound.idle_of_free hfree
    obtain ⟨c, hslot⟩ := Option.isSome_iff_exists.mp (hidle.slotted hrunning)
    have halive : Alive w.connections (some c) := hsound.alive_of_slot hslot
    have hlt : c < w.connections.length := by
      have hnewest := halive.newest rfl
      omega
    have hc : w.connections[c]? = some w.connections[c] := List.getElem?_eq_getElem hlt
    refine ⟨c, _, hslot, hc, fun hwriter => ?_⟩
    have howes := hsynced.owes hc ⟨(halive.held_iff hc).mpr rfl, hwriter⟩
    rwa [hwaiting hfree, framesOn_news] at howes
  · exact hrecorded.idle (by rw [hwaiting hfree]; rfl)
  · intro i job c conn hi hc hwriter
    have hhead : w.line.head? = some i := hsound.head_of_inside hi rfl
    have hholder : State.holder w.line w.calls = .settling c := State.holder_of_head hhead hi
    have hheld : conn.held = true := (State.Synced.held_iff_of_owned hsound hhead hi rfl hc).mpr rfl
    have howes := hsynced.owes hc ⟨hheld, hwriter⟩
    rw [hholder, framesOn_news] at howes
    exact ⟨howes, hrecorded.idle (by rw [hholder]; rfl)⟩

/-- A document is opened and then changed. -/
theorem documents_synced_changed :
    ∃ past w conn, Run .stock past w ∧ (∀ m ∈ past, ∀ call, ¬m.interrupts call) ∧
      w.isFree = true ∧ w.phase = .running ∧ w.slot = some 0 ∧ w.connections[0]? = some conn ∧
      conn.writer.hasEnded = false ∧ w.documents = [("file:///a", ⟨"yaml", 2, "b"⟩)] ∧
      replay (framesOn 0 (seen past)) = some [("file:///a", ⟨2, "b"⟩)] ∧
      effects (answers past) = [("file:///a", ⟨"yaml", 2, "b"⟩)] := by
  obtain ⟨past, w, conn, hplay, hfree, hrunning, hslot, hc, hwriter, hdocuments⟩ :
      ∃ past w, ∃ conn : Connection,
        State.initial.play .stock (Action.firstStart ++
          Action.call (.sync true ⟨"file:///a", "file", "yaml"⟩ "a") ::
            List.replicate 3 (Action.proceed 1) ++
          Action.call (.sync false ⟨"file:///a", "file", "yaml"⟩ "b") ::
            List.replicate 3 (Action.proceed 2)) =
            some (past, w) ∧
        w.isFree = true ∧ w.phase = .running ∧ w.slot = some 0 ∧ w.connections[0]? = some conn ∧
        conn.writer.hasEnded = false ∧ w.documents = [("file:///a", ⟨"yaml", 2, "b"⟩)] :=
    ⟨_, _, _, rfl, rfl, rfl, rfl, rfl, rfl, rfl⟩
  have hwhole := not_interrupts_of_play hplay (by simp [Action.firstStart])
  obtain ⟨-, hknown, heffects, -⟩ := (of_play hplay).documents_synced hwhole
  obtain ⟨c, conn', hslot', hc', hreplay⟩ := hknown hfree hrunning
  obtain rfl := Option.some.inj (hslot.symm.trans hslot')
  obtain rfl := Option.some.inj (hc.symm.trans hc')
  refine ⟨past, w, conn, of_play hplay, hwhole, hfree, hrunning, hslot, hc, hwriter, hdocuments,
    ?_, ?_⟩
  · rw [hreplay hwriter, hdocuments]
    rfl
  · rw [← heffects hfree, hdocuments]

/-- The document that was opened last is the first to be opened again. -/
example : ∃ past w, State.initial.play .stock (Action.firstStart ++
    Action.opening 1 "file:///a" ++ Action.opening 2 "file:///b" ++ Action.lose 0 ++
    Action.relaunching 3 ++ Action.launched 3 (.ok 4096) :: Action.greeting 3 1 ++
    [Action.reopen 3 1, .reopen 3 0, .proceed 3]) = some (past, w) ∧
    w.calls[3]? = some ⟨.start, .settling 1⟩ ∧
    w.documents = [("file:///a", ⟨"yaml", 1, ""⟩), ("file:///b", ⟨"yaml", 1, ""⟩)] ∧
    texts (framesOn 1 (seen past)) = [openingFrame ("file:///b", ⟨"yaml", 1, ""⟩),
      openingFrame ("file:///a", ⟨"yaml", 1, ""⟩)] :=
  ⟨_, _, rfl, rfl, rfl, rfl⟩

end Run

end LanguageClient
