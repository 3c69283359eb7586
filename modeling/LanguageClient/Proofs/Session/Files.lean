import LanguageClient.Proofs.Selector.Paths
import LanguageClient.Proofs.Session.Scope

/-!
# Documents that are files

What a session knows of a document changes only in the calls about that document:
`Run.find?_documents_of_ne`. The URI of a file tells which one it is, so what is done with one file
changes nothing of what the session knows of another: `Uri.ofPath_identifies`.
-/

namespace LanguageClient

/-- A notice is about one document. -/
lemma Notice.find?_apply_of_ne {uri : String} (notice : Notice) (documents : Table OpenDocument)
    (h : notice.uri ≠ uri) : (notice.apply documents).find? uri = documents.find? uri := by
  cases notice with
  | opened other doc | changed other doc => exact (Table.find?_insert ..).trans (if_neg h)
  | closed other => exact (Table.find?_erase ..).trans (if_neg h)

namespace State

variable {s : Setup} {w w' : State} {a : Action} {i : Nat} {said : List Effect} {job : Job}
  {stage : Stage} {uri : String}

/-- A call changes what the session knows of its own document only. -/
lemma Advance.find?_documents_of_ne (h : Advance s w i job a stage w' said)
    (hsends : ∀ {c : Nat} {notice : Notice}, stage = .sending c notice → job.Sends notice)
    (hother : ∀ doc, job.document? = some doc → doc.uri ≠ uri) :
    w'.documents.find? uri = w.documents.find? uri := by
  cases h with
  | notifyClosed | closeNobody => exact (Table.find?_erase ..).trans (if_neg (hother _ rfl))
  | sent notice =>
    obtain ⟨doc, hdoc, huri⟩ := (hsends rfl).uri
    exact notice.find?_apply_of_ne w.documents (huri ▸ hother doc hdoc)
  | lose => rw [setStage, documents_lose]
  | _ => rfl

/-- A session comes to know something else of a document only in the turn of a call about it. -/
lemma Turn.find?_documents_of_ne (h : Turn s w a w' said)
    (hsends : ∀ {i c : Nat} {job : Job} {notice : Notice},
      w.calls[i]? = some ⟨job, .sending c notice⟩ → job.Sends notice)
    (hother : ∀ i call doc, a.caller? = some i → w.calls[i]? = some call →
      call.job.document? = some doc → doc.uri ≠ uri) :
    w'.documents.find? uri = w.documents.find? uri := by
  cases h with
  | drop =>
    unfold State.drop
    split <;> rfl
  | advance hi hadv =>
    exact hadv.find?_documents_of_ne (fun hstage => hsends (hstage ▸ hi))
      fun doc hdoc => hother _ _ doc hadv.caller hi hdoc
  | publish => rw [emit_fst]
  | report =>
    rw [documents_lose]
    rfl
  | _ => rfl

end State

namespace Run

variable {s : Setup} {past : List Moment} {w : State} {m : Moment} {uri : String}

/-- What a session knows of a document stays as it is, but for the calls about that document. -/
lemma find?_documents_of_ne (h : Run s past w) (hm : m ∈ past)
    (hother : ∀ i call doc, m.action.caller? = some i → m.before.calls[i]? = some call →
      call.job.document? = some doc → doc.uri ≠ uri) :
    m.after.documents.find? uri = m.before.documents.find? uri := by
  obtain ⟨earlier, later, rfl⟩ := List.mem_iff_append.mp hm
  obtain ⟨hrun, hstep⟩ := h.of_split
  exact (State.Turn.of_step hstep).find?_documents_of_ne hrun.sends hother

end Run

namespace Uri

/--
Absolute paths have a URI, and no others do. It is a document's, of a file, and is kept as it is;
its parts between slashes read back as the components of the path, but that the root has an empty
part in their place. So paths with different components have different URIs, and no call about the
file at one changes what a session knows of the other.
-/
theorem ofPath_identifies (path : List Char) :
    ((∃ uri, ofPath path = some uri) ↔ Path.isAbsolute path = true) ∧
    ∀ uri, ofPath path = some uri →
      (∀ languageId, Document.ofUri (String.ofList uri) languageId =
        some ⟨String.ofList uri, "file", languageId⟩) ∧
      (∃ text, uri = fileScheme ++ text ∧
        ((Text.splitOn '/' text).map decode = [] :: (Path.components path).map bytesOf ∨
          Path.components path = [] ∧ text = ['/'])) ∧
      ∀ other uri', ofPath other = some uri' →
        (uri' = uri ↔ Path.components other = Path.components path) ∧
        (Path.components other ≠ Path.components path → ∀ s past w, Run s past w → ∀ m ∈ past,
          ∀ i call doc, m.action.caller? = some i → m.before.calls[i]? = some call →
            call.job.document? = some doc → doc.uri = String.ofList uri' →
              m.after.documents.find? (String.ofList uri) =
                m.before.documents.find? (String.ofList uri)) := by
  refine ⟨by simp [ofPath_eq_some_iff], fun uri huri => ⟨Document.ofUri_ofPath huri, ?_, ?_⟩⟩
  · obtain ⟨-, rfl⟩ := ofPath_eq_some_iff.mp huri
    refine ⟨_, rfl, ?_⟩
    rcases segmentsOf_cases path with ⟨hcomponents, h⟩ | ⟨-, h⟩
    · exact .inr ⟨hcomponents, by rw [h]; rfl⟩
    · left
      rw [splitOn_segmentsOf, h, List.map_cons, map_decode_segment, decode]
  · intro other uri' hother
    have hsame : uri' = uri ↔ Path.components other = Path.components path :=
      ofPath_eq_iff hother huri
    refine ⟨hsame, fun hne s past w hrun m hm i call doc hcaller hi hdoc heq => ?_⟩
    refine hrun.find?_documents_of_ne hm fun j call' doc' hcaller' hj hdoc' => ?_
    obtain rfl := Option.some.inj (hcaller.symm.trans hcaller')
    obtain rfl := Option.some.inj (hi.symm.trans hj)
    obtain rfl := Option.some.inj (hdoc.symm.trans hdoc')
    rw [heq]
    exact fun hmatch => hne (hsame.mp (String.ofList_injective hmatch))

/-- A blank in one name, and in the other what a blank is encoded as. -/
theorem ofPath_identifies_escaped :
    ∃ uri uri', ofPath "/a b".toList = some uri ∧ ofPath "/a%20b".toList = some uri' ∧
      uri' ≠ uri ∧ ∃ past w, Run .stock past w ∧ ∃ m ∈ past,
        (m.before.documents.find? (String.ofList uri)).isSome ∧
        m.after.documents.find? (String.ofList uri') ≠
          m.before.documents.find? (String.ofList uri') ∧
        m.after.documents.find? (String.ofList uri) =
          m.before.documents.find? (String.ofList uri) := by
  obtain ⟨past, w, m, call, doc, hplay, hlast, hcaller, hi, hdoc, huri, hknown, hchanged⟩ :
      ∃ past w m call doc, State.initial.play .stock (Action.firstStart ++
          [Action.call (.sync true ⟨"file:///a%20b", "file", "yaml"⟩ "a"), .proceed 1, .proceed 1,
            .proceed 1, .call (.sync true ⟨"file:///a%2520b", "file", "yaml"⟩ "b"), .proceed 2,
            .proceed 2, .proceed 2]) = some (past, w) ∧
        past.getLast? = some m ∧ m.action.caller? = some 2 ∧ m.before.calls[2]? = some call ∧
        call.job.document? = some doc ∧ doc.uri = "file:///a%2520b" ∧
        (m.before.documents.find? "file:///a%20b").isSome ∧
        m.after.documents.find? "file:///a%2520b" ≠
          m.before.documents.find? "file:///a%2520b" := by
    refine ⟨_, _, _, _, _, rfl, rfl, rfl, rfl, rfl, rfl, rfl, ?_⟩
    decide
  have hm := List.mem_of_getLast? hlast
  have hne : Path.components "/a%20b".toList ≠ Path.components "/a b".toList := by decide
  obtain ⟨-, -, hothers⟩ := (ofPath_identifies "/a b".toList).2 "file:///a%20b".toList rfl
  obtain ⟨hsame, hkept⟩ := hothers "/a%20b".toList "file:///a%2520b".toList rfl
  exact ⟨_, _, rfl, rfl, mt hsame.mp hne, past, w, .of_play hplay, m, hm, hknown, hchanged,
    hkept hne .stock past w (.of_play hplay) m hm 2 call doc hcaller hi hdoc huri⟩

end Uri

end LanguageClient
