import LanguageClient.Session.Calls
import LanguageClient.Proofs.Message.Fields
import Mathlib.Data.List.Induction

/-!
# Documents as a server knows them

A server learns of documents from the frames whose method begins with `textDocument/`. `replay`
reads the frames of a connection the way the protocol asks a server to, and comes to nothing at the
first that it forbids. A notice of the client does to the server's copies what it does to the
client's documents: `hear_sync` and `hear_closed`. When documents are opened, one after the other,
their order makes no difference: `replay_opened_of_perm`.
-/

namespace LanguageClient

/-- A document as a server knows it. -/
structure Copy where
  version : Int
  text : String
  deriving DecidableEq, Repr

/-- What a frame tells a server about a document. -/
inductive Told
  | opened (uri : String) (copy : Copy)
  | changed (uri : String) (copy : Copy)
  | closed (uri : String)
  deriving DecidableEq

namespace Told

def uri? (doc : Json) : Option String := (doc.get? "uri").bind Json.str?

def version? (doc : Json) : Option Int :=
  match doc.get? "version" with
  | some (.int version) => some version
  | _ => none

def text? (doc : Json) : Option String := (doc.get? "text").bind Json.str?

/-- The text after the changes of a document, which are one change of all of it. -/
def changedText? (params : Json) : Option String := do
  match (params.get? "contentChanges").bind Json.items? with
  | some [change] => text? change
  | _ => none

/-- Read the parameters of a method; nothing when they are not what the method asks for. -/
def read (method : String) (params : Json) : Option Told := do
  let doc ← params.get? "textDocument"
  let uri ← uri? doc
  if method = "textDocument/didOpen" then return .opened uri ⟨← version? doc, ← text? doc⟩
  else if method = "textDocument/didChange" then
    return .changed uri ⟨← version? doc, ← changedText? params⟩
  else if method = "textDocument/didClose" then return .closed uri
  else none

/-- A document is opened when it is not open, changed and closed when it is, and a change has a
larger version, or the largest there is. -/
def follow (known : Table Copy) : Told → Option (Table Copy)
  | .opened uri copy => if (known.find? uri).isSome then none else some (known.insert uri copy)
  | .changed uri copy =>
    match known.find? uri with
    | some old =>
      if old.version < copy.version ||
        (old.version = copy.version && copy.version = OpenDocument.maxVersion)
      then some (known.insert uri copy)
      else none
    | none => none
  | .closed uri => if (known.find? uri).isSome then some (known.erase uri) else none

end Told

/-- The method of a frame about documents. -/
def textMethod? (frame : Json) : Option String := do
  let method ← (frame.get? "method").bind Json.str?
  if "textDocument/".toList.isPrefixOf method.toList then some method else none

/-- What a server knows once it has read a frame; nothing when the frame is not allowed. -/
def hear (known : Table Copy) (frame : Json) : Option (Table Copy) :=
  match textMethod? frame with
  | none => some known
  | some method => do (← Told.read method (← frame.get? "params")).follow known

/-- What a server knows that has read frames from the first on. -/
def replay (frames : List Json) : Option (Table Copy) := frames.foldlM hear []

lemma replay_append (frames later : List Json) :
    replay (frames ++ later) = (replay frames).bind fun known => later.foldlM hear known :=
  List.foldlM_append

/-! ### The client's side -/

/-- What the documents of a client are to a server. -/
def copies (documents : Table OpenDocument) : Table Copy :=
  documents.map fun e => (e.1, ⟨e.2.version, e.2.text⟩)

@[simp] lemma copies_append (documents later : Table OpenDocument) :
    copies (documents ++ later) = copies documents ++ copies later := List.map_append

@[simp] lemma copies_singleton (e : String × OpenDocument) :
    copies [e] = [(e.1, ⟨e.2.version, e.2.text⟩)] := rfl

lemma find?_copies (uri : String) (documents : Table OpenDocument) :
    (copies documents).find? uri =
      (documents.find? uri).map fun doc => (⟨doc.version, doc.text⟩ : Copy) := by
  induction documents with
  | nil => rfl
  | cons e rest ih =>
    by_cases he : e.1 = uri
    · simp [copies, Table.find?, he]
    · simpa [copies, Table.find?, he] using ih

lemma copies_insert (uri : String) (doc : OpenDocument) (documents : Table OpenDocument) :
    copies (documents.insert uri doc) = (copies documents).insert uri ⟨doc.version, doc.text⟩ := by
  induction documents with
  | nil => rfl
  | cons e rest ih =>
    by_cases hlt : uri < e.1
    · simp [copies, Table.insert, hlt]
    · by_cases he : uri = e.1
      · simp [copies, Table.insert, he]
      · simpa [copies, Table.insert, hlt, he] using ih

lemma copies_erase (uri : String) (documents : Table OpenDocument) :
    copies (documents.erase uri) = (copies documents).erase uri := by
  simp only [copies, Table.erase, List.filter_map]
  rfl

/-! ### Frames -/

/-- What a notice tells a server. -/
def Notice.told : Notice → Told
  | .opened uri doc => .opened uri ⟨doc.version, doc.text⟩
  | .changed uri doc => .changed uri ⟨doc.version, doc.text⟩
  | .closed uri => .closed uri

lemma textMethod?_eq {frame : Json} {method : String}
    (h : frame.get? "method" = some (.str method)) :
    textMethod? frame =
      if "textDocument/".toList.isPrefixOf method.toList then some method else none := by
  rw [textMethod?, h]
  rfl

lemma textMethod?_notice (notice : Notice) : textMethod? notice.frame = some notice.method := by
  have hprefix : "textDocument/".toList.isPrefixOf notice.method.toList = true := by
    cases notice <;> simp only [Notice.method] <;> decide
  have hmethod : notice.frame.get? "method" = some (.str notice.method) :=
    get?_method_notification notice.method notice.params
  rw [textMethod?_eq hmethod, if_pos hprefix]

lemma read_notice (notice : Notice) :
    Told.read notice.method notice.params = some notice.told := by
  cases notice <;>
    simp [Told.read, Told.uri?, Told.version?, Told.text?, Told.changedText?, Notice.method,
      Notice.params, Notice.told, Message.didOpenParams, Message.didChangeParams,
      Message.didCloseParams, Json.ofFields, Json.get?, Json.str?, Json.items?, Table.find?_insert]

lemma hear_notice (known : Table Copy) (notice : Notice) :
    hear known notice.frame = notice.told.follow known := by
  have hparams : notice.frame.get? "params" = some notice.params :=
    get?_params_notification notice.method notice.params
  simp [hear, textMethod?_notice, hparams, read_notice]

/-! ### Frames that are not about documents -/

lemma textMethod?_reply (id : Json) (method : String) (params : Option Json) :
    textMethod? (Message.reply id method params) = none := by
  rw [textMethod?, get?_method_reply]
  rfl

lemma textMethod?_requestFrame (s : Setup) (id : Nat) (ask : Ask) :
    textMethod? (State.requestFrame s id ask) = none := by
  have hmethod : (State.requestFrame s id ask).get? "method" = some (.str ask.method) := by
    cases ask <;> exact get?_method_request _ _ _
  have hprefix : "textDocument/".toList.isPrefixOf ask.method.toList = false := by
    cases ask <;> decide
  rw [textMethod?_eq hmethod, hprefix]
  rfl

lemma textMethod?_initialized :
    textMethod? (Message.notification "initialized" (some (.obj []))) = none := by
  have hprefix : "textDocument/".toList.isPrefixOf "initialized".toList = false := by decide
  rw [textMethod?_eq (get?_method_notification _ _), hprefix]
  rfl

lemma textMethod?_exit : textMethod? (Message.notification "exit" none) = none := by
  have hprefix : "textDocument/".toList.isPrefixOf "exit".toList = false := by decide
  rw [textMethod?_eq (get?_method_notification _ _), hprefix]
  rfl

lemma hear_of_textMethod?_eq_none {frame : Json} (h : textMethod? frame = none)
    (known : Table Copy) : hear known frame = some known := by
  simp [hear, h]

/-- Only the frames about documents count. -/
lemma replay_eq_filter (frames : List Json) (known : Table Copy) :
    frames.foldlM hear known =
      (frames.filter fun f => (textMethod? f).isSome).foldlM hear known := by
  induction frames generalizing known with
  | nil => rfl
  | cons f rest ih =>
    cases hf : textMethod? f with
    | none =>
      simp only [List.foldlM_cons, hear_of_textMethod?_eq_none hf, List.filter_cons, hf]
      exact ih known
    | some method =>
      simp only [List.filter_cons, hf, Option.isSome_some, if_true, List.foldlM_cons]
      exact bind_congr ih

/-- The frames about documents. -/
def texts (frames : List Json) : List Json := frames.filter fun f => (textMethod? f).isSome

@[simp] lemma texts_append (frames later : List Json) :
    texts (frames ++ later) = texts frames ++ texts later := List.filter_append ..

lemma replay_texts (frames : List Json) : replay (texts frames) = replay frames :=
  (replay_eq_filter frames []).symm

lemma texts_singleton {frame : Json} (h : textMethod? frame = none) : texts [frame] = [] := by
  simp [texts, h]

lemma replay_append_of_texts {frames later : List Json} (hlater : texts later = []) :
    replay (frames ++ later) = replay frames := by
  rw [← replay_texts, texts_append, hlater, List.append_nil, replay_texts]

/-! ### Notices that are allowed -/

/-- The versions of documents that are being counted. -/
def Counted (documents : Table OpenDocument) : Prop :=
  ∀ e ∈ documents, e.2.version ≤ OpenDocument.maxVersion

lemma Counted.insert {documents : Table OpenDocument} (h : Counted documents) (uri : String)
    {doc : OpenDocument} (hdoc : doc.version ≤ OpenDocument.maxVersion) :
    Counted (documents.insert uri doc) := by
  intro e he
  rcases Table.of_mem_insert he with rfl | he
  · exact hdoc
  · exact h e he

lemma Counted.erase {documents : Table OpenDocument} (h : Counted documents) (uri : String) :
    Counted (documents.erase uri) := fun e he => h e (List.mem_filter.mp he).1

lemma Counted.sync {documents : Table OpenDocument} (h : Counted documents) (doc : Document)
    (text : String) : Counted ((Notice.sync documents doc text).apply documents) := by
  unfold Notice.sync
  split
  · exact h.insert _ (Int.min_le_right _ _)
  · exact h.insert _ (by simp [OpenDocument.maxVersion])

lemma Notice.sorted_apply {documents : Table OpenDocument} (h : documents.Sorted)
    (notice : Notice) : (notice.apply documents).Sorted := by
  cases notice with
  | opened | changed => exact Table.sorted_insert h _ _
  | closed => exact Table.sorted_erase h _

/-- A version grows until it is the largest. -/
lemma OpenDocument.grows {version : Int} (h : version ≤ maxVersion) :
    version < nextVersion version ∨
      version = nextVersion version ∧ nextVersion version = maxVersion := by
  unfold nextVersion
  omega

/-- The notice that brings a text up to date is one that a server allows, and brings its copies up
to date as well. -/
lemma hear_sync {documents : Table OpenDocument} (hcounted : Counted documents) (doc : Document)
    (text : String) :
    hear (copies documents) (Notice.sync documents doc text).frame =
      some (copies ((Notice.sync documents doc text).apply documents)) := by
  rw [hear_notice]
  cases hfind : documents.find? doc.uri with
  | none =>
    simp [Notice.sync, hfind, Notice.told, Told.follow, find?_copies, Notice.apply, copies_insert]
  | some old =>
    have hold : old.version ≤ OpenDocument.maxVersion := hcounted _ (Table.mem_of_find? hfind)
    have hgrows := OpenDocument.grows hold
    simp [Notice.sync, hfind, Notice.told, Told.follow, find?_copies, Notice.apply, copies_insert,
      hgrows]

lemma hear_closed {documents : Table OpenDocument} {uri : String}
    (hopen : (documents.find? uri).isSome = true) :
    hear (copies documents) (Notice.closed uri).frame = some (copies (documents.erase uri)) := by
  rw [hear_notice]
  simp [Notice.told, Told.follow, find?_copies, hopen, copies_erase]

/-- Documents are opened one after another, each once: a server allows it and knows them all. -/
lemma replay_opened {opened : Table OpenDocument} (hkeys : (opened.map (·.1)).Nodup) :
    ∃ known : Table Copy, replay (opened.map fun e => (Notice.opened e.1 e.2).frame) = some known ∧
      known.Sorted ∧ known.Perm (copies opened) := by
  induction opened using List.reverseRecOn with
  | nil => exact ⟨[], rfl, Table.sorted_nil, .refl _⟩
  | append_singleton done e ih =>
    rw [List.map_append] at hkeys
    obtain ⟨hdone, -, hother⟩ := List.nodup_append.mp hkeys
    obtain ⟨known, hknown, hsorted, hperm⟩ := ih hdone
    have hnew : ∀ k ∈ known, k.1 ≠ e.1 := by
      intro k hk
      obtain ⟨d, hd, rfl⟩ := List.mem_map.mp (hperm.mem_iff.mp hk)
      exact hother d.1 (List.mem_map_of_mem hd) e.1 (List.mem_singleton_self e.1)
    refine ⟨known.insert e.1 ⟨e.2.version, e.2.text⟩, ?_, Table.sorted_insert hsorted _ _, ?_⟩
    · have hunknown : known.find? e.1 = none := Table.find?_eq_none hnew
      rw [List.map_append, replay_append, hknown]
      simp [hear_notice, Notice.told, Told.follow, hunknown]
    · rw [copies_append, copies_singleton]
      exact (Table.perm_insert hnew _).trans
        ((hperm.cons _).trans (List.perm_append_singleton _ _).symm)

lemma sorted_copies {documents : Table OpenDocument} (h : documents.Sorted) :
    (copies documents).Sorted := List.pairwise_map.mpr h

/-- In which order documents are opened makes no difference in the end. -/
lemma replay_opened_of_perm {documents opened : Table OpenDocument} (hsorted : documents.Sorted)
    (hperm : opened.Perm documents) :
    replay (opened.map fun e => (Notice.opened e.1 e.2).frame) = some (copies documents) := by
  have hkeys : (opened.map (·.1)).Nodup := (hperm.map (·.1)).nodup_iff.mpr hsorted.nodup_keys
  obtain ⟨known, hknown, hin, hcopies⟩ := replay_opened hkeys
  have hsame : known = copies documents :=
    hin.eq_of_perm (sorted_copies hsorted) (hcopies.trans (hperm.map _))
  rw [hknown, hsame]

end LanguageClient
