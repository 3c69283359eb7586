import LanguageClient.Proofs.Uri.Percent
import LanguageClient.Uri.FilePath
import Mathlib.Data.List.Basic
import Mathlib.Data.List.TakeWhile

/-!
# URIs of files

The URI of an absolute path has a segment for each component, and the segments read back as the
components. It is a URI that the reader of URIs takes for one of a file, and without dots among the
components its path is read as it was written.
-/

namespace LanguageClient

namespace Text

/-- A text is cut as lists are. -/
lemma splitOn_eq (sep : Char) (cs : List Char) : splitOn sep cs = cs.splitOn sep := by
  induction cs with
  | nil => rfl
  | cons c cs ih =>
    rw [splitOn, ih, List.splitOn_cons_eq_if_modifyHead]
    by_cases h : c = sep
    · simp [h]
    · cases hcs : cs.splitOn sep <;> simp_all

/-- No part of a text has in it what the text is cut at. -/
lemma not_mem_of_mem_splitOn {sep : Char} {cs s : List Char} (hs : s ∈ splitOn sep cs) :
    sep ∉ s := by
  induction cs generalizing s with
  | nil => simp_all [splitOn]
  | cons c cs ih =>
    unfold splitOn at hs
    split at hs
    case isTrue =>
      rcases List.mem_cons.mp hs with rfl | hs
      · exact List.not_mem_nil
      · exact ih hs
    case isFalse hc =>
      cases hcut : splitOn sep cs with
      | nil =>
        rw [hcut, List.mem_singleton] at hs
        simpa [hs] using Ne.symm hc
      | cons part parts =>
        simp only [hcut, List.mem_cons] at hs ih
        rcases hs with rfl | hs
        · simpa [Ne.symm hc] using ih (.inl rfl)
        · exact ih (.inr hs)

end Text

namespace Uri

variable {path uri text s : List Char} {parts : List (List Char)} {c : Char}

/-! ### Segments -/

lemma splitOn_append_joined (hs : '/' ∉ s) (hparts : ∀ t ∈ parts, '/' ∉ t) :
    Text.splitOn '/' (s ++ joined parts) = s :: parts := by
  rw [Text.splitOn_eq]
  induction parts generalizing s with
  | nil => simpa [joined] using List.splitOn_eq_singleton hs
  | cons t parts ih =>
    obtain ⟨ht, hrest⟩ := List.forall_mem_cons.mp hparts
    have hcut := List.splitOn_append_cons_self_of_not_mem hs (t ++ joined parts)
    rw [ih ht hrest] at hcut
    exact hcut

lemma splitOn_joined (hparts : ∀ t ∈ parts, '/' ∉ t) :
    Text.splitOn '/' (joined parts) = [] :: parts :=
  splitOn_append_joined List.not_mem_nil hparts

/-- Without a backslash only slashes cut the path of a file. -/
lemma segments_eq_splitOn (h : '\\' ∉ text) : segments .file text = Text.splitOn '/' text := by
  induction text with
  | nil => rfl
  | cons c text ih =>
    obtain ⟨hc, htext⟩ : '\\' ≠ c ∧ '\\' ∉ text := by simpa [not_or] using h
    have hslash : isSlash .file c = decide (c = '/') := by simp [isSlash, Ne.symm hc]
    simp only [segments, hslash, ih htext, decide_eq_true_eq]
    rfl

/-- The segments of the URI of a path: one for each component, and an empty one for the root. -/
def segmentsOf (path : List Char) : List (List Char) :=
  match Path.components path with
  | [] => [[]]
  | parts => parts.map segment

lemma segmentsOf_cases (path : List Char) :
    Path.components path = [] ∧ segmentsOf path = [[]] ∨
      Path.components path ≠ [] ∧ segmentsOf path = (Path.components path).map segment := by
  unfold segmentsOf
  cases Path.components path <;> simp

lemma segmentsOf_ne_nil (path : List Char) : segmentsOf path ≠ [] := by
  rcases segmentsOf_cases path with ⟨-, h⟩ | ⟨hne, h⟩ <;> simp_all

lemma ofPath_eq_some_iff : ofPath path = some uri ↔
    Path.isAbsolute path = true ∧ uri = fileScheme ++ joined (segmentsOf path) := by
  unfold ofPath segmentsOf
  cases Path.isAbsolute path <;> cases Path.components path <;> simp [joined, eq_comm]

lemma isSegmentChar_of_mem_segmentsOf (path : List Char) :
    ∀ s ∈ segmentsOf path, ∀ c ∈ s, IsSegmentChar c := by
  intro s hs c hc
  rcases segmentsOf_cases path with ⟨-, h⟩ | ⟨-, h⟩
  · rw [h, List.mem_singleton] at hs
    simp [hs] at hc
  · rw [h] at hs
    obtain ⟨component, -, rfl⟩ := List.mem_map.mp hs
    exact isSegmentChar_of_mem_encode hc

lemma mem_joined {parts : List (List Char)} (h : c ∈ joined parts) :
    c = '/' ∨ ∃ s ∈ parts, c ∈ s := by
  obtain ⟨s, hs, hc⟩ := List.mem_flatMap.mp h
  rcases List.mem_cons.mp hc with hc | hc
  · exact .inl hc
  · exact .inr ⟨s, hs, hc⟩

/-! ### Reading -/

/-- A text that only slashes part, and otherwise is made of what stands for itself in a path. -/
def IsPathText (text : List Char) : Prop := ∀ c ∈ text, c = '/' ∨ IsSegmentChar c

lemma IsSegmentChar.ne (h : IsSegmentChar c) :
    c ≠ '/' ∧ c ≠ '\\' ∧ c ≠ '?' ∧ c ≠ '#' :=
  ⟨h.ne_ofByte (d := 0x2F) (by decide), h.ne_ofByte (d := 0x5C) (by decide),
    h.ne_ofByte (d := 0x3F) (by decide), h.ne_ofByte (d := 0x23) (by decide)⟩

lemma isPathText_joined (h : ∀ s ∈ parts, ∀ c ∈ s, IsSegmentChar c) :
    IsPathText (joined parts) := by
  intro c hc
  obtain hc | ⟨s, hs, hc⟩ := mem_joined hc
  · exact .inl hc
  · exact .inr (h s hs c hc)

namespace IsPathText

lemma range (h : IsPathText text) (hc : c ∈ text) : 0x20 < c.toNat ∧ c.toNat < 0x7F := by
  rcases h c hc with rfl | hc
  · decide
  · exact hc.range

/-- There are no tabs and no line ends in it. -/
lemma not_isBreak (h : IsPathText text) (hc : c ∈ text) : isBreak c = false := by
  have hrange := h.range hc
  simp only [isBreak, Bool.or_eq_false_iff, decide_eq_false_iff_not]
  refine ⟨⟨?_, ?_⟩, ?_⟩ <;> rintro rfl <;> revert hrange <;> decide

lemma not_endsPath (h : IsPathText text) (hc : c ∈ text) : endsPath c = false := by
  rcases h c hc with rfl | hc
  · rfl
  · simp [endsPath, hc.ne]

lemma unbroken_eq (h : IsPathText text) : unbroken text = text :=
  List.filter_eq_self.mpr fun c hc => by simp [h.not_isBreak hc]

lemma takeWhile_eq (h : IsPathText text) : text.takeWhile (fun c => !endsPath c) = text :=
  List.takeWhile_eq_self_iff.mpr fun c hc => by simp [h.not_endsPath hc]

lemma dropWhile_isBreak (h : IsPathText text) : text.dropWhile isBreak = text :=
  List.dropWhile_eq_self_iff.mpr fun _ => by simp [h.not_isBreak (List.getElem_mem _)]

lemma dropWhile_isPadding (h : IsPathText text) : text.dropWhile isPadding = text :=
  List.dropWhile_eq_self_iff.mpr fun _ => by simp [isPadding, h.range (List.getElem_mem _)]

lemma strip_eq (h : IsPathText text) : strip text = text := by
  have hreverse : IsPathText text.reverse := fun c hc => h c (List.mem_reverse.mp hc)
  rw [strip, h.dropWhile_isPadding, hreverse.dropWhile_isPadding, List.reverse_reverse]

lemma tail (h : IsPathText (c :: text)) : IsPathText text := fun d hd =>
  h d (List.mem_cons_of_mem _ hd)

lemma cons_slash (h : IsPathText text) : IsPathText ('/' :: text) :=
  List.forall_mem_cons.mpr ⟨.inl rfl, h⟩

/-- No drive letter is severed in it. -/
lemma isSevered_eq (h : IsPathText text) : isSevered text = false := by
  unfold isSevered
  rw [h.dropWhile_isBreak]
  cases text with
  | nil => rfl
  | cons letter rest =>
    simp only [h.tail.dropWhile_isBreak]
    split
    case h_1 gap more =>
      have hgap : isBreak gap = false := h.tail.tail.not_isBreak (List.mem_cons_self ..)
      simp [hgap]
    case h_2 => rfl

end IsPathText

lemma isPathText_fileScheme (h : IsPathText text) : IsPathText (fileScheme ++ text) := by
  have hsplit : fileScheme = segment "file:".toList ++ ['/', '/'] := rfl
  have hscheme : ∀ c ∈ fileScheme, c = '/' ∨ IsSegmentChar c := by
    intro c hc
    rw [hsplit] at hc
    rcases List.mem_append.mp hc with hc | hc
    · exact .inr (isSegmentChar_of_mem_encode hc)
    · exact .inl (by simpa using hc)
  intro c hc
  rcases List.mem_append.mp hc with hc | hc
  · exact hscheme c hc
  · exact h c hc

/-- The reader takes such a text after three slashes for the path of a file. -/
lemma parse_fileScheme (h : IsPathText text) : parse (fileScheme ++ '/' :: text) =
    some ⟨"file".toList, .none, (readFilePath ('/' :: text)).1⟩ := by
  have hall := isPathText_fileScheme h.cons_slash
  have hrest : IsPathText ('/' :: '/' :: '/' :: text) := h.cons_slash.cons_slash.cons_slash
  have hscheme : splitScheme (fileScheme ++ '/' :: text) =
      some ("file".toList, '/' :: '/' :: '/' :: text) := rfl
  have hfile : readFile "file".toList ('/' :: '/' :: '/' :: text) =
      some ⟨"file".toList, .none, (readFilePath ('/' :: text)).1⟩ := by
    unfold readFile
    rw [hrest.unbroken_eq]
    rfl
  simp only [parse, hall.strip_eq, hall.unbroken_eq, hscheme]
  exact hfile

/-! ### Dots -/

lemma of_lower {d : Char} (h : lower c = d) :
    c = d ∨ 'A'.toNat ≤ c.toNat ∧ c.toNat ≤ 'Z'.toNat ∧ c.toNat + 32 = d.toNat := by
  unfold lower at h
  split at h
  case isTrue hupper =>
    simp only [Bool.and_eq_true, decide_eq_true_eq, Char.le_def, UInt32.le_iff_toNat_le] at hupper
    have hvalid : (c.toNat + 32).isValidChar := .inl (by have := hupper.2; simp at this; omega)
    refine .inr ⟨hupper.1, hupper.2, ?_⟩
    rw [← h, Char.ofNat, dif_pos hvalid]
    rfl
  case isFalse => exact .inl h

/-- A dot, or what it is percent-encoded as. -/
def IsDot (s : List Char) : Prop := s.map lower = ['.'] ∨ s.map lower = ['%', '2', 'e']

lemma isDot_of_isSingleDot (h : isSingleDot s = true) : IsDot s := by
  simpa only [isSingleDot, IsDot, List.map, List.contains_iff_mem, List.mem_cons,
    List.not_mem_nil, or_false, String.reduceToList] using h

lemma exists_isDot_of_isDoubleDot (h : isDoubleDot s = true) :
    ∃ t u, s = t ++ u ∧ IsDot t ∧ IsDot u := by
  have hlower : s.map lower = ['.'] ++ ['.'] ∨ s.map lower = ['.'] ++ ['%', '2', 'e'] ∨
      s.map lower = ['%', '2', 'e'] ++ ['.'] ∨
      s.map lower = ['%', '2', 'e'] ++ ['%', '2', 'e'] := by
    simpa only [isDoubleDot, List.map, List.contains_iff_mem, List.mem_cons, List.not_mem_nil,
      or_false, String.reduceToList, List.cons_append, List.nil_append] using h
  rcases hlower with h | h | h | h <;> obtain ⟨t, u, rfl, ht, hu⟩ := List.map_eq_append_iff.mp h
  · exact ⟨t, u, rfl, .inl ht, .inl hu⟩
  · exact ⟨t, u, rfl, .inl ht, .inr hu⟩
  · exact ⟨t, u, rfl, .inr ht, .inl hu⟩
  · exact ⟨t, u, rfl, .inr ht, .inr hu⟩

/-- A dot reads back as one, whatever comes after it. -/
lemma IsDot.decode_append (h : IsDot s) (rest : List Char) :
    decode (s ++ rest) = 0x2E :: decode rest := by
  -- Only letters have another character as their lower case.
  have hkept {c d : Char} (hd : d.toNat < 'a'.toNat) (h : lower c = d) : c = d := by
    obtain h | ⟨hlow, -, hsum⟩ := of_lower h
    · exact h
    · have hlow : 65 ≤ c.toNat := hlow
      have hd : d.toNat < 97 := hd
      omega
  rcases h with h | h
  · obtain ⟨c, rfl, hc⟩ := List.map_eq_singleton_iff.mp h
    obtain rfl := hkept (by decide) hc
    exact decode_cons (by decide) rest
  · obtain ⟨percent, two, e, rfl, hpercent, htwo, he⟩ :
        ∃ a b c, s = [a, b, c] ∧ lower a = '%' ∧ lower b = '2' ∧ lower c = 'e' := by
      simpa [List.map_eq_cons_iff] using h
    obtain rfl := hkept (by decide) hpercent
    obtain rfl := hkept (by decide) htwo
    have hvalue : Text.hexValue e = some 14 := by
      obtain rfl | ⟨-, -, hsum⟩ := of_lower he
      · rfl
      · obtain rfl : e = 'E' := Char.toNat_inj.mp (Nat.add_right_cancel (m := 32) hsum)
        rfl
    have hfirst : Text.hexValue '2' = some 2 := rfl
    simp [decode, hvalue, hfirst]

lemma decode_segment (component : List Char) : decode (segment component) = bytesOf component :=
  decode_encode covers_segmentSet _

lemma map_decode_segment (components : List (List Char)) :
    (components.map segment).map decode = components.map bytesOf := by
  rw [List.map_map]
  exact List.map_congr_left fun component _ => decode_segment component

lemma segment_injective : Function.Injective segment := fun component other h =>
  bytesOf_injective (by rw [← decode_segment, h, decode_segment])

lemma segment_cons (c : Char) (cs : List Char) : segment (c :: cs) = segment [c] ++ segment cs := by
  rw [segment, bytesOf_cons]
  exact List.flatMap_append

lemma segment_eq_nil_iff : segment s = [] ↔ s = [] := segment_injective.eq_iff' rfl

/-- Nothing is shorter once it is encoded. -/
lemma length_le_length_segment (s : List Char) : s.length ≤ (segment s).length := by
  induction s with
  | nil => exact Nat.zero_le _
  | cons c s ih =>
    have hone : 0 < (segment [c]).length :=
      List.length_pos_iff.mpr (mt segment_eq_nil_iff.mp (List.cons_ne_nil c []))
    rw [segment_cons, List.length_append, List.length_cons]
    omega

/-- A text is its own segment when each of its characters is. -/
lemma segment_eq_self_iff : segment s = s ↔ ∀ c ∈ s, segment [c] = [c] := by
  induction s with
  | nil => simp [segment_eq_nil_iff]
  | cons c s ih =>
    rw [List.forall_mem_cons, ← ih, segment_cons]
    constructor
    · intro h
      have hlength := congrArg List.length h
      have hrest := length_le_length_segment s
      rw [List.length_append, List.length_cons] at hlength
      match hone : segment [c] with
      | [] => cases segment_eq_nil_iff.mp hone
      | [d] =>
        rw [hone] at h
        obtain ⟨rfl, hs⟩ := List.cons.inj h
        exact ⟨rfl, hs⟩
      | _ :: _ :: _ =>
        simp only [hone, List.length_cons] at hlength
        omega
    · rintro ⟨hc, hs⟩
      rw [hc, hs]
      rfl

/-- A segment that the reader of paths keeps. -/
def IsKept (s : List Char) : Prop := isSingleDot s = false ∧ isDoubleDot s = false

/-- The only segments that are dots are those of dots. -/
lemma isKept_segment {component : List Char} (hone : component ≠ ['.'])
    (htwo : component ≠ ['.', '.']) : IsKept (segment component) := by
  constructor <;> by_contra h <;> rw [Bool.not_eq_false] at h
  · have hdecode := (isDot_of_isSingleDot h).decode_append []
    rw [List.append_nil, decode_segment, decode] at hdecode
    exact hone (bytesOf_injective hdecode)
  · obtain ⟨t, u, hs, ht, hu⟩ := exists_isDot_of_isDoubleDot h
    have hdecode := ht.decode_append u
    rw [← List.append_nil u, hu.decode_append, List.append_nil, ← hs, decode_segment,
      decode] at hdecode
    exact htwo (bytesOf_injective hdecode)

lemma isKept_of_isDriveLetter {letter mark : Char}
    (h : isDriveLetter [letter, mark] = true) : IsKept [letter, mark] := by
  have hmark : lower mark ≠ '.' := by
    simp only [isDriveLetter, Bool.and_eq_true, Bool.or_eq_true, decide_eq_true_eq] at h
    obtain ⟨-, rfl | rfl⟩ := h <;> decide
  simp [IsKept, isSingleDot, isDoubleDot, hmark]

/-! ### Walks -/

namespace Walk

variable {w : Walk}

lemma step_of_isKept {last : Bool} (hs : IsKept s) (hw : w.dirs ≠ []) :
    w.step .file last s = w.push s := by
  simp [step, hs.1, hs.2, hw]

/-- A walk below its first directory takes segments that are not dots one after the other. -/
lemma run_of_isKept (hparts : ∀ s ∈ parts, IsKept s) (hw : w.dirs ≠ []) :
    Walk.run .file w parts = ⟨parts.reverse ++ w.dirs, w.drive⟩ := by
  induction parts generalizing w with
  | nil => rfl
  | cons s parts ih =>
    obtain ⟨hs, hparts⟩ := List.forall_mem_cons.mp hparts
    cases parts with
    | nil => exact step_of_isKept hs hw
    | cons t parts =>
      rw [run.eq_3 _ _ _ _ (by simp), step_of_isKept hs hw, ih hparts (by simp [push])]
      simp [push]

/-- A drive letter that begins a walk ends in a colon. -/
lemma run_of_isDriveLetter {letter mark : Char} (hdrive : isDriveLetter [letter, mark] = true)
    (hparts : ∀ s ∈ parts, IsKept s) :
    Walk.run .file ⟨[], false⟩ ([letter, mark] :: parts) =
      ⟨parts.reverse ++ [[letter, ':']], true⟩ := by
  have hkept := isKept_of_isDriveLetter hdrive
  have hstep (last : Bool) : step .file last ⟨[], false⟩ [letter, mark] =
      ⟨[[letter, ':']], true⟩ := by
    simp [step, hkept.1, hkept.2, pushFirst, hdrive]
  cases parts with
  | nil => exact hstep true
  | cons s parts =>
    rw [run.eq_3 _ _ _ _ (by simp), hstep, run_of_isKept hparts (by simp)]

end Walk

lemma encodedSegments_append_joined (h : ∀ t ∈ s :: parts, ∀ c ∈ t, IsSegmentChar c) :
    encodedSegments .file (s ++ joined parts) = s :: parts := by
  obtain ⟨hs, hparts⟩ := List.forall_mem_cons.mp h
  have hback : '\\' ∉ s ++ joined parts := fun hc => (List.mem_append.mp hc).elim
    (fun hc => (hs _ hc).ne.2.1 rfl)
    fun hc => (isPathText_joined hparts _ hc).elim (by decide) fun hc => hc.ne.2.1 rfl
  have hslash : ∀ t ∈ s :: parts, '/' ∉ t := fun t ht hc => (h t ht _ hc).ne.1 rfl
  have hsame : (s :: parts).map (fun t => encode pathSet (bytesOf t)) = s :: parts :=
    (List.map_congr_left fun t ht => encode_of_isSegmentChar (h t ht)).trans (List.map_id _)
  rw [encodedSegments, segments_eq_splitOn hback,
    splitOn_append_joined (hslash s (List.mem_cons_self ..))
      fun t ht => hslash t (List.mem_cons_of_mem _ ht), hsame]

/-- Segments that are not dots are read as they are written. Empty ones at the beginning are not
kept, unless there is nothing else. -/
lemma readFilePath_joined (h : ∀ t ∈ s :: parts, ∀ c ∈ t, IsSegmentChar c)
    (hkept : ∀ t ∈ s :: parts, IsKept t) (hempty : s = [] → parts = []) :
    (readFilePath (joined (s :: parts))).1 = joined (s :: parts) := by
  have htext := isPathText_joined h
  have hwalk : walkFile (joined (s :: parts)) = ⟨(s :: parts).reverse ++ [[]], false⟩ := by
    have hparts : encodedSegments .file (joined (s :: parts)) = [] :: s :: parts :=
      encodedSegments_append_joined (s := []) (List.forall_mem_cons.mpr ⟨by simp, h⟩)
    unfold walkFile
    simp only [htext.unbroken_eq, htext.isSevered_eq, hparts]
    exact Walk.run_of_isKept (w := ⟨[[]], false⟩) hkept (by simp)
  have hdirs : ((s :: parts).reverse ++ [[]]).reverse = [] :: s :: parts := by simp
  simp only [readFilePath, htext.takeWhile_eq, hwalk, hdirs]
  cases s with
  | nil =>
    obtain rfl := hempty rfl
    rfl
  | cons c s =>
    have hc : c ≠ '/' := (h _ (List.mem_cons_self ..) c (List.mem_cons_self ..)).ne.1
    simp [joined, hc]

/-- Where no slash stands before it, a drive letter ends in a colon, whatever it is written with. -/
lemma readFilePath_drive {letter mark : Char} (hdrive : isDriveLetter [letter, mark] = true)
    (h : ∀ t ∈ [letter, mark] :: parts, ∀ c ∈ t, IsSegmentChar c)
    (hkept : ∀ t ∈ parts, IsKept t) :
    readFilePath ([letter, mark] ++ joined parts) = (joined ([letter, ':'] :: parts), true) := by
  obtain ⟨hletter, hparts⟩ := List.forall_mem_cons.mp h
  have htext : IsPathText ([letter, mark] ++ joined parts) := fun c hc =>
    (List.mem_append.mp hc).elim (fun hc => .inr (hletter c hc)) (isPathText_joined hparts c)
  have hwalk : walkFile ([letter, mark] ++ joined parts) =
      ⟨parts.reverse ++ [[letter, ':']], true⟩ := by
    unfold walkFile
    simp only [htext.unbroken_eq, htext.isSevered_eq, encodedSegments_append_joined h]
    exact Walk.run_of_isDriveLetter hdrive hkept
  have hslash : letter ≠ '/' := (hletter letter (List.mem_cons_self ..)).ne.1
  simp only [readFilePath, htext.takeWhile_eq, hwalk]
  simp [joined, hslash]

/-! ### The URI of a path -/

/-- A component is a name or two dots. -/
lemma of_mem_components {component : List Char} (h : component ∈ Path.components path) :
    component ≠ [] ∧ component ≠ ['.'] ∧ '/' ∉ component := by
  obtain ⟨hmem, hkept⟩ := List.mem_filter.mp h
  simp only [Bool.and_eq_true, Bool.not_eq_true', List.isEmpty_eq_false_iff,
    decide_eq_true_eq] at hkept
  exact ⟨hkept.1, hkept.2, Text.not_mem_of_mem_splitOn hmem⟩

/-- What stands after the scheme is cut into an empty part and the segments. -/
lemma splitOn_segmentsOf (path : List Char) :
    Text.splitOn '/' (joined (segmentsOf path)) = [] :: segmentsOf path :=
  splitOn_joined fun s hs hslash => (isSegmentChar_of_mem_segmentsOf path s hs _ hslash).ne.1 rfl

/-- The segments read back as the components; the root has no name. -/
lemma decode_segmentsOf (path : List Char) :
    ((segmentsOf path).map decode).filter (!·.isEmpty) = (Path.components path).map bytesOf := by
  rcases segmentsOf_cases path with ⟨hcomponents, h⟩ | ⟨-, h⟩
  · simp [hcomponents, h, decode]
  · rw [h, map_decode_segment, List.filter_eq_self]
    intro bytes hbytes
    obtain ⟨component, hcomponent, rfl⟩ := List.mem_map.mp hbytes
    have hne : bytesOf component ≠ [] :=
      (bytesOf_injective.ne_iff' rfl).mpr (of_mem_components hcomponent).1
    simpa using hne

/-- Paths have one URI exactly when they have the same components. -/
lemma ofPath_eq_iff {other uri' : List Char} (h : ofPath path = some uri)
    (h' : ofPath other = some uri') :
    uri = uri' ↔ Path.components path = Path.components other := by
  obtain ⟨-, rfl⟩ := ofPath_eq_some_iff.mp h
  obtain ⟨-, rfl⟩ := ofPath_eq_some_iff.mp h'
  constructor
  · intro heq
    have hsegments : segmentsOf path = segmentsOf other := by
      have hcut := congrArg (Text.splitOn '/') (List.append_cancel_left heq)
      rw [splitOn_segmentsOf, splitOn_segmentsOf] at hcut
      exact List.tail_eq_of_cons_eq hcut
    refine List.map_injective_iff.mpr bytesOf_injective ?_
    rw [← decode_segmentsOf, hsegments, decode_segmentsOf]
  · intro heq
    rw [segmentsOf, segmentsOf, heq]

lemma joined_segmentsOf (path : List Char) : ∃ text, joined (segmentsOf path) = '/' :: text := by
  obtain ⟨s, parts, h⟩ := List.exists_cons_of_ne_nil (segmentsOf_ne_nil path)
  exact ⟨s ++ joined parts, by rw [h]; rfl⟩

/-- The reader takes the URI of a path for one of a file. -/
lemma parse_ofPath (h : ofPath path = some uri) : parse uri =
    some ⟨"file".toList, .none, (readFilePath (joined (segmentsOf path))).1⟩ := by
  obtain ⟨-, rfl⟩ := ofPath_eq_some_iff.mp h
  have htext := isPathText_joined (isSegmentChar_of_mem_segmentsOf path)
  obtain ⟨text, hslash⟩ := joined_segmentsOf path
  rw [hslash] at htext ⊢
  exact parse_fileScheme htext.tail

/--
Unless two dots are to be resolved, the reader finds the segments as they are written. A slash
stands before the first of them, and so a drive letter keeps its bar there: `readFilePath_drive` is
not about URIs of paths.
-/
lemma readFilePath_segmentsOf (h : ['.', '.'] ∉ Path.components path) :
    (readFilePath (joined (segmentsOf path))).1 = joined (segmentsOf path) := by
  have hchars := isSegmentChar_of_mem_segmentsOf path
  rcases segmentsOf_cases path with ⟨-, hroot⟩ | ⟨-, hnames⟩
  · rw [hroot]
    exact readFilePath_joined (by simp) (by simp [IsKept]; decide) fun _ => rfl
  · have hkept : ∀ s ∈ segmentsOf path, IsKept s := by
      intro s hs
      obtain ⟨component, hcomponent, rfl⟩ := List.mem_map.mp (hnames ▸ hs)
      refine isKept_segment (of_mem_components hcomponent).2.1 ?_
      rintro rfl
      exact h hcomponent
    have hne : [] ∉ segmentsOf path := by
      intro hmem
      obtain ⟨component, hcomponent, hs⟩ := List.mem_map.mp (hnames ▸ hmem)
      exact (of_mem_components hcomponent).1 (segment_eq_nil_iff.mp hs)
    obtain ⟨s, parts, heq⟩ := List.exists_cons_of_ne_nil (segmentsOf_ne_nil path)
    rw [heq] at hchars hkept hne ⊢
    exact readFilePath_joined hchars hkept (by rintro rfl; simp at hne)

example : parse "file:///C|/x".toList = some ⟨"file".toList, .none, "/C|/x".toList⟩ ∧
    parse "file:/C|/x".toList = some ⟨"file".toList, .none, "/C:/x".toList⟩ := by decide

/-! ### Paths that are spelled as they are -/

lemma components_joined (h : ∀ s ∈ parts, '/' ∉ s ∧ s ≠ [] ∧ s ≠ ['.']) :
    Path.components (joined parts) = parts := by
  rw [Path.components, splitOn_joined fun s hs => (h s hs).1, List.filter_cons_of_neg (by simp)]
  exact List.filter_eq_self.mpr fun s hs => by simp [(h s hs).2]

/-- The segments of a path are the components of what they spell. -/
lemma components_joined_segment (path : List Char) :
    Path.components (joined ((Path.components path).map segment)) =
      (Path.components path).map segment := by
  refine components_joined fun s hs => ?_
  obtain ⟨component, hcomponent, rfl⟩ := List.mem_map.mp hs
  obtain ⟨hempty, hdot, -⟩ := of_mem_components hcomponent
  have hself : segment ['.'] = ['.'] := rfl
  exact ⟨fun hc => (isSegmentChar_of_mem_encode hc).ne.1 rfl, mt segment_eq_nil_iff.mp hempty,
    (segment_injective.ne_iff' hself).mpr hdot⟩

/-- A path is spelled as it is when each of its characters stands for itself, and one slash stands
before each component and none after the last. -/
lemma joined_segmentsOf_eq_self_iff (habsolute : Path.isAbsolute path = true) :
    joined (segmentsOf path) = path ↔ path = ['/'] ∨
      joined (Path.components path) = path ∧ ∀ c ∈ path, c ≠ '/' → segment [c] = [c] := by
  constructor
  · intro h
    rcases segmentsOf_cases path with ⟨-, hroot⟩ | ⟨-, hnames⟩
    · left
      rw [← h, hroot]
      rfl
    · rw [hnames] at h
      have hsame : (Path.components path).map segment = Path.components path := by
        rw [← components_joined_segment, h]
      rw [hsame] at h
      refine .inr ⟨h, fun c hc hslash => ?_⟩
      rw [← h] at hc
      obtain ⟨component, hcomponent, hc⟩ := (mem_joined hc).resolve_left hslash
      have hself := List.map_eq_map_iff.mp (hsame.trans (List.map_id _).symm) component hcomponent
      exact segment_eq_self_iff.mp hself c hc
  · rintro (rfl | ⟨hjoined, hchars⟩)
    · rfl
    · have hsame : (Path.components path).map segment = Path.components path := by
        refine (List.map_congr_left fun component hcomponent => ?_).trans (List.map_id _)
        refine segment_eq_self_iff.mpr fun c hc => hchars c ?_ ?_
        · rw [← hjoined]
          exact List.mem_flatMap.mpr ⟨component, hcomponent, List.mem_cons_of_mem _ hc⟩
        · rintro rfl
          exact (of_mem_components hcomponent).2.2 hc
      rcases segmentsOf_cases path with ⟨hroot, -⟩ | ⟨-, hnames⟩
      · rw [← hjoined, hroot] at habsolute
        cases habsolute
      · rw [hnames, hsame, hjoined]

end Uri

end LanguageClient
