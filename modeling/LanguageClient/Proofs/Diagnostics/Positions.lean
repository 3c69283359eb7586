import LanguageClient.Proofs.Diagnostics.Published

/-!
# Positions as they are shown

A published position is shown as the line and column that follow it, with one exception: nothing
follows the last 32-bit word, and the program ends when it is to show an item at the last line or
column. This is `Published.shown_positions`, from the JSON that is published to the text that is
shown.
-/

namespace LanguageClient

open Json.Decode

namespace Diagnostic

/-- The last line and the last column that can be published. -/
def lastWord : Nat := 0xFFFFFFFF

/-- A diagnostic on one line, for a line and a column that count from one. -/
def lineAt (location : String) (line col : Nat) (severity : Severity) (source message : String) :
    String :=
  location ++ ":" ++ Nat.repr line ++ ":" ++ Nat.repr col ++ ": " ++ severity.label ++ ": [" ++
    source ++ "] " ++ message

lemma shown_eq (n : UInt32) :
    shown n = if n.toNat = lastWord then .error .overflow else .ok (Nat.repr (n.toNat + 1)) := by
  have hlt : n.toNat < 4294967296 := n.toNat_lt
  have hsize : UInt32.size = 4294967296 := rfl
  unfold shown lastWord
  by_cases hlast : n.toNat = 0xFFFFFFFF
  · rw [if_pos hlast, if_neg (by omega)]
  · rw [if_neg hlast, if_pos (by omega)]

lemma displayAt_eq (d : Diagnostic) (location : String) : d.displayAt location =
    if d.line.toNat = lastWord ∨ d.col.toNat = lastWord then .error .overflow
    else .ok (lineAt location (d.line.toNat + 1) (d.col.toNat + 1) d.severity d.source
      d.message) := by
  rw [displayAt, shown_eq, shown_eq]
  by_cases hline : d.line.toNat = lastWord
  · simp only [hline, true_or, if_true]
    rfl
  · by_cases hcol : d.col.toNat = lastWord
    · simp only [hline, hcol, or_true, if_true, if_false]
      rfl
    · simp only [hline, hcol, or_self, if_false]
      rfl

end Diagnostic

/-! ### Values that are read -/

namespace Json.Decode

variable {j : Json}

lemma of_integer {name : String} {low high n : Int} (h : integer name low high j = .ok n) :
    j = .int n ∧ low ≤ n ∧ n ≤ high := by
  cases j with
  | int m =>
    rw [integer] at h
    split at h
    case isTrue hrange =>
      obtain rfl : m = n := by simpa using h
      simpa using hrange
    case isFalse => cases h
  | _ => cases h

lemma nat?_of_word64 {n : Nat} (h : word64 j = .ok n) : j.nat? = some n := by
  obtain ⟨m, hread, rfl⟩ := of_return h
  obtain ⟨rfl, hlow, hhigh⟩ := of_integer hread
  have hlt : m < 0x10000000000000000 := by omega
  simp [nat?, hlow, hlt]

lemma nat?_of_word32 {n : UInt32} (h : word32 j = .ok n) : j.nat? = some n.toNat := by
  obtain ⟨m, hread, rfl⟩ := of_return h
  obtain ⟨rfl, hlow, hhigh⟩ := of_integer hread
  have hlt : m < 0x10000000000000000 := by omega
  have hword : m.toNat.toUInt32.toNat = m.toNat := by
    apply UInt32.toNat_ofNat_of_lt'
    have hsize : UInt32.size = 4294967296 := rfl
    omega
  simp [nat?, hlow, hlt, hword]

lemma str?_of_string {s : String} (h : string j = .ok s) : j.str? = some s := by
  cases j with
  | str t =>
    obtain rfl : t = s := by simpa [string] using h
    rfl
  | _ => cases h

/-- What is null has no value. -/
lemma of_option {α : Type} {decode : Decode α} {value? : Json → Option α}
    (hnull : value? .null = none) (hsome : ∀ {a}, decode j = .ok a → value? j = some a)
    {o : Option α} (h : Json.Decode.option decode j = .ok o) : value? j = o := by
  have hmap : ∀ {r : Except DecodeError α}, (some <$> r) = .ok o → ∃ a, r = .ok a ∧ some a = o := by
    rintro (e | a) heq
    · cases heq
    · exact ⟨a, rfl, by simpa [Functor.map, Except.map] using heq⟩
  cases j with
  | null =>
    obtain rfl : none = o := by simpa [option] using h
    exact hnull
  | _ =>
    obtain ⟨a, hread, rfl⟩ := hmap h
    exact hsome hread

end Json.Decode

/-! ### The parts of an item -/

namespace Published

lemma part_line : startShape.Part 0 "line" .required Start.line word32 where
  names := by simp [startShape, Field.name]
  fields := by
    refine ⟨[], _, [_], rfl, rfl, rfl, rfl, Field.sets_of_put fun _ _ => rfl, ?_⟩
    simp only [List.nil_append, List.forall_mem_cons]
    exact ⟨⟨by simp [Field.name], Field.spares_of_put fun _ _ => rfl⟩, List.forall_mem_nil _⟩

lemma part_character : startShape.Part 1 "character" .required Start.character word32 where
  names := by simp [startShape, Field.name]
  fields := by
    refine ⟨[_], _, [], rfl, rfl, rfl, rfl, Field.sets_of_put fun _ _ => rfl, ?_⟩
    simp only [List.append_nil, List.forall_mem_cons]
    exact ⟨⟨by simp [Field.name], Field.spares_of_put fun _ _ => rfl⟩, List.forall_mem_nil _⟩

lemma part_start : rangeShape.Part 0 "start" .required id (startShape.read noStart) where
  names := by simp [rangeShape, Field.name]
  fields := by
    refine ⟨[], _, [], rfl, rfl, rfl, rfl, ?_, List.forall_mem_nil _⟩
    intro _ value start hset
    exact hset

/-- A range is its start. -/
lemma part_range : itemShape.Part 0 "range" .required Item.start (rangeShape.read noStart) where
  names := by simp [itemShape, Field.name]
  fields := by
    refine ⟨[], _, [_, _, _], rfl, rfl, rfl, rfl, Field.sets_of_put fun _ _ => rfl, ?_⟩
    simp only [List.nil_append, List.forall_mem_cons]
    refine ⟨⟨?_, Field.spares_of_put fun _ _ => rfl⟩, ⟨?_, Field.spares_of_put fun _ _ => rfl⟩,
      ⟨?_, Field.spares_of_put fun _ _ => rfl⟩, List.forall_mem_nil _⟩ <;> simp [Field.name]

lemma part_severity :
    itemShape.Part 1 "severity" .optional Item.severity (Json.Decode.option word64) where
  names := by simp [itemShape, Field.name]
  fields := by
    refine ⟨[_], _, [_, _], rfl, rfl, rfl, rfl, Field.sets_of_put fun _ _ => rfl, ?_⟩
    simp only [List.cons_append, List.nil_append, List.forall_mem_cons]
    refine ⟨⟨?_, Field.spares_of_put fun _ _ => rfl⟩, ⟨?_, Field.spares_of_put fun _ _ => rfl⟩,
      ⟨?_, Field.spares_of_put fun _ _ => rfl⟩, List.forall_mem_nil _⟩ <;> simp [Field.name]

lemma part_source :
    itemShape.Part 2 "source" .optional Item.source (Json.Decode.option string) where
  names := by simp [itemShape, Field.name]
  fields := by
    refine ⟨[_, _], _, [_], rfl, rfl, rfl, rfl, Field.sets_of_put fun _ _ => rfl, ?_⟩
    simp only [List.cons_append, List.nil_append, List.forall_mem_cons]
    refine ⟨⟨?_, Field.spares_of_put fun _ _ => rfl⟩, ⟨?_, Field.spares_of_put fun _ _ => rfl⟩,
      ⟨?_, Field.spares_of_put fun _ _ => rfl⟩, List.forall_mem_nil _⟩ <;> simp [Field.name]

lemma part_message : itemShape.Part 3 "message" .required Item.message string where
  names := by simp [itemShape, Field.name]
  fields := by
    refine ⟨[_, _, _], _, [], rfl, rfl, rfl, rfl, Field.sets_of_put fun _ _ => rfl, ?_⟩
    simp only [List.append_nil, List.forall_mem_cons]
    refine ⟨⟨?_, Field.spares_of_put fun _ _ => rfl⟩, ⟨?_, Field.spares_of_put fun _ _ => rfl⟩,
      ⟨?_, Field.spares_of_put fun _ _ => rfl⟩, List.forall_mem_nil _⟩ <;> simp [Field.name]

/-! ### What an item says -/

/-- The line and the character at which an item starts. -/
def start? (j : Json) : Option (Nat × Nat) := do
  let range ← j.field? "range" 0
  let start ← range.field? "start" 0
  let line ← start.field? "line" 0
  let character ← start.field? "character" 1
  return (← line.nat?, ← character.nat?)

/-- The severity of an item: a warning, unless it gives the number of another. -/
def severityOf (j : Json) : Severity :=
  (((j.field? "severity" 1).bind Json.nat?).bind Severity.ofNat?).getD .warning

def sourceOf (j : Json) : String :=
  ((j.field? "source" 2).bind Json.str?).getD Diagnostic.defaultSource

def message? (j : Json) : Option String := (j.field? "message" 3).bind Json.str?

/-- A diagnostic has what an item says, each part from its field. -/
structure Says (j : Json) (d : Diagnostic) : Prop where
  start : start? j = some (d.line.toNat, d.col.toNat)
  severity : d.severity = severityOf j
  source : d.source = sourceOf j
  message : message? j = some d.message

variable {j : Json} {d : Diagnostic} {i blank : Item}

lemma start?_of_read (h : itemShape.read blank j = .ok i) :
    start? j = some (i.start.line.toNat, i.start.character.toNat) := by
  obtain ⟨range, hrange, hstart⟩ := part_range.of_read_required h
  obtain ⟨start, hstart', hread⟩ := part_start.of_read_required hstart
  obtain ⟨line, hline, hword⟩ := part_line.of_read_required hread
  obtain ⟨character, hcharacter, hword'⟩ := part_character.of_read_required hread
  simp [start?, hrange, hstart', hline, hcharacter, nat?_of_word32 hword, nat?_of_word32 hword']

lemma severity_of_read (h : itemShape.read blank j = .ok i) (hblank : blank.severity = none) :
    i.severity = (j.field? "severity" 1).bind Json.nat? := by
  rcases part_severity.of_read h with ⟨value, hvalue, hread⟩ | ⟨hmissing, hkept, -⟩
  · rw [hvalue, Option.bind_some, of_option rfl nat?_of_word64 hread]
  · rw [hmissing, Option.bind_none, hkept, hblank]

lemma source_of_read (h : itemShape.read blank j = .ok i) (hblank : blank.source = none) :
    i.source = (j.field? "source" 2).bind Json.str? := by
  rcases part_source.of_read h with ⟨value, hvalue, hread⟩ | ⟨hmissing, hkept, -⟩
  · rw [hvalue, Option.bind_some, of_option rfl str?_of_string hread]
  · rw [hmissing, Option.bind_none, hkept, hblank]

lemma message?_of_read (h : itemShape.read blank j = .ok i) : message? j = some i.message := by
  obtain ⟨value, hvalue, hread⟩ := part_message.of_read_required h
  rw [message?, hvalue, Option.bind_some, str?_of_string hread]

lemma says_of_item (h : item j = .ok d) : Says j d := by
  obtain ⟨i, hread, rfl⟩ := of_return h
  constructor
  case start => exact start?_of_read hread
  case severity => rw [Item.diagnostic, severity_of_read hread rfl, severityOf]
  case source => rw [Item.diagnostic, source_of_read hread rfl, sourceOf]
  case message => exact message?_of_read hread

/--
Each published item is shown at a location as the diagnostic that it says: with the line and the
character that follow those of its start, with its severity, its source and its message. The only
items that are not are those that start at the last line or at the last character that can be
published: the program ends there.
-/
theorem shown_positions {params : Json} {p : Published} (h : decode params = .ok p) :
    ∃ listed, listed? params = some listed ∧ List.Forall₂ (fun j d =>
      ∃ line character message, start? j = some (line, character) ∧ message? j = some message ∧
        line ≤ Diagnostic.lastWord ∧ character ≤ Diagnostic.lastWord ∧
        ∀ location, d.displayAt location =
          if line = Diagnostic.lastWord ∨ character = Diagnostic.lastWord then .error .overflow
          else .ok (Diagnostic.lineAt location (line + 1) (character + 1) (severityOf j)
            (sourceOf j) message)) listed p.items := by
  obtain ⟨listed, hlisted, hitems⟩ := items_of_decode h
  refine ⟨listed, hlisted, hitems.imp ?_⟩
  intro j d hitem
  have hsays := says_of_item hitem
  refine ⟨_, _, _, hsays.start, hsays.message, Nat.le_of_lt_succ d.line.toNat_lt,
    Nat.le_of_lt_succ d.col.toNat_lt, ?_⟩
  intro location
  rw [Diagnostic.displayAt_eq, hsays.severity, hsays.source]

/-- An item at the start of a line. -/
def itemAt (line : Nat) : Json :=
  .obj [("message", .str "m"),
    ("range", .obj [("start", .obj [("character", .int 0), ("line", .int line)])])]

/-- Parameters that publish one item, at the start of a line. -/
def publishedAt (line : Nat) : Json :=
  .obj [("diagnostics", .arr [itemAt line]), ("uri", .str "file:///a")]

/-- The last line but one is shown as it should be. -/
theorem shown_positions_last_but_one :
    ∃ p d, decode (publishedAt 0xFFFFFFFE) = .ok p ∧ p.items = [d] ∧
      d.displayAt "@" = .ok "@:4294967295:1: warning: [tekton] m" := by
  obtain ⟨p, d, hp, hitems⟩ :
      ∃ p d, decode (publishedAt 0xFFFFFFFE) = .ok p ∧ p.items = [d] := ⟨_, _, rfl, rfl⟩
  have hstart : start? (itemAt 0xFFFFFFFE) = some (0xFFFFFFFE, 0) := rfl
  obtain ⟨listed, hlisted, hall⟩ := shown_positions hp
  obtain rfl : [itemAt 0xFFFFFFFE] = listed := Option.some.inj hlisted
  rw [hitems] at hall
  obtain ⟨⟨line, character, message, hplace, hmessage, -, -, hshown⟩, -⟩ :=
    List.forall₂_cons.mp hall
  obtain ⟨rfl, rfl⟩ : 0xFFFFFFFE = line ∧ 0 = character := by
    simpa using hstart.symm.trans hplace
  obtain rfl : "m" = message := Option.some.inj hmessage
  refine ⟨p, d, hp, hitems, (hshown "@").trans ?_⟩
  rw [if_neg (by decide)]
  rfl

/-- An item at the last line is published, and is not shown at the line that follows. -/
theorem last_line_not_shown :
    ∃ p d, decode (publishedAt 0xFFFFFFFF) = .ok p ∧ p.items = [d] ∧
      start? (itemAt 0xFFFFFFFF) = some (0xFFFFFFFF, 0) ∧
      d.displayAt "@" = .error .overflow ∧
      d.displayAt "@" ≠
        .ok (Diagnostic.lineAt "@" (0xFFFFFFFF + 1) (0 + 1) .warning "tekton" "m") :=
  ⟨_, _, rfl, rfl, rfl, rfl, nofun⟩

end Published

end LanguageClient
