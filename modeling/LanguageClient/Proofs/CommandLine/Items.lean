import LanguageClient.CommandLine.Args
import Mathlib.Data.List.Basic

/-!
# What arguments say

Arguments that can be read are a sequence of items: flags, paths after `--config`, and files. Others
stop the reading behind a sequence of items. So arguments put behind others are read as they would
be by themselves, and add to what has been read: `Args.parse_append`.
-/

namespace LanguageClient.CommandLine

/-- One thing that arguments say. -/
inductive Item
  | debug
  | config (path : String)
  | file (name : String)
  deriving DecidableEq, Repr

namespace Item

/-- The arguments that say it. -/
def words : Item → List String
  | .debug => ["--debug"]
  | .config path => ["--config", path]
  | .file name => [name]

/-- A file does not look like an option. Of a path nothing is asked. -/
def Proper : Item → Prop
  | .file name => name ≠ "-h" ∧ Args.isFlag name = false
  | _ => True

def path? : Item → Option String
  | .config path => some path
  | _ => none

def file? : Item → Option String
  | .file name => some name
  | _ => none

end Item

namespace Args

variable {args p : Args} {xs ys rest : List String} {e : ArgsError}

/-- What items ask for: of several paths the last one counts, and all files do. -/
def ofItems (items : List Item) : Args where
  debug := .debug ∈ items
  config := (items.filterMap Item.path?).getLast?
  files := items.filterMap Item.file?

/-- What is asked for first, and then more. -/
def followedBy (p q : Args) : Args where
  debug := p.debug || q.debug
  config := q.config.or p.config
  files := p.files ++ q.files

@[simp] lemma ofItems_nil : ofItems [] = empty := rfl

@[simp] lemma ofItems_debug : ofItems [.debug] = ⟨true, none, []⟩ := rfl

@[simp] lemma ofItems_config (path : String) :
    ofItems [.config path] = ⟨false, some path, []⟩ := rfl

@[simp] lemma ofItems_file (name : String) : ofItems [.file name] = ⟨false, none, [name]⟩ := rfl

lemma ofItems_append (items items' : List Item) :
    ofItems (items ++ items') = (ofItems items).followedBy (ofItems items') := by
  simp [ofItems, followedBy, List.getLast?_append]

@[simp] lemma empty_followedBy (p : Args) : empty.followedBy p = p := by
  simp [empty, followedBy]

@[simp] lemma followedBy_empty (p : Args) : p.followedBy empty = p := by
  simp [empty, followedBy]

lemma followedBy_assoc (p q r : Args) :
    (p.followedBy q).followedBy r = p.followedBy (q.followedBy r) := by
  simp [followedBy, Bool.or_assoc, Option.or_assoc]

/-- Arguments at which the reading stops, and why. -/
inductive Stops : List String → ArgsError → Prop
  | help {word : String} {rest : List String} : word = "-h" ∨ word = "--help" →
      Stops (word :: rest) .help
  /-- There is no path, since nothing follows. -/
  | dangling : Stops ["--config"] .missingPath
  | unknown {flag : String} {rest : List String} : isFlag flag = true →
      flag ∉ ["--debug", "--config", "--help"] → Stops (flag :: rest) (.unknownOption flag)

/-- Only where a path is missing can more arguments help. -/
lemma Stops.append (h : Stops xs e) (he : e ≠ .missingPath) (ys : List String) :
    Stops (xs ++ ys) e := by
  cases h with
  | help hword => exact .help hword
  | dangling => exact absurd rfl he
  | unknown hflag hnew => exact .unknown hflag hnew

lemma parseOnto_of_stops (h : Stops xs e) (args : Args) : parseOnto args xs = .error e := by
  cases h with
  | @help word rest hword => rcases hword with rfl | rfl <;> simp [parseOnto]
  | dangling => rfl
  | @unknown flag rest hflag hnew =>
    have hshort : flag ≠ "-h" := by
      rintro rfl
      exact absurd hflag (by decide)
    simp only [List.mem_cons, List.not_mem_nil, or_false, not_or] at hnew
    obtain ⟨hdebug, hconfig, hhelp⟩ := hnew
    simp [parseOnto, hdebug, hconfig, hshort, hhelp, hflag]

/-- One item is read at a time. -/
lemma parseOnto_words_append {item : Item} (h : item.Proper) (args : Args) (ys : List String) :
    parseOnto args (item.words ++ ys) = parseOnto (args.followedBy (ofItems [item])) ys := by
  cases item with
  | debug => simp [Item.words, parseOnto, followedBy]
  | config path => simp [Item.words, parseOnto, followedBy]
  | file name =>
    obtain ⟨hshort, hflag⟩ := h
    have hne : ∀ flag, isFlag flag = true → name ≠ flag := by
      rintro flag htrue rfl
      simp [htrue] at hflag
    have hdebug := hne "--debug" (by decide)
    have hconfig := hne "--config" (by decide)
    have hhelp := hne "--help" (by decide)
    simp [Item.words, parseOnto, hdebug, hconfig, hhelp, hshort, hflag, followedBy]

lemma parseOnto_items_append {items : List Item} (h : ∀ item ∈ items, item.Proper) (args : Args)
    (ys : List String) : parseOnto args (items.flatMap Item.words ++ ys) =
      parseOnto (args.followedBy (ofItems items)) ys := by
  induction items generalizing args with
  | nil => simp
  | cons item rest ih =>
    rw [List.flatMap_cons, List.append_assoc,
      parseOnto_words_append (h item (List.mem_cons_self ..)),
      ih (fun i hi => h i (List.mem_cons_of_mem _ hi)), followedBy_assoc, ← ofItems_append]
    rfl

/-- Arguments are a sequence of items, up to where the reading stops if it does. -/
structure Splits (xs : List String) (items : List Item) (rest : List String) : Prop where
  proper : ∀ item ∈ items, item.Proper
  words : xs = items.flatMap Item.words ++ rest
  ends : rest = [] ∨ ∃ e, Stops rest e

lemma Splits.of_stops (h : Stops xs e) : Splits xs [] xs := ⟨nofun, rfl, .inr ⟨e, h⟩⟩

lemma Splits.cons {item : Item} {items : List Item} (h : Splits xs items rest)
    (hitem : item.Proper) : Splits (item.words ++ xs) (item :: items) rest :=
  ⟨by simpa [hitem] using h.proper, by simp [h.words], h.ends⟩

lemma exists_splits (xs : List String) : ∃ items rest, Splits xs items rest := by
  fun_induction parseOnto empty xs with
  | case1 => exact ⟨[], [], nofun, rfl, .inl rfl⟩
  | case2 args path rest ih =>
    obtain ⟨items, last, h⟩ := ih
    have hproper : (Item.config path).Proper := trivial
    exact ⟨_, _, h.cons hproper⟩
  | case3 args rest _ ih =>
    obtain ⟨items, last, h⟩ := ih
    have hproper : Item.debug.Proper := trivial
    exact ⟨_, _, h.cons hproper⟩
  | case4 args rest hnone =>
    obtain rfl : rest = [] := by
      cases rest with
      | nil => rfl
      | cons path rest => exact absurd rfl (hnone path rest rfl)
    exact ⟨_, _, .of_stops .dangling⟩
  | case5 args word rest _ _ _ hhelp => exact ⟨_, _, .of_stops (.help (by simpa using hhelp))⟩
  | case6 args flag rest _ hdebug hconfig hhelp hflag =>
    have hnew : flag ∉ ["--debug", "--config", "--help"] := by simp_all
    exact ⟨_, _, .of_stops (.unknown hflag hnew)⟩
  | case7 args name rest _ _ _ hhelp hflag ih =>
    obtain ⟨items, last, h⟩ := ih
    have hproper : (Item.file name).Proper := by
      simp only [Bool.or_eq_true, decide_eq_true_eq, not_or] at hhelp
      exact ⟨hhelp.1, by simpa using hflag⟩
    exact ⟨_, _, h.cons hproper⟩

/-- What has been read comes first. -/
lemma parseOnto_eq (args : Args) (xs : List String) :
    parseOnto args xs = (parse xs).map args.followedBy := by
  obtain ⟨items, rest, h⟩ := exists_splits xs
  rw [parse, h.words, parseOnto_items_append h.proper, parseOnto_items_append h.proper]
  rcases h.ends with rfl | ⟨e, hstops⟩
  · simp [parseOnto, Except.map]
  · rw [parseOnto_of_stops hstops, parseOnto_of_stops hstops]
    rfl

lemma parse_items {items : List Item} (h : ∀ item ∈ items, item.Proper) :
    parse (items.flatMap Item.words) = .ok (ofItems items) := by
  have hread := parseOnto_items_append h empty []
  simpa [parse, parseOnto] using hread

/-- Arguments that can be read are items, and ask for what those do. -/
lemma parse_eq_ok_iff : parse xs = .ok p ↔ ∃ items : List Item,
    (∀ item ∈ items, item.Proper) ∧ xs = items.flatMap Item.words ∧ p = ofItems items := by
  constructor
  · intro hok
    obtain ⟨items, rest, h⟩ := exists_splits xs
    rw [parse, h.words, parseOnto_items_append h.proper] at hok
    rcases h.ends with rfl | ⟨e, hstops⟩
    · refine ⟨items, h.proper, by simpa using h.words, ?_⟩
      simpa [parseOnto, eq_comm] using hok
    · rw [parseOnto_of_stops hstops] at hok
      cases hok
  · rintro ⟨items, hitems, rfl, rfl⟩
    exact parse_items hitems

lemma parse_eq_error_iff : parse xs = .error e ↔ ∃ (items : List Item) (rest : List String),
    (∀ item ∈ items, item.Proper) ∧ xs = items.flatMap Item.words ++ rest ∧ Stops rest e := by
  constructor
  · intro herror
    obtain ⟨items, rest, h⟩ := exists_splits xs
    rw [parse, h.words, parseOnto_items_append h.proper] at herror
    rcases h.ends with rfl | ⟨e', hstops⟩
    · cases herror
    · rw [parseOnto_of_stops hstops] at herror
      obtain rfl : e' = e := by simpa using herror
      exact ⟨items, rest, h.proper, h.words, hstops⟩
  · rintro ⟨items, rest, hitems, rfl, hstops⟩
    rw [parse, parseOnto_items_append hitems, parseOnto_of_stops hstops]

/--
Arguments behind others that can be read are read as they would be by themselves: they fail with the
same error, or add to what was asked for, where the later path counts and the files keep their
order. Behind others that cannot be read they change nothing, unless all that is missing is the path
of a last `--config`. Arguments that can be read are a sequence of items, each argument in its
place: so no file is lost, and what stands behind `--config` is a path, whatever it looks like.
-/
theorem parse_append (xs ys : List String) :
    (∀ p, parse xs = .ok p → parse (xs ++ ys) = (parse ys).map p.followedBy) ∧
    (∀ e, parse xs = .error e → e ≠ .missingPath → parse (xs ++ ys) = .error e) ∧
    (parse xs = .error .missingPath ↔ ∃ before p, xs = before ++ ["--config"] ∧
      parse before = .ok p) ∧
    ∀ p, parse xs = .ok p ↔ ∃ items : List Item, (∀ item ∈ items, item.Proper) ∧
      xs = items.flatMap Item.words ∧ p = ofItems items := by
  refine ⟨fun p hp => ?_, fun e he hne => ?_, ?_, fun p => parse_eq_ok_iff⟩
  · obtain ⟨items, hitems, rfl, rfl⟩ := parse_eq_ok_iff.mp hp
    rw [parse, parseOnto_items_append hitems, empty_followedBy, parseOnto_eq]
  · obtain ⟨items, rest, hitems, rfl, hstops⟩ := parse_eq_error_iff.mp he
    exact parse_eq_error_iff.mpr
      ⟨items, rest ++ ys, hitems, List.append_assoc .., hstops.append hne ys⟩
  · rw [parse_eq_error_iff]
    constructor
    · rintro ⟨items, rest, hitems, rfl, hstops⟩
      cases hstops
      exact ⟨_, _, rfl, parse_items hitems⟩
    · rintro ⟨before, p, rfl, hp⟩
      obtain ⟨items, hitems, rfl, -⟩ := parse_eq_ok_iff.mp hp
      exact ⟨items, _, hitems, rfl, .dangling⟩

/-- A path may look like an option, and behind an option that asks for help nothing is read. -/
theorem parse_append_path_help :
    parse ["a.yaml", "--config", "--help"] = .ok ⟨false, some "--help", ["a.yaml"]⟩ ∧
    parse (["a.yaml", "--config", "--help"] ++ ["--debug", "b.yml"]) =
      .ok ⟨true, some "--help", ["a.yaml", "b.yml"]⟩ ∧
    parse ["-h", "--config"] = .error .help ∧
    parse (["-h", "--config"] ++ ["b.yml"]) = .error .help := by
  have hread : parse ["a.yaml", "--config", "--help"] = .ok ⟨false, some "--help", ["a.yaml"]⟩ := rfl
  have hhelp : parse ["-h", "--config"] = .error .help := rfl
  refine ⟨hread, ?_, hhelp, (parse_append _ _).2.1 .help hhelp (by decide)⟩
  rw [(parse_append _ _).1 _ hread]
  rfl

end Args

end LanguageClient.CommandLine
