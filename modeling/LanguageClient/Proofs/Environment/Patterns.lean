import LanguageClient.Environment
import LanguageClient.Proofs.Text.Upper

/-!
# Names that fit a pattern

A pattern is a core that may have a star at either end, and a star stands for any text. So a name
fits when it is the core with some text in the place of each star, and the secret names are told by
how they end, how they start and what they contain: `Environment.secret_names`.
-/

namespace LanguageClient

lemma Text.occursIn_iff {part text : List Char} : occursIn part text = true ↔ part <:+: text := by
  induction text with
  | nil => simp [occursIn]
  | cons c rest ih => simp [occursIn, ih, List.infix_cons_iff]

namespace Environment

variable {core pattern name rest : List Char} {before behind : Bool}

/-- A star, or nothing. -/
def star (given : Bool) : List Char := if given then ['*'] else []

/-- The pattern of a core with stars at the given ends. -/
def starred (before behind : Bool) (core : List Char) : List Char :=
  star before ++ core ++ star behind

/-- A name is a core between two texts, which are empty where no star stands for them. -/
def Fills (before behind : Bool) (core name : List Char) : Prop :=
  ∃ a b, name = a ++ core ++ b ∧ (before = false → a = []) ∧ (behind = false → b = [])

lemma fills_none : Fills false false core name ↔ name = core := by
  simp [Fills]

lemma fills_before : Fills true false core name ↔ core <:+ name := by
  simp [Fills, List.IsSuffix, eq_comm]

lemma fills_behind : Fills false true core name ↔ core <+: name := by
  simp [Fills, List.IsPrefix, eq_comm]

lemma fills_both : Fills true true core name ↔ core <:+: name := by
  simp [Fills, List.IsInfix, eq_comm]

/-! ### The cases of a pattern -/

lemma fits_star_cons : fits ('*' :: rest) name =
    if ('*' :: rest).getLast? = some '*' then
      Text.occursIn (rest.reverse.dropWhile (· = '*')).reverse name
    else rest.isSuffixOf name := rfl

lemma fits_of_head? (h : pattern.head? ≠ some '*') : fits pattern name =
    if pattern.getLast? = some '*' then pattern.dropLast.isPrefixOf name
    else decide (name = pattern) := by
  unfold fits
  split
  case h_1 => simp at h
  case h_2 => rfl

lemma head?_ne_star (h : '*' ∉ core) : core.head? ≠ some '*' := by
  intro hstar
  exact h (List.mem_of_head? hstar)

lemma getLast?_ne_star (h : '*' ∉ core) : core.getLast? ≠ some '*' := by
  intro hstar
  exact h (List.mem_of_getLast? hstar)

/-- A star at the end is dropped, and nothing of the core. -/
lemma dropWhile_concat_star (h : '*' ∉ core) :
    ((core ++ ['*']).reverse.dropWhile (· = '*')).reverse = core := by
  have hstop : core.reverse.dropWhile (· = '*') = core.reverse := by
    cases hrev : core.reverse with
    | nil => rfl
    | cons c rest =>
      have hc : c ∈ core := by
        rw [← List.mem_reverse, hrev]
        exact List.mem_cons_self ..
      have hne : c ≠ '*' := by
        rintro rfl
        exact h hc
      simp [hne]
  simp [hstop]

lemma fits_core_iff (h : '*' ∉ core) : fits core name = true ↔ name = core := by
  rw [fits_of_head? (head?_ne_star h), if_neg (getLast?_ne_star h), decide_eq_true_iff]

/-- A lone star is at both ends of its pattern. -/
lemma fits_star : fits ['*'] name = true := by
  have hlast : ['*'].getLast? = some '*' := rfl
  rw [fits_star_cons, if_pos hlast, Text.occursIn_iff]
  exact List.nil_infix

lemma fits_before_iff (h : '*' ∉ core) : fits ('*' :: core) name = true ↔ core <:+ name := by
  by_cases hne : core = []
  · subst hne
    simp [fits_star]
  · have hlast : ('*' :: core).getLast? ≠ some '*' := by
      rw [List.getLast?_cons_of_ne_nil hne]
      exact getLast?_ne_star h
    rw [fits_star_cons, if_neg hlast, List.isSuffixOf_iff_suffix]

lemma fits_behind_iff (h : '*' ∉ core) : fits (core ++ ['*']) name = true ↔ core <+: name := by
  by_cases hne : core = []
  · subst hne
    simp [fits_star, List.nil_prefix]
  · have hhead : (core ++ ['*']).head? ≠ some '*' := by
      rw [List.head?_append_of_ne_nil core hne]
      exact head?_ne_star h
    rw [fits_of_head? hhead, if_pos List.getLast?_concat, List.dropLast_concat,
      List.isPrefixOf_iff_prefix]

lemma fits_both_iff (h : '*' ∉ core) :
    fits ('*' :: (core ++ ['*'])) name = true ↔ core <:+: name := by
  have hlast : ('*' :: (core ++ ['*'])).getLast? = some '*' := by
    rw [← List.cons_append]
    exact List.getLast?_concat
  rw [fits_star_cons, if_pos hlast, dropWhile_concat_star h, Text.occursIn_iff]

/-- What fits a pattern has some text in the place of each star. -/
lemma fits_starred_iff (h : '*' ∉ core) :
    fits (starred before behind core) name = true ↔ Fills before behind core name := by
  cases before <;> cases behind <;> simp only [starred, star, Bool.false_eq_true, if_false, if_true,
    List.nil_append, List.append_nil, List.cons_append]
  case false.false => rw [fits_core_iff h, fills_none]
  case false.true => rw [fits_behind_iff h, fills_behind]
  case true.false => rw [fits_before_iff h, fills_before]
  case true.true => rw [fits_both_iff h, fills_both]

/-! ### Secret names -/

lemma upper_star (given : Bool) : Text.upper (star given) = star given := by
  cases given <;> simp [star]

lemma upper_starred : Text.upper (starred before behind core) =
    starred before behind (Text.upper core) := by
  simp [starred, upper_star]

/-- Case is taken away from both sides before they are compared. -/
lemma fits_upper_iff (h : '*' ∉ core) : fits (Text.upper (starred before behind core)) name = true ↔
    Fills before behind (Text.upper core) name := by
  have hupper : '*' ∉ Text.upper core := by
    rw [Text.star_mem_upper_iff]
    exact h
  rw [upper_starred, fits_starred_iff hupper]

/-- How secret names end. -/
def secretEnds : List String := ["_KEY", "_SECRET", "_TOKEN", "_PASSWORD"]

/-- The patterns of secret names, which are in upper case, by their cores. -/
lemma upper_secretPatterns : (secretPatterns.map fun p => Text.upper p.toList) =
    secretEnds.map (fun ending => starred true false ending.toList) ++
      [starred true true "_CREDENTIAL".toList, starred false true "AWS_".toList,
        starred false false "GITHUB_TOKEN".toList] := by
  decide

lemma isSecret_iff {key : String} : isSecret key = true ↔
    (∃ ending ∈ secretEnds, ending.toList <:+ Text.upper key.toList) ∨
      "_CREDENTIAL".toList <:+: Text.upper key.toList ∨ "AWS_".toList <+: Text.upper key.toList := by
  have hends : ∀ ending ∈ secretEnds, '*' ∉ ending.toList := by decide
  have hends_iff : (∃ ending ∈ secretEnds,
      fits (starred true false ending.toList) (Text.upper key.toList) = true) ↔
        ∃ ending ∈ secretEnds, ending.toList <:+ Text.upper key.toList := by
    refine exists_congr fun ending => and_congr_right fun hmem => ?_
    rw [fits_starred_iff (hends ending hmem), fills_before]
  have hany : isSecret key = (secretPatterns.map fun p => Text.upper p.toList).any
      fun p => fits p (Text.upper key.toList) := by
    simp [isSecret, List.any_map, Function.comp_def]
  rw [hany, upper_secretPatterns, List.any_append, Bool.or_eq_true, List.any_map, List.any_eq_true]
  simp only [Function.comp_apply, hends_iff, List.any_cons, List.any_nil, Bool.or_false,
    Bool.or_eq_true]
  rw [fits_starred_iff (by decide), fits_starred_iff (by decide), fits_starred_iff (by decide),
    fills_both, fills_behind, fills_none]
  -- The last pattern says nothing new: its core ends as the secret names do.
  have hlast : Text.upper key.toList = "GITHUB_TOKEN".toList →
      ∃ ending ∈ secretEnds, ending.toList <:+ Text.upper key.toList := by
    intro heq
    rw [heq]
    decide
  constructor
  · rintro (hend | hinfix | hstart | heq)
    · exact .inl hend
    · exact .inr (.inl hinfix)
    · exact .inr (.inr hstart)
    · exact .inl (hlast heq)
  · rintro (hend | hinfix | hstart)
    · exact .inl hend
    · exact .inr (.inl hinfix)
    · exact .inr (.inr (.inl hstart))

lemma isSecret_congr {key key' : String} (h : Text.upper key.toList = Text.upper key'.toList) :
    isSecret key = isSecret key' := by
  simp only [isSecret, h]

/--
A name fits a pattern when it is the upper-case form of the core between two texts, which are empty
where the pattern has no star. So a variable is withheld when its name in upper case ends in `_KEY`,
`_SECRET`, `_TOKEN` or `_PASSWORD`, contains `_CREDENTIAL`, or starts with `AWS_`, and variables
whose names are the same in upper case are treated alike.
-/
theorem secret_names :
    (∀ (before behind : Bool) (core name : List Char), '*' ∉ core →
      (fits (Text.upper (starred before behind core)) name = true ↔
        Fills before behind (Text.upper core) name)) ∧
    (∀ key : String, isSecret key = true ↔
      (∃ ending ∈ secretEnds, ending.toList <:+ Text.upper key.toList) ∨
      "_CREDENTIAL".toList <:+: Text.upper key.toList ∨ "AWS_".toList <+: Text.upper key.toList) ∧
    ∀ key key' : String, Text.upper key.toList = Text.upper key'.toList →
      isSecret key = isSecret key' := by
  refine ⟨?_, ?_, ?_⟩
  · intro before behind core name hcore
    exact fits_upper_iff hcore
  · intro key
    exact isSecret_iff
  · intro key key' hsame
    exact isSecret_congr hsame

/-- A star stands for any text, also for none, and case does not matter. -/
theorem secret_names_credential :
    '*' ∉ "_credential".toList ∧
    fits (Text.upper (starred true true "_credential".toList)) "DB_CREDENTIAL".toList = true ∧
    Text.upper "Db_Credential".toList = Text.upper "DB_CREDENTIAL".toList ∧
    isSecret "Db_Credential" = isSecret "DB_CREDENTIAL" ∧
    isSecret "DB_CREDENTIAL" = true ∧ isSecret "CREDENTIALS" = false := by
  have hcore : '*' ∉ "_credential".toList := by decide
  have hname : Text.upper "DB_CREDENTIAL".toList = "DB_CREDENTIAL".toList := by decide
  have hother : Text.upper "CREDENTIALS".toList = "CREDENTIALS".toList := by decide
  have hsame : Text.upper "Db_Credential".toList = Text.upper "DB_CREDENTIAL".toList := by decide
  have hsplit : "DB_CREDENTIAL".toList = "DB".toList ++ "_CREDENTIAL".toList ++ [] := by decide
  obtain ⟨hfits, hsecret, hcongr⟩ := secret_names
  refine ⟨hcore, ?_, hsame, hcongr _ _ hsame, ?_, ?_⟩
  · rw [hfits true true _ _ hcore]
    exact ⟨_, _, hsplit, nofun, nofun⟩
  · rw [hsecret, hname]
    exact .inr (.inl ⟨_, _, hsplit.symm⟩)
  · rw [Bool.eq_false_iff, ne_eq, hsecret, hother, ← Text.occursIn_iff]
    decide

end Environment

end LanguageClient
