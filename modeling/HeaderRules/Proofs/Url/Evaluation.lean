import HeaderRules.Proofs.Regex.ParserLimits
import HeaderRules.Proofs.Url.PatternText
/-!
# Patterns that have an answer

Validation and matching answer for every pattern and every URL, unless the pattern is a regular
expression with something in its text that exceeds a limit; then neither of them does.
-/

namespace HeaderRules.Url

open HeaderRules.Regex

variable {pattern text url : List Char} {e : Error}

theorem formatOf_regex_iff :
    formatOf pattern = .regex ↔ ∃ text, pattern = regexMark ++ text := by
  have hprefix : regexMark.isPrefixOf pattern = true ↔ ∃ text, pattern = regexMark ++ text := by
    rw [List.isPrefixOf_iff_prefix]
    exact exists_congr fun text => eq_comm
  rw [← hprefix, formatOf]
  constructor
  · intro hformat
    split at hformat
    · assumption
    · split at hformat <;> cases hformat
  · intro hmark
    rw [if_pos hmark]

theorem regexMark_ne_nil (text : List Char) : regexMark ++ text ≠ [] :=
  List.append_ne_nil_of_left_ne_nil (by decide) text

theorem drop_regexMark (text : List Char) : (regexMark ++ text).drop regexMark.length = text :=
  List.drop_left

/-- Whether case is ignored has no part in whether a text can be read. -/
theorem compile_eq_error_iff :
    Regex.compile text true = .error e ↔ Regex.compile text false = .error e := by
  rw [compile_ignoreCase text true]
  cases Regex.compile text false with
  | error other => exact Iff.rfl
  | ok regex => exact ⟨nofun, nofun⟩

theorem validate_regex_of_ok {regex : Regex} (h : Regex.compile text false = .ok regex) :
    validate (regexMark ++ text) = .ok none := by
  simp only [validate, if_neg (regexMark_ne_nil text), formatOf_regex_iff.2 ⟨text, rfl⟩,
    drop_regexMark, h]

theorem validate_regex_of_error (h : Regex.compile text false = .error e) :
    validate (regexMark ++ text) =
      if e.isInvalidPattern then .ok (some (.regex e)) else .error e := by
  simp only [validate, if_neg (regexMark_ne_nil text), formatOf_regex_iff.2 ⟨text, rfl⟩,
    drop_regexMark, h]

theorem matchUrl_regex (text url : List Char) :
    matchUrl (regexMark ++ text) url =
      (foundBy (Regex.compile text true) (·.matchesSomewhere url)).map fun found =>
        ⟨found, .regex⟩ := by
  rw [matchUrl, formatOf_regex_iff.2 ⟨text, rfl⟩, drop_regexMark]
  cases foundBy (Regex.compile text true) (·.matchesSomewhere url) <;> rfl

theorem matchUrl_regex_of_error (h : Regex.compile text false = .error e) (url : List Char) :
    matchUrl (regexMark ++ text) url =
      if e.isInvalidPattern then .ok ⟨false, .regex⟩ else .error e := by
  rw [matchUrl_regex, compile_eq_error_iff.2 h, foundBy]
  cases e.isInvalidPattern <;> rfl

/-- A pattern that is no regular expression is answered for always. -/
theorem matchUrl_of_not_regex (hformat : formatOf pattern ≠ .regex) (url : List Char) :
    ∃ found, matchUrl pattern url = .ok found := by
  unfold matchUrl
  cases hcase : formatOf pattern with
  | simple => exact ⟨_, rfl⟩
  | wildcard =>
    rw [Wildcard.compile_wildcardRegex]
    exact ⟨_, rfl⟩
  | regex => exact absurd hcase hformat

theorem validate_of_not_regex (hformat : formatOf pattern ≠ .regex) :
    ∃ flaw, validate pattern = .ok flaw := by
  have hplain (c : Prop) [Decidable c] :
      ∃ flaw, (if c then .ok (some .reservedCharacter) else .ok none : Except Error (Option Flaw)) =
        .ok flaw := by
    split <;> exact ⟨_, rfl⟩
  unfold validate
  split
  · exact ⟨_, rfl⟩
  · cases hcase : formatOf pattern with
    | simple => exact hplain _
    | wildcard => exact hplain _
    | regex => exact absurd hcase hformat

/-- Every pattern is validated and matched against every URL, and a regular expression that cannot
be read is reported and matches no URL, with one exception: a regular expression with something in
its text that exceeds a limit is answered for neither by validation nor on any URL. -/
theorem answers_or_exceeds (pattern : List Char) :
    (∃ flaw, validate pattern = .ok flaw ∧ (∀ url, ∃ found, matchUrl pattern url = .ok found) ∧
      ∀ text e, pattern = regexMark ++ text → Regex.compile text false = .error e →
        flaw = some (.regex e) ∧ ∀ url, matchUrl pattern url = .ok ⟨false, .regex⟩) ∨
    (∃ text e, pattern = regexMark ++ text ∧ Exceeds text e ∧
      Regex.compile text false = .error e ∧ validate pattern = .error e ∧
        ∀ url, matchUrl pattern url = .error e) := by
  by_cases hformat : formatOf pattern = .regex
  · obtain ⟨text, rfl⟩ := formatOf_regex_iff.1 hformat
    cases hcompile : Regex.compile text false with
    | ok regex =>
      refine .inl ⟨none, validate_regex_of_ok hcompile, ?_, ?_⟩
      · intro url
        cases hfound : Regex.compile text true with
        | ok regex => exact ⟨_, by rw [matchUrl_regex, hfound]; rfl⟩
        | error e =>
          rw [compile_eq_error_iff.1 hfound] at hcompile
          cases hcompile
      · intro other e hsame hother
        obtain rfl := List.append_cancel_left hsame
        rw [hcompile] at hother
        cases hother
    | error e =>
      have hmatch := matchUrl_regex_of_error hcompile
      cases hlimit : e.isInvalidPattern with
      | true =>
        have hmiss : ∀ url, matchUrl (regexMark ++ text) url = .ok ⟨false, .regex⟩ := by
          intro url
          rw [hmatch, if_pos hlimit]
        refine .inl ⟨some (.regex e), ?_, fun url => ⟨_, hmiss url⟩, ?_⟩
        · rw [validate_regex_of_error hcompile, if_pos hlimit]
        · intro other e' hsame hother
          obtain rfl := List.append_cancel_left hsame
          obtain rfl : e = e' := Except.error.inj (hcompile.symm.trans hother)
          exact ⟨rfl, hmiss⟩
      | false =>
        refine .inr ⟨text, e, rfl, exceeds_of_compile hcompile hlimit, hcompile, ?_, ?_⟩
        · rw [validate_regex_of_error hcompile, if_neg (by simp [hlimit])]
        · intro url
          rw [hmatch, if_neg (by simp [hlimit])]
  · obtain ⟨flaw, hflaw⟩ := validate_of_not_regex hformat
    refine .inl ⟨flaw, hflaw, matchUrl_of_not_regex hformat, ?_⟩
    rintro text e rfl -
    exact absurd (formatOf_regex_iff.2 ⟨text, rfl⟩) hformat

/-- A count beyond the limit: neither validation nor matching answers. -/
theorem no_answer_huge_count :
    validate "regex:a\x7b4294967295\x7d".toList = .error .hugeRepeat ∧
      matchUrl "regex:a\x7b4294967295\x7d".toList "a".toList = .error .hugeRepeat := by
  exact ⟨by with_unfolding_all rfl, by with_unfolding_all rfl⟩

end HeaderRules.Url
