import HeaderRules.Proofs.Url.Evaluation
/-!
# Validation and matching agree

A regular expression is compiled twice: with case counting when it is validated, and with case
ignored when a URL is matched. It is compiled or refused alike both times, so what validation says
of it foretells what matching makes of every URL. The expression of a wildcard pattern, which
nothing validates, is never refused.
-/

namespace HeaderRules.Url

open HeaderRules.Regex

variable {text : List Char} {regex : Regex} {e : Error}

theorem isInvalidPattern_of_exceeds (h : Exceeds text e) : e.isInvalidPattern = false := by
  cases h <;> rfl

theorem isInvalidPattern_of_not_exceeds (h : Regex.compile text true = .error e)
    (hlimit : ¬Exceeds text e) : e.isInvalidPattern = true := by
  rw [← Bool.not_eq_false]
  exact fun hvalid => hlimit (exceeds_of_compile h hvalid)

/-! ## What validation says -/

theorem validate_of_compile (h : Regex.compile text true = .ok regex) :
    validate (regexMark ++ text) = .ok none := by
  cases hcompile : Regex.compile text false with
  | ok sensitive => exact validate_regex_of_ok hcompile
  | error e =>
    rw [compile_eq_error_iff.2 hcompile] at h
    cases h

theorem validate_of_fault (h : Regex.compile text true = .error e) (hlimit : ¬Exceeds text e) :
    validate (regexMark ++ text) = .ok (some (.regex e)) := by
  rw [validate_regex_of_error (compile_eq_error_iff.1 h),
    if_pos (isInvalidPattern_of_not_exceeds h hlimit)]

theorem validate_of_exceeds (h : Regex.compile text true = .error e) (hlimit : Exceeds text e) :
    validate (regexMark ++ text) = .error e := by
  rw [validate_regex_of_error (compile_eq_error_iff.1 h), isInvalidPattern_of_exceeds hlimit]
  rfl

/-- Nothing is said against just those regular expressions that matching can compile. -/
theorem validate_eq_none_iff :
    validate (regexMark ++ text) = .ok none ↔ ∃ regex, Regex.compile text true = .ok regex := by
  constructor
  · intro hvalid
    cases h : Regex.compile text true with
    | ok regex => exact ⟨regex, rfl⟩
    | error e =>
      by_cases hlimit : Exceeds text e
      · rw [validate_of_exceeds h hlimit] at hvalid
        cases hvalid
      · rw [validate_of_fault h hlimit] at hvalid
        cases hvalid
  · rintro ⟨regex, h⟩
    exact validate_of_compile h

/-- A flaw is reported of just those that matching cannot compile, unless they exceed a limit. -/
theorem validate_eq_some_iff {flaw : Flaw} :
    validate (regexMark ++ text) = .ok (some flaw) ↔
      ∃ e, Regex.compile text true = .error e ∧ ¬Exceeds text e ∧ flaw = .regex e := by
  constructor
  · intro hflaw
    cases h : Regex.compile text true with
    | ok regex =>
      rw [validate_of_compile h] at hflaw
      cases hflaw
    | error e =>
      by_cases hlimit : Exceeds text e
      · rw [validate_of_exceeds h hlimit] at hflaw
        cases hflaw
      · rw [validate_of_fault h hlimit] at hflaw
        cases hflaw
        exact ⟨e, rfl, hlimit, rfl⟩
  · rintro ⟨e, h, hlimit, rfl⟩
    exact validate_of_fault h hlimit

/-! ## What matching makes of it -/

theorem matchUrl_of_compile (h : Regex.compile text true = .ok regex) (url : List Char) :
    matchUrl (regexMark ++ text) url = .ok ⟨regex.matchesSomewhere url, .regex⟩ := by
  rw [matchUrl_regex, h]
  rfl

theorem matchUrl_of_fault (h : Regex.compile text true = .error e) (hlimit : ¬Exceeds text e)
    (url : List Char) : matchUrl (regexMark ++ text) url = .ok ⟨false, .regex⟩ := by
  rw [matchUrl_regex_of_error (compile_eq_error_iff.1 h),
    if_pos (isInvalidPattern_of_not_exceeds h hlimit)]

theorem matchUrl_of_exceeds (h : Regex.compile text true = .error e) (hlimit : Exceeds text e)
    (url : List Char) : matchUrl (regexMark ++ text) url = .error e := by
  rw [matchUrl_regex_of_error (compile_eq_error_iff.1 h), isInvalidPattern_of_exceeds hlimit]
  rfl

theorem matchUrl_wildcard {pattern : List Char} (hformat : formatOf pattern = .wildcard) :
    ∃ regex, Regex.compile (wildcardRegex pattern) true = .ok regex ∧
      ∀ url, matchUrl pattern url = .ok ⟨regex.matchesStart url, .wildcard⟩ := by
  refine ⟨_, Wildcard.compile_wildcardRegex pattern, fun url => ?_⟩
  rw [matchUrl, hformat, Wildcard.compile_wildcardRegex]
  rfl

/-- Unless a regular expression exceeds a limit, a flaw of it is reported just when matching cannot
compile it, and then it misses every URL; one without a flaw is searched for in every URL. One that
exceeds a limit is answered for neither way. A wildcard pattern is always compiled and matched. -/
theorem validation_agrees_with_matching (text pattern : List Char) :
    (∀ flaw, validate (regexMark ++ text) = .ok (some flaw) ↔
      ∃ e, Regex.compile text true = .error e ∧ ¬Exceeds text e ∧ flaw = .regex e) ∧
    (∀ flaw, validate (regexMark ++ text) = .ok (some flaw) →
      ∀ url, matchUrl (regexMark ++ text) url = .ok ⟨false, .regex⟩) ∧
    (validate (regexMark ++ text) = .ok none ↔
      ∃ regex, Regex.compile text true = .ok regex ∧
        ∀ url, matchUrl (regexMark ++ text) url = .ok ⟨regex.matchesSomewhere url, .regex⟩) ∧
    (∀ e, Regex.compile text true = .error e → Exceeds text e →
      validate (regexMark ++ text) = .error e ∧
        ∀ url, matchUrl (regexMark ++ text) url = .error e) ∧
    (formatOf pattern = .wildcard →
      ∃ regex, Regex.compile (wildcardRegex pattern) true = .ok regex ∧
        ∀ url, matchUrl pattern url = .ok ⟨regex.matchesStart url, .wildcard⟩) := by
  refine ⟨fun flaw => validate_eq_some_iff, ?_, ?_, ?_, matchUrl_wildcard⟩
  · intro flaw hflaw url
    obtain ⟨e, h, hlimit, -⟩ := validate_eq_some_iff.1 hflaw
    exact matchUrl_of_fault h hlimit url
  · rw [validate_eq_none_iff]
    exact exists_congr fun regex => (and_iff_left_of_imp matchUrl_of_compile).symm
  · intro e h hlimit
    exact ⟨validate_of_exceeds h hlimit, matchUrl_of_exceeds h hlimit⟩

/-- Two alphabets: matching cannot compile the expression, and yet neither does validation report it
nor is it a miss. -/
theorem unreported_two_alphabets :
    Regex.compile "(?a)(?u)".toList true = .error .alphabetConflict ∧
      validate "regex:(?a)(?u)".toList = .error .alphabetConflict ∧
      matchUrl "regex:(?a)(?u)".toList "a".toList = .error .alphabetConflict := by
  exact ⟨by with_unfolding_all rfl, by with_unfolding_all rfl, by with_unfolding_all rfl⟩

end HeaderRules.Url
