import HeaderRules.Proofs.Url.PatternMeaning
/-!
# Wildcard patterns by rewriting text

The expression of a wildcard pattern can be made by rewriting the text of the escaped pattern: first
the escaped stars, then an escaped bar at either end. No escape is ever cut in two by this. What is
made is the expression that the characters of the pattern give one by one, and it finds the URLs that
the characters between the bars spell.
-/

namespace HeaderRules.Url.Wildcard

open HeaderRules.Regex

/-- A text with every escaped star, from the left, made a repetition of any character. -/
def replaceStars : List Char → List Char
  | [] => []
  | [c] => [c]
  | c :: d :: rest =>
    if c = '\\' ∧ d = '*' then '.' :: '*' :: replaceStars rest else c :: replaceStars (d :: rest)

/-- A text with an escaped bar at its beginning made an anchor. -/
def anchorFront : List Char → List Char
  | '\\' :: '|' :: rest => '^' :: rest
  | text => text

/-- A text with an escaped bar at its end made an anchor. -/
def anchorBack (text : List Char) : List Char :=
  if ['\\', '|'] <:+ text then text.take (text.length - 2) ++ ['$'] else text

def rewritten (pattern : List Char) : List Char :=
  '^' :: anchorBack (anchorFront (replaceStars (pattern.flatMap escapeChar))) ++ ['$']

variable {c : Char} {text rest : List Char}

theorem escapeChar_of_special (h : c ∈ specialChars) : escapeChar c = ['\\', c] := if_pos h

theorem escapeChar_of_plain (h : c ∉ specialChars) : escapeChar c = [c] := if_neg h

theorem wildcardChar_of_ne_star (h : c ≠ '*') : wildcardChar c = escapeChar c := if_neg h

theorem wildcardChar_bar : wildcardChar '|' = ['\\', '|'] := by decide

/-! ## Stars -/

theorem replaceStars_cons (h : c ≠ '\\' ∨ rest.head? ≠ some '*') :
    replaceStars (c :: rest) = c :: replaceStars rest := by
  cases rest with
  | nil => rfl
  | cons d rest =>
    have hpair : ¬(c = '\\' ∧ d = '*') := by
      rintro ⟨rfl, rfl⟩
      simp at h
    rw [replaceStars, if_neg hpair]

/-- Stars are escaped, so none stands first and none can follow a backslash that is escaped itself. -/
theorem head?_flatMap_escapeChar (pattern : List Char) :
    (pattern.flatMap escapeChar).head? ≠ some '*' := by
  cases pattern with
  | nil => simp
  | cons c rest =>
    rw [List.flatMap_cons]
    by_cases hspecial : c ∈ specialChars
    · simp [escapeChar_of_special hspecial]
    · have hstar : c ≠ '*' := by
        rintro rfl
        exact hspecial (by decide)
      simp [escapeChar_of_plain hspecial, hstar]

theorem replaceStars_escapeChar (c : Char) (h : rest.head? ≠ some '*') :
    replaceStars (escapeChar c ++ rest) = wildcardChar c ++ replaceStars rest := by
  by_cases hstar : c = '*'
  · subst hstar
    rfl
  · rw [wildcardChar_of_ne_star hstar]
    by_cases hspecial : c ∈ specialChars
    · have hhead : (c :: rest).head? ≠ some '*' := by simpa using hstar
      rw [escapeChar_of_special hspecial, List.cons_append, List.cons_append, List.nil_append,
        replaceStars_cons (.inr hhead), replaceStars_cons (.inr h)]
      rfl
    · have hslash : c ≠ '\\' := by
        rintro rfl
        exact hspecial (by decide)
      rw [escapeChar_of_plain hspecial, List.singleton_append, replaceStars_cons (.inl hslash)]
      rfl

theorem replaceStars_flatMap (pattern : List Char) :
    replaceStars (pattern.flatMap escapeChar) = pattern.flatMap wildcardChar := by
  induction pattern with
  | nil => rfl
  | cons c rest ih =>
    rw [List.flatMap_cons, List.flatMap_cons,
      replaceStars_escapeChar c (head?_flatMap_escapeChar rest), ih]

/-! ## Bars -/

theorem anchorFront_eq_self (h : ¬['\\', '|'] <+: text) : anchorFront text = text := by
  unfold anchorFront
  split
  · exact absurd ⟨_, rfl⟩ h
  · rfl

/-- A backslash at the beginning belongs to the first character of the pattern. -/
theorem no_bar_in_front (h : c ≠ '|') (rest : List Char) :
    ¬['\\', '|'] <+: wildcardChar c ++ rest := by
  by_cases hstar : c = '*'
  · subst hstar
    simp [wildcardChar]
  · rw [wildcardChar_of_ne_star hstar]
    by_cases hspecial : c ∈ specialChars
    · simp [escapeChar_of_special hspecial, h.symm]
    · have hslash : '\\' ≠ c := by
        rintro rfl
        exact hspecial (by decide)
      simp [escapeChar_of_plain hspecial, hslash]

theorem anchorFront_flatMap (pattern : List Char) :
    anchorFront (pattern.flatMap wildcardChar) =
      (if leads pattern then ['^'] else []) ++
        (splitLeadingBar pattern).2.flatMap wildcardChar := by
  unfold leads splitLeadingBar
  split
  · rw [List.flatMap_cons, wildcardChar_bar]
    rfl
  · rename_i hbar
    cases pattern with
    | nil => rfl
    | cons c rest =>
      have hne : c ≠ '|' := by
        rintro rfl
        exact hbar rest rfl
      rw [List.flatMap_cons]
      exact anchorFront_eq_self (no_bar_in_front hne _)

theorem getLast?_wildcardChar (c : Char) : (wildcardChar c).getLast? = some c := by
  by_cases hstar : c = '*'
  · subst hstar
    rfl
  · rw [wildcardChar_of_ne_star hstar, escapeChar]
    split <;> rfl

theorem anchorBack_bar (text : List Char) : anchorBack (text ++ ['\\', '|']) = text ++ ['$'] := by
  rw [anchorBack, if_pos (List.suffix_append text _)]
  simp

theorem anchorBack_eq_self (h : text.getLast? ≠ some '|') : anchorBack text = text := by
  apply if_neg
  rintro ⟨front, rfl⟩
  simp at h

theorem anchorBack_flatMap {front : List Char} (hfront : front.getLast? ≠ some '|')
    (pattern : List Char) :
    anchorBack (front ++ pattern.flatMap wildcardChar) =
      front ++ (splitTrailingBar pattern).2.flatMap wildcardChar ++
        if (splitTrailingBar pattern).1 then ['$'] else [] := by
  rcases List.eq_nil_or_concat pattern with rfl | ⟨init, c, rfl⟩
  · simpa [splitTrailingBar] using anchorBack_eq_self hfront
  · rw [List.concat_eq_append, List.flatMap_append, List.flatMap_singleton, ← List.append_assoc]
    by_cases hbar : c = '|'
    · subst hbar
      rw [wildcardChar_bar, anchorBack_bar]
      simp [splitTrailingBar]
    · have hlast : (front ++ init.flatMap wildcardChar ++ wildcardChar c).getLast? ≠ some '|' := by
        simpa [List.getLast?_append, getLast?_wildcardChar] using hbar
      rw [anchorBack_eq_self hlast]
      simp [splitTrailingBar, hbar]

/-- Rewriting the escaped text and putting the characters together one by one give the same
expression. -/
theorem wildcardRegex_eq_rewritten (pattern : List Char) :
    wildcardRegex pattern = rewritten pattern := by
  have hfront : (if leads pattern then ['^'] else []).getLast? ≠ some '|' := by
    split <;> decide
  rw [rewritten, replaceStars_flatMap, anchorFront_flatMap, anchorBack_flatMap hfront]
  rfl

/-! ## What is found -/

theorem formatOf_wildcard (hstar : '*' ∈ text) (hmark : ¬regexMark <+: text) :
    formatOf text = .wildcard := by
  have hprefix : regexMark.isPrefixOf text = false := by
    simpa [← List.isPrefixOf_iff_prefix] using hmark
  simp [formatOf, hprefix, hstar]

/-- A wildcard pattern finds a URL exactly if the characters between its bars spell the URL, or all
of it but one line break at the end. -/
theorem evaluate_iff_fits {pattern : List Char} (hstar : '*' ∈ pattern)
    (hmark : ¬regexMark <+: pattern) (url : List Char) :
    wildcardRegex pattern = rewritten pattern ∧
      ∃ found, evaluate pattern url = .ok found ∧
        (found = true ↔ Fits (body pattern) url ∨
          ∃ text, url = text ++ ['\n'] ∧ Fits (body pattern) text) := by
  obtain ⟨found, hfound, hmeaning⟩ := evaluate_eq (formatOf_wildcard hstar hmark) url
  refine ⟨wildcardRegex_eq_rewritten pattern, found, hfound, hmeaning.trans ?_⟩
  constructor
  · rintro ⟨text, after, rfl, hfits, rfl | rfl⟩
    · exact .inl (by simpa using hfits)
    · exact .inr ⟨text, rfl, hfits⟩
  · rintro (hfits | ⟨text, rfl, hfits⟩)
    · exact ⟨url, [], by simp, hfits, .inl rfl⟩
    · exact ⟨text, ['\n'], rfl, hfits, .inr rfl⟩

theorem fits_star {first body : List Char} (hfirst : '\n' ∉ first) (h : Fits body rest) :
    Fits ('*' :: body) (first ++ rest) :=
  .cons (by rwa [FitsChar, if_pos rfl]) h

theorem fits_literal {d : Char} {body : List Char} (hc : c ≠ '*')
    (hsame : Text.sameLetter c.toNat d.toNat = true) (h : Fits body rest) :
    Fits (c :: body) (d :: rest) := by
  have hhead : FitsChar c [d] := by
    rw [FitsChar, if_neg hc]
    exact ⟨d, rfl, hsame⟩
  exact .cons hhead h

/-- Bars at both ends, brackets, another case of letters and a line break behind the URL. -/
theorem evaluate_iff_fits_brackets :
    evaluate "|*.[a]|".toList "dev.[A]\n".toList = .ok true := by
  have hstar : '*' ∈ "|*.[a]|".toList := by decide
  have hmark : ¬regexMark <+: "|*.[a]|".toList := by decide
  obtain ⟨-, found, hfound, hmeaning⟩ := evaluate_iff_fits hstar hmark "dev.[A]\n".toList
  have hbody : body "|*.[a]|".toList = ['*', '.', '[', 'a', ']'] := by decide
  have hfits : Fits (body "|*.[a]|".toList) (['d', 'e', 'v'] ++ ['.', '[', 'A', ']']) := by
    rw [hbody]
    apply fits_star (by decide)
    apply fits_literal (by decide) (by decide +kernel)
    apply fits_literal (by decide) (by decide +kernel)
    apply fits_literal (by decide) (by decide +kernel)
    apply fits_literal (by decide) (by decide +kernel)
    exact .nil
  rw [hfound, hmeaning.2 (.inr ⟨_, rfl, hfits⟩)]

end HeaderRules.Url.Wildcard
