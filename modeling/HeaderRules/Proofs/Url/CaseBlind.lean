import HeaderRules.Proofs.Text.AsciiCase
import HeaderRules.Proofs.Url.Evaluation
import HeaderRules.Proofs.Url.Preview
/-!
# Blind to case

The case of ASCII letters counts neither in a pattern or filter nor in a URL, whatever characters of
other scripts stand among them: the marks of a pattern are no letters, a letter is compared by its
lower case, and the lower case of a whole text is the same for both cases of an ASCII letter.
-/

namespace HeaderRules.Url

open HeaderRules.Text

variable {pattern other body twin url address text copy after rest before front : List Char}
  {c d : Char}

/-! ## Texts of a filter -/

theorem AtEnd.recased (h : AtEnd after) (hafter : Recased after rest) : AtEnd rest := by
  have hblank : after.all (isCaseless ·.toNat) = true := by
    rcases h with rfl | rfl
    · rfl
    · decide
  rwa [← hafter.eq_of_isCaseless hblank]

theorem isLike_congr (h : asciiKey c = asciiKey d) (chars : Char → Bool) :
    IsLike chars c ↔ IsLike chars d := by
  unfold IsLike
  simp only [sameLetter_congr h (rfl : asciiKey _ = asciiKey _)]

theorem exists_sameLetter_recased (hc : asciiKey c = asciiKey d) (htext : Recased text copy)
    (h : ∃ e, text = [e] ∧ sameLetter c.toNat e.toNat = true) :
    ∃ e, copy = [e] ∧ sameLetter d.toNat e.toNat = true := by
  obtain ⟨e, rfl, hsame⟩ := h
  obtain ⟨e', others, rfl, hkey, hothers⟩ := htext.exists_cons
  obtain rfl : [] = others := hothers.eq_of_isCaseless rfl
  exact ⟨e', rfl, sameLetter_congr hkey hc ▸ hsame⟩

theorem SpellsChar.recased (h : SpellsChar c text after) (hc : asciiKey c = asciiKey d)
    (htext : Recased text copy) (hafter : Recased after rest) : SpellsChar d copy rest := by
  have hstar : c = '*' ↔ d = '*' := eq_iff_of_isCaseless hc (by decide)
  have hcaret : c = '^' ↔ d = '^' := eq_iff_of_isCaseless hc (by decide)
  unfold SpellsChar at h ⊢
  by_cases hs : c = '*'
  · rw [if_pos hs] at h
    rw [if_pos (hstar.1 hs)]
    exact fun hmem => h (htext.symm.mem_of_isCaseless (by decide) hmem)
  · rw [if_neg hs] at h
    rw [if_neg (hstar.not.1 hs)]
    by_cases hm : c = '^'
    · rw [if_pos hm] at h
      rw [if_pos (hcaret.1 hm)]
      refine h.imp ?_ ?_
      · rintro ⟨e, rfl, hseparates⟩
        obtain ⟨e', others, rfl, hkey, hothers⟩ := htext.exists_cons
        obtain rfl : [] = others := hothers.eq_of_isCaseless rfl
        exact ⟨e', rfl, (isLike_congr hkey isNameChar).not.1 hseparates⟩
      · rintro ⟨rfl, hend⟩
        exact ⟨(htext.eq_of_isCaseless rfl).symm, hend.recased hafter⟩
    · rw [if_neg hm] at h
      rw [if_neg (hcaret.not.1 hm)]
      exact exists_sameLetter_recased hc htext h

theorem Spells.recased (h : Spells body text after) (hbody : Recased body twin)
    (htext : Recased text copy) (hafter : Recased after rest) : Spells twin copy rest := by
  induction h generalizing twin copy with
  | nil =>
    obtain rfl : [] = twin := hbody.eq_of_isCaseless rfl
    obtain rfl : [] = copy := htext.eq_of_isCaseless rfl
    exact .nil
  | cons head tail ih =>
    obtain ⟨d, twins, rfl, hkey, htwins⟩ := hbody.exists_cons
    obtain ⟨first, second, rfl, hfirst, hsecond⟩ := htext.exists_append
    exact .cons (head.recased hkey hfirst (hsecond.append hafter)) (ih htwins hsecond hafter)

/-! ## Where a filter begins -/

theorem forall_isLike_recased {chars : Char → Bool} (h : ∀ c ∈ text, IsLike chars c)
    (htext : Recased text copy) : ∀ c ∈ copy, IsLike chars c := by
  induction text generalizing copy with
  | nil =>
    obtain rfl : [] = copy := htext.eq_of_isCaseless rfl
    exact h
  | cons c rest ih =>
    obtain ⟨d, others, rfl, hkey, hothers⟩ := htext.exists_cons
    obtain ⟨hc, hrest⟩ := List.forall_mem_cons.1 h
    exact List.forall_mem_cons.2 ⟨(isLike_congr hkey chars).1 hc, ih hrest hothers⟩

theorem IsDomainPrefix.recased (h : IsDomainPrefix before) (hbefore : Recased before front) :
    IsDomainPrefix front := by
  obtain ⟨letter, scheme, subdomains, rfl, hletter, hscheme, hsubdomains⟩ := h
  obtain ⟨start, names, rfl, hstart, hnames⟩ := hbefore.exists_append
  obtain ⟨opening, slashes, rfl, hopening, hslashes⟩ := hstart.exists_append
  obtain ⟨first, others, rfl, hfirst, hothers⟩ := hopening.exists_cons
  obtain rfl : [':', '/', '/'] = slashes := hslashes.eq_of_isCaseless (by decide)
  refine ⟨first, others, names, rfl, (isLike_congr hfirst Char.isAlpha).1 hletter,
    forall_isLike_recased hscheme hothers, ?_⟩
  refine hsubdomains.imp ?_ ?_
  · rintro rfl
    exact (hnames.eq_of_isCaseless rfl).symm
  · rintro ⟨hdot, hclear⟩
    refine ⟨?_, ?_⟩
    · obtain ⟨init, rfl⟩ := List.getLast?_eq_some_iff.1 hdot
      obtain ⟨inits, last, rfl, -, hlast⟩ := hnames.exists_append
      obtain rfl : ['.'] = last := hlast.eq_of_isCaseless (by decide)
      simp
    · intro c hc hmark
      have hcaseless : ['/', '?', '#'].all (isCaseless ·.toNat) = true := by decide
      exact hclear c
        (hnames.symm.mem_of_isCaseless (List.all_eq_true.1 hcaseless c hmark) hc) hmark

theorem BeginsAfter.recased {start : FilterStart} (h : BeginsAfter before start)
    (hbefore : Recased before front) : BeginsAfter front start := by
  cases start with
  | anywhere => trivial
  | urlStart =>
    obtain rfl : before = [] := h
    exact (hbefore.eq_of_isCaseless rfl).symm
  | domain => exact IsDomainPrefix.recased h hbefore

/-! ## Bars -/

theorem isPrefixOf_recased (h : Recased pattern other) {marks : List Char}
    (hmarks : marks.all (isCaseless ·.toNat) = true) :
    marks.isPrefixOf pattern = marks.isPrefixOf other := by
  rw [Bool.eq_iff_iff, List.isPrefixOf_iff_prefix, List.isPrefixOf_iff_prefix]
  exact ⟨h.prefix_of_isCaseless hmarks, h.symm.prefix_of_isCaseless hmarks⟩

theorem isSuffixOf_recased (h : Recased pattern other) {marks : List Char}
    (hmarks : marks.all (isCaseless ·.toNat) = true) :
    marks.isSuffixOf pattern = marks.isSuffixOf other := by
  rw [Bool.eq_iff_iff, List.isSuffixOf_iff_suffix, List.isSuffixOf_iff_suffix]
  exact ⟨h.suffix_of_isCaseless hmarks, h.symm.suffix_of_isCaseless hmarks⟩

theorem startOf_recased (h : Recased pattern other) : startOf pattern = startOf other := by
  unfold startOf
  rw [isPrefixOf_recased h (by decide), isPrefixOf_recased h (by decide)]

theorem afterStart_recased (h : Recased pattern other) :
    Recased (afterStart pattern) (afterStart other) := by
  unfold afterStart
  rw [startOf_recased h]
  cases startOf other with
  | anywhere => exact h
  | urlStart => exact h.drop 1
  | domain => exact h.drop 2

theorem endsWithBar_recased (h : Recased pattern other) :
    endsWithBar pattern = endsWithBar other :=
  isSuffixOf_recased (afterStart_recased h) (by decide)

theorem bodyOf_recased (h : Recased pattern other) : Recased (bodyOf pattern) (bodyOf other) := by
  unfold bodyOf
  rw [endsWithBar_recased h]
  split
  · exact (afterStart_recased h).dropLast
  · exact afterStart_recased h

theorem isMatchAll_recased (h : Recased pattern other) (hall : isMatchAll pattern = true) :
    isMatchAll other = true := by
  rw [isMatchAll_iff] at hall ⊢
  refine hall.imp ?_ ?_
  · rintro rfl
    exact (h.eq_of_isCaseless rfl).symm
  · rintro rfl
    exact (h.eq_of_isCaseless (by decide)).symm

/-- A URL that passes a filter still does when letters of both change their case. -/
theorem filterMatches_recased (hpattern : Recased pattern other) (hurl : Recased url address)
    (h : filterMatches pattern url = true) : filterMatches other address = true := by
  cases hall : isMatchAll other with
  | true => exact filterMatches_of_isMatchAll hall
  | false =>
    have hsome : isMatchAll pattern = false := by
      rw [Bool.eq_false_iff] at hall ⊢
      exact fun hpatterns => hall (isMatchAll_recased hpattern hpatterns)
    obtain ⟨before, text, after, rfl, hbegins, hspells, hend⟩ := (filterMatches_iff hsome).1 h
    obtain ⟨opening, rest, rfl, hopening, hrest⟩ := hurl.exists_append
    obtain ⟨front, copy, rfl, hfront, hcopy⟩ := hopening.exists_append
    rw [filterMatches_iff hall, ← startOf_recased hpattern, ← endsWithBar_recased hpattern]
    exact ⟨front, copy, rest, rfl, hbegins.recased hfront,
      hspells.recased (bodyOf_recased hpattern) hcopy hrest, fun hbar => (hend hbar).recased hrest⟩

/-! ## Wildcard patterns -/

namespace Wildcard

theorem FitsChar.recased (h : FitsChar c text) (hc : asciiKey c = asciiKey d)
    (htext : Recased text copy) : FitsChar d copy := by
  have hstar : c = '*' ↔ d = '*' := eq_iff_of_isCaseless hc (by decide)
  unfold FitsChar at h ⊢
  by_cases hs : c = '*'
  · rw [if_pos hs] at h
    rw [if_pos (hstar.1 hs)]
    exact fun hmem => h (htext.symm.mem_of_isCaseless (by decide) hmem)
  · rw [if_neg hs] at h
    rw [if_neg (hstar.not.1 hs)]
    exact exists_sameLetter_recased hc htext h

theorem Fits.recased (h : Fits body text) (hbody : Recased body twin) (htext : Recased text copy) :
    Fits twin copy := by
  induction h generalizing twin copy with
  | nil =>
    obtain rfl : [] = twin := hbody.eq_of_isCaseless rfl
    obtain rfl : [] = copy := htext.eq_of_isCaseless rfl
    exact .nil
  | cons head tail ih =>
    obtain ⟨d, twins, rfl, hkey, htwins⟩ := hbody.exists_cons
    obtain ⟨first, second, rfl, hfirst, hsecond⟩ := htext.exists_append
    exact .cons (head.recased hkey hfirst) (ih htwins hsecond)

theorem splitLeadingBar_recased (h : Recased pattern other) :
    Recased (splitLeadingBar pattern).2 (splitLeadingBar other).2 := by
  have hread (s : List Char) :
      (splitLeadingBar s).2 = if ['|'].isPrefixOf s then s.drop 1 else s := by
    unfold splitLeadingBar
    split
    · rfl
    · rename_i hbar
      rw [if_neg]
      rw [List.isPrefixOf_iff_prefix]
      rintro ⟨rest, rfl⟩
      exact hbar rest rfl
  rw [hread, hread, isPrefixOf_recased h (by decide)]
  split
  · exact h.drop 1
  · exact h

theorem splitTrailingBar_recased (h : Recased pattern other) :
    Recased (splitTrailingBar pattern).2 (splitTrailingBar other).2 := by
  have hread (s : List Char) :
      (splitTrailingBar s).2 = if ['|'].isSuffixOf s then s.dropLast else s := by
    rw [splitTrailingBar, isSuffixOf_bar]
    by_cases hbar : s.getLast? = some '|' <;> simp [hbar]
  rw [hread, hread, isSuffixOf_recased h (by decide)]
  split
  · exact h.dropLast
  · exact h

theorem body_recased (h : Recased pattern other) :
    Recased (Wildcard.body pattern) (Wildcard.body other) :=
  splitTrailingBar_recased (splitLeadingBar_recased h)

theorem evaluate_recased (hpattern : Recased pattern other) (hurl : Recased url address)
    (hformat : formatOf pattern = .wildcard) (hother : formatOf other = .wildcard)
    (h : evaluate pattern url = .ok true) : evaluate other address = .ok true := by
  obtain ⟨found, hfound, hmeaning⟩ := evaluate_eq hformat url
  obtain rfl : found = true := Except.ok.inj (hfound.symm.trans h)
  obtain ⟨text, after, rfl, hfits, hend⟩ := hmeaning.1 rfl
  obtain ⟨copy, rest, rfl, hcopy, hrest⟩ := hurl.exists_append
  obtain ⟨again, hagain, hsame⟩ := evaluate_eq hother (copy ++ rest)
  have htrue : again = true :=
    hsame.2 ⟨copy, rest, rfl, hfits.recased (body_recased hpattern) hcopy, hend.recased hrest⟩
  rw [hagain, htrue]

end Wildcard

/-! ## Patterns -/

theorem formatOf_recased (h : Recased pattern other) (hpattern : ¬regexMark <+: pattern)
    (hother : ¬regexMark <+: other) : formatOf pattern = formatOf other := by
  rw [← List.isPrefixOf_iff_prefix] at hpattern hother
  have hstar : pattern.contains '*' = other.contains '*' := by
    rw [Bool.eq_iff_iff, List.contains_iff_mem, List.contains_iff_mem]
    exact ⟨h.mem_of_isCaseless (by decide), h.symm.mem_of_isCaseless (by decide)⟩
  rw [formatOf, formatOf, if_neg hpattern, if_neg hother, hstar]

/-- Letters of a filter or pattern and of a URL may change their case: the URL passes the filter as
before, and unless one of the patterns is a regular expression, it matches the pattern as before. -/
theorem matches_recased (hpattern : Recased pattern other) (hurl : Recased url address) :
    ((∃ regex, compileFilter pattern = .ok regex) ∧ (∃ regex, compileFilter other = .ok regex) ∧
      filterMatches pattern url = filterMatches other address) ∧
    (¬regexMark <+: pattern → ¬regexMark <+: other →
      ∃ found, evaluate pattern url = .ok found ∧ evaluate other address = .ok found) := by
  refine ⟨⟨⟨_, Filter.compile_toRegex (Filter.ofText pattern)⟩,
    ⟨_, Filter.compile_toRegex (Filter.ofText other)⟩, ?_⟩, ?_⟩
  · rw [Bool.eq_iff_iff]
    exact ⟨filterMatches_recased hpattern hurl, filterMatches_recased hpattern.symm hurl.symm⟩
  · intro hmark hmark'
    have hsame : formatOf pattern = formatOf other := formatOf_recased hpattern hmark hmark'
    cases hformat : formatOf pattern with
    | regex =>
      obtain ⟨text, rfl⟩ := formatOf_regex_iff.1 hformat
      exact absurd (List.prefix_append regexMark text) hmark
    | wildcard =>
      have hother : formatOf other = .wildcard := hsame ▸ hformat
      obtain ⟨found, hfound, -⟩ := Wildcard.evaluate_eq hformat url
      obtain ⟨again, hagain, -⟩ := Wildcard.evaluate_eq hother address
      have hboth : found = true ↔ again = true := by
        constructor
        · rintro rfl
          exact Except.ok.inj (hagain.symm.trans
            (Wildcard.evaluate_recased hpattern hurl hformat hother hfound))
        · rintro rfl
          exact Except.ok.inj (hfound.symm.trans
            (Wildcard.evaluate_recased hpattern.symm hurl.symm hother hformat hagain))
      exact ⟨found, hfound, by rw [hagain, Bool.eq_iff_iff.2 hboth]⟩
    | simple =>
      have hother : formatOf other = .simple := hsame ▸ hformat
      refine ⟨_, evaluate_simple hformat url, ?_⟩
      rw [evaluate_simple hother, lower_congr hpattern, lower_congr hurl]

/-- A filter with a long s on a URL with the sign of degrees Kelvin, and two patterns with a
sigma. -/
theorem matches_recased_sigma :
    let url := "http://\u212A.SITE/aΣ".toList
    let address := "HTTP://\u212A.site/AΣ".toList
    filterMatches "||k.\u017Fite^".toList url = true ∧
      filterMatches "||K.\u017FITE^".toList address = true ∧
      evaluate "*/aς".toList url = .ok true ∧ evaluate "*/Aς".toList address = .ok true ∧
      evaluate "e/aς".toList url = .ok true ∧ evaluate "E/Aς".toList address = .ok true := by
  intro url address
  have hurl : Recased url address := by decide +kernel
  have hfilter : filterMatches "||k.\u017Fite^".toList url = true := by decide +kernel
  have hwildcard : (evaluate "*/aς".toList url).toOption = some true := by decide +kernel
  have hsimple : (evaluate "e/aς".toList url).toOption = some true := by decide +kernel
  have hsite : Recased "||k.\u017Fite^".toList "||K.\u017FITE^".toList := by decide +kernel
  have hstar : Recased "*/aς".toList "*/Aς".toList := by decide +kernel
  have hword : Recased "e/aς".toList "E/Aς".toList := by decide +kernel
  obtain ⟨⟨-, -, hsites⟩, -⟩ := matches_recased hsite hurl
  obtain ⟨found, hfound, hfound'⟩ :=
    (matches_recased hstar hurl).2 (by decide +kernel) (by decide +kernel)
  obtain ⟨seen, hseen, hseen'⟩ :=
    (matches_recased hword hurl).2 (by decide +kernel) (by decide +kernel)
  rw [hfound] at hwildcard
  rw [hseen] at hsimple
  obtain rfl : found = true := Option.some.inj hwildcard
  obtain rfl : seen = true := Option.some.inj hsimple
  exact ⟨hfilter, hsites ▸ hfilter, hfound, hfound', hseen, hseen'⟩

end HeaderRules.Url
